import OrphanFiles.Text.Basic

/-! Pieces of source text that the scans look for: a stretch of one class of
characters, a quoted stretch, and a quoted stretch that ends a call. The two quotes
of a stretch need not be equal; source text is not parsed any further. -/
namespace OrphanFiles.Source

theorem takeWhile_dropWhile_self (p : Char → Bool) (t : Text) :
    (t.dropWhile p).takeWhile p = [] := by
  have stops := List.head?_dropWhile_not p t
  cases right : t.dropWhile p with
  | nil => rfl
  | cons c rest =>
    rw [right] at stops
    exact List.takeWhile_cons_of_neg (by simpa using stops)

/-- Skips the longest leading stretch of a class, which must not be empty. -/
def skipSome? (p : Char → Bool) (t : Text) : Option Text :=
  if t.takeWhile p = [] then none else some (t.dropWhile p)

theorem skipSome?_eq_some {p : Char → Bool} {t rest : Text} :
    skipSome? p t = some rest ↔
      ∃ run, run ≠ [] ∧ (∀ c ∈ run, p c = true) ∧ rest.takeWhile p = [] ∧ t = run ++ rest := by
  unfold skipSome?
  constructor
  · intro h
    split at h
    · cases h
    · rename_i some_run
      cases h
      have inside : ∀ c ∈ t.takeWhile p, p c = true := fun c member => by
        simpa using List.all_eq_true.mp List.all_takeWhile c member
      exact ⟨t.takeWhile p, some_run, inside, takeWhile_dropWhile_self p t,
        List.takeWhile_append_dropWhile.symm⟩
  · rintro ⟨run, some_run, inside, stops, rfl⟩
    have taken : (run ++ rest).takeWhile p = run := by
      rw [List.takeWhile_append_of_pos inside, stops, List.append_nil]
    have dropped : (run ++ rest).dropWhile p = rest := by
      have joined := List.takeWhile_append_dropWhile (p := p) (l := run ++ rest)
      rw [taken] at joined
      exact List.append_cancel_left joined
    rw [taken, dropped, if_neg some_run]

theorem suffix_of_skipSome? {p : Char → Bool} {t rest : Text} (h : skipSome? p t = some rest) :
    rest <:+ t :=
  let ⟨run, _, _, _, joined⟩ := skipSome?_eq_some.mp h
  ⟨run, joined.symm⟩

/-- A leading quoted stretch: what stands between two quotes, and what follows them. -/
def quoted? (quotes : Text) : Text → Option (Text × Text)
  | [] => none
  | opening :: t =>
    if quotes.contains opening then
      match t.dropWhile (!quotes.contains ·) with
      | [] => none
      | _ :: rest =>
        let inner := t.takeWhile (!quotes.contains ·)
        if inner = [] then none else some (inner, rest)
    else none

theorem quoted?_eq_some {quotes t inner rest : Text} (h : quoted? quotes t = some (inner, rest)) :
    ∃ opening ∈ quotes, ∃ closing ∈ quotes, inner ≠ [] ∧ (∀ c ∈ inner, c ∉ quotes) ∧
      t = opening :: (inner ++ closing :: rest) := by
  cases t with
  | nil => simp [quoted?] at h
  | cons opening t =>
    simp only [quoted?] at h
    split at h
    · rename_i known
      split at h
      · cases h
      · rename_i closing tail right
        split at h
        · cases h
        · rename_i nonempty
          cases h
          have inside : ∀ c ∈ t.takeWhile (!quotes.contains ·), c ∉ quotes := fun c member => by
            simpa using List.all_eq_true.mp List.all_takeWhile c member
          have closes := List.head?_dropWhile_not (!quotes.contains ·) t
          rw [right] at closes
          refine ⟨opening, by simpa using known, closing, by simpa using closes, nonempty,
            inside, ?_⟩
          rw [← right, List.takeWhile_append_dropWhile]
    · cases h

theorem shrinks_of_quoted? {quotes t inner rest : Text}
    (h : quoted? quotes t = some (inner, rest)) : rest <:+ t ∧ rest.length < t.length := by
  obtain ⟨opening, _, closing, _, _, _, rfl⟩ := quoted?_eq_some h
  refine ⟨⟨opening :: (inner ++ [closing]), by simp⟩, ?_⟩
  simp only [List.length_cons, List.length_append]
  omega

theorem quoted?_cons {quotes inner rest : Text} {opening closing : Char}
    (opens : opening ∈ quotes) (closes : closing ∈ quotes) (nonempty : inner ≠ [])
    (inside : ∀ c ∈ inner, c ∉ quotes) :
    quoted? quotes (opening :: (inner ++ closing :: rest)) = some (inner, rest) := by
  have apart : ∀ c ∈ inner, (!quotes.contains c) = true := by simpa using inside
  have taken : (inner ++ closing :: rest).takeWhile (!quotes.contains ·) = inner := by
    rw [List.takeWhile_append_of_pos apart, List.takeWhile_cons_of_neg (by simpa using closes),
      List.append_nil]
  have dropped : (inner ++ closing :: rest).dropWhile (!quotes.contains ·) = closing :: rest := by
    rw [List.dropWhile_append_of_pos apart, List.dropWhile_cons_of_neg (by simpa using closes)]
  simp only [quoted?, List.contains_iff_mem.mpr opens, taken, dropped, if_true, if_neg nonempty]

/-- The quoted argument that a call is closed behind, and what follows the call. -/
def argument? (quotes t : Text) : Option (Text × Text) :=
  (quoted? quotes t).bind fun (inner, rest) =>
  (Text.strip? [')'] rest).map fun rest => (inner, rest)

theorem argument?_eq_some {quotes t inner rest : Text} :
    argument? quotes t = some (inner, rest) ↔
      ∃ opening ∈ quotes, ∃ closing ∈ quotes, inner ≠ [] ∧ (∀ c ∈ inner, c ∉ quotes) ∧
        t = opening :: (inner ++ closing :: ')' :: rest) := by
  simp only [argument?, Option.bind_eq_some_iff, Option.map_eq_some_iff, Text.strip?_eq_some]
  constructor
  · rintro ⟨⟨inner, _⟩, found, rest, rfl, same⟩
    cases same
    exact quoted?_eq_some found
  · rintro ⟨opening, opens, closing, closes, nonempty, inside, rfl⟩
    exact ⟨(inner, ')' :: rest), quoted?_cons opens closes nonempty inside, rest, rfl, rfl⟩

theorem shrinks_of_argument? {quotes t inner rest : Text}
    (h : argument? quotes t = some (inner, rest)) : rest <:+ t ∧ rest.length < t.length := by
  obtain ⟨⟨_, behind⟩, found, closed⟩ := Option.bind_eq_some_iff.mp h
  obtain ⟨_, stripped, same⟩ := Option.map_eq_some_iff.mp closed
  cases same
  obtain ⟨tail, less⟩ := shrinks_of_quoted? found
  have closes := Text.suffix_of_strip? stripped
  exact ⟨closes.trans tail, Nat.lt_of_le_of_lt closes.length_le less⟩

end OrphanFiles.Source
