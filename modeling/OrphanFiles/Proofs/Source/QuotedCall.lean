import OrphanFiles.Text.Basic

/-! A call with one quoted argument, as it is written. Quotes stand nowhere in it but
around the argument, so the place of a call is settled by its first quote. -/
namespace OrphanFiles.Source

theorem eq_of_first_quote {quotes a b rest rest' : Text} {q r : Char}
    (free : ∀ c ∈ a, c ∉ quotes) (free' : ∀ c ∈ b, c ∉ quotes) (quote : q ∈ quotes)
    (quote' : r ∈ quotes) (same : a ++ q :: rest = b ++ r :: rest') :
    a = b ∧ q = r ∧ rest = rest' := by
  induction a generalizing b with
  | nil =>
    cases b with
    | nil => simpa using same
    | cons c b =>
      have first : q = c := (List.cons.inj same).1
      exact absurd quote (first ▸ free' c List.mem_cons_self)
  | cons c a ih =>
    cases b with
    | nil =>
      have first : c = r := (List.cons.inj same).1
      exact absurd quote' (first ▸ free c List.mem_cons_self)
    | cons d b =>
      have first : c = d := (List.cons.inj same).1
      have tails := ih (fun x member => free x (List.mem_cons_of_mem c member))
        (fun x member => free' x (List.mem_cons_of_mem d member)) (List.cons.inj same).2
      exact ⟨by rw [first, tails.1], tails.2⟩

/-- A call as it is written: a head without quotes, a quoted argument, a parenthesis. -/
structure QuotedCall (quotes head argument rest t : Text) : Prop where
  head_ne_nil : head ≠ []
  head_open : ')' ∉ head
  head_plain : ∀ c ∈ head, c ∉ quotes
  argument_ne_nil : argument ≠ []
  argument_plain : ∀ c ∈ argument, c ∉ quotes
  written : ∃ opening ∈ quotes, ∃ closing ∈ quotes,
    t = head ++ opening :: (argument ++ closing :: ')' :: rest)

theorem suffix_append_cases {s a b : Text} (inside : s <:+ a ++ b) :
    s <:+ b ∨ ∃ mid, mid <:+ a ∧ s = mid ++ b := by
  obtain ⟨lead, joined⟩ := inside
  rcases List.append_eq_append_iff.mp joined with ⟨mid, split, right⟩ | ⟨mid, _, right⟩
  · exact Or.inr ⟨mid, ⟨lead, split.symm⟩, right⟩
  · exact Or.inl ⟨mid, right.symm⟩

/-- A call that starts inside another one starts in its head, or has an argument that
starts where the other call ends. -/
theorem QuotedCall.overlap {quotes head head' argument argument' rest rest' t s : Text}
    (outer : QuotedCall quotes head argument rest t)
    (inner : QuotedCall quotes head' argument' rest' s)
    (inside : s <:+ t) (overlaps : rest.length < s.length) :
    (∃ lead, lead ++ head' = head ∧ lead ++ s = t) ∨ argument'.head? = some ')' := by
  obtain ⟨opening, opens, closing, closes, rfl⟩ := outer.written
  obtain ⟨opening', opens', closing', closes', same⟩ := inner.written
  obtain ⟨c, tail, started⟩ := List.exists_cons_of_ne_nil inner.head_ne_nil
  have plain : c ∉ quotes := inner.head_plain c (started ▸ List.mem_cons_self)
  have first {d : Char} {t : Text} (h : s = d :: t) : c = d := by
    rw [same, started] at h
    exact (List.cons.inj h).1
  -- The inner call cannot start at a quote, so it starts in the argument or in the head.
  rcases suffix_append_cases inside with later | ⟨mid, ⟨lead, split⟩, right⟩
  · right
    rcases List.suffix_cons_iff.mp later with at_quote | later
    · exact absurd opens (first at_quote ▸ plain)
    rcases suffix_append_cases later with later | ⟨mid, ⟨lead, split⟩, right⟩
    · rcases List.suffix_cons_iff.mp later with at_quote | later
      · exact absurd closes (first at_quote ▸ plain)
      rcases List.suffix_cons_iff.mp later with at_end | later
      · exact absurd (started ▸ first at_end ▸ List.mem_cons_self) inner.head_open
      · exact absurd later.length_le (Nat.not_le_of_lt overlaps)
    · have free : ∀ c ∈ mid, c ∉ quotes := fun c member =>
        outer.argument_plain c (split ▸ List.mem_append_right lead member)
      have ends := (eq_of_first_quote inner.head_plain free opens' closes (same.symm.trans right)).2.2
      obtain ⟨d, argument', rfl⟩ := List.exists_cons_of_ne_nil inner.argument_ne_nil
      exact congrArg some (List.cons.inj ends).1
  · left
    have free : ∀ c ∈ mid, c ∉ quotes := fun c member =>
      outer.head_plain c (split ▸ List.mem_append_right lead member)
    have heads := eq_of_first_quote inner.head_plain free opens' opens (same.symm.trans right)
    exact ⟨lead, by rw [heads.1, split], by rw [right, ← List.append_assoc, split]⟩

end OrphanFiles.Source
