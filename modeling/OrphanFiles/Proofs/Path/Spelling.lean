import OrphanFiles.Path.Basic

/-! What a text spells. Between its slashes a spelling may have empty pieces and single dots,
which are no components, and more than two slashes in front are as good as one. The text of
a path is one of its spellings: reading it gives the path back. Distinct paths have distinct
texts, so an order of texts is an order of paths. -/
namespace OrphanFiles

theorem not_mem_of_mem_splitOn [BEq α] [LawfulBEq α] {mark : α} {t piece : List α}
    (member : piece ∈ t.splitOn mark) : mark ∉ piece := by
  induction t generalizing piece with
  | nil =>
    rw [List.splitOn_nil, List.mem_singleton] at member
    simp [member]
  | cons c t ih =>
    rw [List.splitOn_cons_eq_if_modifyHead] at member
    split at member
    · rcases List.mem_cons.mp member with rfl | later
      · simp
      · exact ih later
    · rename_i other
      obtain ⟨first, rest, split⟩ := List.exists_cons_of_ne_nil (List.splitOn_ne_nil mark t)
      rw [split, List.modifyHead_cons] at member
      have free : ∀ piece ∈ first :: rest, mark ∉ piece := fun _ inside => ih (split ▸ inside)
      rw [List.forall_mem_cons] at free
      rcases List.mem_cons.mp member with rfl | later
      · rw [List.mem_cons, not_or]
        exact ⟨fun same => other (by simp [same]), free.1⟩
      · exact free.2 _ later

namespace Path

theorem filterMap_ofText?_text (names : List Name) :
    (names.map Name.text).filterMap Name.ofText? = names := by
  induction names with
  | nil => rfl
  | cons name names ih =>
    rw [List.map_cons, List.filterMap_cons_some (Name.ofText?_eq_some.mpr rfl), ih]

theorem map_text_injective {names names' : List Name}
    (same : names.map Name.text = names'.map Name.text) : names = names' := by
  rw [← filterMap_ofText?_text names, same, filterMap_ofText?_text]

/-- Whether a text spells a path: slashes for the anchor, and then pieces between slashes that
are the components once empty pieces and single dots are left out. -/
def Spells (t : Text) (p : Path) : Prop :=
  ∃ slashes pieces, t = List.replicate slashes '/' ++ ['/'].intercalate pieces ∧
    ((p.anchor = .relative ∧ slashes = 0) ∨ (p.anchor = .doubleRoot ∧ slashes = 2) ∨
      (p.anchor = .root ∧ slashes ≠ 0 ∧ slashes ≠ 2)) ∧
    (∀ piece ∈ pieces, '/' ∉ piece) ∧ pieces.head? ≠ some [] ∧
    p.names.map Name.text = pieces.filter fun piece => piece ≠ [] ∧ piece ≠ ['.']

theorem anchor_ofText_eq_iff {t : Text} {anchor : Anchor} {slashes : Nat}
    (counted : (t.takeWhile (· = '/')).length = slashes) :
    Anchor.ofText t = anchor ↔ (anchor = .relative ∧ slashes = 0) ∨
      (anchor = .doubleRoot ∧ slashes = 2) ∨ (anchor = .root ∧ slashes ≠ 0 ∧ slashes ≠ 2) := by
  rw [Anchor.ofText, counted]
  split
  · simp [eq_comm]
  · simp [eq_comm]
  · rename_i several not_two
    have nonzero : slashes ≠ 0 := several
    have other : slashes ≠ 2 := not_two
    simp [nonzero, other, eq_comm]

/-- Pieces between slashes are components, but for those that are left out. -/
theorem map_text_filterMap_ofText? {pieces : List Text} (whole : ∀ piece ∈ pieces, '/' ∉ piece) :
    (pieces.filterMap Name.ofText?).map Name.text =
      pieces.filter fun piece => piece ≠ [] ∧ piece ≠ ['.'] := by
  induction pieces with
  | nil => rfl
  | cons piece pieces ih =>
    rw [List.forall_mem_cons] at whole
    by_cases proper : piece ≠ [] ∧ piece ≠ ['.']
    · have named : Name.ofText? piece = some ⟨piece, proper.1, proper.2, whole.1⟩ :=
        Name.ofText?_eq_some.mpr rfl
      rw [List.filterMap_cons_some named, List.map_cons, ih whole.2,
        List.filter_cons_of_pos (by simpa using proper)]
    · have unnamed : Name.ofText? piece = none := by
        rw [Name.ofText?, dif_neg]
        rintro ⟨nonempty, undotted, _⟩
        exact proper ⟨nonempty, undotted⟩
      rw [List.filterMap_cons_none unnamed, ih whole.2,
        List.filter_cons_of_neg (by simpa using proper)]

/-- Pieces of which the first is not empty start with no slash. -/
theorem takeWhile_slash_of_pieces {pieces : List Text} (whole : ∀ piece ∈ pieces, '/' ∉ piece)
    (open_first : pieces.head? ≠ some []) :
    (['/'].intercalate pieces).takeWhile (· = '/') = [] := by
  cases pieces with
  | nil => rfl
  | cons piece pieces =>
    cases piece with
    | nil => exact absurd rfl open_first
    | cons c piece =>
      rw [List.forall_mem_cons, List.mem_cons, not_or] at whole
      have apart : c ≠ '/' := fun same => whole.1.1 same.symm
      cases pieces <;> simp [List.intercalate_cons_cons, apart]

theorem takeWhile_replicate_append (slashes : Nat) {t : Text}
    (rest : t.takeWhile (· = '/') = []) :
    (List.replicate slashes '/' ++ t).takeWhile (· = '/') = List.replicate slashes '/' := by
  rw [List.takeWhile_append_of_pos (by simp), rest, List.append_nil]

theorem filterMap_splitOn_replicate (slashes : Nat) (t : Text) :
    ((List.replicate slashes '/' ++ t).splitOn '/').filterMap Name.ofText? =
      (t.splitOn '/').filterMap Name.ofText? := by
  induction slashes with
  | zero => rfl
  | succ slashes ih =>
    rw [List.replicate_succ, List.cons_append, List.splitOn_cons_eq_if_modifyHead,
      if_pos (by decide), ← ih]
    rfl

theorem filterMap_splitOn_pieces {pieces : List Text} (whole : ∀ piece ∈ pieces, '/' ∉ piece) :
    ((['/'].intercalate pieces).splitOn '/').filterMap Name.ofText? =
      pieces.filterMap Name.ofText? := by
  by_cases empty : pieces = []
  · subst empty
    rfl
  · rw [List.splitOn_intercalate '/' whole empty]

/-- Every text is slashes and then pieces. -/
theorem exists_pieces (t : Text) :
    ∃ pieces, t = List.replicate (t.takeWhile (· = '/')).length '/' ++ ['/'].intercalate pieces ∧
      (∀ piece ∈ pieces, '/' ∉ piece) ∧ pieces.head? ≠ some [] := by
  have front : t.takeWhile (· = '/') = List.replicate (t.takeWhile (· = '/')).length '/' := by
    refine List.eq_replicate_iff.mpr ⟨rfl, fun c member => ?_⟩
    have slash := List.all_eq_true.mp (List.all_takeWhile (p := (· = '/')) (l := t)) c member
    exact of_decide_eq_true slash
  rw [← front]
  have parts := List.takeWhile_append_dropWhile (p := (· = '/')) (l := t)
  cases behind : t.dropWhile (· = '/') with
  | nil =>
    refine ⟨[], ?_, by simp, by simp⟩
    rw [behind] at parts
    exact parts.symm
  | cons c rest =>
    have apart : c ≠ '/' := by
      have first := List.head?_dropWhile_not (fun c => decide (c = '/')) t
      rw [behind] at first
      simpa using first
    refine ⟨(c :: rest).splitOn '/', ?_, fun _ => not_mem_of_mem_splitOn, ?_⟩
    · rw [List.intercalate_splitOn, ← behind]
      exact parts.symm
    · obtain ⟨first, later, split⟩ := List.exists_cons_of_ne_nil (List.splitOn_ne_nil '/' rest)
      rw [List.splitOn_cons_eq_if_modifyHead, if_neg (by simpa using apart), split]
      simp

/-- Reading a text gives the one path that the text spells. -/
theorem spells_iff {t : Text} {p : Path} : Spells t p ↔ ofText t = p := by
  constructor
  · rintro ⟨slashes, pieces, rfl, anchored, whole, open_first, names⟩
    have start := takeWhile_replicate_append slashes (takeWhile_slash_of_pieces whole open_first)
    have counted := congrArg List.length start
    rw [List.length_replicate] at counted
    have read : pieces.filterMap Name.ofText? = p.names :=
      map_text_injective ((map_text_filterMap_ofText? whole).trans names.symm)
    rw [ofText, (anchor_ofText_eq_iff counted).mpr anchored, filterMap_splitOn_replicate,
      filterMap_splitOn_pieces whole, read]
  · rintro rfl
    obtain ⟨pieces, split, whole, open_first⟩ := exists_pieces t
    have names : (ofText t).names = pieces.filterMap Name.ofText? := by
      rw [← filterMap_splitOn_pieces whole,
        ← filterMap_splitOn_replicate (t.takeWhile (· = '/')).length, ← split]
      rfl
    exact ⟨_, pieces, split, (anchor_ofText_eq_iff rfl).mp rfl, whole, open_first,
      names ▸ map_text_filterMap_ofText? whole⟩

theorem slash_notMem_of_mem_map_text {names : List Name} :
    ∀ piece ∈ names.map Name.text, '/' ∉ piece := by
  intro piece member
  obtain ⟨name, _, rfl⟩ := List.mem_map.mp member
  exact name.proper.2.2

theorem head?_map_text_ne (names : List Name) : (names.map Name.text).head? ≠ some [] := by
  cases names with
  | nil => simp
  | cons name names => simpa using name.proper.1

/-- The components of a path, put together, start with no slash. -/
theorem takeWhile_slash_intercalate (names : List Name) :
    (['/'].intercalate (names.map Name.text)).takeWhile (· = '/') = [] :=
  takeWhile_slash_of_pieces slash_notMem_of_mem_map_text (head?_map_text_ne names)

theorem spells_text (p : Path) : Spells p.text p := by
  obtain ⟨anchor, names⟩ := p
  have kept : names.map Name.text =
      (names.map Name.text).filter fun piece => piece ≠ [] ∧ piece ≠ ['.'] := by
    refine (List.filter_eq_self.mpr fun piece member => ?_).symm
    obtain ⟨name, _, rfl⟩ := List.mem_map.mp member
    simpa using ⟨name.proper.1, name.proper.2.1⟩
  have whole : ∀ piece ∈ names.map Name.text, '/' ∉ piece := slash_notMem_of_mem_map_text
  have open_first := head?_map_text_ne names
  cases anchor with
  | relative =>
    by_cases empty : names = []
    · subst empty
      exact ⟨0, [['.']], rfl, Or.inl ⟨rfl, rfl⟩, by simp, by simp, by decide⟩
    · refine ⟨0, names.map Name.text, ?_, Or.inl ⟨rfl, rfl⟩, whole, open_first, kept⟩
      rw [text, if_neg (by simp [empty])]
      rfl
  | doubleRoot =>
    exact ⟨2, names.map Name.text, rfl, Or.inr (Or.inl ⟨rfl, rfl⟩), whole, open_first, kept⟩
  | root =>
    exact ⟨1, names.map Name.text, rfl, Or.inr (Or.inr ⟨rfl, by decide, by decide⟩), whole,
      open_first, kept⟩

theorem ofText_text (p : Path) : ofText p.text = p :=
  spells_iff.mp (spells_text p)

theorem text_injective {p q : Path} (same : p.text = q.text) : p = q := by
  rw [← ofText_text p, same, ofText_text]

end Path
end OrphanFiles
