import OrphanFiles.Source.Form

/-! What a scan from left to right finds. Every match of a scan is read somewhere in
the text. Conversely, an occurrence that the scan runs over must start inside an
earlier match; where such occurrences say nothing that the match does not say, the
scan loses nothing. -/
namespace OrphanFiles.Source.Form

theorem exists_read?_of_mem_scan {form : Form α} {t : Text} {a : α} (member : a ∈ form.scan t) :
    ∃ s rest, s <:+ t ∧ form.read? s = some (a, rest) := by
  fun_induction scan form t with
  | case1 t b rest found ih =>
    rcases List.mem_cons.mp member with same | later
    · exact ⟨t, rest, List.suffix_refl t, same ▸ found⟩
    · obtain ⟨s, behind, inside, read⟩ := ih later
      exact ⟨s, behind, inside.trans (form.shrinks found).1, read⟩
  | case2 => cases member
  | case3 c rest _ ih =>
    obtain ⟨s, behind, inside, read⟩ := ih member
    exact ⟨s, behind, inside.trans (List.suffix_cons c rest), read⟩

/-- Whether a match says, in the sense of `le`, all that is read from inside it. -/
def Covers (form : Form α) (le : α → α → Prop) : Prop :=
  ∀ {t s a b behind rest}, form.read? t = some (a, behind) → s <:+ t → behind.length < s.length →
    form.read? s = some (b, rest) → le b a

/-- Nothing that stands at any position is lost by a scan. -/
theorem Covers.exists_mem_scan {form : Form α} {le : α → α → Prop} (covers : form.Covers le)
    {t s rest : Text} {b : α} (inside : s <:+ t) (read : form.read? s = some (b, rest)) :
    ∃ a ∈ form.scan t, le b a := by
  fun_induction scan form t with
  | case1 t a behind found ih =>
    by_cases overlaps : behind.length < s.length
    · exact ⟨a, List.mem_cons_self, covers found inside overlaps read⟩
    · have later : s <:+ behind :=
        List.suffix_of_suffix_length_le inside (form.shrinks found).1 (Nat.le_of_not_lt overlaps)
      obtain ⟨a', member, covered⟩ := ih later
      exact ⟨a', List.mem_cons_of_mem a member, covered⟩
  | case2 none_here =>
    rw [List.suffix_nil.mp inside, none_here] at read
    cases read
  | case3 c t none_here ih =>
    rcases List.suffix_cons_iff.mp inside with same | later
    · rw [same, none_here] at read
      cases read
    · exact ih later

/-- Whether a match stays, or becomes a greater one, when text is put behind it. -/
def Grows (form : Form α) (le : α → α → Prop) : Prop :=
  ∀ {t a rest} (more : Text), form.read? t = some (a, rest) →
    ∃ b behind, form.read? (t ++ more) = some (b, behind) ∧ le a b

/-- A scan of a longer text finds all that a scan of a part of it finds. -/
theorem exists_mem_scan_of_infix {form : Form Text} (covers : form.Covers (· <:+: ·))
    (grows : form.Grows (· <:+: ·)) {t whole a : Text} (inside : t <:+: whole)
    (member : a ∈ form.scan t) : ∃ b ∈ form.scan whole, a <:+: b := by
  obtain ⟨s, rest, ⟨skipped, split⟩, read⟩ := exists_read?_of_mem_scan member
  obtain ⟨before, after, joined⟩ := inside
  obtain ⟨b, behind, grown, small⟩ := grows after read
  have later : s ++ after <:+ whole := ⟨before ++ skipped, by rw [← joined, ← split]; simp⟩
  obtain ⟨c, found, large⟩ := covers.exists_mem_scan later grown
  exact ⟨c, found, small.trans large⟩

end OrphanFiles.Source.Form
