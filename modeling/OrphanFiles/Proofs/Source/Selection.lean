import OrphanFiles.Proofs.Source.Scan

/-! What a scan selects, said without the scan. A relation tells which stretches of text
count and what each yields. A selection takes the leftmost stretch that starts no earlier
than the last one ended, as often as there is one. Where the relation says what a form
reads, the scan of the form makes the only selection there is. -/
namespace OrphanFiles.Source

/-- Whether a stretch that counts starts the text. -/
def Begins (Yields : Text → α → Prop) (t : Text) : Prop :=
  ∃ written a rest, Yields written a ∧ t = written ++ rest

/-- What is selected from a text, from left to right. -/
inductive Selects (Yields : Text → α → Prop) : Text → List α → Prop
  | nothing {t : Text} (absent : ∀ s, s <:+ t → ¬ Begins Yields s) : Selects Yields t []
  | next {before written rest : Text} {a : α} {selected : List α} (yields : Yields written a)
    (leftmost : ∀ s, s <:+ before → s ≠ [] → ¬ Begins Yields (s ++ written ++ rest))
    (later : Selects Yields rest selected) :
    Selects Yields (before ++ written ++ rest) (a :: selected)

theorem Selects.cons {Yields : Text → α → Prop} {t : Text} {selected : List α} {c : Char}
    (absent : ¬ Begins Yields (c :: t)) (selects : Selects Yields t selected) :
    Selects Yields (c :: t) selected := by
  cases selects with
  | nothing later =>
    refine .nothing fun s inside => ?_
    rcases List.suffix_cons_iff.mp inside with whole | inside
    · exact whole ▸ absent
    · exact later s inside
  | @next before written rest a selected yields leftmost later =>
    have first : ∀ s, s <:+ c :: before → s ≠ [] → ¬ Begins Yields (s ++ written ++ rest) := by
      intro s inside nonempty
      rcases List.suffix_cons_iff.mp inside with whole | inside
      · exact whole ▸ absent
      · exact leftmost s inside nonempty
    exact .next yields first later

namespace Form

variable {form : Form α} {Yields : Text → α → Prop}

theorem scan_of_read? {t rest : Text} {a : α} (read : form.read? t = some (a, rest)) :
    form.scan t = a :: form.scan rest := by
  rw [scan]
  split
  · rename_i found
    rw [read] at found
    cases found
    rfl
  · rename_i missed
    rw [read] at missed
    cases missed

theorem scan_cons_of_read?_eq_none {c : Char} {t : Text} (missed : form.read? (c :: t) = none) :
    form.scan (c :: t) = form.scan t := by
  rw [scan]
  split
  · rename_i found
    rw [missed] at found
    cases found
  · rfl

/-- Whether a relation says what a form reads at the start of a text. -/
def Reads (form : Form α) (Yields : Text → α → Prop) : Prop :=
  ∀ {t a rest}, form.read? t = some (a, rest) ↔ ∃ written, Yields written a ∧ t = written ++ rest

namespace Reads

variable (reads : form.Reads Yields)
include reads

theorem read?_eq_none {t : Text} : form.read? t = none ↔ ¬ Begins Yields t := by
  constructor
  · intro missed ⟨written, a, rest, yields, same⟩
    have found := reads.mpr ⟨written, yields, same⟩
    rw [missed] at found
    cases found
  · intro absent
    cases found : form.read? t with
    | none => rfl
    | some read =>
      obtain ⟨written, yields, same⟩ := reads.mp found
      exact absurd ⟨written, read.1, read.2, yields, same⟩ absent

/-- No two stretches that count start at one place. -/
theorem unique {written written' rest rest' : Text} {a b : α} (yields : Yields written a)
    (yields' : Yields written' b) (same : written ++ rest = written' ++ rest') :
    written = written' ∧ a = b := by
  have read : form.read? (written ++ rest) = some (a, rest) := reads.mpr ⟨written, yields, rfl⟩
  have read' : form.read? (written ++ rest) = some (b, rest') :=
    reads.mpr ⟨written', yields', same⟩
  rw [read] at read'
  cases read'
  exact ⟨List.append_cancel_right same, rfl⟩

theorem exists_of_mem_scan {t : Text} {a : α} (member : a ∈ form.scan t) :
    ∃ written, written <:+: t ∧ Yields written a := by
  obtain ⟨s, rest, inside, read⟩ := exists_read?_of_mem_scan member
  obtain ⟨written, yields, same⟩ := reads.mp read
  have front : written <+: s := ⟨rest, same.symm⟩
  exact ⟨written, front.isInfix.trans inside.isInfix, yields⟩

theorem selects_scan (t : Text) : Selects Yields t (form.scan t) := by
  fun_induction scan form t with
  | case1 t a rest found ih =>
    obtain ⟨written, yields, same⟩ := reads.mp found
    have first : ∀ s, s <:+ [] → s ≠ [] → ¬ Begins Yields (s ++ written ++ rest) :=
      fun s inside nonempty => absurd (List.suffix_nil.mp inside) nonempty
    rw [same]
    exact .next yields first ih
  | case2 missed =>
    refine .nothing fun s inside => ?_
    rw [List.suffix_nil.mp inside]
    exact reads.read?_eq_none.mp missed
  | case3 c rest missed ih => exact ih.cons (reads.read?_eq_none.mp missed)

theorem scan_append {before written rest : Text} {a : α} (yields : Yields written a)
    (leftmost : ∀ s, s <:+ before → s ≠ [] → ¬ Begins Yields (s ++ written ++ rest)) :
    form.scan (before ++ written ++ rest) = a :: form.scan rest := by
  induction before with
  | nil => exact scan_of_read? (reads.mpr ⟨written, yields, rfl⟩)
  | cons c before ih =>
    have here := leftmost (c :: before) (List.suffix_refl _) (by simp)
    have later := ih fun s inside => leftmost s (inside.trans (List.suffix_cons c before))
    rw [List.cons_append, List.cons_append] at here ⊢
    rw [scan_cons_of_read?_eq_none (reads.read?_eq_none.mpr here), later]

/-- A selection can be made in one way only, and it is what the scan finds. -/
theorem selects_iff {t : Text} {selected : List α} :
    Selects Yields t selected ↔ selected = form.scan t := by
  constructor
  · intro selects
    induction selects with
    | nothing absent =>
      symm
      apply List.eq_nil_iff_forall_not_mem.mpr
      intro a member
      obtain ⟨s, rest, inside, read⟩ := exists_read?_of_mem_scan member
      obtain ⟨written, yields, same⟩ := reads.mp read
      exact absent s inside ⟨written, a, rest, yields, same⟩
    | next yields leftmost _ ih => rw [reads.scan_append yields leftmost, ih]
  · rintro rfl
    exact reads.selects_scan t

end Reads
end Form
end OrphanFiles.Source
