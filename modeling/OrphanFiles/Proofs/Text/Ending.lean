import OrphanFiles.Convention

/-! Texts that lose an ending. An ending is a dot with letters behind it, so no text has two
endings that close it, and what is left when one is cut off is settled by the text. A single
newline behind the ending stays. -/
namespace OrphanFiles

namespace Text

/-- A dot, and behind it neither another dot nor a newline. -/
def IsExtension (ending : Text) : Prop :=
  ∃ letters, ending = '.' :: letters ∧ '.' ∉ letters ∧ '\n' ∉ letters

/-- Whether one text is the other less an ending, which closes it or stands before its final
newline. -/
def Loses (endings : List Text) (t cut : Text) : Prop :=
  ∃ body, ∃ ending ∈ endings, ∃ line, (line = [] ∨ line = ['\n']) ∧
    t = body ++ ending ++ line ∧ cut = body ++ line

theorem exists_line (t : Text) :
    ∃ line, (line = [] ∨ line = ['\n']) ∧ t = withoutFinalNewline t ++ line := by
  unfold withoutFinalNewline
  by_cases broken : t.getLast? = some '\n'
  · obtain ⟨body, same⟩ := List.getLast?_eq_some_iff.mp broken
    exact ⟨['\n'], Or.inr rfl, by simp [same]⟩
  · exact ⟨[], Or.inl rfl, by simp [broken]⟩

/-- A line without newline is what is left of it, with a newline behind it or not. -/
theorem withoutFinalNewline_append {t line : Text} (inner : t.getLast? ≠ some '\n')
    (ends : line = [] ∨ line = ['\n']) : withoutFinalNewline (t ++ line) = t := by
  rcases ends with rfl | rfl
  · simp [withoutFinalNewline, inner]
  · simp [withoutFinalNewline]

theorem withoutFinalNewline_of_notMem {t : Text} (line : '\n' ∉ t) :
    withoutFinalNewline t = t := by
  have inner : t.getLast? ≠ some '\n' := fun last => line (List.mem_of_getLast? last)
  rw [withoutFinalNewline, if_neg inner]

theorem endsWithAny_iff {endings : List Text} {t : Text} (line : '\n' ∉ t) :
    endsWithAny endings t = true ↔ ∃ ending ∈ endings, ending <:+ t := by
  simp only [endsWithAny, withoutFinalNewline_of_notMem line, List.any_eq_true,
    List.isSuffixOf_iff_suffix]

namespace IsExtension

variable {ending other : Text}

theorem getLast?_append (extension : IsExtension ending) (body : Text) :
    (body ++ ending).getLast? ≠ some '\n' := by
  obtain ⟨letters, same, _, plain⟩ := extension
  intro last
  rw [same, List.getLast?_append, List.getLast?_cons, Option.some_or] at last
  cases ends : letters.getLast? with
  | none =>
    rw [ends] at last
    exact absurd last (by decide)
  | some c =>
    rw [ends] at last
    cases last
    exact plain (List.mem_of_getLast? ends)

theorem eq_of_suffix (extension : IsExtension ending) (extension' : IsExtension other)
    (closes : ending <:+ other) : ending = other := by
  obtain ⟨letters, same, _, _⟩ := extension
  obtain ⟨letters', same', dotless, _⟩ := extension'
  rw [same, same'] at closes ⊢
  rcases List.suffix_cons_iff.mp closes with whole | inside
  · exact whole
  · exact absurd (inside.subset List.mem_cons_self) dotless

/-- No text is closed by two endings. -/
theorem eq_of_suffix_of_suffix (extension : IsExtension ending) (extension' : IsExtension other)
    {t : Text} (closes : ending <:+ t) (closes' : other <:+ t) : ending = other := by
  rcases List.suffix_or_suffix_of_suffix closes closes' with inside | inside
  · exact extension.eq_of_suffix extension' inside
  · exact (extension'.eq_of_suffix extension inside).symm

end IsExtension

section Cutting

variable {endings : List Text} {t cut : Text}

theorem cutEnding_of_find? {body ending line : Text}
    (found : endings.find? (·.isSuffixOf (withoutFinalNewline t)) = some ending)
    (front : withoutFinalNewline t = body ++ ending) (split : t = body ++ ending ++ line) :
    cutEnding endings t = body ++ line := by
  have behind : t.drop (body ++ ending).length = line := by rw [split, List.drop_left]
  have before : (body ++ ending).take ((body ++ ending).length - ending.length) = body := by simp
  rw [cutEnding, found]
  simp only [front, before, behind]

/-- What is cut is an ending, unless there is none. -/
theorem cutEnding_cases (endings : List Text) (t : Text) :
    cutEnding endings t = t ∨ Loses endings t (cutEnding endings t) := by
  cases found : endings.find? (·.isSuffixOf (withoutFinalNewline t)) with
  | none =>
    left
    rw [cutEnding, found]
  | some ending =>
    right
    obtain ⟨line, ends, split⟩ := exists_line t
    have closes := List.find?_some found
    obtain ⟨body, joined⟩ := List.isSuffixOf_iff_suffix.mp closes
    have whole : t = body ++ ending ++ line := by rw [joined, ← split]
    have known := List.mem_of_find?_eq_some found
    exact ⟨body, ending, known, line, ends, whole, cutEnding_of_find? found joined.symm whole⟩

variable (extensions : ∀ ending ∈ endings, IsExtension ending)
include extensions

theorem cutEnding_of_loses (loses : Loses endings t cut) : cutEnding endings t = cut := by
  obtain ⟨body, ending, known, line, ends, same, same'⟩ := loses
  have front : withoutFinalNewline t = body ++ ending := by
    rw [same, withoutFinalNewline_append ((extensions ending known).getLast?_append body) ends]
  have closes : ending <:+ withoutFinalNewline t := ⟨body, front.symm⟩
  have some_found : (endings.find? (·.isSuffixOf (withoutFinalNewline t))).isSome = true :=
    List.find?_isSome.mpr ⟨ending, known, List.isSuffixOf_iff_suffix.mpr closes⟩
  obtain ⟨first, found⟩ := Option.isSome_iff_exists.mp some_found
  -- The endings are tried in turn, but only one of them can close the text.
  have extension := extensions first (List.mem_of_find?_eq_some found)
  have closes' := List.find?_some found
  have only : first = ending :=
    extension.eq_of_suffix_of_suffix (extensions ending known)
      (List.isSuffixOf_iff_suffix.mp closes') closes
  rw [same', cutEnding_of_find? (only ▸ found) front same]

/-- A text loses its ending, and stays as it is if it has none. -/
theorem cutEnding_eq_iff :
    cutEnding endings t = cut ↔
      Loses endings t cut ∨ (cut = t ∧ ∀ other, ¬ Loses endings t other) := by
  constructor
  · rintro rfl
    rcases cutEnding_cases endings t with whole | loses
    · by_cases ending : ∃ other, Loses endings t other
      · obtain ⟨other, loses⟩ := ending
        left
        rw [cutEnding_of_loses extensions loses]
        exact loses
      · exact Or.inr ⟨whole, not_exists.mp ending⟩
    · exact Or.inl loses
  · rintro (loses | ⟨rfl, whole⟩)
    · exact cutEnding_of_loses extensions loses
    · exact (cutEnding_cases endings cut).resolve_right (whole _)

theorem eq_or_cutEnding_iff :
    (cut = t ∨ cut = cutEnding endings t) ↔ (cut = t ∨ Loses endings t cut) := by
  constructor
  · rintro (whole | cut)
    · exact Or.inl whole
    · rcases (cutEnding_eq_iff extensions).mp cut.symm with loses | ⟨whole, _⟩
      · exact Or.inr loses
      · exact Or.inl whole
  · rintro (whole | loses)
    · exact Or.inl whole
    · exact Or.inr (cutEnding_of_loses extensions loses).symm

end Cutting

end Text

namespace Convention

theorem isExtension_of_mem_scriptEndings : ∀ ending ∈ scriptEndings, Text.IsExtension ending := by
  simp [scriptEndings, Text.IsExtension]

theorem isExtension_of_mem_routeEndings : ∀ ending ∈ routeEndings, Text.IsExtension ending := by
  simp [routeEndings, Text.IsExtension]

end Convention
end OrphanFiles
