import OrphanFiles.Source.Imports

/-! The sign that a source text loads a component lazily: a `dynamic(` call whose
argument, cut at the first closing parenthesis, ends in a quote. The argument
itself is not kept. -/
namespace OrphanFiles.Source

/-- Whether the text behind an opening parenthesis is such an argument. -/
def isLazyArgument (t : Text) : Bool :=
  let argument := t.takeWhile (· ≠ ')')
  argument.length < t.length && 2 ≤ argument.length &&
    argument.getLast?.any (importQuotes.contains ·)

def hasLazyLoad (t : Text) : Bool :=
  (Text.suffixes t).any fun s => (Text.strip? "dynamic(".toList s).any isLazyArgument

theorem hasLazyLoad_iff {t : Text} :
    hasLazyLoad t = true ↔
      ∃ before argument, t = before ++ "dynamic(".toList ++ argument ∧
        isLazyArgument argument = true := by
  simp only [hasLazyLoad, List.any_eq_true, Text.mem_suffixes, Option.any_eq_true]
  constructor
  · rintro ⟨s, ⟨before, joined⟩, argument, stripped, is_argument⟩
    refine ⟨before, argument, ?_, is_argument⟩
    rw [← joined, Text.strip?_eq_some.mp stripped, List.append_assoc]
  · rintro ⟨before, argument, joined, is_argument⟩
    exact ⟨"dynamic(".toList ++ argument, ⟨before, by rw [joined, List.append_assoc]⟩, argument,
      Text.strip?_eq_some.mpr rfl, is_argument⟩

end OrphanFiles.Source
