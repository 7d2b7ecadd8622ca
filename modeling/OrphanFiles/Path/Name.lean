import OrphanFiles.Text.Basic

/-! Components of a path, and the split of a file name into stem and suffix.
The parent entry `..` is a component like any other: it is never collapsed here. -/
namespace OrphanFiles

/-- A component as it can stand between two slashes once empty and single-dot
components are gone. -/
structure Name where
  text : Text
  proper : text ≠ [] ∧ text ≠ ['.'] ∧ '/' ∉ text
deriving DecidableEq

namespace Name

def ofText? (t : Text) : Option Name :=
  if proper : t ≠ [] ∧ t ≠ ['.'] ∧ '/' ∉ t then some ⟨t, proper⟩ else none

theorem ofText?_eq_some {t : Text} {name : Name} : ofText? t = some name ↔ name.text = t := by
  constructor
  · intro h
    unfold ofText? at h
    split at h
    · cases h; rfl
    · cases h
  · rintro rfl
    simp [ofText?, name.proper]

def parent : Name :=
  ⟨"..".toList, by decide⟩

end Name

namespace Text

/-- The part of a file name up to and including its last dot, empty if it has none. -/
def throughLastDot (name : Text) : Text :=
  (name.reverse.dropWhile (· ≠ '.')).reverse

/-- The part of a file name after its last dot, the whole name if it has none. -/
def afterLastDot (name : Text) : Text :=
  (name.reverse.takeWhile (· ≠ '.')).reverse

theorem throughLastDot_append_afterLastDot (name : Text) :
    throughLastDot name ++ afterLastDot name = name := by
  simp [throughLastDot, afterLastDot, ← List.reverse_append]

theorem getLast_throughLastDot {name : Text} (dotted : throughLastDot name ≠ []) :
    (throughLastDot name).getLast dotted = '.' := by
  have dropped := List.head?_dropWhile_not (fun c => decide (c ≠ '.')) name.reverse
  have first : (name.reverse.dropWhile fun c => decide (c ≠ '.')).head? =
      some ((throughLastDot name).getLast dotted) := by
    rw [← List.getLast?_eq_some_getLast dotted, throughLastDot, List.getLast?_reverse]
  rw [first] at dropped
  simpa using dropped

/-- Stem and suffix of a file name. The suffix starts at the last dot, unless that
dot opens or closes the name; then the whole name is the stem. -/
def stemAndSuffix (name : Text) : Text × Text :=
  if (throughLastDot name).length ≤ 1 ∨ afterLastDot name = [] then (name, [])
  else ((throughLastDot name).dropLast, '.' :: afterLastDot name)

def stem (name : Text) : Text :=
  (stemAndSuffix name).1

def suffix (name : Text) : Text :=
  (stemAndSuffix name).2

theorem stem_append_suffix (name : Text) : stem name ++ suffix name = name := by
  simp only [stem, suffix, stemAndSuffix]
  split
  · simp
  · rename_i inner
    have dotted : throughLastDot name ≠ [] := by
      intro empty
      simp [empty] at inner
    have ending := List.dropLast_concat_getLast dotted
    rw [getLast_throughLastDot dotted] at ending
    calc (throughLastDot name).dropLast ++ '.' :: afterLastDot name
        = ((throughLastDot name).dropLast ++ ['.']) ++ afterLastDot name := by simp
      _ = name := by rw [ending, throughLastDot_append_afterLastDot]

theorem stem_prefix (name : Text) : stem name <+: name :=
  ⟨suffix name, stem_append_suffix name⟩

end Text
end OrphanFiles
