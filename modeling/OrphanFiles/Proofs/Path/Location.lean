import OrphanFiles.Walk

/-! The texts of absolute paths. A location is spelled by its names, each behind a slash,
and only the root has a text of its own. -/
namespace OrphanFiles

namespace Utf8

theorem size_append (s t : Text) : size (s ++ t) = size s + size t := by
  simp [size, encode]

theorem size_le_of_prefix {s t : Text} (front : s <+: t) : size s ≤ size t := by
  obtain ⟨rest, same⟩ := front
  rw [← same, size_append]
  exact Nat.le_add_right _ _

end Utf8

namespace Path

/-- The names of a location, each behind a slash. -/
def slashed (location : Location) : Text :=
  location.flatMap fun name => '/' :: name.text

theorem slashed_append (above below : Location) :
    slashed (above ++ below) = slashed above ++ slashed below := by
  simp [slashed]

theorem slash_intercalate (name : Name) (location : Location) :
    '/' :: ['/'].intercalate ((name :: location).map Name.text) = slashed (name :: location) := by
  induction location generalizing name with
  | nil => simp [slashed]
  | cons next location ih =>
    have rest := ih next
    simp only [List.map_cons] at rest
    simp only [List.map_cons, List.intercalate_cons_cons]
    rw [List.append_assoc, List.singleton_append, rest]
    rfl

theorem text_ofLocation (location : Location) :
    (ofLocation location).text = if location = [] then ['/'] else slashed location := by
  cases location with
  | nil => rfl
  | cons name location =>
    have spelled := slash_intercalate name location
    simp [text, ofLocation, Anchor.text, ← spelled]

theorem text_ofLocation_append (above : Location) {below : Location} (nonempty : below ≠ []) :
    (ofLocation (above ++ below)).text = slashed above ++ slashed below := by
  rw [text_ofLocation, if_neg (by simp [nonempty]), slashed_append]

theorem text_prefix (above below : Location) :
    (ofLocation above).text <+: (ofLocation (above ++ below)).text := by
  by_cases empty : below = []
  · simp [empty]
  · rw [text_ofLocation_append above empty, text_ofLocation]
    by_cases root : above = []
    · obtain ⟨name, rest, same⟩ := List.exists_cons_of_ne_nil empty
      simp [root, same, slashed]
    · simp [root]

theorem mem_text_ofLocation {location : Location} {c : Char}
    (member : c ∈ (ofLocation location).text) : c = '/' ∨ ∃ name ∈ location, c ∈ name.text := by
  rw [text_ofLocation] at member
  by_cases empty : location = []
  · left
    simpa [empty] using member
  · simp only [empty, if_false, slashed, List.mem_flatMap, List.mem_cons] at member
    obtain ⟨name, inside, slash | letter⟩ := member
    · exact Or.inl slash
    · exact Or.inr ⟨name, inside, letter⟩

theorem child_ofLocation (location : Location) (name : Name) :
    (ofLocation location).child name = ofLocation (location ++ [name]) := rfl

theorem getLast?_slashed {location : Location} (nonempty : location ≠ []) :
    (slashed location).getLast? ≠ some '/' := by
  obtain ⟨above, name, same⟩ := List.eq_nil_or_concat location |>.resolve_left nonempty
  intro slash
  have last : (slashed location).getLast? = name.text.getLast? := by
    obtain ⟨c, t, spelled⟩ := List.exists_cons_of_ne_nil name.proper.1
    rw [same, List.concat_eq_append, slashed_append]
    simp [slashed, spelled, List.getLast?_cons, List.getLast?_append]
  rw [last] at slash
  exact name.proper.2.2 (List.mem_of_getLast? slash)

/-- The path on which the walk reaches an entry is the text of the entry's location. -/
theorem entryText_ofLocation (location : Location) (name : Name) :
    entryText (ofLocation location).text name.text = (ofLocation (location ++ [name])).text := by
  rw [text_ofLocation_append location (by simp), text_ofLocation, entryText]
  by_cases empty : location = []
  · simp [empty, slashed]
  · rw [if_neg empty, if_neg (getLast?_slashed empty)]
    simp [slashed]

end Path
end OrphanFiles
