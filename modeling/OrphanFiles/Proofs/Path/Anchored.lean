import OrphanFiles.Category
import OrphanFiles.Proofs.Path.Spelling

/-! What the rules about names and segments see of a path below a base: the rest of the
path behind one slash. The base itself leaves no trace, whatever its components are. -/
namespace OrphanFiles

namespace Path

variable {base rest : Path} (relative : rest.anchor = .relative)
include relative

theorem join_relative : base.join rest = ⟨base.anchor, base.names ++ rest.names⟩ :=
  if_pos relative

theorem relativeTo?_join : (base.join rest).relativeTo? base = some rest :=
  relativeTo?_eq_some.mpr ⟨relative, join_relative relative⟩

theorem below_join : (base.join rest).below (some base) = rest := by
  simp [below, relativeTo?_join relative]

theorem anchoredText_join : (base.join rest).anchoredText (some base) = rest.anchoredText none := by
  rw [anchoredText, below_join relative]
  rfl

theorem isApiRoute_join : (base.join rest).isApiRoute (some base) = rest.isApiRoute none := by
  rw [isApiRoute, anchoredText_join relative, isApiRoute]

theorem isEntryPoint_join : (base.join rest).isEntryPoint (some base) = rest.isEntryPoint none := by
  rw [isEntryPoint, anchoredText_join relative, isApiRoute_join relative, isEntryPoint]

theorem category_join : (base.join rest).category (some base) = rest.category none := by
  rw [category, anchoredName, anchoredText_join relative, isApiRoute_join relative, category,
    anchoredName]

theorem name_join (nonempty : rest.names ≠ []) : (base.join rest).name = rest.name := by
  obtain ⟨above, last, shape⟩ := (List.eq_nil_or_concat rest.names).resolve_left nonempty
  rw [List.concat_eq_append] at shape
  simp [join_relative relative, Path.name, shape]

theorem stem_join (nonempty : rest.names ≠ []) : (base.join rest).stem = rest.stem := by
  rw [stem, name_join relative nonempty, stem]

theorem suffix_join (nonempty : rest.names ≠ []) : (base.join rest).suffix = rest.suffix := by
  rw [suffix, name_join relative nonempty, suffix]

theorem anchoredText_relative (nonempty : rest.names ≠ []) :
    rest.anchoredText none = (⟨.root, rest.names⟩ : Path).text := by
  have spelled : rest.text = ['/'].intercalate (rest.names.map Name.text) := by
    simp [text, relative, nonempty, Anchor.text]
  have parts := List.takeWhile_append_dropWhile (p := (· = '/')) (l := rest.text)
  rw [spelled, takeWhile_slash_intercalate, List.nil_append, ← spelled] at parts
  have anchored : rest.anchoredText none = '/' :: rest.text.dropWhile (· = '/') := rfl
  rw [anchored, parts, spelled]
  rfl

theorem anchoredName_join (nonempty : rest.names ≠ []) :
    (base.join rest).anchoredName (some base) = (base.join rest).name := by
  rw [anchoredName, anchoredText_join relative, anchoredText_relative relative nonempty,
    ofText_text, name_join relative nonempty]
  rfl

end Path

theorem Path.join_injective {base a b : Path} (relative : a.anchor = .relative)
    (relative' : b.anchor = .relative) (same : base.join a = base.join b) : a = b := by
  have rest : (base.join a).relativeTo? base = some a := relativeTo?_join relative
  rw [same, relativeTo?_join relative'] at rest
  exact (Option.some.inj rest).symm

theorem Category.ofName_ne_api (name : Text) : Category.ofName name ≠ .api := by
  unfold Category.ofName
  repeat' split
  all_goals simp

theorem Category.ofName_eq_media {name : Text} :
    Category.ofName name = .media ↔ Convention.isMediaSuffix name.suffix = true := by
  unfold Category.ofName
  split
  · simp [*]
  · rename_i other
    rw [Bool.not_eq_true] at other
    rw [other]
    repeat' split
    all_goals simp

namespace Path

/-- The routes of the server interface are entry points, so what is reported is none of them. -/
theorem category_ne_api {path : Path} {base? : Option Path}
    (ordinary : path.isEntryPoint base? = false) : path.category base? ≠ .api := by
  rw [isEntryPoint, Bool.or_eq_false_iff, Bool.or_eq_false_iff] at ordinary
  rw [category, if_neg (by simp [ordinary.1.2])]
  split
  · decide
  · exact Category.ofName_ne_api _

/-- No source is a medium. -/
theorem category_ne_media {path : Path} {base? : Option Path}
    (source : Convention.isSourceSuffix (path.anchoredName base?).suffix = true) :
    path.category base? ≠ .media := by
  rw [category]
  split
  · decide
  split
  · decide
  rw [Ne, Category.ofName_eq_media, Convention.not_isMediaSuffix_of_isSourceSuffix source]
  decide

end Path
end OrphanFiles
