import OrphanFiles.Proofs.Path.Anchored
import OrphanFiles.Proofs.Path.Location
import OrphanFiles.Proofs.Source.Occurrence
import OrphanFiles.Proofs.Text.Ending

/-! The rules about the text of a path as rules about its components. A segment with a slash
on both sides is a component that is not the last one, so nothing that looks like a segment
can straddle two components, and the base, its slashes and an empty rest play no part. -/
namespace OrphanFiles

namespace Path

/-- The components that the rules speak of: those below the base where the path is below it,
all of them otherwise. -/
def components (p : Path) : Option Path → List Text
  | none => p.names.map Name.text
  | some base =>
    if p.anchor = base.anchor ∧ base.names <+: p.names then
      (p.names.drop base.names.length).map Name.text
    else p.names.map Name.text

/-- The last of the components, empty if there is none. -/
def lastName (inner : List Text) : Text :=
  inner.getLast?.getD []

theorem components_eq (p : Path) (base? : Option Path) :
    p.components base? = (p.below base?).names.map Name.text := by
  cases base? with
  | none => rfl
  | some base =>
    simp only [components, below, Option.bind_some, relativeTo?, List.isPrefixOf_iff_prefix]
    split <;> rfl

theorem dropWhile_slash_intercalate (names : List Name) :
    (['/'].intercalate (names.map Name.text)).dropWhile (· = '/') =
      ['/'].intercalate (names.map Name.text) := by
  have parts := List.takeWhile_append_dropWhile (p := (· = '/'))
    (l := ['/'].intercalate (names.map Name.text))
  rwa [takeWhile_slash_intercalate, List.nil_append] at parts

/-- The anchored text shows the names and nothing else, unless there are none. -/
theorem anchoredText_cases (p : Path) (base? : Option Path) :
    ((p.below base?).names = [] ∧
      (p.anchoredText base? = ['/'] ∨ p.anchoredText base? = ['/', '.'])) ∨
    ((p.below base?).names ≠ [] ∧ p.anchoredText base? = slashed (p.below base?).names) := by
  rw [anchoredText]
  obtain ⟨anchor, names⟩ := p.below base?
  cases names with
  | nil => cases anchor <;> decide
  | cons name names =>
    right
    refine ⟨by simp, ?_⟩
    have bare := dropWhile_slash_intercalate (name :: names)
    rw [← slash_intercalate]
    rw [List.map_cons] at bare ⊢
    cases anchor <;> simp [text, Anchor.text, bare]

theorem ofText_anchoredText (p : Path) (base? : Option Path) :
    ofText (p.anchoredText base?) = ⟨.root, (p.below base?).names⟩ := by
  rcases p.anchoredText_cases base? with ⟨empty, bare | dotted⟩ | ⟨nonempty, spelled⟩
  · rw [bare, empty]
    decide
  · rw [dotted, empty]
    decide
  · have rooted : slashed (p.below base?).names = (⟨.root, (p.below base?).names⟩ : Path).text := by
      have spelled := text_ofLocation (p.below base?).names
      rw [if_neg nonempty] at spelled
      exact spelled.symm
    rw [spelled, rooted, ofText_text]

theorem anchoredName_eq (p : Path) (base? : Option Path) :
    p.anchoredName base? = lastName (p.components base?) := by
  rw [anchoredName, ofText_anchoredText, components_eq, lastName, Path.name, List.getLast?_map]

end Path

namespace Text

theorem after?_cons (mark : Text) (c : Char) (t : Text) :
    after? mark (c :: t) = (strip? mark (c :: t)).or (after? mark t) := by
  rw [after?, suffixes, List.findSome?_cons, after?]
  cases strip? mark (c :: t) <;> rfl

/-- A mark that starts with a slash is not met in a stretch without one. -/
theorem after?_append {mark t : Text} (plain : '/' ∉ t) (rest : Text) :
    after? ('/' :: mark) (t ++ rest) = after? ('/' :: mark) rest := by
  induction t with
  | nil => rfl
  | cons c t ih =>
    rw [List.mem_cons, not_or] at plain
    rw [List.cons_append, after?_cons, strip?, if_neg plain.1, ih plain.2, Option.none_or]

end Text

namespace Path

/-- A segment as the rules look for it. -/
def segment (word : Text) : Text :=
  '/' :: (word ++ ['/'])

variable {word : Text}

theorem strip?_segment {name : Name} {names : List Name} (inner : name.text = word)
    (nonempty : names ≠ []) :
    Text.strip? (segment word) (slashed (name :: names)) =
      some (['/'].intercalate (names.map Name.text)) := by
  obtain ⟨next, names, rfl⟩ := List.exists_cons_of_ne_nil nonempty
  have spelled : slashed (name :: next :: names) = '/' :: (name.text ++ slashed (next :: names)) :=
    rfl
  rw [Text.strip?_eq_some, spelled, ← slash_intercalate, segment, inner]
  simp

section Segment

variable (plain : '/' ∉ word)
include plain

theorem strip?_segment_eq_none {name : Name} {names : List Name}
    (apart : name.text = word → names = []) :
    Text.strip? (segment word) (slashed (name :: names)) = none := by
  cases stripped : Text.strip? (segment word) (slashed (name :: names)) with
  | none => rfl
  | some rest =>
    have same : name.text ++ slashed names = word ++ '/' :: rest := by
      simpa [slashed, segment] using Text.strip?_eq_some.mp stripped
    cases names with
    | nil =>
      have inside : '/' ∈ name.text := by
        have whole : name.text = word ++ '/' :: rest := by simpa [slashed] using same
        rw [whole]
        exact List.mem_append_right _ List.mem_cons_self
      exact absurd inside name.proper.2.2
    | cons next names =>
      have free {t : Text} (slashless : '/' ∉ t) : ∀ c ∈ t, c ∉ ['/'] := by
        intro c member slash
        exact slashless (List.mem_singleton.mp slash ▸ member)
      have ends := Source.eq_of_first_quote (free name.proper.2.2) (free plain)
        List.mem_cons_self List.mem_cons_self same
      exact absurd (apart ends.1) (by simp)

/-- What stands behind a segment for the first time: the components behind the first one of
that name, if it is not the last of all. -/
theorem after?_segment (names : List Name) :
    (word ∉ (names.map Name.text).dropLast ∧ Text.after? (segment word) (slashed names) = none) ∨
    ∃ before after, names.map Name.text = before ++ word :: after ∧ word ∉ before ∧ after ≠ [] ∧
      Text.after? (segment word) (slashed names) = some (['/'].intercalate after) := by
  induction names with
  | nil => exact Or.inl ⟨by simp, rfl⟩
  | cons name names ih =>
    have spelled : slashed (name :: names) = '/' :: (name.text ++ slashed names) := rfl
    have deeper : Text.after? (segment word) (slashed (name :: names)) =
        (Text.strip? (segment word) (slashed (name :: names))).or
          (Text.after? (segment word) (slashed names)) := by
      rw [spelled, Text.after?_cons, segment, Text.after?_append name.proper.2.2]
    by_cases here : name.text = word ∧ names ≠ []
    · right
      refine ⟨[], names.map Name.text, by simp [here.1], by simp, by simp [here.2], ?_⟩
      rw [deeper, strip?_segment here.1 here.2, Option.some_or]
    · have apart : name.text = word → names = [] := by
        intro same
        by_contra nonempty
        exact here ⟨same, nonempty⟩
      rw [deeper, strip?_segment_eq_none plain apart, Option.none_or]
      rcases ih with ⟨absent, missed⟩ | ⟨before, after, split, fresh, nonempty, found⟩
      · left
        refine ⟨?_, missed⟩
        cases names with
        | nil => simp
        | cons next names =>
          intro member
          rcases List.mem_cons.mp member with same | later
          · exact absurd (apart same.symm) (by simp)
          · exact absent later
      · right
        refine ⟨name.text :: before, after, by rw [List.map_cons, split]; rfl, ?_, nonempty, found⟩
        intro member
        rcases List.mem_cons.mp member with same | later
        · rw [apart same.symm] at split
          exact absurd split (by simp)
        · exact fresh later

theorem after?_segment_anchoredText (p : Path) (base? : Option Path) :
    (word ∉ (p.components base?).dropLast ∧
      Text.after? (segment word) (p.anchoredText base?) = none) ∨
    ∃ before after, p.components base? = before ++ word :: after ∧ word ∉ before ∧ after ≠ [] ∧
      Text.after? (segment word) (p.anchoredText base?) = some (['/'].intercalate after) := by
  rw [components_eq]
  rcases p.anchoredText_cases base? with ⟨empty, short⟩ | ⟨_, spelled⟩
  · left
    refine ⟨by simp [empty], ?_⟩
    rw [← Option.not_isSome_iff_eq_none, Text.after?_isSome, Text.occursIn_iff]
    intro inside
    -- A segment has two slashes, and the text of an empty rest has one.
    have slashes := inside.sublist.count_le '/'
    have two : 2 ≤ (segment word).count '/' := by simp [segment]
    rcases short with bare | dotted
    · rw [bare] at slashes
      exact absurd (Nat.le_trans two slashes) (by decide)
    · rw [dotted] at slashes
      exact absurd (Nat.le_trans two slashes) (by decide)
  · rw [spelled]
    exact after?_segment plain _

/-- A segment stands in the anchored text exactly if it is a component that is not the last. -/
theorem segment_infix_iff {p : Path} {base? : Option Path} :
    segment word <:+: p.anchoredText base? ↔ word ∈ (p.components base?).dropLast := by
  rw [← Text.occursIn_iff, ← Text.after?_isSome]
  rcases after?_segment_anchoredText plain p base? with
    ⟨absent, missed⟩ | ⟨before, after, split, _, nonempty, found⟩
  · simp [missed, absent]
  · have inner : word ∈ (p.components base?).dropLast := by
      rw [split, List.dropLast_append_cons, List.dropLast_cons_of_ne_nil nonempty]
      exact List.mem_append_right _ List.mem_cons_self
    simp [found, inner]

end Segment

section Rules

variable {p : Path} {base? : Option Path}

theorem isApiRoute_iff :
    p.isApiRoute base? = true ↔ "api".toList ∈ (p.components base?).dropLast := by
  have plain : '/' ∉ "api".toList := by decide
  rw [isApiRoute, Text.occursIn_iff, ← segment_infix_iff plain]
  rfl

theorem apiRoute_cases (p : Path) (base? : Option Path) :
    ("api".toList ∉ (p.components base?).dropLast ∧ p.apiRoute base? = []) ∨
    ∃ before after, p.components base? = before ++ "api".toList :: after ∧
      "api".toList ∉ before ∧ after ≠ [] ∧
      p.apiRoute base? = Text.cutEnding Convention.routeEndings (['/'].intercalate after) := by
  have spelled : Convention.apiSegment = segment "api".toList := rfl
  have plain : '/' ∉ "api".toList := by decide
  rw [apiRoute, spelled]
  rcases after?_segment_anchoredText plain p base? with
    ⟨absent, missed⟩ | ⟨before, after, split, fresh, nonempty, found⟩
  · exact Or.inl ⟨absent, by rw [missed]⟩
  · exact Or.inr ⟨before, after, split, fresh, nonempty, by rw [found]⟩

theorem parentName_eq_iff {names : List Name} {word : Text} (some_word : word ≠ []) :
    (⟨.root, names⟩ : Path).parentName = word ↔
      (names.map Name.text).dropLast.getLast? = some word := by
  rw [parentName, ← List.map_dropLast, List.getLast?_map]
  cases (names.dropLast.getLast?.map Name.text) with
  | none => simp [some_word.symm]
  | some text => simp

/-- Entry points are the routes of the server interface, the files of a known name and the
pages that lie directly in a directory of the application. -/
theorem isEntryPoint_iff :
    p.isEntryPoint base? = true ↔
      "api".toList ∈ (p.components base?).dropLast ∨
      lastName (p.components base?) ∈ Convention.entryPoints ∨
      ((p.components base?).dropLast.getLast? = some "app".toList ∧
        "page.".toList <+: lastName (p.components base?)) := by
  have known := p.anchoredName_eq base?
  rw [anchoredName] at known
  simp only [isEntryPoint, Bool.or_eq_true, Bool.and_eq_true, decide_eq_true_eq,
    List.contains_iff_mem, isPageName, List.isPrefixOf_iff_prefix, known, isApiRoute_iff]
  rw [ofText_anchoredText, parentName_eq_iff (by decide), ← components_eq]
  tauto

end Rules

end Path

end OrphanFiles
