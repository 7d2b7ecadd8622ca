import OrphanFiles.Proofs.Path.Components

/-! Categories and entry points by components alone. Every category has a condition on the
components that the rules see, and a file gets the first category whose condition holds.
Three tests on one text, for the category, the entry points and the route, agree because
each of them comes down to the same components. -/
namespace OrphanFiles

/-- The first member of a list that passes. -/
inductive FirstOf (Passes : α → Prop) : List α → α → Prop
  | here {a : α} {rest : List α} (passed : Passes a) : FirstOf Passes (a :: rest) a
  | later {a b : α} {rest : List α} (missed : ¬ Passes a) (found : FirstOf Passes rest b) :
    FirstOf Passes (a :: rest) b

theorem FirstOf.ite {Passes : α → Prop} {a b : α} {rest : List α} {test : Bool}
    (decides : test = true ↔ Passes a) (found : FirstOf Passes rest b) :
    FirstOf Passes (a :: rest) (if test then a else b) := by
  by_cases passed : test = true
  · rw [if_pos passed]
    exact .here (decides.mp passed)
  · rw [if_neg passed]
    exact .later (fun passes => passed (decides.mpr passes)) found

namespace Category

def StartsWithCapital (t : Text) : Prop :=
  ∃ capital rest, t = capital :: rest ∧ 'A' ≤ capital ∧ capital ≤ 'Z'

/-- The condition of a category on the components of a file, its name being the last one. -/
def Applies (inner : List Text) : Category → Prop
  | api => "api".toList ∈ inner.dropLast
  | page => "app".toList ∈ inner.dropLast ∧ "page.".toList <+: Path.lastName inner
  | media => (Path.lastName inner).suffix.foldCase ∈ Convention.mediaSuffixes
  | component => StartsWithCapital (Path.lastName inner) ∧
      ∃ ending ∈ [".tsx".toList, ".jsx".toList], ending <:+ Path.lastName inner
  | hook => (∃ rest, Path.lastName inner = "use".toList ++ rest ∧ StartsWithCapital rest) ∧
      ∃ ending ∈ [".ts".toList, ".tsx".toList], ending <:+ Path.lastName inner
  | context => ∃ ending ∈ ["Context.ts".toList, "Context.tsx".toList, "Provider.ts".toList,
      "Provider.tsx".toList], ending <:+ Path.lastName inner
  | typing => ".d.ts".toList <:+ Path.lastName inner
  | style => ∃ ending ∈ [".css".toList, ".scss".toList, ".sass".toList, ".less".toList],
      ending <:+ Path.lastName inner
  | util => True

/-- The categories in the order in which they are tried. -/
def precedence : List Category := [api, page, media, component, hook, context, typing, style, util]

theorem startsWithCapital_iff {t : Text} : startsWithCapital t = true ↔ StartsWithCapital t := by
  cases t with
  | nil => simp [startsWithCapital, StartsWithCapital]
  | cons c t => simp [startsWithCapital, StartsWithCapital, Source.isUpper_iff]

section Name

variable {name : Text} (line : '\n' ∉ name)
include line

theorem isComponentName_iff :
    isComponentName name = true ↔ StartsWithCapital name ∧
      ∃ ending ∈ [".tsx".toList, ".jsx".toList], ending <:+ name := by
  have unbroken : name.contains '\n' = false := by simpa using line
  simp only [isComponentName, Text.withoutFinalNewline_of_notMem line, unbroken, Bool.not_false,
    Bool.and_true, Bool.and_eq_true, startsWithCapital_iff, Text.endsWithAny_iff line]

theorem isHookName_iff :
    isHookName name = true ↔ (∃ rest, name = "use".toList ++ rest ∧ StartsWithCapital rest) ∧
      ∃ ending ∈ [".ts".toList, ".tsx".toList], ending <:+ name := by
  have unbroken : name.contains '\n' = false := by simpa using line
  simp only [isHookName, Text.withoutFinalNewline_of_notMem line]
  cases stripped : Text.strip? "use".toList name with
  | none =>
    refine iff_of_false (by simp) ?_
    rintro ⟨⟨rest, same, _⟩, _⟩
    rw [Text.strip?_eq_some.mpr same] at stripped
    cases stripped
  | some rest =>
    have split := Text.strip?_eq_some.mp stripped
    have capital : (∃ rest, name = "use".toList ++ rest ∧ StartsWithCapital rest) ↔
        StartsWithCapital rest := by
      simp [split]
    simp only [unbroken, Bool.not_false, Bool.and_true, Bool.and_eq_true, startsWithCapital_iff,
      Text.endsWithAny_iff line, capital]

/-- The name decides what is left once the directories have decided nothing. -/
theorem ofName_firstOf {inner : List Text} (last : Path.lastName inner = name) :
    FirstOf (Applies inner) [media, component, hook, context, typing, style, util]
      (ofName name) := by
  subst last
  have typed : isTypingName (Path.lastName inner) = true ↔ Applies inner typing := by
    rw [isTypingName, Text.endsWithAny_iff line]
    simp [Applies]
  exact .ite List.contains_iff_mem <| .ite (isComponentName_iff line) <|
    .ite (isHookName_iff line) <| .ite (Text.endsWithAny_iff line) <| .ite typed <|
    .ite (Text.endsWithAny_iff line) <| .here trivial

end Name
end Category

namespace Path

variable {p : Path} {base? : Option Path}

theorem isPage_iff :
    (Text.occursIn "/app/".toList (p.anchoredText base?) && isPageName (p.anchoredName base?)) =
      true ↔ Category.Applies (p.components base?) .page := by
  have plain : '/' ∉ "app".toList := by decide
  rw [Bool.and_eq_true, Text.occursIn_iff, isPageName, List.isPrefixOf_iff_prefix,
    anchoredName_eq, Category.Applies, ← segment_infix_iff plain]
  rfl

theorem category_firstOf (line : '\n' ∉ lastName (p.components base?)) :
    FirstOf (Category.Applies (p.components base?)) Category.precedence (p.category base?) := by
  have last : lastName (p.components base?) = p.anchoredName base? := (p.anchoredName_eq base?).symm
  rw [last] at line
  exact .ite isApiRoute_iff <| .ite isPage_iff <| Category.ofName_firstOf line last

/-- All that is decided from the text of a path is decided by its components. -/
theorem decided_by_components (p : Path) (base? : Option Path) :
    let inner := p.components base?
    (Convention.apiSegment <:+: p.anchoredText base? ↔ "api".toList ∈ inner.dropLast) ∧
    (("api".toList ∉ inner.dropLast ∧ p.apiRoute base? = []) ∨
      ∃ before after, inner = before ++ "api".toList :: after ∧ "api".toList ∉ before ∧
        after ≠ [] ∧
        (Text.Loses Convention.routeEndings (['/'].intercalate after) (p.apiRoute base?) ∨
          (p.apiRoute base? = ['/'].intercalate after ∧
            ∀ cut, ¬ Text.Loses Convention.routeEndings (['/'].intercalate after) cut))) ∧
    (p.isEntryPoint base? = true ↔
      "api".toList ∈ inner.dropLast ∨ lastName inner ∈ Convention.entryPoints ∨
        (inner.dropLast.getLast? = some "app".toList ∧ "page.".toList <+: lastName inner)) ∧
    ('\n' ∉ lastName inner →
      FirstOf (Category.Applies inner) Category.precedence (p.category base?)) := by
  refine ⟨?_, ?_, isEntryPoint_iff, category_firstOf⟩
  · rw [← isApiRoute_iff, isApiRoute, Text.occursIn_iff]
  · rcases p.apiRoute_cases base? with none_there | ⟨before, after, split, fresh, nonempty, route⟩
    · exact Or.inl none_there
    · have cut := (Text.cutEnding_eq_iff Convention.isExtension_of_mem_routeEndings).mp route.symm
      exact Or.inr ⟨before, after, split, fresh, nonempty, cut⟩

/-- A base below a directory of a segment's name leaves no segment behind, and repeated
slashes and single dots make none. -/
theorem decided_below_api_base :
    (ofText "/work/api//shop/./src/app/shop/page.jsx".toList).components
        (some (ofText "/work/api/shop/".toList)) =
      ["src".toList, "app".toList, "shop".toList, "page.jsx".toList] ∧
    '\n' ∉ lastName ["src".toList, "app".toList, "shop".toList, "page.jsx".toList] ∧
    FirstOf (Category.Applies ["src".toList, "app".toList, "shop".toList, "page.jsx".toList])
      Category.precedence ((ofText "/work/api//shop/./src/app/shop/page.jsx".toList).category
        (some (ofText "/work/api/shop/".toList))) := by
  have inner : (ofText "/work/api//shop/./src/app/shop/page.jsx".toList).components
        (some (ofText "/work/api/shop/".toList)) =
      ["src".toList, "app".toList, "shop".toList, "page.jsx".toList] := by decide
  have line : '\n' ∉ lastName ["src".toList, "app".toList, "shop".toList, "page.jsx".toList] := by
    decide
  have decided := (decided_by_components (ofText "/work/api//shop/./src/app/shop/page.jsx".toList)
    (some (ofText "/work/api/shop/".toList))).2.2.2
  rw [inner] at decided
  exact ⟨inner, line, decided line⟩

end Path

end OrphanFiles
