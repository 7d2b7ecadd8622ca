import OrphanFiles.Proofs.Analysis.Coherence
import OrphanFiles.Proofs.Path.Classification
import OrphanFiles.Proofs.Verdict.Growth

/-! Pages and routes of the framework, as the category and as the entry points see them. All
routes are entry points. A page is one if it lies directly in a directory of the application
or has the one page name that is known everywhere. Other pages further down have the category
of a page and are still judged by the references to them. -/
namespace OrphanFiles

theorem Category.ofName_ne_page (name : Text) : Category.ofName name ≠ .page := by
  unfold Category.ofName
  repeat' split
  all_goals simp

namespace Path

variable {p : Path} {base? : Option Path}

theorem applies_of_category_eq_page (page : p.category base? = .page) :
    p.isApiRoute base? = false ∧ Category.Applies (p.components base?) .page := by
  rw [category] at page
  split at page
  · cases page
  rename_i other
  rw [Bool.not_eq_true] at other
  split at page
  · rename_i found
    exact ⟨other, isPage_iff.mp found⟩
  · exact absurd page (Category.ofName_ne_page _)

/-- The one name of a page among the names that are entry points anywhere. -/
theorem eq_of_mem_entryPoints {name : Text} (known : name ∈ Convention.entryPoints)
    (page : "page.".toList <+: name) : name = "page.tsx".toList := by
  have only : ∀ name ∈ Convention.entryPoints, "page.".toList.isPrefixOf name = true →
      name = "page.tsx".toList := by decide
  exact only name known (List.isPrefixOf_iff_prefix.mpr page)

theorem isEntryPoint_of_api (api : p.category base? = .api) : p.isEntryPoint base? = true := by
  cases entry : p.isEntryPoint base? with
  | true => rfl
  | false => exact absurd api (category_ne_api entry)

theorem isEntryPoint_of_page_iff (page : p.category base? = .page) :
    p.isEntryPoint base? = true ↔
      lastName (p.components base?) = "page.tsx".toList ∨
        (p.components base?).dropLast.getLast? = some "app".toList := by
  obtain ⟨other, _, named⟩ := applies_of_category_eq_page page
  rw [← Bool.not_eq_true, isApiRoute_iff] at other
  rw [isEntryPoint_iff]
  constructor
  · rintro (api | known | ⟨above, _⟩)
    · exact absurd api other
    · exact Or.inl (eq_of_mem_entryPoints known named)
    · exact Or.inr above
  · rintro (known | above)
    · refine Or.inr (Or.inl ?_)
      rw [known]
      decide
    · exact Or.inr (Or.inr ⟨above, named⟩)

/-- A page below a directory of the application, though not directly in it. -/
def shopPage : Path := ofText "/repo/src/app/shop/page.jsx".toList

/-- Such a page is no entry point unless its name is a known one, and it is not used as long
as nothing refers to it. -/
theorem shopPage_not_spared :
    shopPage.category none = .page ∧ shopPage.isEntryPoint none = false ∧
      ((Index.ofFile shopPage []).judge shopPage none).used = false := by
  decide +kernel

end Path

namespace FileSystem

theorem orphans_of_analyze {fs : FileSystem} {path : Path} {time : Text} {report : Report}
    (reported : (fs.analyze path time).result = .ok report) :
    ∃ root index assets, fs.resolve path = .ok root ∧
      (fs.orphans root index assets).result = .ok report.unused := by
  obtain ⟨root, _, assets, index, resolved, _, _, _, judged⟩ := stages_of_analyze reported
  exact ⟨root, index, assets, resolved, judged⟩

/-- What is reported has the category of its path and is no entry point, or it is an asset. -/
theorem category_of_mem_unused {fs : FileSystem} {path : Path} {time : Text} {report : Report}
    (reported : (fs.analyze path time).result = .ok report) :
    ∃ root, fs.resolve path = .ok root ∧ ∀ file ∈ report.unused,
      (file.category = (file.path.category (some root)).label ∧
        file.path.isEntryPoint (some root) = false) ∨
      file.category = Category.media.label := by
  obtain ⟨root, index, assets, resolved, judged⟩ := orphans_of_analyze reported
  obtain ⟨sources, media, same, _, _, entry, entry'⟩ := orphans_eq_ok judged
  refine ⟨root, resolved, fun file member => ?_⟩
  rw [same] at member
  rcases List.mem_append.mp member with source | asset
  · exact Or.inl ⟨(entry file source).1.1, (entry file source).2⟩
  · exact Or.inr (entry' file asset).1

end FileSystem

/-- Routes, and pages that lie directly in a directory of the application or have the known
page name, are used whatever the index holds. So no route is reported, and a page is only
reported if it lies further down under another name. -/
theorem framework_files_spared :
    (∀ (p : Path) (base? : Option Path),
      (p.category base? = .api → p.isEntryPoint base? = true) ∧
      (p.category base? = .page →
        (p.isEntryPoint base? = true ↔
          Path.lastName (p.components base?) = "page.tsx".toList ∨
            (p.components base?).dropLast.getLast? = some "app".toList)) ∧
      (p.isEntryPoint base? = true → ∀ index : Index, (index.judge p base?).used = true)) ∧
    ∀ (fs : FileSystem) (path : Path) (time : Text) (report : Report),
      (fs.analyze path time).result = .ok report →
        ∃ root, fs.resolve path = .ok root ∧ ∀ file ∈ report.unused,
          file.category ≠ Category.api.label ∧
          (file.category = Category.page.label →
            file.path.category (some root) = .page ∧
            Path.lastName (file.path.components (some root)) ≠ "page.tsx".toList ∧
            (file.path.components (some root)).dropLast.getLast? ≠ some "app".toList) := by
  refine ⟨fun p base? => ⟨Path.isEntryPoint_of_api, Path.isEntryPoint_of_page_iff, ?_⟩, ?_⟩
  · intro entry index
    exact Index.judge_used.mpr (Or.inl entry)
  · intro fs path time report reported
    obtain ⟨root, resolved, entries⟩ := FileSystem.category_of_mem_unused reported
    refine ⟨root, resolved, fun file member => ?_⟩
    rcases entries file member with ⟨labelled, ordinary⟩ | medium
    · rw [labelled]
      refine ⟨fun api => Path.category_ne_api ordinary (Category.label_injective api), ?_⟩
      intro same
      have page := Category.label_injective same
      have apart := Path.isEntryPoint_of_page_iff page
      rw [ordinary, Bool.false_eq_true, false_iff, not_or] at apart
      exact ⟨page, apart⟩
    · rw [medium]
      exact ⟨by decide, fun page => absurd page (by decide)⟩

/-- A page of the known name is used however far down it lies. -/
theorem framework_files_spared_nested :
    (Path.ofText "/repo/src/app/shop/page.tsx".toList).category none = .page ∧
      ∀ index : Index, (index.judge (.ofText "/repo/src/app/shop/page.tsx".toList) none).used =
        true := by
  have page : (Path.ofText "/repo/src/app/shop/page.tsx".toList).category none = .page := by decide
  have ⟨_, named, spared⟩ :=
    framework_files_spared.1 (.ofText "/repo/src/app/shop/page.tsx".toList) none
  exact ⟨page, spared ((named page).mpr (Or.inl (by decide)))⟩

end OrphanFiles
