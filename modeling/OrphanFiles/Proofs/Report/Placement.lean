import OrphanFiles.Proofs.Path.Anchored
import OrphanFiles.Report.Layout

/-! One report put under different directories. Totals and summaries are those of the
report itself, and so is the text, which names each file by its path from the root. -/
namespace OrphanFiles

def UnusedFile.placed (root : Path) (file : UnusedFile) : UnusedFile :=
  { file with path := root.join file.path }

def CategorySummary.placed (root : Path) (summary : CategorySummary) : CategorySummary :=
  { summary with files := summary.files.map (·.placed root) }

/-- A report on a project that stands at `root`, from one with paths read from the root. -/
def Report.placed (report : Report) (root : Path) (time : Text) : Report :=
  { report with
    root := root.text
    generatedAt := time
    unused := report.unused.map (·.placed root)
    byCategory := report.byCategory.map (·.placed root) }

theorem totalSize_placed (root : Path) (files : List UnusedFile) :
    totalSize (files.map (·.placed root)) = totalSize files := by
  rw [totalSize, List.foldr_map]
  rfl

theorem ofCategory_placed (root : Path) (label : Text) (files : List UnusedFile) :
    ofCategory label (files.map (·.placed root)) =
      (ofCategory label files).map (·.placed root) := by
  rw [ofCategory, List.filter_map]
  rfl

theorem summarize_placed (root : Path) (files : List UnusedFile) :
    summarize (files.map (·.placed root)) = (summarize files).map (·.placed root) := by
  have labels : categoriesOf (files.map (·.placed root)) = categoriesOf files := by
    rw [categoriesOf, List.map_map]
    rfl
  rw [summarize, summarize, labels, List.map_map]
  apply List.map_congr_left
  intro label _
  simp only [ofCategory_placed, totalSize_placed, List.length_map]
  rfl

/-- Whether all paths of a report are read from the root. -/
structure Report.Relative (report : Report) : Prop where
  root_eq : report.root = ['.']
  unused : ∀ file ∈ report.unused, file.path.anchor = .relative
  byCategory : ∀ summary ∈ report.byCategory, ∀ file ∈ summary.files, file.path.anchor = .relative

namespace Layout

variable (root : Path)

theorem row?_placed {file : UnusedFile} (relative : file.path.anchor = .relative) (branch : Text) :
    row? root branch (file.placed root) = row? (.ofText ['.']) branch file := by
  have here : file.path.below (some (.ofText ['.'])) = file.path := by
    obtain ⟨⟨anchor, names⟩, _⟩ := file
    subst relative
    rfl
  rw [row?, row?, UnusedFile.placed, Path.below_join relative, here]

theorem rows?_placed {files : List UnusedFile}
    (relative : ∀ file ∈ files, file.path.anchor = .relative) :
    rows? root (files.map (·.placed root)) = rows? (.ofText ['.']) files := by
  induction files with
  | nil => rfl
  | cons file files ih =>
    rw [List.forall_mem_cons] at relative
    have first := row?_placed root relative.1
    cases files with
    | nil => simp only [List.map_cons, List.map_nil, rows?, first]
    | cons next files =>
      have rest := ih relative.2
      simp only [List.map_cons] at rest ⊢
      simp only [rows?, first, rest]

theorem sections?_placed {summaries : List CategorySummary}
    (relative : ∀ summary ∈ summaries, ∀ file ∈ summary.files, file.path.anchor = .relative) :
    sections? root (summaries.map (·.placed root)) = sections? (.ofText ['.']) summaries := by
  induction summaries with
  | nil => rfl
  | cons summary summaries ih =>
    rw [List.forall_mem_cons] at relative
    have first : section? root (summary.placed root) = section? (.ofText ['.']) summary := by
      rw [section?, section?, CategorySummary.placed, rows?_placed root relative.1]
      rfl
    rw [List.map_cons, sections?, sections?, first, ih relative.2]

end Layout

namespace Report

open Layout

theorem layout?_placed {report : Report} (relative : report.Relative) (root : Path) (time : Text) :
    (report.placed root time).layout? = report.layout? := by
  have sections := sections?_placed root relative.byCategory
  have none : (report.placed root time).unused = [] ↔ report.unused = [] := List.map_eq_nil_iff
  simp only [layout?, none]
  split
  · rfl
  · simp only [placed, Path.ofText_text, sections, relative.root_eq, overview, List.length_map]
    rfl

/-- Where a project stands makes no difference to the text of its report. -/
theorem render?_placed {report : Report} (relative : report.Relative) (root : Path) (time : Text)
    (color : Bool) : (report.placed root time).render? color = report.render? color := by
  rw [render?, render?, layout?_placed relative]

end Report
end OrphanFiles
