import OrphanFiles.Category

/-! The report of a scan: the files that nothing refers to, their sizes, and a
summary of each category. A report is a plain record. It may be put together by
hand with totals that do not agree; a scan always makes them agree. -/
namespace OrphanFiles

/-- A file with no reference to it. The category is kept by its label. -/
structure UnusedFile where
  path : Path
  size : Int
  category : Text
  reason : Option Text
deriving DecidableEq

structure CategorySummary where
  category : Text
  count : Int
  size : Int
  files : List UnusedFile

structure Report where
  root : Text
  generatedAt : Text
  sourceFiles : Int
  publicFiles : Int
  unused : List UnusedFile
  totalSize : Int
  byCategory : List CategorySummary

def totalSize (files : List UnusedFile) : Int :=
  files.foldr (fun file total => file.size + total) 0

/-- The labels in use, in the order in which they first appear. -/
def categoriesOf (files : List UnusedFile) : List Text :=
  (files.map UnusedFile.category).eraseDups

def ofCategory (label : Text) (files : List UnusedFile) : List UnusedFile :=
  files.filter (·.category = label)

def summarize (files : List UnusedFile) : List CategorySummary :=
  (categoriesOf files).map fun label =>
    let members := ofCategory label files
    ⟨label, members.length, totalSize members, members⟩

@[simp] theorem map_category_summarize (files : List UnusedFile) :
    (summarize files).map CategorySummary.category = categoriesOf files := by
  simp [summarize, Function.comp_def]

theorem files_ne_nil_of_mem_summarize {files : List UnusedFile} {summary : CategorySummary}
    (member : summary ∈ summarize files) : summary.files ≠ [] := by
  simp only [summarize, List.mem_map] at member
  obtain ⟨label, known, rfl⟩ := member
  simp only [categoriesOf, List.mem_eraseDups, List.mem_map] at known
  obtain ⟨file, inside, rfl⟩ := known
  exact List.ne_nil_of_mem (List.mem_filter.mpr ⟨inside, by simp⟩)

end OrphanFiles
