import OrphanFiles.FileSystem.Resolve
import OrphanFiles.Reading
import OrphanFiles.Report.Basic
import OrphanFiles.Verdict.Search
import OrphanFiles.Walk

/-! The scan of a project: source files below `src` are indexed and judged against
each other, assets below `public` are judged against the sources, and what nothing
refers to is measured and reported. -/
namespace OrphanFiles

namespace Project

def sourceDirectory : Path := Path.ofText "src".toList

def assetDirectory : Path := Path.ofText "public".toList

def isSource (path : Path) : Bool :=
  Convention.isSourceSuffix path.suffix

end Project

/-- What ends a scan whose path has no resolved form. -/
def Failure.ofUnresolved (path : Path) : FileSystem.Unresolved → Failure
  | .nullByte => .access path.text .nullByte
  | .linkCircle circle => .linkCircle circle

namespace FileSystem

/-- Adds a file and its present size to a list. A file that the system cannot measure
any more is reported and left out. -/
def appendUnused (fs : FileSystem) (files : List UnusedFile) (path : Path) (category : Text)
    (reason : Option Text) : Outcome (List UnusedFile) :=
  match fs.size path with
  | .ok size => .done (files ++ [⟨path, size, category, reason⟩])
  | .error fault =>
    if fault.isSystem then ⟨[.unmeasured path fault], .ok files⟩
    else .fail (.access path.text fault)

/-- Adds the files of the verdicts that found no reference. -/
def appendOrphans (fs : FileSystem) (category : Path → Category) :
    List UnusedFile → List Verdict → Outcome (List UnusedFile)
  | files, [] => .done files
  | files, verdict :: verdicts =>
    if verdict.used then appendOrphans fs category files verdicts
    else
      (fs.appendUnused files verdict.path (category verdict.path).label
        (some verdict.reason)).andThen fun files => appendOrphans fs category files verdicts

def list (fs : FileSystem) (path base : Path) : Outcome (List Path) :=
  match fs.listFiles path base with
  | .ok listing => ⟨listing.events, .ok listing.files⟩
  | .error fault => .fail (.access path.text fault)

/-- The unused files among sources and assets, judged and measured. -/
def orphans (fs : FileSystem) (root : Path) (index : Index) (assets : List Path) :
    Outcome (List UnusedFile) :=
  let verdicts := index.judgeAll (some root)
  (Outcome.report (verdicts.map .judged)).andThen fun _ =>
  (fs.appendOrphans (·.category (some root)) [] verdicts).andThen fun files =>
  fs.appendOrphans (fun _ => .media) files (index.judgeAssets assets)

/-- Scans the project at a path; `time` is recorded in the report. -/
def analyze (fs : FileSystem) (path : Path) (time : Text) : Outcome Report :=
  match fs.resolve path with
  | .error reason => .fail (.ofUnresolved path reason)
  | .ok root =>
    (fs.list (root.join Project.sourceDirectory) root).andThen fun listed =>
    let sources := listed.filter Project.isSource
    (fs.list (root.join Project.assetDirectory) root).andThen fun assets =>
    (Outcome.report [.scanning sources.length assets.length root]).andThen fun _ =>
    (fs.buildIndex sources).andThen fun index =>
    (fs.orphans root index assets).andThen fun unused =>
    .done {
      root := root.text
      generatedAt := time
      sourceFiles := sources.length
      publicFiles := assets.length
      unused := unused
      totalSize := totalSize unused
      byCategory := summarize unused }

end FileSystem
end OrphanFiles
