import OrphanFiles.ByteSize
import OrphanFiles.Report.Basic
import OrphanFiles.Report.Style
import OrphanFiles.Unicode.Uppercase

/-! The readable form of a report: a banner, the counts, one boxed section for each
category with a row for each file, and closing notes. A report without unused
files ends after the counts. There is no form if some size is out of bounds. -/
namespace OrphanFiles

namespace Layout

def width : Nat := 80

def blank : Line := []

def line (style : Style) (text : String) : Line := [⟨style, text.toList⟩]

def middleBranch : Text := "├─".toList

def lastBranch : Text := "└─".toList

def ruled (left : Char) (fill : Char) (right : Char) : Text :=
  left :: List.replicate (width - 2) fill ++ [right]

def banner : List Line := [
  blank,
  [⟨.blue, List.replicate width '━'⟩],
  line .blue "   ╭─────────────────────────────────────────────────────╮",
  line .blue "   │             Next.js Unused Files Finder             │",
  line .blue "   ╰─────────────────────────────────────────────────────╯"]

def notes : List Line := [
  blank,
  line .yellow "⚠️  Important Notes:",
  line .gray "├─ Please verify files manually before deleting",
  line .gray "├─ Some files might be used through dynamic imports",
  line .gray "├─ API routes might be called from external sources",
  line .gray "└─ Files might be used in ways not detected by this scan",
  blank]

/-- An item of a short list, hung on a branch. -/
def item (branch text : Text) : Line :=
  [⟨.blue, branch⟩, ⟨.white, ' ' :: text⟩]

def padRight (size : Nat) (text : Text) : Text :=
  text ++ List.replicate (size - text.length) ' '

def icon : Category → Text
  | .media => "🖼 ".toList
  | .component => "⚛️ ".toList
  | .util => "🛠 ".toList
  | .typing => "📝".toList
  | .hook => "🎣".toList
  | .context => "🔄".toList
  | .style => "🎨".toList
  | .api => "🔌".toList
  | .page => "📄".toList

/-- The icon of a label; a label that names no category gets a folder. -/
def iconOf (label : Text) : Text :=
  ((Category.ofLabel? label).map icon).getD "📁".toList

def title (summary : CategorySummary) : Text :=
  iconOf summary.category ++ ' ' :: Unicode.upper summary.category ++
    " (".toList ++ Text.ofInt summary.count ++ " files)".toList

def box (title : Text) : List Line := [
  blank,
  [⟨.blue, ruled '┌' '─' '┐'⟩],
  [⟨.blue, ['│']⟩, ⟨.bold, padRight (width - 3) (' ' :: title)⟩, ⟨.blue, " │".toList⟩],
  [⟨.blue, ruled '└' '─' '┘'⟩],
  blank]

def row? (root : Path) (branch : Text) (file : UnusedFile) : Option Line := do
  let size ← ByteSize.format? file.size
  return [⟨.blue, branch⟩, ⟨.yellow, ' ' :: (file.path.below root).text⟩,
    ⟨.gray, " (".toList ++ size ++ [')']⟩]

/-- One row for each file; the last one hangs on the closing branch. -/
def rows? (root : Path) : List UnusedFile → Option (List Line)
  | [] => some []
  | [file] => do return [← row? root lastBranch file]
  | file :: next :: files => do
    let row ← row? root middleBranch file
    let rows ← rows? root (next :: files)
    return row :: rows

def section? (root : Path) (summary : CategorySummary) : Option (List Line) := do
  let size ← ByteSize.format? summary.size
  let rows ← rows? root summary.files
  return box (title summary) ++ [⟨.gray, "Total size: ".toList ++ size⟩] :: rows

def sections? (root : Path) : List CategorySummary → Option (List Line)
  | [] => some []
  | summary :: summaries => do
    let lines ← section? root summary
    let rest ← sections? root summaries
    return lines ++ rest

def counts (report : Report) : List Line := [
  blank,
  line .gray "Found:",
  item middleBranch (Text.ofInt report.sourceFiles ++ " source files".toList),
  item lastBranch (Text.ofInt report.publicFiles ++ " public files".toList)]

def overview (report : Report) (savings : Text) : List Line := [
  blank,
  line .blue "📊 Summary:",
  item middleBranch ("Unused files found: ".toList ++ Text.ofInt report.unused.length),
  item middleBranch ("Types of unused files: ".toList ++ Text.ofInt report.byCategory.length),
  item lastBranch ("Potential savings: ".toList ++ savings)]

end Layout

namespace Report

open Layout

def layout? (report : Report) : Option (List Line) :=
  if report.unused = [] then
    some (banner ++ counts report ++ [blank, line .green "✨ No unused files found!", blank])
  else do
    let savings ← ByteSize.format? report.totalSize
    let sections ← sections? (Path.ofText report.root) report.byCategory
    return banner ++ counts report ++ overview report savings ++ sections ++ notes

def render? (report : Report) (color : Bool) : Option Text :=
  report.layout?.map (writeLines color)

end Report
end OrphanFiles
