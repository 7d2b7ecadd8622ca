import OrphanFiles.Json.Basic
import OrphanFiles.Report.Basic

/-! The report as a JSON document. Fields stand in the order of their names, and a
path is its canonical spelling. -/
namespace OrphanFiles

def reasonJson : Option Text → Json
  | none => .null
  | some reason => .text reason

def UnusedFile.toJson (file : UnusedFile) : Json :=
  .object [
    ("path".toList, .text file.path.text),
    ("reason".toList, reasonJson file.reason),
    ("size".toList, .number file.size),
    ("type".toList, .text file.category)]

def CategorySummary.toJson (summary : CategorySummary) : Json :=
  .object [
    ("category".toList, .text summary.category),
    ("count".toList, .number summary.count),
    ("files".toList, .list (summary.files.map UnusedFile.toJson)),
    ("size".toList, .number summary.size)]

namespace Report

def toJson (report : Report) : Json :=
  .object [
    ("by_category".toList, .list (report.byCategory.map CategorySummary.toJson)),
    ("generated_at".toList, .text report.generatedAt),
    ("public_files".toList, .number report.publicFiles),
    ("root".toList, .text report.root),
    ("source_files".toList, .number report.sourceFiles),
    ("total_size".toList, .number report.totalSize),
    ("unused_files".toList, .list (report.unused.map UnusedFile.toJson))]

def document (report : Report) : Text :=
  report.toJson.document

end Report
end OrphanFiles
