import OrphanFiles.Proofs.Json.Characters
import OrphanFiles.Proofs.Path.Spelling
import OrphanFiles.Report.Document

/-! Getting a report back from its document. An object stands for a record if it has the
fields of the record and no others, each of the right kind; a path is read from its text.
The document of a report stands for that report and for no other. -/
namespace OrphanFiles

/-- The values of an object that has exactly the given fields, in the order of the names. -/
def Json.record? (names : List Text) : Json → Option (List Json)
  | .object fields =>
    if (fields.map Prod.fst).Perm names then names.mapM fun name => fields.lookup name else none
  | _ => none

def reasonOfJson? : Json → Option (Option Text)
  | .null => some none
  | .text reason => some (some reason)
  | _ => none

def UnusedFile.ofJson? (json : Json) : Option UnusedFile :=
  match json.record? ["path".toList, "reason".toList, "size".toList, "type".toList] with
  | some [.text path, reason, .number size, .text category] =>
    (reasonOfJson? reason).map fun reason => ⟨Path.ofText path, size, category, reason⟩
  | _ => none

def CategorySummary.ofJson? (json : Json) : Option CategorySummary :=
  match json.record? ["category".toList, "count".toList, "files".toList, "size".toList] with
  | some [.text category, .number count, .list files, .number size] =>
    (files.mapM UnusedFile.ofJson?).map fun files => ⟨category, count, size, files⟩
  | _ => none

def Report.ofJson? (json : Json) : Option Report :=
  match json.record? ["root".toList, "generated_at".toList, "source_files".toList,
    "public_files".toList, "unused_files".toList, "total_size".toList, "by_category".toList] with
  | some [.text root, .text time, .number sources, .number assets, .list unused, .number total,
      .list groups] =>
    (unused.mapM UnusedFile.ofJson?).bind fun unused =>
    (groups.mapM CategorySummary.ofJson?).map fun groups =>
      ⟨root, time, sources, assets, unused, total, groups⟩
  | _ => none

theorem mapM_map_of_inverse {print : α → β} {read? : β → Option α}
    (inverse : ∀ a, read? (print a) = some a) (members : List α) :
    (members.map print).mapM read? = some members := by
  induction members with
  | nil => rfl
  | cons a members ih => simp [inverse, ih]

theorem reasonOfJson?_reasonJson (reason : Option Text) :
    reasonOfJson? (reasonJson reason) = some reason := by
  cases reason <;> rfl

theorem UnusedFile.ofJson?_toJson (file : UnusedFile) : ofJson? file.toJson = some file := by
  have fields : file.toJson.record? ["path".toList, "reason".toList, "size".toList,
      "type".toList] = some [.text file.path.text, reasonJson file.reason, .number file.size,
        .text file.category] := by
    rw [toJson, Json.record?, if_pos (by simp only [List.map_cons, List.map_nil]; decide)]
    rfl
  simp only [ofJson?, fields, reasonOfJson?_reasonJson, Option.map_some, Path.ofText_text]

theorem CategorySummary.ofJson?_toJson (summary : CategorySummary) :
    ofJson? summary.toJson = some summary := by
  have fields : summary.toJson.record? ["category".toList, "count".toList, "files".toList,
      "size".toList] = some [.text summary.category, .number summary.count,
        .list (summary.files.map UnusedFile.toJson), .number summary.size] := by
    rw [toJson, Json.record?, if_pos (by simp only [List.map_cons, List.map_nil]; decide)]
    rfl
  simp only [ofJson?, fields, mapM_map_of_inverse UnusedFile.ofJson?_toJson, Option.map_some]

theorem Report.ofJson?_toJson (report : Report) : ofJson? report.toJson = some report := by
  have fields : report.toJson.record? ["root".toList, "generated_at".toList,
      "source_files".toList, "public_files".toList, "unused_files".toList, "total_size".toList,
      "by_category".toList] = some [.text report.root, .text report.generatedAt,
        .number report.sourceFiles, .number report.publicFiles,
        .list (report.unused.map UnusedFile.toJson), .number report.totalSize,
        .list (report.byCategory.map CategorySummary.toJson)] := by
    rw [toJson, Json.record?, if_pos (by simp only [List.map_cons, List.map_nil]; decide)]
    rfl
  simp only [ofJson?, fields, mapM_map_of_inverse UnusedFile.ofJson?_toJson,
    mapM_map_of_inverse CategorySummary.ofJson?_toJson, Option.bind_some, Option.map_some]

/-- The document of a report is ASCII, its bytes are read as the text that was written, the
text is read as the object of the report, and the object gives the report back. So reports
with one document are one report. -/
theorem Report.document_restores (report : Report) :
    report.document.IsAscii ∧ Utf8.decode (Utf8.encode report.document) = report.document ∧
      Json.read? report.document = some report.toJson ∧ ofJson? report.toJson = some report ∧
      ∀ other : Report, other.document = report.document → other = report := by
  have ascii : report.document.IsAscii := Json.isAscii_document report.toJson
  have read (any : Report) : Json.read? any.document = some any.toJson :=
    Json.read?_document any.toJson
  refine ⟨ascii, Utf8.decode_encode _, read report, ofJson?_toJson report, ?_⟩
  intro other same
  have objects : other.toJson = report.toJson := by
    have both := read other
    rw [same, read report] at both
    exact (Option.some.inj both).symm
  have restored := ofJson?_toJson other
  rw [objects, ofJson?_toJson report] at restored
  exact (Option.some.inj restored).symm

end OrphanFiles
