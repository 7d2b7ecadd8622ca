import OrphanFiles.Analysis
import OrphanFiles.Proofs.Index.Building
import OrphanFiles.Proofs.Verdict.Asset

/-! The stages of a scan where every file can be read. Indexing keeps all files, and
measuring keeps all verdicts without a reference, each in the order of its input. -/
namespace OrphanFiles.FileSystem

variable {fs : FileSystem} {bytes : Path → Bytes}

theorem size_of_read {path : Path} {content : Bytes} (read : fs.read path = .ok content) :
    fs.size path = .ok content.length := by
  rw [FileSystem.read] at read
  rw [FileSystem.size]
  split at read
  · rename_i found
    cases read
    rfl
  all_goals cases read

/-- The index of files that are in order already holds all of them. -/
theorem buildIndex_of_readable {paths : List Path} (order : InOrder Path.text paths)
    (readable : ∀ path ∈ paths, fs.read path = .ok (bytes path)) :
    ∃ index, fs.buildIndex paths = .done index ∧ index.ordered = paths ∧
      ∀ path content, index.content? path = some content ↔
        path ∈ paths ∧ contentOf (bytes path) = content := by
  have answers : fs.Answers paths := by
    intro path listed fault refused
    rw [readable path listed] at refused
    cases refused
  have kept : arranged paths = paths := by
    rw [arranged, eraseDups_eq_self order.nodup, sortedBy_eq_self order]
  have none_refused : fs.refusals paths = [] := by
    apply List.eq_nil_iff_forall_not_mem.mpr
    rintro ⟨path, fault⟩ member
    obtain ⟨listed, refused⟩ := mem_refusals.mp member
    rw [readable path listed] at refused
    cases refused
  refine ⟨.ofRecords (fs.records paths), ?_, ?_, ?_⟩
  · rw [buildIndex_eq answers, none_refused]
    rfl
  · rw [Index.ordered, paths_ofRecords_records, kept, List.filter_eq_self.mpr,
      sortedBy_eq_self order]
    intro path listed
    exact Option.isSome_iff_exists.mpr ⟨_, record?_eq_some.mpr ⟨_, readable path listed, rfl⟩⟩
  · intro path content
    rw [Index.content?_eq_some, records_ofRecords_records]
    constructor
    · rintro ⟨record, member, rfl, rfl⟩
      obtain ⟨listed, _, read, scanned⟩ := mem_records.mp member
      rw [readable _ listed] at read
      cases read
      exact ⟨listed, by rw [scanned]; rfl⟩
    · rintro ⟨listed, rfl⟩
      exact ⟨.scan path (contentOf (bytes path)),
        mem_records.mpr ⟨listed, _, readable path listed, rfl⟩, rfl, rfl⟩

/-- The entry of a file that nothing refers to. -/
def unusedEntry (bytes : Path → Bytes) (category : Path → Category) (path : Path) : UnusedFile :=
  ⟨path, (bytes path).length, (category path).label, some Finding.unreferenced.reason⟩

theorem appendOrphans_of_readable {category : Path → Category} {files : List UnusedFile}
    {verdicts : List Verdict}
    (readable : ∀ verdict ∈ verdicts, fs.read verdict.path = .ok (bytes verdict.path)) :
    fs.appendOrphans category files verdicts =
      .done (files ++ ((verdicts.filter fun verdict => !verdict.used).map Verdict.path).map
        (unusedEntry bytes category)) := by
  induction verdicts generalizing files with
  | nil => simp [appendOrphans]
  | cons verdict verdicts ih =>
    rw [List.forall_mem_cons] at readable
    rw [appendOrphans]
    cases used : verdict.used with
    | true => simp [used, ih readable.2]
    | false =>
      have finding : verdict.finding = .unreferenced := Finding.used_eq_false.mp used
      have added : fs.appendUnused files verdict.path (category verdict.path).label
          (some verdict.reason) = .done (files ++ [unusedEntry bytes category verdict.path]) := by
        rw [appendUnused, size_of_read readable.1, Verdict.reason, finding]
        rfl
      rw [if_neg (by decide), added, Outcome.done_andThen, ih readable.2]
      simp [used]

end OrphanFiles.FileSystem
