import OrphanFiles.Proofs.FileSystem.Answer
import OrphanFiles.Proofs.Index.Contents
import OrphanFiles.Reading

/-! Reading listed files, each of them once and in order. Which of them are recorded and which
are reported is settled path by path, so the loop over them comes down to two filters. -/
namespace OrphanFiles

namespace FileSystem

/-- The record of a file that can be read. -/
def record? (fs : FileSystem) (path : Path) : Option FileRecord :=
  (fs.readRecord path).toOption

/-- The fault that keeps a file from being read. -/
def refusal? (fs : FileSystem) (path : Path) : Option (Path × Fault) :=
  match fs.read path with
  | .ok _ => none
  | .error fault => some (path, fault)

/-- The report of a file that cannot be read. -/
def refusalEvent (refusal : Path × Fault) : Event :=
  .unreadable refusal.1 refusal.2

variable {fs : FileSystem} {path : Path} {paths : List Path}

theorem readRecord_of_read {bytes : Bytes} (read : fs.read path = .ok bytes) :
    fs.readRecord path = .ok (FileRecord.scan path (contentOf bytes)) := by
  rw [readRecord, read]
  rfl

theorem readRecord_of_refused {fault : Fault} (refused : fs.read path = .error fault) :
    fs.readRecord path = .error fault := by
  rw [readRecord, refused]
  rfl

theorem record?_eq_some {record : FileRecord} :
    fs.record? path = some record ↔
      ∃ bytes, fs.read path = .ok bytes ∧ record = FileRecord.scan path (contentOf bytes) := by
  rw [record?]
  cases read : fs.read path with
  | ok bytes => simp [readRecord_of_read read, Except.toOption, eq_comm]
  | error fault => simp [readRecord_of_refused read, Except.toOption]

theorem refusal?_eq_some {refusal : Path × Fault} :
    fs.refusal? path = some refusal ↔ refusal.1 = path ∧ fs.read path = .error refusal.2 := by
  obtain ⟨other, fault⟩ := refusal
  rw [refusal?]
  cases fs.read path <;> simp [eq_comm]

/-- Whether it is the system that refuses what cannot be read. -/
def Answers (fs : FileSystem) (paths : List Path) : Prop :=
  ∀ path ∈ paths, ∀ fault, fs.read path = .error fault → fault.isSystem = true

theorem answers_of_whole (whole : ∀ path ∈ paths, '\x00' ∉ path.text) : fs.Answers paths :=
  fun path member _ refused => fs.isSystem_of_read (whole path member) refused

theorem answers_of_readRecords {records : List FileRecord}
    (completed : (fs.readRecords paths).result = .ok records) : fs.Answers paths := by
  induction paths generalizing records with
  | nil => exact fun _ member => (List.not_mem_nil member).elim
  | cons path paths ih =>
    rw [readRecords] at completed
    cases read : fs.read path with
    | ok bytes =>
      rw [readRecord_of_read read] at completed
      obtain ⟨_, later, _⟩ := Outcome.result_andThen_eq_ok.mp completed
      exact List.forall_mem_cons.mpr ⟨by simp [read], ih later⟩
    | error fault =>
      -- Only a fault that is not the system's ends the loop, and it leaves no result.
      rw [readRecord_of_refused read] at completed
      by_cases system : fault.isSystem = true
      · simp only [if_pos system] at completed
        obtain ⟨_, _, later⟩ := Outcome.result_andThen_eq_ok.mp completed
        refine List.forall_mem_cons.mpr ⟨fun fault' refused => ?_, ih later⟩
        rw [read] at refused
        cases refused
        exact system
      · simp only [if_neg system] at completed
        cases completed

/-- Each file is either recorded or reported, whatever becomes of the others. -/
theorem readRecords_eq (answers : fs.Answers paths) :
    fs.readRecords paths =
      ⟨(paths.filterMap fs.refusal?).map refusalEvent, .ok (paths.filterMap fs.record?)⟩ := by
  induction paths with
  | nil => rfl
  | cons path paths ih =>
    obtain ⟨answer, later⟩ := List.forall_mem_cons.mp answers
    rw [readRecords, ih later]
    cases read : fs.read path with
    | ok bytes =>
      have recorded : fs.record? path = some (FileRecord.scan path (contentOf bytes)) :=
        record?_eq_some.mpr ⟨bytes, read, rfl⟩
      have accepted : fs.refusal? path = none := by rw [refusal?, read]
      rw [readRecord_of_read read, List.filterMap_cons_some recorded,
        List.filterMap_cons_none accepted]
      simp [Outcome.andThen, Outcome.done]
    | error fault =>
      have unrecorded : fs.record? path = none := by
        rw [record?, readRecord_of_refused read]
        rfl
      have refused : fs.refusal? path = some (path, fault) := by rw [refusal?, read]
      rw [readRecord_of_refused read, List.filterMap_cons_none unrecorded,
        List.filterMap_cons_some refused]
      simp only [answer fault read, if_true]
      rfl

/-- The order in which listed files are read, each of them once. -/
def arranged (paths : List Path) : List Path :=
  sortedBy Path.text paths.eraseDups

theorem mem_arranged : path ∈ arranged paths ↔ path ∈ paths := by
  rw [arranged, mem_sortedBy, List.mem_eraseDups]

theorem arranged_inOrder (paths : List Path) : InOrder Path.text (arranged paths) :=
  sortedBy_inOrder (nodup_eraseDups paths) fun _ _ _ _ => Path.text_injective

theorem arranged_congr {others : List Path} (same : ∀ path, path ∈ others ↔ path ∈ paths) :
    arranged others = arranged paths := by
  apply (arranged_inOrder others).eq_of_mem_iff (arranged_inOrder paths)
  intro path
  rw [mem_arranged, mem_arranged, same]

/-- The records of the listed files that can be read. -/
def records (fs : FileSystem) (paths : List Path) : List FileRecord :=
  (arranged paths).filterMap fs.record?

theorem mem_records {record : FileRecord} :
    record ∈ fs.records paths ↔ record.path ∈ paths ∧ ∃ bytes, fs.read record.path = .ok bytes ∧
      record = FileRecord.scan record.path (contentOf bytes) := by
  simp only [records, List.mem_filterMap, mem_arranged, record?_eq_some]
  constructor
  · rintro ⟨path, listed, bytes, read, rfl⟩
    exact ⟨listed, bytes, read, rfl⟩
  · rintro ⟨listed, bytes, read, same⟩
    exact ⟨record.path, listed, bytes, read, same⟩

theorem records_inOrder (fs : FileSystem) (paths : List Path) :
    InOrder (fun record => record.path.text) (fs.records paths) := by
  apply (arranged_inOrder paths).filterMap
  intro path record found
  obtain ⟨_, _, rfl⟩ := record?_eq_some.mp found
  rfl

/-- Lists of which the same files can be read come to the same records. -/
theorem records_congr {fs' : FileSystem} {others : List Path}
    (same : ∀ path bytes, path ∈ others ∧ fs'.read path = .ok bytes ↔
      path ∈ paths ∧ fs.read path = .ok bytes) : fs'.records others = fs.records paths := by
  apply (fs'.records_inOrder others).eq_of_mem_iff (fs.records_inOrder paths)
  intro record
  rw [mem_records, mem_records]
  constructor
  · rintro ⟨listed, bytes, read, scanned⟩
    obtain ⟨listed', read'⟩ := (same _ _).mp ⟨listed, read⟩
    exact ⟨listed', bytes, read', scanned⟩
  · rintro ⟨listed, bytes, read, scanned⟩
    obtain ⟨listed', read'⟩ := (same _ _).mpr ⟨listed, read⟩
    exact ⟨listed', bytes, read', scanned⟩

theorem map_path_records (fs : FileSystem) (paths : List Path) :
    (fs.records paths).map FileRecord.path =
      (arranged paths).filter fun path => (fs.record? path).isSome := by
  have kept : (fun path => (fs.record? path).map FileRecord.path) =
      Option.guard fun path => (fs.record? path).isSome := by
    funext path
    cases found : fs.record? path with
    | none => simp [Option.guard, found]
    | some record =>
      obtain ⟨_, _, rfl⟩ := record?_eq_some.mp found
      simp [Option.guard, found, FileRecord.scan]
  rw [records, List.map_filterMap, kept, List.filterMap_eq_filter]

/-- The refusals of the listed files that cannot be read. -/
def refusals (fs : FileSystem) (paths : List Path) : List (Path × Fault) :=
  (arranged paths).filterMap fs.refusal?

theorem mem_refusals {fault : Fault} :
    (path, fault) ∈ fs.refusals paths ↔ path ∈ paths ∧ fs.read path = .error fault := by
  simp only [refusals, List.mem_filterMap, mem_arranged, refusal?_eq_some]
  constructor
  · rintro ⟨other, listed, rfl, refused⟩
    exact ⟨listed, refused⟩
  · rintro ⟨listed, refused⟩
    exact ⟨path, listed, rfl, refused⟩

theorem refusals_inOrder (fs : FileSystem) (paths : List Path) :
    InOrder (fun refusal => refusal.1.text) (fs.refusals paths) := by
  apply (arranged_inOrder paths).filterMap
  intro path refusal found
  rw [(refusal?_eq_some.mp found).1]

theorem buildIndex_eq (answers : fs.Answers paths) :
    fs.buildIndex paths =
      ⟨(fs.refusals paths).map refusalEvent, .ok (.ofRecords (fs.records paths))⟩ := by
  have read : fs.readRecords (arranged paths) = _ :=
    readRecords_eq fun path member => answers path (mem_arranged.mp member)
  rw [arranged] at read
  rw [buildIndex, read]
  simp [Outcome.andThen, Outcome.done, refusals, records, arranged]

theorem buildIndex_eq_ok {index : Index} (built : (fs.buildIndex paths).result = .ok index) :
    index = .ofRecords (fs.records paths) := by
  obtain ⟨_, completed, _⟩ := Outcome.result_andThen_eq_ok.mp built
  have answers : fs.Answers paths := fun path listed =>
    answers_of_readRecords completed path (mem_arranged.mpr listed)
  rw [buildIndex_eq answers] at built
  cases built
  rfl

theorem buildIndex_congr {others : List Path} (same : ∀ path, path ∈ others ↔ path ∈ paths) :
    fs.buildIndex others = fs.buildIndex paths := by
  have order := arranged_congr same
  rw [arranged, arranged] at order
  rw [buildIndex, buildIndex, order]

theorem records_ofRecords_records (fs : FileSystem) (paths : List Path) :
    (Index.ofRecords (fs.records paths)).records = fs.records paths := by
  apply Index.records_ofRecords
  rw [map_path_records]
  exact ((arranged_inOrder paths).filter _).nodup

theorem paths_ofRecords_records (fs : FileSystem) (paths : List Path) :
    (Index.ofRecords (fs.records paths)).paths =
      (arranged paths).filter fun path => (fs.record? path).isSome := by
  rw [Index.paths, records_ofRecords_records, map_path_records]

theorem find?_ofRecords_records {bytes : Bytes} (listed : path ∈ paths)
    (read : fs.read path = .ok bytes) : (Index.ofRecords (fs.records paths)).find? path =
      some (FileRecord.scan path (contentOf bytes)) := by
  have member : FileRecord.scan path (contentOf bytes) ∈
      (Index.ofRecords (fs.records paths)).records := by
    rw [records_ofRecords_records]
    exact mem_records.mpr ⟨listed, bytes, read, rfl⟩
  exact Index.find?_of_mem member

theorem content?_of_buildIndex {index : Index} {bytes : Bytes}
    (built : (fs.buildIndex paths).result = .ok index) (listed : path ∈ paths)
    (read : fs.read path = .ok bytes) : index.content? path = some (contentOf bytes) := by
  rw [buildIndex_eq_ok built, Index.content?, find?_ofRecords_records listed read]
  rfl

end FileSystem
end OrphanFiles
