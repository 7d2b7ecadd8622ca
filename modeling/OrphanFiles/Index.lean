import OrphanFiles.Path.Basic
import OrphanFiles.Source.LazyLoad

/-! The content index: one record per path, in the order in which paths were first
added. Records hold the text as read and what the scans found in it. -/
namespace OrphanFiles

structure FileRecord where
  path : Path
  content : Text
  importTargets : List Text
  lazyLoad : Bool

namespace FileRecord

def scan (path : Path) (content : Text) : FileRecord :=
  ⟨path, content, Source.importTargets content, Source.hasLazyLoad content⟩

end FileRecord

structure Index where
  records : List FileRecord
  distinct : (records.map FileRecord.path).Nodup

namespace Index

def empty : Index := ⟨[], by simp⟩

def paths (index : Index) : List Path :=
  index.records.map FileRecord.path

def find? (index : Index) (path : Path) : Option FileRecord :=
  index.records.find? (·.path = path)

def content? (index : Index) (path : Path) : Option Text :=
  (index.find? path).map FileRecord.content

theorem find?_isSome {index : Index} {path : Path} :
    (index.find? path).isSome = true ↔ path ∈ index.paths := by
  simp [find?, paths, List.mem_map]

/-- The records with the one of the same path replaced. -/
def replace (records : List FileRecord) (record : FileRecord) : List FileRecord :=
  records.map fun old => if old.path = record.path then record else old

theorem map_path_replace (records : List FileRecord) (record : FileRecord) :
    (replace records record).map FileRecord.path = records.map FileRecord.path := by
  rw [replace, List.map_map]
  apply List.map_congr_left
  intro old _
  by_cases same : old.path = record.path <;> simp [same]

/-- A path that is already there keeps its place and takes the new record. -/
def insert (index : Index) (record : FileRecord) : Index :=
  if known : record.path ∈ index.paths then
    ⟨replace index.records record, by rw [map_path_replace]; exact index.distinct⟩
  else
    ⟨index.records ++ [record], by
      rw [List.map_append, List.nodup_append]
      refine ⟨index.distinct, by simp, ?_⟩
      intro old member new single same
      rw [List.map_singleton, List.mem_singleton] at single
      exact known (single ▸ same ▸ member)⟩

def ofRecords (records : List FileRecord) : Index :=
  records.foldl insert empty

/-- The order in which files are compared. -/
def ordered (index : Index) : List Path :=
  sortedBy Path.text index.paths

@[simp] theorem mem_ordered {index : Index} {path : Path} :
    path ∈ index.ordered ↔ path ∈ index.paths :=
  mem_sortedBy

end Index
end OrphanFiles
