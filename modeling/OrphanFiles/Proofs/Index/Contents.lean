import OrphanFiles.Proofs.Path.Spelling
import OrphanFiles.Proofs.Text.Arrangement
import OrphanFiles.Verdict.Search

/-! An index as a map from paths to texts. No two records share a path, so a record is
found by its path, and the order of comparison is settled by the paths alone. -/
namespace OrphanFiles.Index

theorem find?_of_mem {index : Index} {record : FileRecord} (member : record ∈ index.records) :
    index.find? record.path = some record := by
  obtain ⟨before, after, split⟩ := List.append_of_mem member
  have distinct := index.distinct
  rw [split, List.map_append, List.nodup_append] at distinct
  rw [find?, split, List.find?_append]
  have earlier : before.find? (·.path = record.path) = none := by
    apply List.find?_eq_none.mpr
    intro other inside same
    have apart := distinct.2.2 other.path (List.mem_map_of_mem inside) record.path
      (List.mem_map_of_mem List.mem_cons_self)
    exact apart (of_decide_eq_true same)
  simp [earlier]

theorem content?_of_mem {index : Index} {record : FileRecord} (member : record ∈ index.records) :
    index.content? record.path = some record.content := by
  rw [content?, find?_of_mem member, Option.map_some]

theorem content?_eq_some {index : Index} {path : Path} {content : Text} :
    index.content? path = some content ↔
      ∃ record ∈ index.records, record.path = path ∧ record.content = content := by
  constructor
  · intro found
    obtain ⟨record, known, same⟩ := Option.map_eq_some_iff.mp found
    have here := List.find?_some known
    exact ⟨record, List.mem_of_find?_eq_some known, of_decide_eq_true here, same⟩
  · intro ⟨record, member, same_path, same⟩
    rw [← same_path, ← same]
    exact content?_of_mem member

theorem ordered_inOrder (index : Index) : InOrder Path.text index.ordered :=
  sortedBy_inOrder index.distinct fun _ _ _ _ => Path.text_injective

@[simp] theorem mem_orderedRecords {index : Index} {record : FileRecord} :
    record ∈ index.orderedRecords ↔ record ∈ index.records :=
  mem_sortedBy

theorem orderedRecords_sorted (index : Index) :
    index.orderedRecords.Pairwise fun a b => a.path.text.precedes b.path.text = true :=
  sortedBy_pairwise _ _

/-- The paths and texts of an index in the order of comparison. -/
def entries (index : Index) : List (Path × Text) :=
  index.orderedRecords.map fun record => (record.path, record.content)

theorem mem_entries {index : Index} {path : Path} {content : Text} :
    (path, content) ∈ index.entries ↔ index.content? path = some content := by
  simp [entries, content?_eq_some]

theorem entries_inOrder (index : Index) : InOrder (fun entry => entry.1.text) index.entries := by
  have order := index.ordered_inOrder
  rw [← map_path_orderedRecords] at order
  exact List.pairwise_map.mpr (List.pairwise_map.mp order)

theorem map_fst_entries (index : Index) : index.entries.map Prod.fst = index.ordered := by
  rw [entries, List.map_map, ← map_path_orderedRecords]
  rfl

/-- Indexes that map the same paths to the same texts are compared alike. -/
theorem entries_congr {a b : Index} (same : ∀ path, a.content? path = b.content? path) :
    a.entries = b.entries := by
  apply a.entries_inOrder.eq_of_mem_iff b.entries_inOrder
  intro ⟨path, content⟩
  rw [mem_entries, mem_entries, same]

theorem records_ofRecords {records : List FileRecord}
    (distinct : (records.map FileRecord.path).Nodup) : (ofRecords records).records = records := by
  have grow : ∀ (index : Index) (rest : List FileRecord),
      ((index.records ++ rest).map FileRecord.path).Nodup →
      (rest.foldl insert index).records = index.records ++ rest := by
    intro index rest
    induction rest generalizing index with
    | nil => simp
    | cons record rest ih =>
      intro distinct
      have fresh : record.path ∉ index.paths := by
        rw [List.map_append, List.nodup_append] at distinct
        intro known
        exact distinct.2.2 _ known _ (List.mem_map_of_mem List.mem_cons_self) rfl
      have inserted : (index.insert record).records = index.records ++ [record] := by
        rw [insert, dif_neg fresh]
      have later := ih (index.insert record) (by rw [inserted]; simpa using distinct)
      rw [List.foldl_cons, later, inserted, List.append_assoc]
      rfl
  exact grow empty records distinct

theorem content?_ofRecords_of_perm {index : Index} {records : List FileRecord}
    (perm : records.Perm index.records) (path : Path) :
    (ofRecords records).content? path = index.content? path := by
  have distinct : (records.map FileRecord.path).Nodup :=
    (perm.map FileRecord.path).nodup_iff.mpr index.distinct
  have same (content : Text) :
      (ofRecords records).content? path = some content ↔ index.content? path = some content := by
    simp only [content?_eq_some, records_ofRecords distinct, perm.mem_iff]
  exact Option.ext same

end OrphanFiles.Index
