import OrphanFiles.Proofs.Source.Targets
import OrphanFiles.Proofs.Verdict.Reference

/-! The search covers the import graph. A file that another one imports by its name or
by its stem is found by the substring test, however the two analyses split names. -/
namespace OrphanFiles

/-- What follows the last slash of a text, the whole text if it has none. -/
def Text.afterLastSlash (t : Text) : Text :=
  (t.reverse.takeWhile (· ≠ '/')).reverse

theorem Text.afterLastSlash_suffix (t : Text) : t.afterLastSlash <:+ t := by
  have front := List.takeWhile_prefix (fun c => decide (c ≠ '/')) (l := t.reverse)
  rw [afterLastSlash, ← List.reverse_reverse t]
  exact List.reverse_suffix.mpr (by simpa using front)

namespace Index

/-- No file is reported that another indexed file imports by its name or its stem. -/
theorem used_of_import {index : Index}
    (scanned : ∀ record ∈ index.records, record.importTargets = Source.importTargets record.content)
    {record : FileRecord} (indexed : record ∈ index.records) {path : Path}
    (apart : record.path ≠ path) {target : Text}
    (imported : target ∈ record.importTargets) (line : '\n' ∉ target)
    (named : target.afterLastSlash = path.name ∨ target.afterLastSlash = path.stem)
    (base? : Option Path) :
    (index.reference path base?).used = true ∧ (index.judge path base?).used = true := by
  rw [scanned record indexed] at imported
  have inside : target.afterLastSlash <:+: record.content :=
    target.afterLastSlash_suffix.isInfix.trans (Source.infix_of_mem_importTargets imported line)
  have stem : path.stem <:+: target.afterLastSlash := by
    rcases named with by_name | by_stem
    · exact by_name ▸ stem_infix_name path
    · exact by_stem ▸ List.infix_refl _
  have hits : index.Hits path base? record.path :=
    ⟨apart, record.content, content?_of_mem indexed, Or.inl (stem.trans inside)⟩
  have used := reference_used.mpr ⟨record.path, hits⟩
  exact ⟨used, judge_used.mpr (Or.inr used)⟩

/-- An import without the script ending counts, also where the name has several dots. -/
theorem used_of_import_by_stem :
    "./lib/b.test".toList ∈ Source.importTargets "import {b} from './lib/b.test.ts'".toList ∧
    ((ofRecords [.scan (.ofText "a.ts".toList) "import {b} from './lib/b.test.ts'".toList,
        .scan (.ofText "lib/b.test.ts".toList) []]).reference
      (.ofText "lib/b.test.ts".toList) none).used = true := by
  have imported : "./lib/b.test".toList ∈
      Source.importTargets "import {b} from './lib/b.test.ts'".toList :=
    Source.mem_importTargets.mpr
      ⟨"./lib/b.test.ts".toList, by decide +kernel, by decide, Or.inr (by decide)⟩
  have records : (ofRecords [.scan (.ofText "a.ts".toList) "import {b} from './lib/b.test.ts'".toList,
      .scan (.ofText "lib/b.test.ts".toList) []]).records =
      [.scan (.ofText "a.ts".toList) "import {b} from './lib/b.test.ts'".toList,
        .scan (.ofText "lib/b.test.ts".toList) []] :=
    records_ofRecords (by decide)
  refine ⟨imported, (used_of_import ?_ (records ▸ List.mem_cons_self) ?_ imported (by decide)
    (Or.inr (by decide)) none).1⟩
  · intro record member
    rw [records] at member
    simp only [List.mem_cons, List.not_mem_nil, or_false] at member
    rcases member with same | same <;> rw [same] <;> rfl
  · decide

end Index
end OrphanFiles
