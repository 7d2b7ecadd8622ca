import Mathlib.Data.Finset.Card
import Mathlib.Logic.Relation
import OrphanFiles.Proofs.Verdict.Growth

/-! Cleaning a project up: some of the reported files are deleted, what is left is scanned
again, and so on. Fewer files refer to less, so a reported file stays reported until it is
deleted, and what is left in the end does not depend on what was deleted when. The texts
of the files do not change meanwhile. -/
namespace OrphanFiles

namespace Index

/-- The index of the files that are kept. -/
def restrict (index : Index) (kept : Finset Path) : Index where
  records := index.records.filter fun record => record.path ∈ kept
  distinct := index.distinct.sublist (List.filter_sublist.map FileRecord.path)

theorem mem_paths_restrict {index : Index} {kept : Finset Path} {path : Path} :
    path ∈ (index.restrict kept).paths ↔ path ∈ kept ∧ path ∈ index.paths := by
  simp only [paths, restrict, List.mem_map, List.mem_filter, decide_eq_true_eq]
  constructor
  · rintro ⟨record, ⟨member, inside⟩, same⟩
    exact ⟨same ▸ inside, record, member, same⟩
  · rintro ⟨inside, record, member, same⟩
    exact ⟨record, ⟨member, same ▸ inside⟩, same⟩

theorem content?_restrict {index : Index} {kept : Finset Path} {path : Path} {content : Text} :
    (index.restrict kept).content? path = some content ↔
      path ∈ kept ∧ index.content? path = some content := by
  simp only [content?_eq_some, restrict, List.mem_filter, decide_eq_true_eq]
  constructor
  · rintro ⟨record, ⟨member, inside⟩, same, holds⟩
    exact ⟨same ▸ inside, record, member, same, holds⟩
  · rintro ⟨inside, record, member, same, holds⟩
    exact ⟨record, ⟨member, same ▸ inside⟩, same, holds⟩

theorem hits_restrict {index : Index} {kept : Finset Path} {path other : Path}
    {base? : Option Path} :
    (index.restrict kept).Hits path base? other ↔ other ∈ kept ∧ index.Hits path base? other := by
  simp only [Hits, content?_restrict]
  constructor
  · rintro ⟨apart, content, ⟨inside, here⟩, refers⟩
    exact ⟨inside, apart, content, here, refers⟩
  · rintro ⟨inside, apart, content, here, refers⟩
    exact ⟨apart, content, ⟨inside, here⟩, refers⟩

end Index

/-- What is left of a project: paths of sources, and paths of assets. -/
structure Remnant where
  sources : Finset Path
  assets : Finset Path

namespace Remnant

variable {files : Index} {base? : Option Path} {left next last : Remnant} {path : Path}

/-- Whether a scan of what is left reports the source. -/
def ReportsSource (files : Index) (base? : Option Path) (left : Remnant) (path : Path) : Prop :=
  ∃ verdict ∈ (files.restrict left.sources).judgeAll base?,
    verdict.path = path ∧ verdict.used = false

/-- Whether a scan of what is left reports the asset. -/
def ReportsAsset (files : Index) (left : Remnant) (path : Path) : Prop :=
  ∃ verdict ∈ (files.restrict left.sources).judgeAssets left.assets.toList,
    verdict.path = path ∧ verdict.used = false

theorem reportsSource_iff :
    left.ReportsSource files base? path ↔ path ∈ left.sources ∧ path ∈ files.paths ∧
      path.isEntryPoint base? = false ∧ ∀ other ∈ left.sources, ¬ files.Hits path base? other := by
  have unused : ((files.restrict left.sources).judge path base?).used = false ↔
      path.isEntryPoint base? = false ∧ ∀ other ∈ left.sources, ¬ files.Hits path base? other := by
    rw [← Bool.not_eq_true, Index.judge_used, Index.reference_used, not_or, Bool.not_eq_true,
      not_exists]
    simp only [Index.hits_restrict, not_and]
  rw [← unused, ← and_assoc, ← Index.mem_paths_restrict]
  simp only [ReportsSource, Index.judgeAll, List.mem_map, Index.mem_ordered]
  constructor
  · intro ⟨verdict, ⟨other, member, judged⟩, same, free⟩
    subst judged same
    exact ⟨member, free⟩
  · intro ⟨member, free⟩
    exact ⟨_, ⟨path, member, rfl⟩, rfl, free⟩

theorem reportsAsset_iff :
    left.ReportsAsset files path ↔ path ∈ left.assets ∧
      Convention.isKeptAsset path.name = false ∧ ∀ other ∈ left.sources, ∀ content,
        files.content? other = some content → ¬ path.name <:+: content := by
  have unused : ((files.restrict left.sources).judgeAsset path).used = false ↔
      Convention.isKeptAsset path.name = false ∧ ∀ other ∈ left.sources, ∀ content,
        files.content? other = some content → ¬ path.name <:+: content := by
    rw [← Bool.not_eq_true, Index.judgeAsset_used, not_or, Bool.not_eq_true]
    simp only [Index.content?_restrict, not_exists, not_and, and_imp]
    exact and_congr_right fun _ =>
      ⟨fun free other inside content => free other content inside,
        fun free other content inside => free other inside content⟩
  rw [← unused]
  simp only [ReportsAsset, Index.judgeAssets, List.mem_map, List.mem_eraseDups, Finset.mem_toList]
  constructor
  · rintro ⟨verdict, ⟨other, member, judged⟩, same, free⟩
    subst judged same
    exact ⟨member, free⟩
  · rintro ⟨member, free⟩
    exact ⟨_, ⟨path, member, rfl⟩, rfl, free⟩

/-- Whether all that is left in the one is left in the other. -/
def Within (next left : Remnant) : Prop :=
  next.sources ⊆ left.sources ∧ next.assets ⊆ left.assets

theorem Within.refl (left : Remnant) : left.Within left :=
  ⟨Finset.Subset.refl _, Finset.Subset.refl _⟩

theorem Within.trans (fewer : last.Within next) (fewer' : next.Within left) : last.Within left :=
  ⟨fewer.1.trans fewer'.1, fewer.2.trans fewer'.2⟩

theorem Within.antisymm (fewer : next.Within left) (fewer' : left.Within next) : next = left := by
  cases next
  cases left
  rw [Remnant.mk.injEq]
  exact ⟨fewer.1.antisymm fewer'.1, fewer.2.antisymm fewer'.2⟩

theorem Within.reportsSource (fewer : next.Within left)
    (reported : left.ReportsSource files base? path) (kept : path ∈ next.sources) :
    next.ReportsSource files base? path := by
  obtain ⟨_, indexed, ordinary, free⟩ := reportsSource_iff.mp reported
  exact reportsSource_iff.mpr
    ⟨kept, indexed, ordinary, fun other inside => free other (fewer.1 inside)⟩

theorem Within.reportsAsset (fewer : next.Within left)
    (reported : left.ReportsAsset files path) (kept : path ∈ next.assets) :
    next.ReportsAsset files path := by
  obtain ⟨_, ordinary, free⟩ := reportsAsset_iff.mp reported
  exact reportsAsset_iff.mpr ⟨kept, ordinary, fun other inside => free other (fewer.1 inside)⟩

/-- Deletes some reported files, at least one. -/
def Step (files : Index) (base? : Option Path) (left next : Remnant) : Prop :=
  ∃ sources assets : Finset Path,
    (∀ path ∈ sources, left.ReportsSource files base? path) ∧
    (∀ path ∈ assets, left.ReportsAsset files path) ∧
    (sources ∪ assets).Nonempty ∧
    next = ⟨left.sources \ sources, left.assets \ assets⟩

/-- Any number of steps, each after a scan of what the one before has left. -/
def Reaches (files : Index) (base? : Option Path) : Remnant → Remnant → Prop :=
  Relation.ReflTransGen (Step files base?)

/-- Whether a scan of what is left reports nothing. -/
def Settled (files : Index) (base? : Option Path) (left : Remnant) : Prop :=
  ∀ path, ¬ left.ReportsSource files base? path ∧ ¬ left.ReportsAsset files path

def fileCount (left : Remnant) : ℕ :=
  left.sources.card + left.assets.card

theorem Step.within (step : left.Step files base? next) : next.Within left := by
  obtain ⟨sources, assets, _, _, _, rfl⟩ := step
  exact ⟨Finset.sdiff_subset, Finset.sdiff_subset⟩

theorem card_sdiff_lt {kept deleted : Finset Path} (inside : path ∈ kept) (gone : path ∈ deleted) :
    (kept \ deleted).card < kept.card := by
  apply Finset.card_lt_card
  exact (Finset.ssubset_iff_of_subset Finset.sdiff_subset).mpr
    ⟨path, inside, fun rest => (Finset.mem_sdiff.mp rest).2 gone⟩

theorem Step.fileCount_lt (step : left.Step files base? next) :
    next.fileCount < left.fileCount := by
  have fewer := Finset.card_le_card step.within.1
  have fewer' := Finset.card_le_card step.within.2
  obtain ⟨sources, assets, reported, reported', ⟨path, deleted⟩, rfl⟩ := step
  rcases Finset.mem_union.mp deleted with source | asset
  · have less := card_sdiff_lt (reportsSource_iff.mp (reported path source)).1 source
    exact Nat.add_lt_add_of_lt_of_le less fewer'
  · have less := card_sdiff_lt (reportsAsset_iff.mp (reported' path asset)).1 asset
    exact Nat.add_lt_add_of_le_of_lt fewer less

theorem exists_step (unsettled : ¬ left.Settled files base?) :
    ∃ next, left.Step files base? next := by
  simp only [Settled, not_forall, not_and_or, not_not] at unsettled
  obtain ⟨path, source | asset⟩ := unsettled
  · exact ⟨_, {path}, ∅, by simpa using source, by simp, by simp, rfl⟩
  · exact ⟨_, ∅, {path}, by simp, by simpa using asset, by simp, rfl⟩

theorem Reaches.within (reached : Reaches files base? left next) : next.Within left := by
  induction reached with
  | refl => exact Within.refl left
  | tail _ step ih => exact step.within.trans ih

/-- What is settled within the state before a step is within the state after it: a file of
both that the step deletes would be reported in the settled state too. -/
theorem Settled.within_of_step (settled : last.Settled files base?) (fewer : last.Within left)
    (step : left.Step files base? next) : last.Within next := by
  obtain ⟨sources, assets, reported, reported', _, rfl⟩ := step
  constructor
  · intro path kept
    refine Finset.mem_sdiff.mpr ⟨fewer.1 kept, ?_⟩
    intro deleted
    exact (settled path).1 (fewer.reportsSource (reported path deleted) kept)
  · intro path kept
    refine Finset.mem_sdiff.mpr ⟨fewer.2 kept, ?_⟩
    intro deleted
    exact (settled path).2 (fewer.reportsAsset (reported' path deleted) kept)

theorem Settled.within_of_reaches (settled : last.Settled files base?) (fewer : last.Within left)
    (reached : Reaches files base? left next) : last.Within next := by
  induction reached with
  | refl => exact fewer
  | tail _ step ih => exact settled.within_of_step ih step

theorem exists_settled (files : Index) (base? : Option Path) (left : Remnant) :
    ∃ last, Reaches files base? left last ∧ last.Settled files base? := by
  by_cases settled : left.Settled files base?
  · exact ⟨left, Relation.ReflTransGen.refl, settled⟩
  · obtain ⟨next, step⟩ := exists_step settled
    have _less := step.fileCount_lt
    obtain ⟨last, reached, ends⟩ := exists_settled files base? next
    exact ⟨last, Relation.ReflTransGen.head step reached, ends⟩
termination_by left.fileCount

/-- A run of steps from a state ends within as many steps as there are files. -/
theorem exists_not_step {run : ℕ → Remnant} :
    ∃ n ≤ (run 0).fileCount, ¬ (run n).Step files base? (run (n + 1)) := by
  by_contra endless
  have step (n : ℕ) (bound : n ≤ (run 0).fileCount) : (run n).Step files base? (run (n + 1)) :=
    by_contra fun stops => endless ⟨n, bound, stops⟩
  have shrinks : ∀ n ≤ (run 0).fileCount + 1, (run n).fileCount + n ≤ (run 0).fileCount := by
    intro n
    induction n with
    | zero => simp
    | succ n ih =>
      intro bound
      have before := ih (by omega)
      have less := (step n (by omega)).fileCount_lt
      omega
  have ended := shrinks _ le_rfl
  omega

/-- Cleaning up comes to an end after at most one step for each file. The end is the same
whatever is deleted first and however much at a time, and a file that is reported once is
reported as long as it is there. -/
theorem cleanup_confluent (files : Index) (base? : Option Path) (start : Remnant) :
    (∀ run : ℕ → Remnant, run 0 = start →
      ∃ n ≤ start.fileCount, ¬ (run n).Step files base? (run (n + 1))) ∧
    (∃! last, Reaches files base? start last ∧ last.Settled files base?) ∧
    ∀ later, Reaches files base? start later → ∀ path,
      (path ∈ later.sources → start.ReportsSource files base? path →
        later.ReportsSource files base? path) ∧
      (path ∈ later.assets → start.ReportsAsset files path → later.ReportsAsset files path) := by
  refine ⟨?_, ?_, ?_⟩
  · rintro run rfl
    exact exists_not_step
  · obtain ⟨last, reached, settled⟩ := exists_settled files base? start
    refine ⟨last, ⟨reached, settled⟩, ?_⟩
    rintro other ⟨reached', settled'⟩
    exact (settled'.within_of_reaches reached'.within reached).antisymm
      (settled.within_of_reaches reached.within reached')
  · intro later reached path
    exact ⟨fun kept reported => reached.within.reportsSource reported kept,
      fun kept reported => reached.within.reportsAsset reported kept⟩

end Remnant
end OrphanFiles
