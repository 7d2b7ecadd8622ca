import OrphanFiles.Proofs.Index.Contents

/-! What the search for a reference answers. A file is used if some other indexed file
refers to it. The one that is named is the least of those in the order of path texts,
so the answer depends on the index as a map only, not on the order of its entries. -/
namespace OrphanFiles

/-- Whether a text refers to the file at `target`: it holds the stem, or calls the
route that the file answers for. -/
def Refers (target : Path) (base? : Option Path) (content : Text) : Prop :=
  target.stem <:+: content ∨
    (target.apiRoute base? ≠ [] ∧ Source.callsRoute content (target.apiRoute base?) = true)

theorem evidence?_eq_stemOccurs {target : Path} {base? : Option Path} {content : Text} :
    evidence? target base? content = some .stemOccurs ↔ target.stem <:+: content := by
  rw [← Text.occursIn_iff]
  unfold evidence?
  by_cases stem : Text.occursIn target.stem content = true
  · simp [stem]
  · simp only [stem, Bool.false_eq_true, if_false, iff_false]
    split
    · simp
    · split <;> simp

theorem evidence?_isSome {target : Path} {base? : Option Path} {content : Text} :
    (evidence? target base? content).isSome = true ↔ Refers target base? content := by
  unfold Refers
  rw [← Text.occursIn_iff]
  have dead := evidence?_ne_mediaNameOccurs target base? content
  unfold evidence? at dead ⊢
  split
  · rename_i stem
    simp [stem]
  · rename_i stem
    split
    · rename_i route
      simpa [stem] using route
    · rename_i route
      split
      · rename_i named
        rw [if_neg stem, if_neg route, if_pos named] at dead
        exact absurd rfl dead
      · simpa [stem] using route

theorem evidence?_eq_none {target : Path} {base? : Option Path} {content : Text} :
    evidence? target base? content = none ↔ ¬ Refers target base? content := by
  rw [← evidence?_isSome, Option.not_isSome_iff_eq_none]

/-- The reason that is given tells whether the stem occurs. -/
theorem reason_of_evidence? {target : Path} {base? : Option Path} {content : Text}
    {evidence : Evidence} (found : evidence? target base? content = some evidence) :
    (evidence.reason = "name_referenced".toList ↔ target.stem <:+: content) ∧
      (evidence.reason = "api_route_called".toList ↔ ¬ target.stem <:+: content) := by
  have stem : evidence? target base? content = some .stemOccurs ↔ target.stem <:+: content :=
    evidence?_eq_stemOccurs
  have dead := evidence?_ne_mediaNameOccurs target base? content
  rw [found] at stem dead
  rw [← stem]
  cases evidence with
  | stemOccurs => decide
  | routeCalled => decide
  | mediaNameOccurs => exact absurd rfl dead

namespace Index

/-- A search over all records in order: it finds nothing, or the least file that passes. -/
theorem search_cases (index : Index) (test : Path → Text → Option Evidence) :
    (search (fun record => test record.path record.content) index.orderedRecords = .unreferenced ∧
      ∀ path content, index.content? path = some content → test path content = none) ∨
    ∃ path content evidence, index.content? path = some content ∧
      test path content = some evidence ∧
      search (fun record => test record.path record.content) index.orderedRecords =
        .referenced evidence path ∧
      ∀ other text, index.content? other = some text → (test other text).isSome = true →
        path.text.precedes other.text = true := by
  cases found : index.orderedRecords.findSome? fun record =>
      (test record.path record.content).map fun evidence => Finding.referenced evidence record.path with
  | none =>
    left
    refine ⟨by rw [search, found]; rfl, ?_⟩
    intro path content here
    obtain ⟨record, member, rfl, rfl⟩ := content?_eq_some.mp here
    have missed := List.findSome?_eq_none_iff.mp found record (mem_orderedRecords.mpr member)
    exact Option.map_eq_none_iff.mp missed
  | some finding =>
    right
    obtain ⟨before, record, after, split, hit, missed⟩ := List.findSome?_eq_some_iff.mp found
    obtain ⟨evidence, passed, same⟩ := Option.map_eq_some_iff.mp hit
    have member : record ∈ index.orderedRecords := split ▸ List.mem_append_right _ List.mem_cons_self
    refine ⟨record.path, record.content, evidence, content?_of_mem (mem_orderedRecords.mp member),
      passed, by rw [search, found, ← same]; rfl, ?_⟩
    intro other text here passes
    obtain ⟨record', member', rfl, rfl⟩ := content?_eq_some.mp here
    have sorted := index.orderedRecords_sorted
    rw [split] at sorted
    have place := mem_orderedRecords.mpr member'
    rw [split, List.mem_append, List.mem_cons] at place
    rcases place with earlier | same | later
    · have none_here := Option.map_eq_none_iff.mp (missed record' earlier)
      rw [none_here] at passes
      cases passes
    · rw [same]
      exact Text.precedes_self _
    · exact (List.pairwise_cons.mp (List.pairwise_append.mp sorted).2.1).1 record' later

theorem search_congr {a b : Index} (same : ∀ path, a.content? path = b.content? path)
    (test : Path → Text → Option Evidence) :
    search (fun record => test record.path record.content) a.orderedRecords =
      search (fun record => test record.path record.content) b.orderedRecords := by
  have over_entries (index : Index) :
      search (fun record => test record.path record.content) index.orderedRecords =
        (index.entries.findSome? fun entry =>
          (test entry.1 entry.2).map fun evidence => .referenced evidence entry.1).getD
            .unreferenced := by
    rw [search, entries, List.findSome?_map]
    rfl
  rw [over_entries, over_entries, entries_congr same]

/-- Another indexed file whose text refers to the one at `path`. -/
def Hits (index : Index) (path : Path) (base? : Option Path) (other : Path) : Prop :=
  other ≠ path ∧ ∃ content, index.content? other = some content ∧ Refers path base? content

theorem reference_cases (index : Index) (path : Path) (base? : Option Path) :
    (index.reference path base? = .unreferenced ∧ ∀ other, ¬ index.Hits path base? other) ∨
    ∃ other content evidence, index.content? other = some content ∧
      index.reference path base? = .referenced evidence other ∧ index.Hits path base? other ∧
      (∀ rival, index.Hits path base? rival → other.text.precedes rival.text = true) ∧
      evidence? path base? content = some evidence := by
  have cases := index.search_cases fun other content =>
    if other = path then none else evidence? path base? content
  rcases cases with ⟨nothing, missed⟩ | ⟨other, content, evidence, here, passed, found, least⟩
  · left
    refine ⟨nothing, ?_⟩
    intro other ⟨apart, content, here, refers⟩
    have none_here := missed other content here
    rw [if_neg apart] at none_here
    exact evidence?_eq_none.mp none_here refers
  · right
    have apart : other ≠ path := by
      intro same
      rw [if_pos same] at passed
      cases passed
    rw [if_neg apart] at passed
    have refers := evidence?_isSome.mp (Option.isSome_iff_exists.mpr ⟨evidence, passed⟩)
    refine ⟨other, content, evidence, here, found, ⟨apart, content, here, refers⟩, ?_, passed⟩
    intro rival ⟨apart', text, here', refers'⟩
    apply least rival text here'
    rw [if_neg apart']
    exact evidence?_isSome.mpr refers'

theorem reference_used {index : Index} {path : Path} {base? : Option Path} :
    (index.reference path base?).used = true ↔ ∃ other, index.Hits path base? other := by
  rcases index.reference_cases path base? with ⟨nothing, missed⟩ | ⟨other, _, _, _, found, hits, _⟩
  · rw [nothing]
    constructor
    · intro used
      cases used
    · intro ⟨other, hits⟩
      exact absurd hits (missed other)
  · rw [found]
    exact ⟨fun _ => ⟨other, hits⟩, fun _ => rfl⟩

theorem judge_used {index : Index} {path : Path} {base? : Option Path} :
    (index.judge path base?).used = true ↔
      path.isEntryPoint base? = true ∨ (index.reference path base?).used = true := by
  rw [judge, Verdict.used]
  by_cases entry : path.isEntryPoint base? = true
  · rw [if_pos entry]
    exact ⟨fun _ => Or.inl entry, fun _ => rfl⟩
  · rw [if_neg entry]
    exact ⟨Or.inr, fun used => used.resolve_left entry⟩

theorem reference_congr {a b : Index} (same : ∀ path, a.content? path = b.content? path)
    (path : Path) (base? : Option Path) : a.reference path base? = b.reference path base? :=
  search_congr same fun other content =>
    if other = path then none else evidence? path base? content

theorem judgeAll_congr {a b : Index} (same : ∀ path, a.content? path = b.content? path)
    (base? : Option Path) : a.judgeAll base? = b.judgeAll base? := by
  rw [judgeAll, judgeAll, ← map_fst_entries a, entries_congr same, map_fst_entries b]
  apply List.map_congr_left
  intro path _
  rw [judge, judge, reference_congr same]

/-- A search over listed paths of indexed files is a search over their records. -/
theorem searchIn_map_path {index : Index} {records : List FileRecord}
    (known : ∀ record ∈ records, record ∈ index.records) (skip : Path → Bool)
    (test : Text → Option Evidence) :
    index.searchIn skip test (records.map FileRecord.path) =
      .ok (search (fun record => if skip record.path then none else test record.content) records) := by
  induction records with
  | nil => rfl
  | cons record records ih =>
    have later := ih fun other member => known other (List.mem_cons_of_mem _ member)
    have here := content?_of_mem (known record List.mem_cons_self)
    rw [search] at later
    rw [List.map_cons, searchIn, here, later, search, List.findSome?_cons]
    by_cases skipped : skip record.path = true
    · simp [skipped]
    · cases passed : test record.content <;> simp [skipped, passed]

theorem referenceIn_ordered (index : Index) (path : Path) (base? : Option Path) :
    index.referenceIn path base? index.ordered = .ok (index.reference path base?) := by
  have known : ∀ record ∈ index.orderedRecords, record ∈ index.records :=
    fun _ => mem_orderedRecords.mp
  rw [referenceIn, ← map_path_orderedRecords, searchIn_map_path known, reference]
  simp only [decide_eq_true_eq]

/-- The search answers by the least file that refers to `path`, and the verdicts on all
files are those answers in the order of path texts, entry points apart. Neither the
order in which the index was filled nor a precomputed order of comparison matters. -/
theorem reference_names_least_hit (index : Index) (base? : Option Path) :
    (∀ path, let verdict : Verdict := ⟨path, index.reference path base?⟩
      (verdict.used = true ↔ ∃ other, index.Hits path base? other) ∧
      (verdict.used = true → ∃ other content, verdict.referencedBy? = some other ∧
        index.Hits path base? other ∧
        (∀ rival, index.Hits path base? rival → other.text.precedes rival.text = true) ∧
        index.content? other = some content ∧
        (verdict.reason = "name_referenced".toList ↔ path.stem <:+: content) ∧
        (verdict.reason = "api_route_called".toList ↔ ¬ path.stem <:+: content)) ∧
      (verdict.used = false →
        verdict.reason = "no_reference".toList ∧ verdict.referencedBy? = none)) ∧
    ((index.judgeAll base?).map Verdict.path = index.ordered ∧
      InOrder Path.text index.ordered ∧ ∀ path, path ∈ index.ordered ↔ path ∈ index.paths) ∧
    (∀ verdict ∈ index.judgeAll base?,
      if verdict.path.isEntryPoint base? then
        verdict.used = true ∧ verdict.reason = "critical_file".toList ∧ verdict.referencedBy? = none
      else verdict = ⟨verdict.path, index.reference verdict.path base?⟩) ∧
    (∀ records, records.Perm index.records →
      (ofRecords records).judgeAll base? = index.judgeAll base? ∧
      ∀ path, (ofRecords records).reference path base? = index.reference path base?) ∧
    ∀ path, index.referenceIn path base? index.ordered = .ok (index.reference path base?) := by
  refine ⟨fun path => ⟨reference_used, ?_, ?_⟩, ⟨?_, index.ordered_inOrder, fun _ => mem_ordered⟩,
    ?_, ?_, fun path => index.referenceIn_ordered path base?⟩
  · intro used
    rcases index.reference_cases path base? with
      ⟨nothing, _⟩ | ⟨other, content, evidence, here, found, hits, least, passed⟩
    · rw [Verdict.used, nothing] at used
      cases used
    · have reasons := reason_of_evidence? passed
      refine ⟨other, content, congrArg Finding.referencedBy? found, hits, least, here, ?_⟩
      rw [Verdict.reason, found]
      exact reasons
  · intro unused
    have nothing := Finding.used_eq_false.mp unused
    exact ⟨congrArg Finding.reason nothing, congrArg Finding.referencedBy? nothing⟩
  · simp [judgeAll, judge, Function.comp_def]
  · intro verdict member
    obtain ⟨path, _, same⟩ := List.mem_map.mp member
    rw [← same, judge]
    by_cases entry : path.isEntryPoint base? = true
    · rw [if_pos entry, if_pos entry]
      exact ⟨rfl, rfl, rfl⟩
    · rw [if_neg entry, if_neg entry]
  · intro records perm
    have same := content?_ofRecords_of_perm perm
    exact ⟨judgeAll_congr same base?, fun path => reference_congr same path base?⟩

end Index
end OrphanFiles
