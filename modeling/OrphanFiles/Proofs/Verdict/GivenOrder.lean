import OrphanFiles.Proofs.Verdict.Reasons

/-! Comparisons in an order that is given. It may leave files out, name them twice and name
paths that are not indexed. Such a path ends the comparison, unless it is passed over or an
earlier file has settled the verdict already; what settles it is the first hit. -/
namespace OrphanFiles

/-- How a text refers to the file at `target`: by the stem, or else by a call of the route. -/
def RefersBy (target : Path) (base? : Option Path) (content : Text) : Evidence → Prop
  | .stemOccurs => target.stem <:+: content
  | .routeCalled => ¬ target.stem <:+: content ∧ target.apiRoute base? ≠ [] ∧
      Source.callsRoute content (target.apiRoute base?) = true
  | .mediaNameOccurs => False

theorem evidence?_eq_some {target : Path} {base? : Option Path} {content : Text}
    {evidence : Evidence} :
    evidence? target base? content = some evidence ↔ RefersBy target base? content evidence := by
  cases evidence with
  | stemOccurs => exact evidence?_eq_stemOccurs
  | mediaNameOccurs => exact iff_of_false (evidence?_ne_mediaNameOccurs target base? content) id
  | routeCalled =>
    constructor
    · intro found
      exact ⟨(reason_of_evidence? found).2.mp rfl, route_of_evidence? found⟩
    · rintro ⟨apart, route⟩
      have some_way : (evidence? target base? content).isSome = true :=
        evidence?_isSome.mpr (Or.inr route)
      obtain ⟨evidence, found⟩ := Option.isSome_iff_exists.mp some_way
      have called : evidence = .routeCalled :=
        Evidence.reason_injective ((reason_of_evidence? found).2.mpr apart)
      rw [found, called]

namespace Index

/-- Whether a path comes up in an order with no hit before it. -/
def MetBefore (hits : Path → Evidence → Prop) (order : List Path) (path : Path) : Prop :=
  ∃ before after, order = before ++ path :: after ∧
    ∀ other ∈ before, ∀ evidence, ¬ hits other evidence

section MetBefore

variable {hits : Path → Evidence → Prop} {first path : Path} {order : List Path}

theorem metBefore_nil : ¬ MetBefore hits [] path := by
  rintro ⟨before, after, split, _⟩
  simp at split

theorem metBefore_cons :
    MetBefore hits (first :: order) path ↔
      path = first ∨ ((∀ evidence, ¬ hits first evidence) ∧ MetBefore hits order path) := by
  constructor
  · rintro ⟨before, after, split, free⟩
    cases before with
    | nil =>
      left
      simpa [eq_comm] using (List.cons.inj split).1
    | cons other before =>
      obtain ⟨same, split⟩ := List.cons.inj split
      rw [List.forall_mem_cons] at free
      exact Or.inr ⟨same ▸ free.1, before, after, split, free.2⟩
  · rintro (same | ⟨miss, before, after, split, free⟩)
    · exact ⟨[], order, by rw [same, List.nil_append], by simp⟩
    · exact ⟨first :: before, after, by rw [split, List.cons_append],
        List.forall_mem_cons.mpr ⟨miss, free⟩⟩

theorem MetBefore.mem (met : MetBefore hits order path) : path ∈ order := by
  obtain ⟨before, after, split, _⟩ := met
  rw [split]
  exact List.mem_append_right _ List.mem_cons_self

/-- In a sorted order nothing that hits stands at or before the first hit but the first hit. -/
theorem MetBefore.precedes (met : MetBefore hits order path)
    (sorted : order.Pairwise fun a b => a.text.precedes b.text = true) {rival : Path}
    (member : rival ∈ order) {evidence : Evidence} (hit : hits rival evidence) :
    path.text.precedes rival.text = true := by
  obtain ⟨before, after, split, free⟩ := met
  rw [split] at member sorted
  rcases List.mem_append.mp member with earlier | later
  · exact absurd hit (free rival earlier evidence)
  · rcases List.mem_cons.mp later with same | behind
    · rw [same]
      exact Text.precedes_self _
    · exact (List.pairwise_cons.mp (List.pairwise_append.mp sorted).2.1).1 rival behind

end MetBefore

section Search

variable {index : Index} {skip : Path → Bool} {test : Text → Option Evidence}

/-- Whether a search looks at a file and its text passes the test. -/
def Passes (index : Index) (skip : Path → Bool) (test : Text → Option Evidence) (other : Path)
    (evidence : Evidence) : Prop :=
  skip other = false ∧ ∃ content, index.content? other = some content ∧ test content = some evidence

theorem Passes.unique {other : Path} {a b : Evidence} (passes : index.Passes skip test other a)
    (passes' : index.Passes skip test other b) : a = b := by
  obtain ⟨_, content, here, passed⟩ := passes
  obtain ⟨_, content', here', passed'⟩ := passes'
  rw [here, Option.some.injEq] at here'
  rw [← here', passed, Option.some.injEq] at passed'
  exact passed'

theorem Passes.mem_paths {other : Path} {evidence : Evidence}
    (passes : index.Passes skip test other evidence) : other ∈ index.paths := by
  obtain ⟨_, content, here, _⟩ := passes
  exact mem_paths_of_content? here

/-- One step of a search passes over a path, fails on it or ends with it. -/
theorem searchIn_cons_cases (index : Index) (skip : Path → Bool) (test : Text → Option Evidence)
    (other : Path) (order : List Path) :
    ((skip other = false → other ∈ index.paths) ∧
      (∀ evidence, ¬ index.Passes skip test other evidence) ∧
      index.searchIn skip test (other :: order) = index.searchIn skip test order) ∨
    (skip other = false ∧ other ∉ index.paths ∧
      index.searchIn skip test (other :: order) = .error other) ∨
    ∃ evidence, index.Passes skip test other evidence ∧
      index.searchIn skip test (other :: order) = .ok (.referenced evidence other) := by
  rw [searchIn]
  cases skipped : skip other with
  | true => exact Or.inl ⟨by simp, by simp [Passes, skipped], by simp⟩
  | false =>
    cases here : index.content? other with
    | none =>
      right; left
      have absent : other ∉ index.paths := by
        rw [← find?_isSome, Option.not_isSome_iff_eq_none]
        exact Option.map_eq_none_iff.mp here
      exact ⟨rfl, absent, by simp⟩
    | some content =>
      cases passed : test content with
      | none =>
        left
        exact ⟨fun _ => mem_paths_of_content? here, by simp [Passes, here, passed],
          by simp [passed]⟩
      | some evidence =>
        right; right
        exact ⟨evidence, ⟨skipped, content, here, passed⟩, by simp [passed]⟩

theorem searchIn_error_iff {order : List Path} :
    (∃ unknown, index.searchIn skip test order = .error unknown) ↔
      ∃ unknown, skip unknown = false ∧ unknown ∉ index.paths ∧
        MetBefore (index.Passes skip test) order unknown := by
  induction order with
  | nil =>
    simp only [metBefore_nil, and_false, exists_false, iff_false, not_exists]
    intro unknown failed
    cases failed
  | cons other order ih =>
    simp only [metBefore_cons]
    rcases index.searchIn_cons_cases skip test other order with
      ⟨known, miss, step⟩ | ⟨compared, absent, step⟩ | ⟨evidence, passes, step⟩
    · rw [step, ih]
      constructor
      · rintro ⟨unknown, compared, absent, met⟩
        exact ⟨unknown, compared, absent, Or.inr ⟨miss, met⟩⟩
      · rintro ⟨unknown, compared, absent, rfl | ⟨_, met⟩⟩
        · exact absurd (known compared) absent
        · exact ⟨unknown, compared, absent, met⟩
    · exact iff_of_true ⟨other, step⟩ ⟨other, compared, absent, Or.inl rfl⟩
    · rw [step]
      constructor
      · rintro ⟨unknown, failed⟩
        cases failed
      · rintro ⟨unknown, compared, absent, rfl | ⟨miss, _⟩⟩
        · exact absurd passes.mem_paths absent
        · exact absurd passes (miss evidence)

theorem searchIn_referenced_iff {order : List Path} {finding : Finding}
    (searched : index.searchIn skip test order = .ok finding) {evidence : Evidence} {first : Path} :
    finding = .referenced evidence first ↔
      index.Passes skip test first evidence ∧ MetBefore (index.Passes skip test) order first := by
  induction order with
  | nil =>
    cases searched
    simp [metBefore_nil]
  | cons other order ih =>
    rw [metBefore_cons]
    rcases index.searchIn_cons_cases skip test other order with
      ⟨_, miss, step⟩ | ⟨_, _, step⟩ | ⟨evidence', passes, step⟩
    · rw [step] at searched
      rw [ih searched]
      constructor
      · exact fun ⟨passes, met⟩ => ⟨passes, Or.inr ⟨miss, met⟩⟩
      · rintro ⟨passes, rfl | ⟨_, met⟩⟩
        · exact absurd passes (miss evidence)
        · exact ⟨passes, met⟩
    · rw [step] at searched
      cases searched
    · rw [step] at searched
      cases searched
      constructor
      · intro same
        cases same
        exact ⟨passes, Or.inl rfl⟩
      · rintro ⟨passes', rfl | ⟨miss, _⟩⟩
        · rw [passes.unique passes']
        · exact absurd passes (miss evidence')

theorem searchIn_unreferenced_iff {order : List Path} {finding : Finding}
    (searched : index.searchIn skip test order = .ok finding) :
    finding = .unreferenced ↔
      ∀ other ∈ order, ∀ evidence, ¬ index.Passes skip test other evidence := by
  induction order with
  | nil =>
    cases searched
    simp
  | cons other order ih =>
    rw [List.forall_mem_cons]
    rcases index.searchIn_cons_cases skip test other order with
      ⟨_, miss, step⟩ | ⟨_, _, step⟩ | ⟨evidence, passes, step⟩
    · rw [step] at searched
      rw [ih searched]
      exact (and_iff_right miss).symm
    · rw [step] at searched
      cases searched
    · rw [step] at searched
      cases searched
      exact iff_of_false (by simp) fun ⟨miss, _⟩ => miss evidence passes

/-- A search either finds nothing or finds what passes. -/
theorem searchIn_finding_cases {order : List Path} {finding : Finding}
    (searched : index.searchIn skip test order = .ok finding) :
    finding = .unreferenced ∨ ∃ evidence first, finding = .referenced evidence first := by
  induction order with
  | nil =>
    cases searched
    exact Or.inl rfl
  | cons other order ih =>
    rcases index.searchIn_cons_cases skip test other order with
      ⟨_, _, step⟩ | ⟨_, _, step⟩ | ⟨evidence, _, step⟩
    · exact ih (step ▸ searched)
    · rw [step] at searched
      cases searched
    · rw [step] at searched
      cases searched
      exact Or.inr ⟨evidence, other, rfl⟩

variable {order order' : List Path} {finding finding' : Finding}

/-- Searches through orders of the same files find something in both or in neither. -/
theorem searchIn_used_congr (same : ∀ other, skip other = false → (other ∈ order ↔ other ∈ order'))
    (searched : index.searchIn skip test order = .ok finding)
    (searched' : index.searchIn skip test order' = .ok finding') :
    finding.used = finding'.used := by
  have nothing : finding = .unreferenced ↔ finding' = .unreferenced := by
    rw [searchIn_unreferenced_iff searched, searchIn_unreferenced_iff searched']
    constructor
    · intro miss other member evidence passes
      exact miss other ((same other passes.1).mpr member) evidence passes
    · intro miss other member evidence passes
      exact miss other ((same other passes.1).mp member) evidence passes
  rw [Bool.eq_iff_iff, ← not_iff_not, Bool.not_eq_true, Bool.not_eq_true, Finding.used_eq_false,
    Finding.used_eq_false]
  exact nothing

/-- The first hits of two sorted orders of the same files stand before each other. -/
theorem searchIn_eq_of_sorted
    (same : ∀ other, skip other = false → (other ∈ order ↔ other ∈ order'))
    (sorted : order.Pairwise fun a b => a.text.precedes b.text = true)
    (sorted' : order'.Pairwise fun a b => a.text.precedes b.text = true)
    (searched : index.searchIn skip test order = .ok finding)
    (searched' : index.searchIn skip test order' = .ok finding') : finding = finding' := by
  have used := searchIn_used_congr same searched searched'
  rcases searchIn_finding_cases searched with rfl | ⟨evidence, first, rfl⟩
  · exact (Finding.used_eq_false.mp used.symm).symm
  · rcases searchIn_finding_cases searched' with rfl | ⟨evidence', first', rfl⟩
    · cases used
    · obtain ⟨passes, met⟩ := (searchIn_referenced_iff searched).mp rfl
      obtain ⟨passes', met'⟩ := (searchIn_referenced_iff searched').mp rfl
      have before := met.precedes sorted ((same first' passes'.1).mpr met'.mem) passes'
      have after := met'.precedes sorted' ((same first passes.1).mp met.mem) passes
      have one : first = first' := Path.text_injective (Text.eq_of_precedes before after)
      subst one
      rw [passes.unique passes']

end Search

/-- What a verdict in a given order has to be. `compared` are the paths that are looked up,
`hits` the files that count as a reference, and `whole` is the verdict without an order. -/
structure FollowsOrder (index : Index) (path : Path) (compared : Path → Prop)
    (hits : Path → Evidence → Prop) (whole : Verdict) (order : List Path)
    (outcome : Except Path Verdict) : Prop where
  error_iff : (∃ unknown, outcome = .error unknown) ↔
    ∃ unknown, compared unknown ∧ unknown ∉ index.paths ∧ MetBefore hits order unknown
  referenced_iff : ∀ verdict, outcome = .ok verdict → ∀ evidence first,
    verdict = ⟨path, .referenced evidence first⟩ ↔ hits first evidence ∧ MetBefore hits order first
  unreferenced_iff : ∀ verdict, outcome = .ok verdict →
    (verdict = ⟨path, .unreferenced⟩ ↔ ∀ other ∈ order, ∀ evidence, ¬ hits other evidence)
  of_same_files : (∀ other, compared other → (other ∈ order ↔ other ∈ index.paths)) →
    ∃ verdict, outcome = .ok verdict ∧ verdict.used = whole.used ∧
      (order.Pairwise (fun a b => a.text.precedes b.text = true) → verdict = whole)

theorem followsOrder_searchIn {index : Index} {skip : Path → Bool} {test : Text → Option Evidence}
    {whole : Finding} (without : index.searchIn skip test index.ordered = .ok whole) (path : Path)
    (order : List Path) :
    index.FollowsOrder path (fun other => skip other = false) (index.Passes skip test) ⟨path, whole⟩
      order ((index.searchIn skip test order).map (Verdict.mk path)) := by
  cases searched : index.searchIn skip test order with
  | error unknown =>
    have fails := searchIn_error_iff.mp ⟨unknown, searched⟩
    constructor
    case error_iff => exact iff_of_true ⟨unknown, rfl⟩ fails
    case referenced_iff => exact fun verdict judged => nomatch judged
    case unreferenced_iff => exact fun verdict judged => nomatch judged
    case of_same_files =>
      intro same
      obtain ⟨other, compared, absent, met⟩ := fails
      exact absurd ((same other compared).mp met.mem) absent
  | ok finding =>
    have completes : ¬ ∃ unknown, index.searchIn skip test order = .error unknown := by
      rw [searched]
      exact fun ⟨_, failed⟩ => nomatch failed
    constructor
    case error_iff =>
      exact iff_of_false (fun ⟨_, failed⟩ => nomatch failed) (mt searchIn_error_iff.mpr completes)
    case referenced_iff =>
      rintro verdict judged evidence first
      cases judged
      rw [Verdict.mk.injEq, and_iff_right rfl]
      exact searchIn_referenced_iff searched
    case unreferenced_iff =>
      rintro verdict judged
      cases judged
      rw [Verdict.mk.injEq, and_iff_right rfl]
      exact searchIn_unreferenced_iff searched
    case of_same_files =>
      intro same
      have same' (other : Path) (compared : skip other = false) :
          other ∈ order ↔ other ∈ index.ordered := by
        rw [same other compared, mem_ordered]
      refine ⟨⟨path, finding⟩, rfl, searchIn_used_congr same' searched without, ?_⟩
      intro sorted
      rw [searchIn_eq_of_sorted same' sorted (sortedBy_pairwise _ _) searched without]

/-- A file other than the one at `path` whose text refers to it in the given way. -/
def HitsBy (index : Index) (path : Path) (base? : Option Path) (other : Path)
    (evidence : Evidence) : Prop :=
  other ≠ path ∧ ∃ content, index.content? other = some content ∧
    RefersBy path base? content evidence

/-- A file whose text holds the full name of an asset, which is evidence of one kind only. -/
def NamesBy (index : Index) (asset other : Path) (evidence : Evidence) : Prop :=
  evidence = .mediaNameOccurs ∧ index.Names asset other

theorem passes_evidence? (index : Index) (path : Path) (base? : Option Path) :
    index.Passes (· = path) (evidence? path base?) = index.HitsBy path base? := by
  funext other evidence
  simp only [Passes, HitsBy, evidence?_eq_some, decide_eq_false_iff_not]

theorem passes_assetEvidence? (index : Index) (asset : Path) :
    index.Passes (fun _ => false) (assetEvidence? asset) = index.NamesBy asset := by
  funext other evidence
  simp only [Passes, NamesBy, Names, assetEvidence?_eq_some, true_and, eq_iff_iff]
  constructor
  · rintro ⟨content, here, found, named⟩
    exact ⟨found, content, here, named⟩
  · rintro ⟨found, content, here, named⟩
    exact ⟨content, here, found, named⟩

theorem searchIn_asset_ordered (index : Index) (asset : Path) :
    index.searchIn (fun _ => false) (assetEvidence? asset) index.ordered =
      .ok (search (fun record => assetEvidence? asset record.content) index.orderedRecords) := by
  have known : ∀ record ∈ index.orderedRecords, record ∈ index.records :=
    fun _ => mem_orderedRecords.mp
  rw [← map_path_orderedRecords, searchIn_map_path known]
  rfl

/-- A verdict in a given order fails on a path that is not indexed exactly if no hit comes
before it, and is that of the first hit otherwise. An order of all files decides as the
index does, up to the file that is named, and a sorted one decides alike. -/
theorem verdicts_follow_order (index : Index) (path : Path) (base? : Option Path)
    (order : List Path) :
    index.FollowsOrder path (· ≠ path) (index.HitsBy path base?) ⟨path, index.reference path base?⟩
      order ((index.referenceIn path base? order).map (Verdict.mk path)) ∧
    if Convention.isKeptAsset path.name then
      index.judgeAssetIn path order = .ok ⟨path, .keptAsset⟩ ∧
        index.judgeAsset path = ⟨path, .keptAsset⟩
    else
      index.FollowsOrder path (fun _ => True) (index.NamesBy path) (index.judgeAsset path) order
        (index.judgeAssetIn path order) := by
  constructor
  · have follows := followsOrder_searchIn (index.referenceIn_ordered path base?) path order
    simpa only [passes_evidence?, decide_eq_false_iff_not, referenceIn, ne_eq] using follows
  · split
    · rename_i kept
      rw [judgeAssetIn, judgeAsset, if_pos kept, if_pos kept]
      exact ⟨rfl, rfl⟩
    · rename_i ordinary
      have follows := followsOrder_searchIn (index.searchIn_asset_ordered path) path order
      rw [judgeAssetIn, judgeAsset, if_neg ordinary, if_neg ordinary]
      simpa only [passes_assetEvidence?] using follows

/-- A file that refers to another one. -/
def holder : Path := .ofText "/p/a.js".toList

def held : Path := .ofText "/p/logo.ts".toList

def vanished : Path := .ofText "/p/gone.js".toList

def holderIndex : Index := ofFile holder "./logo".toList

theorem hits_holderIndex : holderIndex.Hits held none holder :=
  hits_ofFile.mpr ⟨by decide +kernel, Or.inl (Text.occursIn_iff.mp (by decide))⟩

theorem paths_holderIndex : holderIndex.paths = [holder] := by
  decide +kernel

/-- A path that is not indexed fails the search where it comes first. A file that is named
twice changes nothing, and neither does the judged one. -/
theorem order_of_one_file :
    (∃ unknown, (holderIndex.referenceIn held none [vanished, holder]).map (Verdict.mk held) =
      .error unknown) ∧
    ∃ verdict, (holderIndex.referenceIn held none [holder, held, holder]).map (Verdict.mk held) =
      .ok verdict ∧ verdict.used = true := by
  constructor
  · have follows := (verdicts_follow_order holderIndex held none [vanished, holder]).1
    have apart : vanished ≠ held := by decide +kernel
    have absent : vanished ∉ holderIndex.paths := by
      rw [paths_holderIndex]
      decide +kernel
    have met : MetBefore (holderIndex.HitsBy held none) [vanished, holder] vanished :=
      metBefore_cons.mpr (Or.inl rfl)
    exact follows.error_iff.mpr ⟨vanished, apart, absent, met⟩
  · have follows := (verdicts_follow_order holderIndex held none [holder, held, holder]).1
    have same (other : Path) (apart : other ≠ held) :
        other ∈ [holder, held, holder] ↔ other ∈ holderIndex.paths := by
      simp [paths_holderIndex, apart]
    obtain ⟨verdict, judged, used, _⟩ := follows.of_same_files same
    exact ⟨verdict, judged, used.trans (reference_used.mpr ⟨holder, hits_holderIndex⟩)⟩

end Index
end OrphanFiles
