import OrphanFiles.Proofs.Source.Occurrence
import OrphanFiles.Proofs.Verdict.Growth

/-! The reasons that verdicts give. Routes of the server interface are entry points, so their
being called never decides a verdict, and no medium is found by its name since its stem is
found first. What a verdict does say is borne out by the index, in whatever order the files
are compared. -/
namespace OrphanFiles

namespace Source

theorem exists_call_of_callsRoute {t route : Text} (calls : callsRoute t route = true) :
    ∃ call, call <:+: t ∧ route <:+: call ∧ IsCall call := by
  obtain ⟨form, known, call, member, inside⟩ := callsRoute_iff.mp calls
  obtain ⟨s, rest, behind, read⟩ := Form.exists_read?_of_mem_scan member
  have ⟨split, accepts⟩ := readsStretches_of_mem_callForms known read
  have front : call <+: s := ⟨rest, split.symm⟩
  exact ⟨call, front.isInfix.trans behind.isInfix, inside,
    exists_accepts_iff.mp ⟨form, known, accepts⟩⟩

end Source

theorem Evidence.reason_injective {a b : Evidence} (same : a.reason = b.reason) : a = b := by
  cases a <;> cases b <;> first | rfl | exact absurd same (by decide)

theorem route_of_evidence? {target : Path} {base? : Option Path} {content : Text}
    (found : evidence? target base? content = some .routeCalled) :
    target.apiRoute base? ≠ [] ∧ Source.callsRoute content (target.apiRoute base?) = true := by
  unfold evidence? at found
  split at found
  · cases found
  split at found
  · rename_i called
    simpa using called
  · split at found <;> cases found

theorem Path.isEntryPoint_of_apiRoute {path : Path} {base? : Option Path}
    (route : path.apiRoute base? ≠ []) : path.isEntryPoint base? = true := by
  cases api : path.isApiRoute base? with
  | false => exact absurd (apiRoute_eq_nil_of_not_isApiRoute api) route
  | true => simp [isEntryPoint, api]

/-- Whether a verdict on a path says of the index what is the case. -/
structure Verdict.Sound (verdict : Verdict) (index : Index) (path : Path) (base? : Option Path) :
    Prop where
  path_eq : verdict.path = path
  unused_iff : verdict.used = false ↔ verdict.reason = "no_reference".toList
  referenced_iff : verdict.referencedBy?.isSome = true ↔
    verdict.reason = "name_referenced".toList ∨ verdict.reason = "api_route_called".toList
  source : ∀ other, verdict.referencedBy? = some other →
    other ∈ index.paths ∧ other ≠ path ∧ ∃ content, index.content? other = some content ∧
      (verdict.reason = "name_referenced".toList → path.stem <:+: content) ∧
      (verdict.reason = "api_route_called".toList → path.apiRoute base? ≠ [] ∧
        ∃ call, call <:+: content ∧ path.apiRoute base? <:+: call ∧ Source.IsCall call)

namespace Verdict

theorem used_eq_false_iff_reason {verdict : Verdict} :
    verdict.used = false ↔ verdict.reason = "no_reference".toList :=
  Finding.used_eq_false.trans Finding.reason_eq_reason_unreferenced.symm

/-- A verdict that names no file is sound unless its reason asks for one. -/
theorem sound_of_referencedBy?_eq_none (index : Index) {path : Path} {finding : Finding}
    (base? : Option Path) (nobody : finding.referencedBy? = none)
    (other_reason : finding.reason ≠ "name_referenced".toList ∧
      finding.reason ≠ "api_route_called".toList) :
    (Verdict.mk path finding).Sound index path base? := by
  constructor
  case path_eq => rfl
  case unused_iff => exact used_eq_false_iff_reason
  case referenced_iff =>
    have no_file : (Verdict.mk path finding).referencedBy? = none := nobody
    rw [no_file]
    exact iff_of_false (by decide) (not_or.mpr other_reason)
  case source =>
    intro other named
    rw [referencedBy?, nobody] at named
    cases named

end Verdict

namespace Index

variable {index : Index} {path : Path} {base? : Option Path}

/-- Whether a search for references to a path can find this: nothing, or another file of the
index with the evidence that its text holds. -/
def Finds (index : Index) (path : Path) (base? : Option Path) (finding : Finding) : Prop :=
  finding = .unreferenced ∨
    ∃ other content evidence, finding = .referenced evidence other ∧ other ≠ path ∧
      index.content? other = some content ∧ evidence? path base? content = some evidence

theorem finds_reference (index : Index) (path : Path) (base? : Option Path) :
    index.Finds path base? (index.reference path base?) := by
  rcases index.reference_cases path base? with
    ⟨nothing, _⟩ | ⟨other, content, evidence, here, found, ⟨apart, _⟩, _, passed⟩
  · exact Or.inl nothing
  · exact Or.inr ⟨other, content, evidence, found, apart, here, passed⟩

/-- One step of a search finds what its text is evidence of, or leaves it to the rest. -/
theorem finds_referenceIn {order : List Path} {finding : Finding}
    (searched : index.referenceIn path base? order = .ok finding) :
    index.Finds path base? finding := by
  rw [referenceIn] at searched
  induction order with
  | nil =>
    cases searched
    exact Or.inl rfl
  | cons other order ih =>
    rw [searchIn] at searched
    split at searched
    · exact ih searched
    rename_i apart
    split at searched
    · cases searched
    rename_i content here
    split at searched
    · rename_i evidence passed
      cases searched
      exact Or.inr ⟨other, content, evidence, rfl, by simpa using apart, here, passed⟩
    · exact ih searched

theorem mem_paths_of_content? {other : Path} {content : Text}
    (here : index.content? other = some content) : other ∈ index.paths := by
  obtain ⟨record, member, same, _⟩ := content?_eq_some.mp here
  exact same ▸ List.mem_map_of_mem member

/-- A verdict on what a search finds is sound, and no medium is found by its name. -/
theorem Finds.sound {finding : Finding} (finds : index.Finds path base? finding) :
    (Verdict.mk path finding).Sound index path base? ∧
      (finding.reason = "name_referenced".toList ∨ finding.reason = "api_route_called".toList ∨
        finding.reason = "no_reference".toList) := by
  rcases finds with rfl | ⟨other, content, evidence, rfl, apart, here, passed⟩
  · exact ⟨Verdict.sound_of_referencedBy?_eq_none index base? rfl (by decide),
      Or.inr (Or.inr rfl)⟩
  · have stem := (reason_of_evidence? passed).1
    have stem_or_route : evidence.reason = "name_referenced".toList ∨
        evidence.reason = "api_route_called".toList := by
      cases evidence with
      | stemOccurs => exact Or.inl rfl
      | routeCalled => exact Or.inr rfl
      | mediaNameOccurs => exact absurd passed (evidence?_ne_mediaNameOccurs path base? content)
    refine ⟨?_, stem_or_route.imp_right Or.inl⟩
    constructor
    case path_eq => rfl
    case unused_iff => exact Verdict.used_eq_false_iff_reason
    case referenced_iff => exact iff_of_true rfl stem_or_route
    case source =>
      intro named same
      cases same
      refine ⟨mem_paths_of_content? here, apart, content, here, stem.mp, fun called => ?_⟩
      have route : evidence = .routeCalled := Evidence.reason_injective called
      have ⟨nonempty, calls⟩ := route_of_evidence? (route ▸ passed)
      exact ⟨nonempty, Source.exists_call_of_callsRoute calls⟩

/-- A verdict with the exemption of entry points is sound, and no call of a route decides it. -/
theorem sound_of_entryPoint_or_finds {verdict : Verdict}
    (judged : (path.isEntryPoint base? = true ∧ verdict = ⟨path, .entryPoint⟩) ∨
      (path.isEntryPoint base? = false ∧
        ∃ finding, index.Finds path base? finding ∧ verdict = ⟨path, finding⟩)) :
    verdict.Sound index path base? ∧
      (verdict.reason = "critical_file".toList ∨ verdict.reason = "name_referenced".toList ∨
        verdict.reason = "no_reference".toList) := by
  rcases judged with ⟨_, rfl⟩ | ⟨ordinary, finding, finds, rfl⟩
  · exact ⟨Verdict.sound_of_referencedBy?_eq_none index base? rfl (by decide), Or.inl rfl⟩
  · obtain ⟨sound, named | called | unused⟩ := finds.sound
    · exact ⟨sound, Or.inr (Or.inl named)⟩
    · have some_file := sound.referenced_iff.mpr (Or.inr called)
      obtain ⟨other, named⟩ := Option.isSome_iff_exists.mp some_file
      obtain ⟨_, _, _, _, _, route⟩ := sound.source other named
      have entry := Path.isEntryPoint_of_apiRoute (route called).1
      rw [ordinary] at entry
      cases entry
    · exact ⟨sound, Or.inr (Or.inr unused)⟩

theorem finds_of_map {order : List Path} {verdict : Verdict}
    (searched : (index.referenceIn path base? order).map (Verdict.mk path) = .ok verdict) :
    ∃ finding, index.Finds path base? finding ∧ verdict = ⟨path, finding⟩ := by
  cases done : index.referenceIn path base? order with
  | error unknown =>
    rw [done] at searched
    cases searched
  | ok finding =>
    rw [done] at searched
    cases searched
    exact ⟨finding, finds_referenceIn done, rfl⟩

theorem judge_cases {verdict : Verdict}
    (judged : verdict = index.judge path base? ∨
      ∃ order, index.judgeIn path base? order = .ok verdict) :
    (path.isEntryPoint base? = true ∧ verdict = ⟨path, .entryPoint⟩) ∨
      (path.isEntryPoint base? = false ∧
        ∃ finding, index.Finds path base? finding ∧ verdict = ⟨path, finding⟩) := by
  cases entry : path.isEntryPoint base? with
  | true =>
    left
    rcases judged with rfl | ⟨order, judged⟩
    · rw [judge, if_pos entry]
      exact ⟨rfl, rfl⟩
    · rw [judgeIn, if_pos entry] at judged
      cases judged
      exact ⟨rfl, rfl⟩
  | false =>
    right
    rcases judged with rfl | ⟨order, judged⟩
    · rw [judge, if_neg (by simp [entry])]
      exact ⟨rfl, _, finds_reference index path base?, rfl⟩
    · rw [judgeIn, if_neg (by simp [entry])] at judged
      exact ⟨rfl, finds_of_map judged⟩

/-- Every verdict on a path, in the order of the index or in any other one that meets no
unknown path, is sound. Reasons that the rules have but never give are ruled out. -/
theorem reasons_of_verdicts (index : Index) (path : Path) (base? : Option Path) :
    (path.apiRoute base? ≠ [] → path.isEntryPoint base? = true) ∧
    (∀ verdict, (verdict = index.judge path base? ∨
        ∃ order, index.judgeIn path base? order = .ok verdict) →
      verdict.Sound index path base? ∧
        (verdict.reason = "critical_file".toList ∨ verdict.reason = "name_referenced".toList ∨
          verdict.reason = "no_reference".toList)) ∧
    (∀ verdict, (verdict = ⟨path, index.reference path base?⟩ ∨
        ∃ order, (index.referenceIn path base? order).map (Verdict.mk path) = .ok verdict) →
      verdict.Sound index path base? ∧
        (verdict.reason = "name_referenced".toList ∨ verdict.reason = "api_route_called".toList ∨
          verdict.reason = "no_reference".toList)) := by
  refine ⟨Path.isEntryPoint_of_apiRoute, ?_, ?_⟩
  · intro verdict judged
    exact sound_of_entryPoint_or_finds (judge_cases judged)
  · rintro verdict (rfl | ⟨order, searched⟩)
    · exact (finds_reference index path base?).sound
    · obtain ⟨finding, finds, rfl⟩ := finds_of_map searched
      exact finds.sound

/-- A route that is called by a name of its own is found by the call. The same file is spared
as an entry point. -/
theorem reasons_of_called_route :
    ∃ verdict : Verdict,
      ((ofFile (.ofText "/p/m.js".toList) "/api/a/b".toList).referenceIn
        (.ofText "/p/api/a/.ts".toList) none [.ofText "/p/m.js".toList]).map
          (Verdict.mk (.ofText "/p/api/a/.ts".toList)) = .ok verdict ∧
      verdict.reason = "api_route_called".toList ∧
      verdict.Sound (ofFile (.ofText "/p/m.js".toList) "/api/a/b".toList)
        (.ofText "/p/api/a/.ts".toList) none := by
  have searched : ((ofFile (.ofText "/p/m.js".toList) "/api/a/b".toList).referenceIn
      (.ofText "/p/api/a/.ts".toList) none [.ofText "/p/m.js".toList]).map
        (Verdict.mk (.ofText "/p/api/a/.ts".toList)) =
      .ok ⟨.ofText "/p/api/a/.ts".toList, .referenced .routeCalled (.ofText "/p/m.js".toList)⟩ := by
    decide +kernel
  exact ⟨_, searched, rfl, ((reasons_of_verdicts _ _ none).2.2 _ (Or.inr ⟨_, searched⟩)).1⟩

end Index
end OrphanFiles
