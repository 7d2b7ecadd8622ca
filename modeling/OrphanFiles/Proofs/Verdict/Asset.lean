import OrphanFiles.Proofs.Verdict.Reference

/-! Verdicts on public assets. An asset is used if it is kept by convention, or if some
indexed text holds its full name. The rest of the list of assets plays no part, nor does the
order in which the index was filled. -/
namespace OrphanFiles

namespace Convention

/-- The names of assets that are fetched without being named. -/
def IsKeptName (name : Text) : Prop :=
  name = "robots.txt".toList ∨ name = "sitemap.xml".toList ∨ "segment_".toList <:+: name ∨
    ".m4s".toList <:+ name

theorem isKeptAsset_iff {name : Text} : isKeptAsset name = true ↔ IsKeptName name := by
  simp only [isKeptAsset, IsKeptName, Bool.or_eq_true, decide_eq_true_eq, Text.occursIn_iff,
    List.isSuffixOf_iff_suffix, or_assoc]

end Convention

theorem assetEvidence?_eq_some {target : Path} {content : Text} {evidence : Evidence} :
    assetEvidence? target content = some evidence ↔
      evidence = .mediaNameOccurs ∧ target.name <:+: content := by
  rw [assetEvidence?, ← Text.occursIn_iff]
  split <;> simp [*, eq_comm]

namespace Index

/-- Whether an indexed text holds the full name of an asset. -/
def Names (index : Index) (asset other : Path) : Prop :=
  ∃ content, index.content? other = some content ∧ asset.name <:+: content

theorem judgeAsset_cases (index : Index) (asset : Path) :
    (Convention.IsKeptName asset.name ∧ index.judgeAsset asset = ⟨asset, .keptAsset⟩) ∨
    (¬ Convention.IsKeptName asset.name ∧ index.judgeAsset asset = ⟨asset, .unreferenced⟩ ∧
      ∀ other, ¬ index.Names asset other) ∨
    (¬ Convention.IsKeptName asset.name ∧ ∃ other,
      index.judgeAsset asset = ⟨asset, .referenced .mediaNameOccurs other⟩ ∧
      index.Names asset other ∧
      ∀ rival, index.Names asset rival → other.text.precedes rival.text = true) := by
  rw [judgeAsset, ← Convention.isKeptAsset_iff]
  by_cases kept : Convention.isKeptAsset asset.name = true
  · rw [if_pos kept]
    exact Or.inl ⟨kept, rfl⟩
  · rw [if_neg kept]
    right
    rcases index.search_cases fun _ content => assetEvidence? asset content with
      ⟨nothing, missed⟩ | ⟨other, content, evidence, here, passed, found, least⟩
    · left
      refine ⟨kept, by rw [nothing], ?_⟩
      rintro other ⟨content, here, named⟩
      have passed := assetEvidence?_eq_some.mpr ⟨rfl, named⟩
      rw [missed other content here] at passed
      cases passed
    · right
      obtain ⟨rfl, named⟩ := assetEvidence?_eq_some.mp passed
      refine ⟨kept, other, by rw [found], ⟨content, here, named⟩, ?_⟩
      rintro rival ⟨text, here', named'⟩
      have passed' := assetEvidence?_eq_some.mpr ⟨rfl, named'⟩
      exact least rival text here' (Option.isSome_of_eq_some passed')

theorem judgeAsset_used {index : Index} {path : Path} :
    (index.judgeAsset path).used = true ↔
      Convention.isKeptAsset path.name = true ∨
        ∃ other content, index.content? other = some content ∧ path.name <:+: content := by
  rw [Convention.isKeptAsset_iff]
  rcases index.judgeAsset_cases path with
    ⟨kept, judged⟩ | ⟨ordinary, judged, missed⟩ | ⟨_, other, judged, named, _⟩
  · exact iff_of_true (judged ▸ rfl) (Or.inl kept)
  · rw [judged]
    exact iff_of_false Bool.false_ne_true
      (not_or.mpr ⟨ordinary, fun ⟨other, named⟩ => missed other named⟩)
  · exact iff_of_true (judged ▸ rfl) (Or.inr ⟨other, named⟩)

theorem judgeAsset_congr {a b : Index} (same : ∀ path, a.content? path = b.content? path)
    (asset : Path) : a.judgeAsset asset = b.judgeAsset asset := by
  rw [judgeAsset, judgeAsset, search_congr same fun _ content => assetEvidence? asset content]

/-- What a verdict on an asset says, and that it is borne out by the index. -/
structure OnAsset (index : Index) (verdict : Verdict) : Prop where
  used_iff : verdict.used = true ↔ Convention.IsKeptName verdict.path.name ∨
    ∃ other, index.Names verdict.path other
  kept : Convention.IsKeptName verdict.path.name →
    verdict.reason = "always_kept_asset".toList ∧ verdict.referencedBy? = none
  named : ¬ Convention.IsKeptName verdict.path.name → verdict.used = true →
    verdict.reason = "media_referenced".toList ∧ ∃ other, verdict.referencedBy? = some other ∧
      index.Names verdict.path other ∧
      ∀ rival, index.Names verdict.path rival → other.text.precedes rival.text = true
  unused : verdict.used = false →
    verdict.reason = "no_reference".toList ∧ verdict.referencedBy? = none

theorem onAsset_judgeAsset (index : Index) (asset : Path) :
    index.OnAsset (index.judgeAsset asset) := by
  have used : (index.judgeAsset asset).used = true ↔
      Convention.IsKeptName asset.name ∨ ∃ other, index.Names asset other := by
    rw [← Convention.isKeptAsset_iff]
    exact judgeAsset_used
  rcases index.judgeAsset_cases asset with
    ⟨kept, judged⟩ | ⟨ordinary, judged, missed⟩ | ⟨ordinary, other, judged, named, least⟩
  all_goals rw [judged] at used ⊢
  · exact ⟨used, fun _ => ⟨rfl, rfl⟩, fun ordinary => absurd kept ordinary,
      fun free => nomatch free⟩
  · exact ⟨used, fun kept => absurd kept ordinary, fun _ found => absurd found Bool.false_ne_true,
      fun _ => ⟨rfl, rfl⟩⟩
  · exact ⟨used, fun kept => absurd kept ordinary,
      fun _ _ => ⟨rfl, other, rfl, named, least⟩, fun free => nomatch free⟩

/-- A list of assets has one verdict for each, where it first occurs. The verdict is settled by
the asset and the texts of the index, and a file that is found by its full name would be found
by its stem as well. -/
theorem judgeAssets_exact (index : Index) (assets : List Path) :
    (((index.judgeAssets assets).map Verdict.path).Nodup ∧
      (∀ path, path ∈ (index.judgeAssets assets).map Verdict.path ↔ path ∈ assets) ∧
      ((index.judgeAssets assets).map Verdict.path).Pairwise fun p q =>
        assets.idxOf p < assets.idxOf q) ∧
    (∀ verdict ∈ index.judgeAssets assets, index.OnAsset verdict) ∧
    (∀ records, records.Perm index.records → ∀ others,
      ∀ verdict ∈ index.judgeAssets assets, ∀ verdict' ∈ (ofRecords records).judgeAssets others,
        verdict'.path = verdict.path → verdict' = verdict) ∧
    ∀ path, path ∉ index.paths → (index.judgeAsset path).reason = "media_referenced".toList →
      ∀ base?, (index.reference path base?).used = true := by
  have paths : (index.judgeAssets assets).map Verdict.path = assets.eraseDups := by
    simp [judgeAssets, judgeAsset, Function.comp_def]
  rw [paths]
  refine ⟨⟨nodup_eraseDups assets, fun _ => List.mem_eraseDups, eraseDups_pairwise_idxOf assets⟩,
    ?_, ?_, ?_⟩
  · intro verdict member
    obtain ⟨asset, _, rfl⟩ := List.mem_map.mp member
    exact index.onAsset_judgeAsset asset
  · intro records perm others verdict member verdict' member' same
    obtain ⟨asset, _, rfl⟩ := List.mem_map.mp member
    obtain ⟨asset', _, rfl⟩ := List.mem_map.mp member'
    have one : asset' = asset := same
    rw [one, judgeAsset_congr (content?_ofRecords_of_perm perm)]
  · intro path foreign reason base?
    have kept : Finding.keptAsset.reason ≠ "media_referenced".toList := by decide
    have unused : Finding.unreferenced.reason ≠ "media_referenced".toList := by decide
    rcases index.judgeAsset_cases path with
      ⟨_, judged⟩ | ⟨_, judged, _⟩ | ⟨_, other, _, ⟨content, here, named⟩, _⟩
    · rw [judged] at reason
      exact absurd reason kept
    · rw [judged] at reason
      exact absurd reason unused
    · obtain ⟨record, member, at_path, _⟩ := content?_eq_some.mp here
      have apart : other ≠ path := by
        rintro rfl
        exact foreign (at_path ▸ List.mem_map_of_mem member)
      have refers : Refers path base? content := Or.inl ((stem_infix_name path).trans named)
      exact reference_used.mpr ⟨other, apart, content, here, refers⟩

end Index
end OrphanFiles
