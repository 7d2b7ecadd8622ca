import OrphanFiles.Proofs.Analysis.Extent

/-! Two projects, each with a root of its own, that agree on what a report is made of. They
have the same report, each with its own root in front of the paths. -/
namespace OrphanFiles

theorem Path.text_join_ofLocation (root : Location) {rest : Path}
    (relative : rest.anchor = .relative) (nonempty : rest.names ≠ []) :
    ((ofLocation root).join rest).text = slashed root ++ slashed rest.names := by
  rw [join_relative relative]
  exact text_ofLocation_append root nonempty

namespace FileSystem

/-- Whether two projects have the same sources, byte for byte, and the same assets, size for
size, at the same places below their roots. -/
structure Agrees (fs : FileSystem) (root : Path) (fs' : FileSystem) (root' : Path) : Prop where
  source_iff {rest : Path} (relative : rest.anchor = .relative) :
    fs.IsSource root (root.join rest) ↔ fs'.IsSource root' (root'.join rest)
  bytes_eq {rest : Path} (relative : rest.anchor = .relative)
    (source : fs.IsSource root (root.join rest)) :
    fs.bytesAt (root.join rest) = fs'.bytesAt (root'.join rest)
  asset_iff {rest : Path} (relative : rest.anchor = .relative) :
    fs.IsAsset root (root.join rest) ↔ fs'.IsAsset root' (root'.join rest)
  size_eq {rest : Path} (relative : rest.anchor = .relative)
    (asset : fs.IsAsset root (root.join rest)) :
    (fs.bytesAt (root.join rest)).length = (fs'.bytesAt (root'.join rest)).length

/-- Paths that are each below a root are the rests of a list with the root put in front. -/
theorem exists_rests {root : Path} {members : List Path}
    (inside : ∀ p ∈ members, ∃ rest, rest.IsInner ∧ p = root.join rest) :
    ∃ rests : List Path, (∀ rest ∈ rests, rest.IsInner) ∧ members = rests.map root.join := by
  induction members with
  | nil => exact ⟨[], by simp, rfl⟩
  | cons p members ih =>
    rw [List.forall_mem_cons] at inside
    obtain ⟨rest, inner, rfl⟩ := inside.1
    obtain ⟨rests, inners, rfl⟩ := ih inside.2
    exact ⟨rest :: rests, List.forall_mem_cons.mpr ⟨inner, inners⟩, rfl⟩

/-- Files at the same places below two roots come in the same order. -/
theorem exists_common_rests {root root' : Location} {members members' : List Path}
    (order : InOrder Path.text members) (order' : InOrder Path.text members')
    (inside : ∀ p ∈ members, ∃ rest, rest.IsInner ∧ p = (Path.ofLocation root).join rest)
    (inside' : ∀ p ∈ members', ∃ rest, rest.IsInner ∧ p = (Path.ofLocation root').join rest)
    (same : ∀ rest : Path, rest.anchor = .relative →
      ((Path.ofLocation root).join rest ∈ members ↔ (Path.ofLocation root').join rest ∈ members')) :
    ∃ rests : List Path, (∀ rest ∈ rests, rest.IsInner) ∧
      members = rests.map (Path.ofLocation root).join ∧
      members' = rests.map (Path.ofLocation root').join := by
  obtain ⟨rests, inner, rfl⟩ := exists_rests inside
  refine ⟨rests, inner, rfl, ?_⟩
  have moved : InOrder Path.text (rests.map (Path.ofLocation root').join) := by
    -- Either root stands in front of all texts, so neither has a part in their order.
    have spelled (top : Location) (rest : Path) (member : rest ∈ rests) :
        ((Path.ofLocation top).join rest).text = Path.slashed top ++ Path.slashed rest.names :=
      Path.text_join_ofLocation top (inner rest member).1 (inner rest member).2
    have order := (InOrder.iff_of_append (spelled root)).mp (List.pairwise_map.mp order)
    exact List.pairwise_map.mpr ((InOrder.iff_of_append (spelled root')).mpr order)
  apply order'.eq_of_mem_iff moved
  intro p
  constructor
  · intro member
    obtain ⟨rest, inner', rfl⟩ := inside' p member
    obtain ⟨rest', known, joined⟩ := List.mem_map.mp ((same rest inner'.1).mpr member)
    have found := Path.join_injective (inner rest' known).1 inner'.1 joined
    exact List.mem_map_of_mem (found ▸ known)
  · intro member
    obtain ⟨rest, known, rfl⟩ := List.mem_map.mp member
    exact (same rest (inner rest known).1).mp (List.mem_map_of_mem known)

theorem exists_join_of_holds {fs : FileSystem} {root sub path : Path}
    (relative : sub.anchor = .relative) (held : fs.Holds (root.join sub) path) :
    ∃ rest, rest.IsInner ∧ path = root.join rest := by
  obtain ⟨way, name, _, same, _⟩ := held
  exact Path.IsBelow.exists_join relative ⟨way ++ [name], by simp, same⟩

theorem inner_of_holds {fs : FileSystem} {root sub rest : Path} (relative : sub.anchor = .relative)
    (relative' : rest.anchor = .relative) (held : fs.Holds (root.join sub) (root.join rest)) :
    rest.IsInner := by
  obtain ⟨rest', inner, same⟩ := exists_join_of_holds relative held
  exact Path.join_injective relative' inner.1 same ▸ inner

variable {fs fs' : FileSystem} {root root' : Location} {sources assets sources' assets' : List Path}

/-- Projects that agree have one report, put under the one root and under the other. -/
theorem Agrees.reportOf (agree : Agrees fs (.ofLocation root) fs' (.ofLocation root'))
    (survey : fs.Surveys (.ofLocation root) sources assets)
    (survey' : fs'.Surveys (.ofLocation root') sources' assets') :
    ∃ report : Report, report.Relative ∧ report.Measured ∧ ∀ time,
      fs.reportOf (.ofLocation root) sources assets time = report.placed (.ofLocation root) time ∧
      fs'.reportOf (.ofLocation root') sources' assets' time =
        report.placed (.ofLocation root') time := by
  obtain ⟨rests, inner, rfl, rfl⟩ := exists_common_rests
    survey.sources_inOrder survey'.sources_inOrder
    (fun p member => exists_join_of_holds (by decide) ((survey.mem_sources p).mp member).1)
    (fun p member => exists_join_of_holds (by decide) ((survey'.mem_sources p).mp member).1)
    fun rest relative => by
      rw [survey.mem_sources, survey'.mem_sources, agree.source_iff relative]
  obtain ⟨media, inner', rfl, rfl⟩ := exists_common_rests
    survey.assets_inOrder survey'.assets_inOrder
    (fun p member => exists_join_of_holds (by decide) ((survey.mem_assets p).mp member).1)
    (fun p member => exists_join_of_holds (by decide) ((survey'.mem_assets p).mp member).1)
    fun rest relative => by
      rw [survey.mem_assets, survey'.mem_assets, agree.asset_iff relative]
  have same : unnamedInner (fun rest => fs.bytesAt ((Path.ofLocation root).join rest)) rests media =
      unnamedInner (fun rest => fs'.bytesAt ((Path.ofLocation root').join rest)) rests media :=
    unnamedInner_congr
      (fun rest member => agree.bytes_eq (inner rest member).1
        ((survey.mem_sources _).mp (List.mem_map_of_mem member)))
      (fun rest member => agree.size_eq (inner' rest member).1
        ((survey.mem_assets _).mp (List.mem_map_of_mem member)))
  refine ⟨_, innerReport_relative _ inner inner', innerReport_measured _ _ _, fun time =>
    ⟨fs.reportOf_join _ inner inner' time, ?_⟩⟩
  rw [fs'.reportOf_join _ inner inner' time, innerReport, ← same]
  rfl

/-- Whether the same files stand at the same places below two directories. -/
def SameFiles (fs : FileSystem) (top : Location) (fs' : FileSystem) (top' : Location) : Prop :=
  ∀ below bytes, fs.at? (top ++ below) = some (.file bytes) ↔
    fs'.at? (top' ++ below) = some (.file bytes)

namespace SameFiles

theorem symm {top top' : Location} (same : SameFiles fs top fs' top') :
    SameFiles fs' top' fs top :=
  fun below bytes => (same below bytes).symm

theorem deeper {top top' : Location} (same : SameFiles fs top fs' top') (further : Location) :
    SameFiles fs (top ++ further) fs' (top' ++ further) := by
  intro below bytes
  rw [List.append_assoc, List.append_assoc]
  exact same (further ++ below) bytes

theorem of_at? {top top' : Location} (same : fs.at? top = fs'.at? top') :
    SameFiles fs top fs' top' := by
  intro below bytes
  rw [at?_append, at?_append, same]

variable {part : Name} (same : SameFiles fs (root ++ [part]) fs' (root' ++ [part])) {rest : Path}
  (relative : rest.anchor = .relative)
include same relative

theorem holds (held : fs.Holds (.ofLocation (root ++ [part])) ((Path.ofLocation root).join rest)) :
    fs'.Holds (.ofLocation (root' ++ [part])) ((Path.ofLocation root').join rest) ∧
      fs.bytesAt ((Path.ofLocation root).join rest) =
        fs'.bytesAt ((Path.ofLocation root').join rest) := by
  obtain ⟨way, name, bytes, joined, there, entered⟩ := held
  rw [joined] at there
  have names : rest.names = [part] ++ (way ++ [name]) := by
    rw [Path.join_relative relative] at joined
    simpa [Path.ofLocation] using joined
  have joined' : (Path.ofLocation root').join rest =
      .ofLocation ((root' ++ [part]) ++ (way ++ [name])) := by
    rw [Path.join_relative relative, names]
    simp [Path.ofLocation]
  have there' := (same (way ++ [name]) bytes).mp there
  rw [joined, joined', bytesAt, bytesAt]
  refine ⟨⟨way, name, bytes, rfl, there', entered⟩, ?_⟩
  simp only [Path.ofLocation] at there ⊢
  rw [there, there']

end SameFiles

section Parts

variable {rest : Path} (relative : rest.anchor = .relative)
include relative

theorem SameFiles.isSource
    (same : SameFiles fs (root ++ [Project.sourceName]) fs' (root' ++ [Project.sourceName]))
    (source : fs.IsSource (.ofLocation root) ((Path.ofLocation root).join rest)) :
    fs'.IsSource (.ofLocation root') ((Path.ofLocation root').join rest) ∧
      fs.bytesAt ((Path.ofLocation root).join rest) =
        fs'.bytesAt ((Path.ofLocation root').join rest) := by
  obtain ⟨held, suffix⟩ := source
  have nonempty := (inner_of_holds (by decide) relative held).2
  rw [Project.join_sourceDirectory] at held
  have moved := same.holds relative held
  rw [IsSource, Project.join_sourceDirectory, Path.suffix_join relative nonempty]
  rw [Path.suffix_join relative nonempty] at suffix
  exact ⟨⟨moved.1, suffix⟩, moved.2⟩

theorem SameFiles.isAsset
    (same : SameFiles fs (root ++ [Project.assetName]) fs' (root' ++ [Project.assetName]))
    (asset : fs.IsAsset (.ofLocation root) ((Path.ofLocation root).join rest)) :
    fs'.IsAsset (.ofLocation root') ((Path.ofLocation root').join rest) ∧
      fs.bytesAt ((Path.ofLocation root).join rest) =
        fs'.bytesAt ((Path.ofLocation root').join rest) := by
  obtain ⟨held, outside⟩ := asset
  rw [Project.join_assetDirectory] at held
  have moved := same.holds relative held
  have subpaths : ∀ subpath ∈ Convention.ignoredSubpaths,
      (Path.ofText subpath).anchor = .relative := by
    decide
  refine ⟨⟨Project.join_assetDirectory root' ▸ moved.1, ?_⟩, moved.2⟩
  intro subpath member
  have here := outside subpath member
  rw [Path.isBelow_join_join relative (subpaths subpath member)] at here ⊢
  exact here

end Parts

/-- Projects with the same files in both parts agree. -/
theorem Agrees.of_sameFiles
    (sources : SameFiles fs (root ++ [Project.sourceName]) fs' (root' ++ [Project.sourceName]))
    (assets : SameFiles fs (root ++ [Project.assetName]) fs' (root' ++ [Project.assetName])) :
    Agrees fs (.ofLocation root) fs' (.ofLocation root') where
  source_iff relative := ⟨fun source => (sources.isSource relative source).1,
    fun source => (sources.symm.isSource relative source).1⟩
  bytes_eq relative source := (sources.isSource relative source).2
  asset_iff relative := ⟨fun asset => (assets.isAsset relative asset).1,
    fun asset => (assets.symm.isAsset relative asset).1⟩
  size_eq relative asset := congrArg List.length (assets.isAsset relative asset).2

/-- A scan of each of two projects that agree gives the one report. -/
theorem PlainBelow.analyze_agree (plain : fs.PlainBelow root) (plain' : fs'.PlainBelow root')
    (agree : Agrees fs (.ofLocation root) fs' (.ofLocation root')) {path path' : Path}
    (resolved : fs.resolve path = .ok (.ofLocation root))
    (resolved' : fs'.resolve path' = .ok (.ofLocation root'))
    (short : Utf8.size ((Path.ofLocation root).join Project.assetDirectory).text < pathLimit)
    (short' : Utf8.size ((Path.ofLocation root').join Project.assetDirectory).text < pathLimit)
    (time time' : Text) : ∃ report : Report, report.Relative ∧ report.Measured ∧
      (fs.analyze path time).result = .ok (report.placed (.ofLocation root) time) ∧
      (fs'.analyze path' time').result = .ok (report.placed (.ofLocation root') time') := by
  obtain ⟨sources, assets, survey, scanned⟩ := plain.analyze_of_short resolved short time
  obtain ⟨sources', assets', survey', scanned'⟩ := plain'.analyze_of_short resolved' short' time'
  obtain ⟨report, relative, measured, same⟩ := agree.reportOf survey survey'
  refine ⟨report, relative, measured, ?_, ?_⟩
  · rw [scanned, (same time).1]
  · rw [scanned', (same time').2]

end FileSystem
end OrphanFiles
