import OrphanFiles.Proofs.Analysis.Survey

/-! What a scan of a plain file system reports: the files of a project that nothing
names, and nothing else. The search for calls of routes never matters here, since a file
that answers for a route is an entry point. -/
namespace OrphanFiles

namespace Outcome

theorem result_andThen {first : Outcome α} {value : α} (done : first.result = .ok value)
    (next : α → Outcome β) : (first.andThen next).result = (next value).result := by
  rw [andThen, done]

end Outcome

namespace FileSystem

/-- Whether an index holds the sources with the texts that stand in the files. -/
structure Indexes (fs : FileSystem) (index : Index) (sources : List Path) : Prop where
  ordered : index.ordered = sources
  content? (path : Path) (content : Text) :
    index.content? path = some content ↔ path ∈ sources ∧ fs.textAt path = content

namespace Indexes

variable {fs : FileSystem} {index : Index} {sources : List Path}
  (indexes : fs.Indexes index sources)
include indexes

theorem hits_iff {root path other : Path} (ordinary : path.isEntryPoint (some root) = false) :
    index.Hits path (some root) other ↔
      other ≠ path ∧ other ∈ sources ∧ path.stem <:+: fs.textAt other := by
  -- A file that answers for a route is an entry point, so only the stem can refer to it.
  have outside : path.isApiRoute (some root) = false := by
    rw [Path.isEntryPoint, Bool.or_eq_false_iff, Bool.or_eq_false_iff] at ordinary
    exact ordinary.1.2
  have route : path.apiRoute (some root) = [] := Path.apiRoute_eq_nil_of_not_isApiRoute outside
  rw [Index.Hits]
  constructor
  · rintro ⟨apart, content, here, refers⟩
    obtain ⟨member, same⟩ := (indexes.content? other content).mp here
    have stem := refers.resolve_right fun calls => calls.1 route
    exact ⟨apart, member, same ▸ stem⟩
  · rintro ⟨apart, member, stem⟩
    exact ⟨apart, _, (indexes.content? other _).mpr ⟨member, rfl⟩, Or.inl stem⟩

theorem judge_used_eq_false {root path : Path} :
    (index.judge path (some root)).used = false ↔
      fs.isUnnamedSource root sources path = true := by
  rw [← Bool.not_eq_true, Index.judge_used, isUnnamedSource, Bool.and_eq_true, not_or,
    Bool.not_eq_true, Bool.not_eq_true', List.all_eq_true]
  refine and_congr_right fun ordinary => ?_
  rw [Index.reference_used]
  constructor
  · intro missed other member
    by_cases same : other = path
    · simp [same]
    · have absent : ¬ path.stem <:+: fs.textAt other := fun stem =>
        missed ⟨other, (indexes.hits_iff ordinary).mpr ⟨same, member, stem⟩⟩
      rw [← Text.occursIn_iff, Bool.not_eq_true] at absent
      simp [absent]
  · intro clear ⟨other, hits⟩
    obtain ⟨apart, member, stem⟩ := (indexes.hits_iff ordinary).mp hits
    have absent := clear other member
    rw [Text.occursIn_iff.mpr stem] at absent
    simp [apart] at absent

theorem judgeAsset_used_eq_false {asset : Path} :
    (index.judgeAsset asset).used = false ↔ fs.isUnnamedAsset sources asset = true := by
  rw [← Bool.not_eq_true, Index.judgeAsset_used, isUnnamedAsset, Bool.and_eq_true, not_or,
    Bool.not_eq_true, Bool.not_eq_true', List.all_eq_true]
  refine and_congr_right fun _ => ?_
  constructor
  · intro missed source member
    have absent : ¬ asset.name <:+: fs.textAt source := fun named =>
      missed ⟨source, _, (indexes.content? source _).mpr ⟨member, rfl⟩, named⟩
    rw [← Text.occursIn_iff, Bool.not_eq_true] at absent
    rw [absent]
    rfl
  · intro clear ⟨source, content, here, named⟩
    obtain ⟨member, same⟩ := (indexes.content? source content).mp here
    have absent := clear source member
    rw [Text.occursIn_iff.mpr (same ▸ named)] at absent
    cases absent

theorem unused_judgeAll (root : Path) :
    ((index.judgeAll (some root)).filter fun verdict => !verdict.used).map Verdict.path =
      sources.filter (fs.isUnnamedSource root sources) := by
  rw [Index.judgeAll, indexes.ordered, List.filter_map, List.map_map]
  have unused : ((fun verdict : Verdict => !verdict.used) ∘ fun path =>
      index.judge path (some root)) = fs.isUnnamedSource root sources := by
    funext path
    rw [Function.comp_apply, Bool.eq_iff_iff, Bool.not_eq_true', indexes.judge_used_eq_false]
  rw [unused]
  exact List.map_id _

theorem unused_judgeAssets {assets : List Path} (distinct : assets.Nodup) :
    ((index.judgeAssets assets).filter fun verdict => !verdict.used).map Verdict.path =
      assets.filter (fs.isUnnamedAsset sources) := by
  rw [Index.judgeAssets, eraseDups_eq_self distinct, List.filter_map, List.map_map]
  have unused : ((fun verdict : Verdict => !verdict.used) ∘ index.judgeAsset) =
      fs.isUnnamedAsset sources := by
    funext asset
    rw [Function.comp_apply, Bool.eq_iff_iff, Bool.not_eq_true', indexes.judgeAsset_used_eq_false]
  rw [unused]
  exact List.map_id _

/-- All files that nothing names are measured, sources before assets. -/
theorem orphans (root : Path) {assets : List Path} (distinct : assets.Nodup)
    (readable : ∀ path, path ∈ sources ∨ path ∈ assets → fs.read path = .ok (fs.bytesAt path)) :
    (fs.orphans root index assets).result = .ok (fs.unnamed root sources assets) := by
  have judged : ∀ verdict ∈ index.judgeAll (some root),
      fs.read verdict.path = .ok (fs.bytesAt verdict.path) := by
    intro verdict member
    obtain ⟨path, inside, same⟩ := List.mem_map.mp member
    rw [indexes.ordered] at inside
    exact same ▸ readable path (Or.inl inside)
  have judgedAssets : ∀ verdict ∈ index.judgeAssets assets,
      fs.read verdict.path = .ok (fs.bytesAt verdict.path) := by
    intro verdict member
    obtain ⟨path, inside, same⟩ := List.mem_map.mp member
    rw [eraseDups_eq_self distinct] at inside
    exact same ▸ readable path (Or.inr inside)
  rw [FileSystem.orphans, Outcome.result_andThen rfl, appendOrphans_of_readable judged,
    Outcome.done_andThen, appendOrphans_of_readable judgedAssets, indexes.unused_judgeAll root,
    indexes.unused_judgeAssets distinct]
  rfl

end Indexes

theorem result_list {fs : FileSystem} {path base : Path} {listing : Listing}
    (listed : fs.listFiles path base = .ok listing) :
    (fs.list path base).result = .ok listing.files := by
  rw [list, listed]

/-- A part of a project on a path that the system refuses ends the scan. -/
theorem list_overlong (fs : FileSystem) (base : Path) {location : Location}
    (storable : ∀ name ∈ location, name.Storable)
    (long : pathLimit ≤ Utf8.size (Path.ofLocation location).text) :
    fs.list (.ofLocation location) base =
      .fail (.access (Path.ofLocation location).text .nameTooLong) := by
  have refused := fs.directory?_overlong storable long
  have failed : fs.listFiles (.ofLocation location) base = .error .nameTooLong := by
    rw [listFiles, refused]
    rfl
  rw [list, failed]

/-- The sources and the assets of a project, each once and in the order of their texts. -/
structure Surveys (fs : FileSystem) (root : Path) (sources assets : List Path) : Prop where
  sources_inOrder : InOrder Path.text sources
  mem_sources (path : Path) : path ∈ sources ↔ fs.IsSource root path
  assets_inOrder : InOrder Path.text assets
  mem_assets (path : Path) : path ∈ assets ↔ fs.IsAsset root path

theorem size_join_le (root : Location) :
    Utf8.size ((Path.ofLocation root).join Project.sourceDirectory).text ≤
      Utf8.size ((Path.ofLocation root).join Project.assetDirectory).text := by
  have shorter : Utf8.size (Path.slashed [Project.sourceName]) ≤
      Utf8.size (Path.slashed [Project.assetName]) := by decide
  rw [Project.join_sourceDirectory, Project.join_assetDirectory,
    Path.text_ofLocation_append root (by simp), Path.text_ofLocation_append root (by simp),
    Utf8.size_append, Utf8.size_append]
  omega

/-- The first part of a project whose path the system refuses, if it refuses one. -/
def refusedPart (root : Path) : Path :=
  if pathLimit ≤ Utf8.size (root.join Project.sourceDirectory).text then Project.sourceDirectory
  else Project.assetDirectory

theorem PlainBelow.resolve {fs : FileSystem} {root : Location} (plain : fs.PlainBelow root) :
    fs.resolve (.ofLocation root) = .ok (.ofLocation root) := by
  obtain ⟨entries, found⟩ := plain.directory
  exact resolve_ofLocation (plain.storable (List.prefix_refl _) found) found

namespace PlainBelow

variable {fs : FileSystem} {root : Location} (plain : fs.PlainBelow root) {path : Path}
  (resolved : fs.resolve path = .ok (.ofLocation root))
include plain resolved

theorem analyze_overlong
    (long : pathLimit ≤ Utf8.size ((Path.ofLocation root).join Project.assetDirectory).text)
    (time : Text) : (fs.analyze path time).result =
      .error (.access ((Path.ofLocation root).join (refusedPart (.ofLocation root))).text
        .nameTooLong) := by
  obtain ⟨entries, found⟩ := plain.directory
  have storable := plain.storable (List.prefix_refl _) found
  simp only [analyze, resolved, refusedPart]
  by_cases short : Utf8.size ((Path.ofLocation root).join Project.sourceDirectory).text < pathLimit
  · obtain ⟨listing, listed, _⟩ := plain.list_sources short
    have refused := fs.list_overlong (.ofLocation root)
      (storable_concat storable Project.storable_assetName) (Project.join_assetDirectory _ ▸ long)
    rw [← Project.join_assetDirectory] at refused
    rw [if_neg (Nat.not_le_of_lt short), Outcome.result_andThen (result_list listed), refused]
    rfl
  · have long := Nat.le_of_not_lt short
    have refused := fs.list_overlong (.ofLocation root)
      (storable_concat storable Project.storable_sourceName) (Project.join_sourceDirectory _ ▸ long)
    rw [← Project.join_sourceDirectory] at refused
    rw [if_pos long, refused]
    rfl

theorem analyze_of_short
    (short : Utf8.size ((Path.ofLocation root).join Project.assetDirectory).text < pathLimit)
    (time : Text) :
    ∃ sources assets, fs.Surveys (.ofLocation root) sources assets ∧
      (fs.analyze path time).result = .ok (fs.reportOf (.ofLocation root) sources assets time) := by
  obtain ⟨sources, listed, order, members⟩ :=
    plain.list_sources (Nat.lt_of_le_of_lt (size_join_le _) short)
  obtain ⟨assets, listedAssets, orderAssets, membersAssets⟩ := plain.list_assets short
  have readable (path : Path) (member : path ∈ sources.files.filter Project.isSource ∨
      path ∈ assets.files) : fs.read path = .ok (fs.bytesAt path) := by
    rcases member with source | asset
    · have held := ((members path).mp source).1
      rw [Project.join_sourceDirectory] at held
      exact plain.read_of_holds (List.prefix_append _ _) held
    · have held := ((membersAssets path).mp asset).1
      rw [Project.join_assetDirectory] at held
      exact plain.read_of_holds (List.prefix_append _ _) held
  obtain ⟨index, built, ordered, content⟩ :=
    buildIndex_of_readable order fun path member => readable path (Or.inl member)
  have indexes : fs.Indexes index (sources.files.filter Project.isSource) := ⟨ordered, content⟩
  have judged := indexes.orphans (.ofLocation root) orderAssets.nodup readable
  refine ⟨_, _, ⟨order, members, orderAssets, membersAssets⟩, ?_⟩
  simp only [analyze, resolved]
  rw [Outcome.result_andThen (result_list listed), Outcome.result_andThen (result_list listedAssets),
    Outcome.result_andThen rfl, built, Outcome.done_andThen, Outcome.result_andThen judged]
  rfl

end PlainBelow

namespace Plain

variable {fs : FileSystem} (plain : fs.Plain) {path : Path} {arrival : Arrival}
  (found : fs.locate .follow path = .ok arrival) {entries : List (Name × Node)}
  (directory : arrival.node? = some (.directory entries))
include plain found directory

theorem at?_location : fs.at? arrival.location = some (.directory entries) := by
  rw [locate] at found
  split at found
  · cases found
  split at found
  · cases found
  rw [← (plain.walk_location found).2, directory]

theorem analyze_overlong
    (long : pathLimit ≤
      Utf8.size ((Path.ofLocation arrival.location).join Project.assetDirectory).text)
    (time : Text) :
    ∃ part ∈ [Project.sourceDirectory, Project.assetDirectory], (fs.analyze path time).result =
      .error (.access ((Path.ofLocation arrival.location).join part).text .nameTooLong) := by
  have below := plain.below (plain.at?_location found directory)
  refine ⟨_, ?_, below.analyze_overlong (plain.resolve found directory) long time⟩
  rw [refusedPart]
  split <;> simp

theorem analyze_of_short
    (short : Utf8.size ((Path.ofLocation arrival.location).join Project.assetDirectory).text <
      pathLimit) (time : Text) :
    ∃ sources assets, fs.Surveys (.ofLocation arrival.location) sources assets ∧
      (fs.analyze path time).result =
        .ok (fs.reportOf (.ofLocation arrival.location) sources assets time) := by
  have below := plain.below (plain.at?_location found directory)
  exact below.analyze_of_short (plain.resolve found directory) short time

/-- A scan reports exactly the files that nothing names, in the order of path texts, unless
a part of the project has a path that the system refuses. -/
theorem analyze_exact (time : Text) :
    (Utf8.size ((Path.ofLocation arrival.location).join Project.assetDirectory).text <
        pathLimit →
      ∃ sources assets, fs.Surveys (.ofLocation arrival.location) sources assets ∧
        (fs.analyze path time).result =
          .ok (fs.reportOf (.ofLocation arrival.location) sources assets time)) ∧
    (pathLimit ≤
        Utf8.size ((Path.ofLocation arrival.location).join Project.assetDirectory).text →
      ∃ part ∈ [Project.sourceDirectory, Project.assetDirectory], (fs.analyze path time).result =
        .error (.access ((Path.ofLocation arrival.location).join part).text .nameTooLong)) :=
  ⟨fun short => plain.analyze_of_short found directory short time,
    fun long => plain.analyze_overlong found directory long time⟩

end Plain

def sampleName : Name := ⟨"shop".toList, by decide⟩

/-- A project with a source that another one imports, one that nothing names, a source in an
ignored directory, and an asset. -/
def sampleProject : List (Name × Node) := [
  (Project.sourceName, .directory [
    (⟨"main.ts".toList, by decide⟩, .file (Utf8.encode "import './cart'".toList)),
    (⟨"cart.ts".toList, by decide⟩, .file []),
    (⟨"dist".toList, by decide⟩, .directory [(⟨"old.js".toList, by decide⟩, .file [])])]),
  (Project.assetName, .directory [(⟨"logo.png".toList, by decide⟩, .file [0x89])])]

def sampleSystem : FileSystem where
  root := .directory [(sampleName, .directory sampleProject)]
  workingDirectory := [sampleName, Project.sourceName]
  unlisted := []

/-- The scan of the sample from inside its sources. -/
theorem analyze_exact_sample :
    sampleSystem.Plain ∧
    sampleSystem.locate .follow (.ofText "..".toList) =
      .ok ⟨[sampleName], some (.directory sampleProject), false⟩ ∧
    ∃ sources assets, sampleSystem.Surveys (.ofText "/shop".toList) sources assets ∧
      (sampleSystem.analyze (.ofText "..".toList) []).result =
        .ok (sampleSystem.reportOf (.ofText "/shop".toList) sources assets []) := by
  have plain : sampleSystem.Plain := plain_of_isPlain (by decide +kernel)
  have found : sampleSystem.locate .follow (.ofText "..".toList) =
      .ok ⟨[sampleName], some (.directory sampleProject), false⟩ := by
    have start : sampleSystem.locate .follow (.ofText "..".toList) =
        sampleSystem.walk .follow linkLimit [sampleName, Project.sourceName] [Name.parent.text] := rfl
    rw [start, walk, if_neg (by decide), if_pos rfl, walk]
    rfl
  have short : Utf8.size ((Path.ofLocation [sampleName]).join Project.assetDirectory).text <
      pathLimit := by decide
  exact ⟨plain, found, (plain.analyze_exact found rfl []).1 short⟩

/-- A name of the letter a, one more time than told. -/
def repeatedName (more : Nat) : Name where
  text := 'a' :: List.replicate more 'a'
  proper := by simp [List.mem_replicate]

/-- Directories inside each other and nothing else. -/
def chain : Location → Node
  | [] => .directory []
  | name :: below => .directory [(name, chain below)]

theorem at?_chain (location : Location) : (chain location).at? location = some (.directory []) := by
  induction location with
  | nil => rfl
  | cons name below ih => simpa [Node.at?, Node.child?, Node.entries, chain] using ih

/-- A directory so deep that its own path can still be looked up, but no longer one. -/
def deepLocation : Location :=
  List.replicate 15 (repeatedName 254) ++ [repeatedName 251]

def deepSystem : FileSystem := ⟨chain deepLocation, [], []⟩

theorem plain_deepSystem : deepSystem.Plain :=
  plain_of_isPlain (by decide +kernel)

theorem deepLocation_overlong : pathLimit ≤
    Utf8.size ((Path.ofLocation deepLocation).join Project.assetDirectory).text := by
  decide +kernel

/-- A project whose parts have paths that the system refuses gets no report. -/
theorem no_report_of_deep_root :
    deepSystem.Plain ∧
    deepSystem.locate .follow (.ofLocation deepLocation) =
      .ok ⟨deepLocation, some (.directory []), false⟩ ∧
    ∀ time report, (deepSystem.analyze (.ofLocation deepLocation) time).result ≠ .ok report := by
  have short : ¬ pathLimit ≤ Utf8.size (Path.ofLocation deepLocation).text := by decide +kernel
  have found : deepSystem.locate .follow (.ofLocation deepLocation) =
      .ok ⟨deepLocation, some (.directory []), false⟩ := by
    rw [plain_deepSystem.locate_directory (at?_chain deepLocation), if_neg short]
  refine ⟨plain_deepSystem, found, ?_⟩
  intro time report reported
  obtain ⟨part, _, failed⟩ :=
    plain_deepSystem.analyze_overlong found rfl deepLocation_overlong time
  rw [reported] at failed
  cases failed

end FileSystem
end OrphanFiles
