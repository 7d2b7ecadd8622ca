import OrphanFiles.Proofs.Analysis.Agreement

/-! What a scan does not depend on. Ignored directories, files of other kinds among the
sources, the bytes of assets and everything outside both parts of a project may differ
without a trace in the report. -/
namespace OrphanFiles.FileSystem

/-- A scan reports the same on two file systems whose sources have the same bytes and whose
assets have the same sizes. Where a part of the project has a path that the system refuses,
both scans fail alike. -/
theorem analyze_depends_on_extent {fs fs' : FileSystem} {root : Location}
    (plain : fs.PlainBelow root) (plain' : fs'.PlainBelow root)
    (agree : Agrees fs (.ofLocation root) fs' (.ofLocation root)) {path path' : Path}
    (resolved : fs.resolve path = .ok (.ofLocation root))
    (resolved' : fs'.resolve path' = .ok (.ofLocation root)) (time time' : Text) :
    (Utf8.size ((Path.ofLocation root).join Project.assetDirectory).text < pathLimit →
      ∃ report : Report,
        (fs.analyze path time).result = .ok { report with generatedAt := time } ∧
        (fs'.analyze path' time').result = .ok { report with generatedAt := time' }) ∧
    (pathLimit ≤ Utf8.size ((Path.ofLocation root).join Project.assetDirectory).text →
      ∃ failure, (fs.analyze path time).result = .error failure ∧
        (fs'.analyze path' time').result = .error failure) := by
  constructor
  · intro short
    obtain ⟨report, _, _, scanned, scanned'⟩ :=
      plain.analyze_agree plain' agree resolved resolved' short short time time'
    exact ⟨report.placed (.ofLocation root) [], scanned, scanned'⟩
  · intro long
    exact ⟨_, plain.analyze_overlong resolved long time,
      plain'.analyze_overlong resolved' long time'⟩

/-- The sample project beside directories that no scan enters. -/
def clutteredSystem : FileSystem where
  root := .directory [
    (⟨"old".toList, by decide⟩, .directory sampleProject),
    (sampleName, .directory ((⟨"node_modules".toList, by decide⟩, .directory [
      (⟨"index.js".toList, by decide⟩, .file (Utf8.encode "import './cart'".toList))]) ::
        sampleProject))]
  workingDirectory := []
  unlisted := []

/-- What stands beside the two parts of a project is not seen. -/
theorem same_report_beside_clutter :
    sampleSystem.PlainBelow [sampleName] ∧ clutteredSystem.PlainBelow [sampleName] ∧
    Agrees sampleSystem (.ofLocation [sampleName]) clutteredSystem (.ofLocation [sampleName]) ∧
    ∃ report : Report,
      (sampleSystem.analyze (.ofText "/shop".toList) "now".toList).result =
        .ok { report with generatedAt := "now".toList } ∧
      (clutteredSystem.analyze (.ofText "/shop".toList) "later".toList).result =
        .ok { report with generatedAt := "later".toList } := by
  have plain : sampleSystem.Plain := plain_of_isPlain (by decide +kernel)
  have plain' : clutteredSystem.Plain := plain_of_isPlain (by decide +kernel)
  have found : sampleSystem.at? [sampleName] = some (.directory sampleProject) := rfl
  obtain ⟨entries, found'⟩ :
      ∃ entries, clutteredSystem.at? [sampleName] = some (.directory entries) := ⟨_, rfl⟩
  have agree : Agrees sampleSystem (.ofLocation [sampleName]) clutteredSystem
      (.ofLocation [sampleName]) :=
    Agrees.of_sameFiles (.of_at? rfl) (.of_at? rfl)
  have resolved := (plain.below found).resolve
  have resolved' := (plain'.below found').resolve
  exact ⟨plain.below found, plain'.below found', agree,
    (analyze_depends_on_extent (plain.below found) (plain'.below found') agree resolved resolved'
      _ _).1 (by decide)⟩

def noteName : Name := ⟨"note".toList, by decide⟩

/-- The deep directories with a file beside the first of them. -/
def notedSystem : FileSystem :=
  ⟨.directory ((noteName, .file []) :: (chain deepLocation).entries), [], []⟩

theorem at?_notedSystem : notedSystem.at? deepLocation = some (.directory []) := by
  have apart : (repeatedName 254 == noteName) = false := by decide +kernel
  have inside := at?_chain deepLocation
  have first : deepLocation = repeatedName 254 :: deepLocation.tail := rfl
  rw [first] at inside ⊢
  rw [Node.at?, Node.child?] at inside
  rw [FileSystem.at?, notedSystem, Node.at?, Node.child?, Node.entries, List.lookup_cons, apart]
  exact inside

/-- Projects that differ in nothing that counts have no report to share where they stand so
deep that the system refuses the paths of their parts. -/
theorem no_shared_report_of_deep_root :
    deepSystem.PlainBelow deepLocation ∧ notedSystem.PlainBelow deepLocation ∧
    Agrees deepSystem (.ofLocation deepLocation) notedSystem (.ofLocation deepLocation) ∧
    deepSystem.resolve (.ofLocation deepLocation) = .ok (.ofLocation deepLocation) ∧
    notedSystem.resolve (.ofLocation deepLocation) = .ok (.ofLocation deepLocation) ∧
    ¬ ∃ report : Report,
      (deepSystem.analyze (.ofLocation deepLocation) "now".toList).result =
        .ok { report with generatedAt := "now".toList } ∧
      (notedSystem.analyze (.ofLocation deepLocation) "later".toList).result =
        .ok { report with generatedAt := "later".toList } := by
  have plain : notedSystem.Plain := plain_of_isPlain (by decide +kernel)
  have found : deepSystem.at? deepLocation = some (.directory []) := at?_chain deepLocation
  have found' := at?_notedSystem
  have same : SameFiles deepSystem deepLocation notedSystem deepLocation :=
    .of_at? (found.trans found'.symm)
  have agree : Agrees deepSystem (.ofLocation deepLocation) notedSystem
      (.ofLocation deepLocation) :=
    Agrees.of_sameFiles (same.deeper [Project.sourceName]) (same.deeper [Project.assetName])
  have resolved := (plain_deepSystem.below found).resolve
  have resolved' := (plain.below found').resolve
  refine ⟨plain_deepSystem.below found, plain.below found', agree, resolved, resolved', ?_⟩
  intro ⟨report, scanned, _⟩
  rw [(plain_deepSystem.below found).analyze_overlong resolved deepLocation_overlong] at scanned
  cases scanned

end OrphanFiles.FileSystem
