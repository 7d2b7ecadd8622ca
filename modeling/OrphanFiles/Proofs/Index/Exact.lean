import Mathlib
import OrphanFiles.Proofs.Index.Building

/-! The index that is read from a list of paths. A file that cannot be read disturbs no other
one, and neither the order of the list, nor repetitions, nor the spelling of a path play a
part. -/
namespace OrphanFiles.FileSystem

/-- How the index of listed paths comes about. It holds what can be read and nothing else, and
neither the order nor the spelling of what is listed shows in it. -/
structure BuildsIndex (fs : FileSystem) (paths : List Path) (index : Index) : Prop where
  completes : (fs.buildIndex paths).result = .ok index
  inOrder : InOrder Path.text index.paths
  mem_paths_iff : ∀ path, path ∈ index.paths ↔ path ∈ paths ∧ ∃ bytes, fs.read path = .ok bytes
  find?_eq : ∀ path ∈ paths, ∀ bytes, fs.read path = .ok bytes → index.find? path = some {
    path
    content := contentOf bytes
    importTargets := Source.importTargets (contentOf bytes)
    lazyLoad := Source.hasLazyLoad (contentOf bytes) }
  warned : ∃ refused : List (Path × Fault),
    (fs.buildIndex paths).events = refused.map refusalEvent ∧
      InOrder (fun refusal => refusal.1.text) refused ∧
      ∀ path fault, (path, fault) ∈ refused ↔ path ∈ paths ∧ fs.read path = .error fault
  /-- Other paths, on another file system, of which the same can be read. -/
  undisturbed : ∀ (fs' : FileSystem) (others : List Path), (∀ path ∈ others, '\x00' ∉ path.text) →
    (∀ path bytes, path ∈ others ∧ fs'.read path = .ok bytes ↔
      path ∈ paths ∧ fs.read path = .ok bytes) →
    (fs'.buildIndex others).result = .ok index
  rearranged : ∀ others : List Path, (∀ path, path ∈ others ↔ path ∈ paths) →
    fs.buildIndex others = fs.buildIndex paths
  respelled : ∀ texts : List Text,
    (∀ path, (∃ t ∈ texts, Path.Spells t path) ↔ path ∈ paths) →
    fs.buildIndex (texts.map Path.ofText) = fs.buildIndex paths

/-- Paths without a null byte always have an index, whatever becomes of each of them. -/
theorem buildIndex_exact (fs : FileSystem) (paths : List Path)
    (whole : ∀ path ∈ paths, '\x00' ∉ path.text) : ∃ index, fs.BuildsIndex paths index := by
  have answers : fs.Answers paths := answers_of_whole whole
  have built := buildIndex_eq answers
  have keys := fs.paths_ofRecords_records paths
  refine ⟨.ofRecords (fs.records paths), ?_⟩
  constructor
  case completes => rw [built]
  case inOrder =>
    rw [keys]
    exact (arranged_inOrder paths).filter _
  case mem_paths_iff =>
    intro path
    rw [keys, List.mem_filter, mem_arranged, Option.isSome_iff_exists]
    simp [record?_eq_some]
  case find?_eq => exact fun path listed bytes read => find?_ofRecords_records listed read
  case warned =>
    exact ⟨fs.refusals paths, by rw [built], fs.refusals_inOrder paths, fun _ _ => mem_refusals⟩
  case undisturbed =>
    intro fs' others whole' same
    rw [buildIndex_eq (answers_of_whole whole'), records_congr same]
  case rearranged => exact fun _ => buildIndex_congr
  case respelled =>
    intro texts same
    apply buildIndex_congr
    intro path
    rw [← same, List.mem_map]
    simp only [Path.spells_iff]

/-- A file among what cannot be read. -/
def shelf : List (Name × Node) := [
  (⟨"note.ts".toList, by decide⟩, .file [0x6e]),
  (⟨"box".toList, by decide⟩, .directory []),
  (⟨"gone".toList, by decide⟩, .link "nowhere".toList),
  (⟨"ring".toList, by decide⟩, .link "ring".toList)]

def shelfSystem : FileSystem where
  root := .directory shelf
  workingDirectory := []
  unlisted := []

/-- Paths to the one file, to nothing, to a directory and along broken links, and paths with a
name that is too long and with a file in the middle. -/
def shelfPaths : List Path :=
  .ofText ('/' :: List.replicate 256 'n') ::
    ["/ring", "/note.ts", "/missing.ts", "/gone", "/box", "/note.ts/inner", "/./note.ts"].map
      fun t => .ofText t.toList

set_option maxRecDepth 4000 in
theorem filter_isOk_shelfPaths : shelfPaths.filter (fun path => (shelfSystem.read path).isOk) =
    [.ofText "/note.ts".toList, .ofText "/note.ts".toList] := by
  cbv

/-- Of what stands on the shelf the file alone is indexed, and once. -/
theorem buildIndex_exact_shelf :
    ∃ index, shelfSystem.BuildsIndex shelfPaths index ∧
      index.paths = [.ofText "/note.ts".toList] := by
  obtain ⟨index, exact⟩ := buildIndex_exact shelfSystem shelfPaths (by decide +kernel)
  refine ⟨index, exact, ?_⟩
  apply exact.inOrder.eq_of_mem_iff (List.pairwise_singleton _ _)
  intro path
  have readable : (∃ bytes, shelfSystem.read path = .ok bytes) ↔
      (shelfSystem.read path).isOk = true := by
    cases shelfSystem.read path <;> simp [Except.isOk, Except.toBool]
  have listed : path ∈ shelfPaths.filter (fun path => (shelfSystem.read path).isOk) ↔ _ :=
    List.mem_filter
  rw [exact.mem_paths_iff, readable, ← listed, filter_isOk_shelfPaths]
  simp

end OrphanFiles.FileSystem
