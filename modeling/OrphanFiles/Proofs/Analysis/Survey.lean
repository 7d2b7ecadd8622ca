import OrphanFiles.Proofs.Analysis.Stages
import OrphanFiles.Proofs.FileSystem.Resolution
import OrphanFiles.Proofs.Walk.Files

/-! Which files of a project are sources and assets, and which of them no source names.
Everything here is read off the tree, with no walk, no index and no order of search. -/
namespace OrphanFiles

namespace Project

def sourceName : Name := ⟨"src".toList, by decide⟩

def assetName : Name := ⟨"public".toList, by decide⟩

theorem storable_sourceName : sourceName.Storable :=
  ⟨by decide, by decide, by decide⟩

theorem storable_assetName : assetName.Storable :=
  ⟨by decide, by decide, by decide⟩

theorem join_sourceDirectory (root : Location) :
    (Path.ofLocation root).join sourceDirectory = .ofLocation (root ++ [sourceName]) := by
  have same : sourceDirectory = ⟨.relative, [sourceName]⟩ := by decide
  rw [same]
  rfl

theorem join_assetDirectory (root : Location) :
    (Path.ofLocation root).join assetDirectory = .ofLocation (root ++ [assetName]) := by
  have same : assetDirectory = ⟨.relative, [assetName]⟩ := by decide
  rw [same]
  rfl

end Project

namespace FileSystem

/-- The bytes of the file on an absolute path, none if there is no file. -/
def bytesAt (fs : FileSystem) (path : Path) : Bytes :=
  match fs.at? path.names with
  | some (.file bytes) => bytes
  | _ => []

def textAt (fs : FileSystem) (path : Path) : Text :=
  contentOf (fs.bytesAt path)

def IsSource (fs : FileSystem) (root path : Path) : Prop :=
  fs.Holds (root.join Project.sourceDirectory) path ∧
    Convention.isSourceSuffix path.suffix = true

def IsAsset (fs : FileSystem) (root path : Path) : Prop :=
  fs.Holds (root.join Project.assetDirectory) path ∧
    ∀ subpath ∈ Convention.ignoredSubpaths, ¬ path.IsBelow (root.join (Path.ofText subpath))

/-- Whether a source is no entry point and no other source holds its stem. -/
def isUnnamedSource (fs : FileSystem) (root : Path) (sources : List Path) (path : Path) : Bool :=
  !path.isEntryPoint (some root) &&
    sources.all fun other => other = path || !Text.occursIn path.stem (fs.textAt other)

/-- Whether an asset is not kept by convention and no source holds its name. -/
def isUnnamedAsset (fs : FileSystem) (sources : List Path) (asset : Path) : Bool :=
  !Convention.isKeptAsset asset.name &&
    sources.all fun source => !Text.occursIn asset.name (fs.textAt source)

/-- The entries of all files of a project that nothing names. -/
def unnamed (fs : FileSystem) (root : Path) (sources assets : List Path) : List UnusedFile :=
  (sources.filter (fs.isUnnamedSource root sources)).map
      (unusedEntry fs.bytesAt (·.category (some root))) ++
    (assets.filter (fs.isUnnamedAsset sources)).map (unusedEntry fs.bytesAt fun _ => .media)

/-- The report that follows from the sources and assets of a project. -/
def reportOf (fs : FileSystem) (root : Path) (sources assets : List Path) (time : Text) : Report where
  root := root.text
  generatedAt := time
  sourceFiles := sources.length
  publicFiles := assets.length
  unused := fs.unnamed root sources assets
  totalSize := totalSize (fs.unnamed root sources assets)
  byCategory := summarize (fs.unnamed root sources assets)

theorem PlainBelow.read_of_holds {fs : FileSystem} {top : Location} (plain : fs.PlainBelow top)
    {start : Location} (inside : top <+: start) {path : Path}
    (held : fs.Holds (.ofLocation start) path) : fs.read path = .ok (fs.bytesAt path) := by
  obtain ⟨way, name, bytes, same, there, _⟩ := held
  rw [bytesAt, there]
  subst same
  exact plain.readable (inside.trans (List.prefix_append _ _)) there

/-- No file below the sources is below an ignored part of the assets. -/
theorem not_isBelow_of_holds {fs : FileSystem} {root : Location} {path : Path}
    (held : fs.Holds (.ofLocation (root ++ [Project.sourceName])) path) :
    ∀ subpath ∈ Convention.ignoredSubpaths,
      ¬ path.IsBelow ((Path.ofLocation root).join (Path.ofText subpath)) := by
  have heads : ∀ subpath ∈ Convention.ignoredSubpaths, (Path.ofText subpath).anchor = .relative ∧
      (Path.ofText subpath).names.head? = some Project.assetName := by
    decide
  intro subpath member ⟨below, _, same⟩
  obtain ⟨way, name, _, joined, _⟩ := held
  obtain ⟨relative, first⟩ := heads subpath member
  obtain ⟨rest, shape⟩ := List.head?_eq_some_iff.mp first
  rw [joined] at same
  simp only [Path.join, relative, if_true, Path.ofLocation, shape, Path.mk.injEq, true_and,
    List.append_assoc, List.append_cancel_left_eq, List.cons_append, List.cons.injEq] at same
  exact absurd same.1 (by decide)

variable {fs : FileSystem} {root : Location} (plain : fs.PlainBelow root)
include plain

theorem PlainBelow.list_sources
    (short : Utf8.size ((Path.ofLocation root).join Project.sourceDirectory).text < pathLimit) :
    ∃ listing,
      fs.listFiles ((Path.ofLocation root).join Project.sourceDirectory) (.ofLocation root) =
        .ok listing ∧
      InOrder Path.text (listing.files.filter Project.isSource) ∧
      ∀ p, p ∈ listing.files.filter Project.isSource ↔ fs.IsSource (.ofLocation root) p := by
  rw [Project.join_sourceDirectory] at short ⊢
  obtain ⟨listing, listed, order, members⟩ :=
    plain.listFiles_part Project.storable_sourceName short
  refine ⟨listing, listed, order.filter _, ?_⟩
  intro p
  rw [List.mem_filter, members, IsSource, Project.join_sourceDirectory, Project.isSource]
  exact ⟨fun ⟨⟨held, _⟩, suffix⟩ => ⟨held, suffix⟩,
    fun ⟨held, suffix⟩ => ⟨⟨held, not_isBelow_of_holds held⟩, suffix⟩⟩

theorem PlainBelow.list_assets
    (short : Utf8.size ((Path.ofLocation root).join Project.assetDirectory).text < pathLimit) :
    ∃ listing,
      fs.listFiles ((Path.ofLocation root).join Project.assetDirectory) (.ofLocation root) =
        .ok listing ∧
      InOrder Path.text listing.files ∧
      ∀ p, p ∈ listing.files ↔ fs.IsAsset (.ofLocation root) p := by
  rw [Project.join_assetDirectory] at short ⊢
  obtain ⟨listing, listed, order, members⟩ :=
    plain.listFiles_part Project.storable_assetName short
  refine ⟨listing, listed, order, ?_⟩
  intro p
  rw [members, IsAsset, Project.join_assetDirectory]

end FileSystem
end OrphanFiles
