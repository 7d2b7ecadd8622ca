import OrphanFiles.Proofs.Analysis.Exact
import OrphanFiles.Proofs.Report.Placement
import OrphanFiles.Proofs.Report.Printing

/-! What a report of a scan is made of: the paths and bytes of the sources, and the paths and
sizes of the assets, all read from the root. The root itself only stands in front of each
path that is reported. -/
namespace OrphanFiles

theorem all_congr {members : List α} {test test' : α → Bool}
    (same : ∀ a ∈ members, test a = test' a) : members.all test = members.all test' := by
  rw [Bool.eq_iff_iff, List.all_eq_true, List.all_eq_true]
  exact forall₂_congr fun a member => by rw [same a member]

namespace FileSystem

/-- Whether nothing names a source, all paths being read from the root. -/
def isUnnamedInner (bytes : Path → Bytes) (sources : List Path) (path : Path) : Bool :=
  !path.isEntryPoint none &&
    sources.all fun other => other = path || !Text.occursIn path.stem (contentOf (bytes other))

def isUnnamedInnerAsset (bytes : Path → Bytes) (sources : List Path) (asset : Path) : Bool :=
  !Convention.isKeptAsset asset.name &&
    sources.all fun source => !Text.occursIn asset.name (contentOf (bytes source))

/-- The entries of the files that nothing names, all paths being read from the root. -/
def unnamedInner (bytes : Path → Bytes) (sources assets : List Path) : List UnusedFile :=
  (sources.filter (isUnnamedInner bytes sources)).map (unusedEntry bytes (·.category none)) ++
    (assets.filter (isUnnamedInnerAsset bytes sources)).map (unusedEntry bytes fun _ => .media)

/-- The bytes of sources and the sizes of assets are all that counts. -/
theorem unnamedInner_congr {bytes bytes' : Path → Bytes} {sources assets : List Path}
    (same : ∀ path ∈ sources, bytes path = bytes' path)
    (sizes : ∀ path ∈ assets, (bytes path).length = (bytes' path).length) :
    unnamedInner bytes sources assets = unnamedInner bytes' sources assets := by
  have source : isUnnamedInner bytes sources = isUnnamedInner bytes' sources := by
    funext path
    rw [isUnnamedInner, isUnnamedInner]
    congr 1
    exact all_congr fun other member => by rw [same other member]
  have asset : isUnnamedInnerAsset bytes sources = isUnnamedInnerAsset bytes' sources := by
    funext path
    rw [isUnnamedInnerAsset, isUnnamedInnerAsset]
    congr 1
    exact all_congr fun other member => by rw [same other member]
  rw [unnamedInner, unnamedInner, source, asset]
  congr 1
  · apply List.map_congr_left
    intro path member
    rw [unusedEntry, unusedEntry, same path (List.mem_filter.mp member).1]
  · apply List.map_congr_left
    intro path member
    rw [unusedEntry, unusedEntry, sizes path (List.mem_filter.mp member).1]

section Join

variable (fs : FileSystem) (root : Path) {sources assets : List Path}
  (inner : ∀ rest ∈ sources, rest.IsInner)
include inner

theorem isUnnamedSource_join {rest : Path} (member : rest ∈ sources) :
    fs.isUnnamedSource root (sources.map root.join) (root.join rest) =
      isUnnamedInner (fun rest => fs.bytesAt (root.join rest)) sources rest := by
  obtain ⟨relative, nonempty⟩ := inner rest member
  rw [isUnnamedSource, Path.isEntryPoint_join relative, Path.stem_join relative nonempty,
    List.all_map, isUnnamedInner]
  congr 1
  apply all_congr
  intro other known
  have itself : root.join other = root.join rest ↔ other = rest :=
    ⟨Path.join_injective (inner other known).1 relative, congrArg _⟩
  simp [itself, textAt]

/-- The root leaves no trace in what nothing names. -/
theorem unnamed_join (inner' : ∀ rest ∈ assets, rest.IsInner) :
    fs.unnamed root (sources.map root.join) (assets.map root.join) =
      (unnamedInner (fun rest => fs.bytesAt (root.join rest)) sources assets).map
        (·.placed root) := by
  have asset (rest : Path) (member : rest ∈ assets) :
      fs.isUnnamedAsset (sources.map root.join) (root.join rest) =
        isUnnamedInnerAsset (fun rest => fs.bytesAt (root.join rest)) sources rest := by
    obtain ⟨relative, nonempty⟩ := inner' rest member
    rw [isUnnamedAsset, Path.name_join relative nonempty, List.all_map]
    rfl
  have keptSources : sources.filter (fs.isUnnamedSource root (sources.map root.join) ∘ root.join) =
      sources.filter (isUnnamedInner (fun rest => fs.bytesAt (root.join rest)) sources) :=
    List.filter_congr fun _ member => fs.isUnnamedSource_join root inner member
  have keptAssets : assets.filter (fs.isUnnamedAsset (sources.map root.join) ∘ root.join) =
      assets.filter (isUnnamedInnerAsset (fun rest => fs.bytesAt (root.join rest)) sources) :=
    List.filter_congr asset
  rw [unnamed, unnamedInner, List.map_append, List.filter_map, List.filter_map, List.map_map,
    List.map_map, List.map_map, List.map_map, keptSources, keptAssets]
  congr 1
  apply List.map_congr_left
  intro rest member
  have relative := (inner rest (List.mem_filter.mp member).1).1
  simp only [Function.comp_apply, unusedEntry, UnusedFile.placed, Path.category_join relative]

end Join

/-- The report that follows from sources and assets, all paths being read from the root. -/
def innerReport (bytes : Path → Bytes) (sources assets : List Path) : Report where
  root := ['.']
  generatedAt := []
  sourceFiles := sources.length
  publicFiles := assets.length
  unused := unnamedInner bytes sources assets
  totalSize := totalSize (unnamedInner bytes sources assets)
  byCategory := summarize (unnamedInner bytes sources assets)

theorem reportOf_join (fs : FileSystem) (root : Path) {sources assets : List Path}
    (inner : ∀ rest ∈ sources, rest.IsInner) (inner' : ∀ rest ∈ assets, rest.IsInner)
    (time : Text) : fs.reportOf root (sources.map root.join) (assets.map root.join) time =
      (innerReport (fun rest => fs.bytesAt (root.join rest)) sources assets).placed root time := by
  simp only [reportOf, fs.unnamed_join root inner inner', totalSize_placed, summarize_placed,
    List.length_map]
  rfl

theorem innerReport_relative (bytes : Path → Bytes) {sources assets : List Path}
    (inner : ∀ rest ∈ sources, rest.IsInner) (inner' : ∀ rest ∈ assets, rest.IsInner) :
    (innerReport bytes sources assets).Relative := by
  have unused : ∀ file ∈ unnamedInner bytes sources assets, file.path.anchor = .relative := by
    intro file member
    rcases List.mem_append.mp member with source | asset
    · obtain ⟨rest, known, rfl⟩ := List.mem_map.mp source
      exact (inner rest (List.mem_filter.mp known).1).1
    · obtain ⟨rest, known, rfl⟩ := List.mem_map.mp asset
      exact (inner' rest (List.mem_filter.mp known).1).1
  refine ⟨rfl, unused, ?_⟩
  intro summary known file member
  obtain ⟨label, _, rfl⟩ := List.mem_map.mp known
  exact unused file (List.mem_filter.mp member).1

theorem innerReport_measured (bytes : Path → Bytes) (sources assets : List Path) :
    (innerReport bytes sources assets).Measured := by
  refine ⟨?_, rfl, rfl⟩
  intro file member
  rcases List.mem_append.mp member with source | asset
  · obtain ⟨rest, _, rfl⟩ := List.mem_map.mp source
    exact Int.natCast_nonneg _
  · obtain ⟨rest, _, rfl⟩ := List.mem_map.mp asset
    exact Int.natCast_nonneg _

end FileSystem
end OrphanFiles
