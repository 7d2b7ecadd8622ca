import Mathlib
import OrphanFiles.Proofs.Analysis.Completion
import OrphanFiles.Proofs.Analysis.Survey
import OrphanFiles.Proofs.Path.Anchored
import OrphanFiles.Proofs.Report.Summary
import OrphanFiles.Proofs.Verdict.Reference

/-! What every report of a scan satisfies, on any file system: sources come before assets,
each run strictly in order and in its own part of the project, and all totals agree with
the entries. Files may be refused at any stage; the report then only has fewer entries. -/
namespace OrphanFiles

/-- How the entries, totals and summaries of a report on a project hang together. -/
structure Report.Coherent (report : Report) (root : Path) (sources assets : List UnusedFile) :
    Prop where
  root_eq : report.root = root.text
  unused_eq : report.unused = sources ++ assets
  distinct : (report.unused.map UnusedFile.path).Nodup
  sources_inOrder : InOrder (fun file => file.path.text) sources
  assets_inOrder : InOrder (fun file => file.path.text) assets
  sources_below : ∀ file ∈ sources, file.path.IsBelow (root.join Project.sourceDirectory)
  assets_below : ∀ file ∈ assets, file.path.IsBelow (root.join Project.assetDirectory)
  sources_le : sources.length ≤ report.sourceFiles
  assets_le : assets.length ≤ report.publicFiles
  reason_eq : ∀ file ∈ report.unused, file.reason = some "no_reference".toList
  media_iff : ∀ file ∈ report.unused, file.category = Category.media.label ↔
    file.path.IsBelow (root.join Project.assetDirectory)
  ne_api : ∀ file ∈ report.unused, file.category ≠ Category.api.label
  total_eq : report.totalSize = (report.unused.map UnusedFile.size).sum
  total_eq_groups : report.totalSize = (report.byCategory.map CategorySummary.size).sum
  counts_eq : (report.byCategory.map CategorySummary.count).sum = report.unused.length
  media_last : ∀ summary ∈ report.byCategory, summary.category = Category.media.label →
    report.byCategory.getLast? = some summary ∧ summary.files = assets

namespace Path

/-- Nothing is a source file and an asset at once. -/
theorem not_isBelow_assets {root path : Path}
    (source : path.IsBelow (root.join Project.sourceDirectory)) :
    ¬ path.IsBelow (root.join Project.assetDirectory) := by
  intro asset
  obtain ⟨way, _, same⟩ := source
  obtain ⟨way', _, same'⟩ := asset
  have names : Project.sourceDirectory.names ++ way = Project.assetDirectory.names ++ way' := by
    rw [same, join_relative (by decide), join_relative (by decide)] at same'
    simpa using same'
  have first : Project.sourceDirectory.names = Project.assetDirectory.names :=
    (List.append_inj names (by decide)).1
  exact absurd first (by decide)

end Path

namespace FileSystem

variable {fs : FileSystem}

/-- What is reported was judged and is no entry point; nothing else is added. -/
theorem orphans_eq_ok {root : Path} {index : Index} {assets : List Path} {unused : List UnusedFile}
    (judged : (fs.orphans root index assets).result = .ok unused) :
    ∃ sources media, unused = sources ++ media ∧
      (sources.map UnusedFile.path).Sublist index.ordered ∧
      (media.map UnusedFile.path).Sublist assets.eraseDups ∧
      (∀ file ∈ sources, IsEntry (·.category (some root)) file ∧
        file.path.isEntryPoint (some root) = false) ∧
      ∀ file ∈ media, IsEntry (fun _ => .media) file := by
  obtain ⟨sources, media, same, kept, kept', entries, entries'⟩ := judged_of_orphans judged
  refine ⟨sources, media, same, kept, kept', ?_, fun file member => (entries' file member).1⟩
  intro file member
  obtain ⟨entry, free⟩ := entries file member
  rw [← Bool.not_eq_true, Index.judge_used, not_or, Bool.not_eq_true] at free
  exact ⟨entry, free.1⟩

theorem isBelow_of_mem_list {top base : Path} {listed : List Path}
    (done : (fs.list top base).result = .ok listed) :
    (∀ p ∈ listed, p.IsBelow top) ∧
      listed.Pairwise fun a b => a.text.precedes b.text = true := by
  rw [list] at done
  split at done
  · rename_i listing found
    cases done
    exact listFiles_below found
  · cases done

/-- The category of a source is that of its name, and neither media nor the server interface. -/
theorem category_of_source {root : Path} {file : UnusedFile}
    (entry : IsEntry (·.category (some root)) file)
    (ordinary : file.path.isEntryPoint (some root) = false)
    (below : file.path.IsBelow (root.join Project.sourceDirectory))
    (source : Project.isSource file.path = true) :
    file.category ≠ Category.media.label ∧ file.category ≠ Category.api.label := by
  obtain ⟨rest, ⟨relative, nonempty⟩, same⟩ := below.exists_join (by decide)
  have named : file.path.anchoredName (some root) = file.path.name := by
    rw [same, Path.anchoredName_join relative nonempty]
  rw [entry.1]
  constructor
  · intro medium
    apply Path.category_ne_media _ (Category.label_injective medium)
    rw [named]
    exact source
  · intro api
    exact Path.category_ne_api ordinary (Category.label_injective api)

/-- What a scan has listed on its way to a report, and the entries that it kept. -/
structure Keeps (fs : FileSystem) (root : Path) (listed listed' : List Path)
    (sources assets : List UnusedFile) : Prop where
  listing : (fs.list (root.join Project.sourceDirectory) root).result = .ok listed
  listing' : (fs.list (root.join Project.assetDirectory) root).result = .ok listed'
  kept : (sources.map UnusedFile.path).Sublist
    (sortedBy Path.text (listed.filter Project.isSource).eraseDups)
  kept' : (assets.map UnusedFile.path).Sublist listed'.eraseDups
  entry : ∀ file ∈ sources, IsEntry (·.category (some root)) file ∧
    file.path.isEntryPoint (some root) = false
  entry' : ∀ file ∈ assets, IsEntry (fun _ => .media) file

namespace Keeps

variable {root : Path} {listed listed' : List Path} {sources assets : List UnusedFile}
  (keeps : fs.Keeps root listed listed' sources assets)
include keeps

theorem listed_of_source {file : UnusedFile} (member : file ∈ sources) :
    file.path ∈ listed ∧ Project.isSource file.path = true := by
  have inside := mem_sortedBy.mp (keeps.kept.subset (List.mem_map_of_mem member))
  exact List.mem_filter.mp (List.mem_eraseDups.mp inside)

theorem source_below {file : UnusedFile} (member : file ∈ sources) :
    file.path.IsBelow (root.join Project.sourceDirectory) :=
  (isBelow_of_mem_list keeps.listing).1 _ (keeps.listed_of_source member).1

theorem asset_below {file : UnusedFile} (member : file ∈ assets) :
    file.path.IsBelow (root.join Project.assetDirectory) := by
  have inside := keeps.kept'.subset (List.mem_map_of_mem member)
  exact (isBelow_of_mem_list keeps.listing').1 _ (List.mem_eraseDups.mp inside)

theorem sources_inOrder : InOrder Path.text (sources.map UnusedFile.path) :=
  (sortedBy_inOrder (nodup_eraseDups _) fun _ _ _ _ => Path.text_injective).sublist keeps.kept

theorem assets_inOrder : InOrder Path.text (assets.map UnusedFile.path) := by
  have sorted := (isBelow_of_mem_list keeps.listing').2.sublist (eraseDups_sublist listed')
  exact (InOrder.of_pairwise sorted (nodup_eraseDups listed')
    fun _ _ _ _ => Path.text_injective).sublist keeps.kept'

theorem nodup : ((sources ++ assets).map UnusedFile.path).Nodup := by
  rw [List.map_append]
  refine List.nodup_append.mpr ⟨keeps.sources_inOrder.nodup, keeps.assets_inOrder.nodup, ?_⟩
  rintro p source q asset rfl
  obtain ⟨file, member, rfl⟩ := List.mem_map.mp source
  obtain ⟨file', member', same⟩ := List.mem_map.mp asset
  exact Path.not_isBelow_assets (keeps.source_below member) (same ▸ keeps.asset_below member')

theorem category_source {file : UnusedFile} (member : file ∈ sources) :
    file.category ≠ Category.media.label ∧ file.category ≠ Category.api.label :=
  category_of_source (keeps.entry file member).1 (keeps.entry file member).2
    (keeps.source_below member) (keeps.listed_of_source member).2

theorem category_asset {file : UnusedFile} (member : file ∈ assets) :
    file.category = Category.media.label :=
  (keeps.entry' file member).1

/-- The report on what a scan keeps is coherent. -/
theorem coherent (time : Text) : Report.Coherent {
    root := root.text
    generatedAt := time
    sourceFiles := (listed.filter Project.isSource).length
    publicFiles := listed'.length
    unused := sources ++ assets
    totalSize := totalSize (sources ++ assets)
    byCategory := summarize (sources ++ assets) } root sources assets := by
  constructor
  case root_eq => rfl
  case unused_eq => rfl
  case distinct => exact keeps.nodup
  case sources_inOrder => exact List.pairwise_map.mp keeps.sources_inOrder
  case assets_inOrder => exact List.pairwise_map.mp keeps.assets_inOrder
  case sources_below => exact fun _ => keeps.source_below
  case assets_below => exact fun _ => keeps.asset_below
  case sources_le =>
    have fewer := keeps.kept.length_le
    have once := (eraseDups_sublist (listed.filter Project.isSource)).length_le
    rw [List.length_map, (sortedBy_perm _ _).length_eq] at fewer
    exact Int.ofNat_le.mpr (fewer.trans once)
  case assets_le =>
    have fewer := (keeps.kept'.trans (eraseDups_sublist listed')).length_le
    rw [List.length_map] at fewer
    exact Int.ofNat_le.mpr fewer
  case reason_eq =>
    intro file member
    rcases List.mem_append.mp member with source | asset
    · exact (keeps.entry file source).1.2
    · exact (keeps.entry' file asset).2
  case media_iff =>
    intro file member
    rcases List.mem_append.mp member with source | asset
    · exact iff_of_false (keeps.category_source source).1
        (Path.not_isBelow_assets (keeps.source_below source))
    · exact iff_of_true (keeps.category_asset asset) (keeps.asset_below asset)
  case ne_api =>
    intro file member
    rcases List.mem_append.mp member with source | asset
    · exact (keeps.category_source source).2
    · rw [keeps.category_asset asset]
      decide
  case total_eq => exact totalSize_eq_sum _
  case total_eq_groups => exact (sum_size_summarize _).symm
  case counts_eq => exact sum_count_summarize _
  case media_last =>
    intro summary member labelled
    exact summary_of_uniform_end (fun _ source => (keeps.category_source source).1)
      (fun _ => keeps.category_asset) member labelled

end Keeps

/-- A report of a scan is coherent, whatever the file system. -/
theorem analyze_coherent {path : Path} {time : Text} {report : Report}
    (reported : (fs.analyze path time).result = .ok report) :
    ∃ root sources assets, fs.resolve path = .ok root ∧ report.Coherent root sources assets := by
  rw [analyze] at reported
  split at reported
  · cases reported
  rename_i root resolved
  obtain ⟨listed, listing, reported⟩ := Outcome.result_andThen_eq_ok.mp reported
  obtain ⟨listed', listing', reported⟩ := Outcome.result_andThen_eq_ok.mp reported
  obtain ⟨_, _, reported⟩ := Outcome.result_andThen_eq_ok.mp reported
  obtain ⟨index, built, reported⟩ := Outcome.result_andThen_eq_ok.mp reported
  obtain ⟨unused, judged, reported⟩ := Outcome.result_andThen_eq_ok.mp reported
  cases reported
  obtain ⟨sources, assets, rfl, kept, kept', entry, entry'⟩ := orphans_eq_ok judged
  have keeps : fs.Keeps root listed listed' sources assets :=
    ⟨listing, listing', kept.trans (ordered_of_buildIndex built), kept', entry, entry'⟩
  exact ⟨root, sources, assets, resolved, keeps.coherent time⟩

/-- A project with an asset that nothing names and a source that is a link to nowhere. -/
def brokenProject : List (Name × Node) := [
  (Project.sourceName, .directory [
    (⟨"gone.ts".toList, by decide⟩, .link "nowhere".toList)]),
  (Project.assetName, .directory [
    (⟨"mark.png".toList, by decide⟩, .file [0x89])])]

def brokenSystem : FileSystem where
  root := .directory [(⟨"site".toList, by decide⟩, .directory brokenProject)]
  workingDirectory := []
  unlisted := []

/-- A link to nowhere leaves the scan with a report. -/
theorem coherent_despite_broken_link :
    ∃ report, (brokenSystem.analyze (.ofText "/site".toList) []).result = .ok report ∧
      ∃ root sources assets, brokenSystem.resolve (.ofText "/site".toList) = .ok root ∧
        report.Coherent root sources assets := by
  have resolved : brokenSystem.resolve (.ofText "/site".toList) = .ok (.ofText "/site".toList) := by
    cbv
  have parts :
      (Path.ofText "/site".toList).join Project.sourceDirectory = .ofText "/site/src".toList ∧
      (Path.ofText "/site".toList).join Project.assetDirectory = .ofText "/site/public".toList := by
    decide
  have listing : (brokenSystem.list ((Path.ofText "/site".toList).join Project.sourceDirectory)
      (.ofText "/site".toList)).result = .ok [.ofText "/site/src/gone.ts".toList] := by
    rw [parts.1]
    cbv
  have listing' : (brokenSystem.list ((Path.ofText "/site".toList).join Project.assetDirectory)
      (.ofText "/site".toList)).result = .ok [.ofText "/site/public/mark.png".toList] := by
    rw [parts.2]
    cbv
  obtain ⟨report, reported⟩ :=
    analyze_complete resolved listing listing' (by decide) (by decide) []
  exact ⟨report, reported, analyze_coherent reported⟩

end FileSystem
end OrphanFiles
