import OrphanFiles.Analysis
import OrphanFiles.Proofs.FileSystem.Arrival
import OrphanFiles.Proofs.Index.Building
import OrphanFiles.Proofs.Walk.Files

/-! The stages of a scan on any file system, where links may lead nowhere and files may be
refused. A stage can lose files that it was given, but it never adds one, and those that
it keeps stay in their order. -/
namespace OrphanFiles.FileSystem

variable {fs : FileSystem}

theorem isDirectory_of_directory? {path : Path} {node : Node}
    (found : fs.directory? path = .ok (some node)) : node.isDirectory = true :=
  (directory?_eq_some.mp found).2

/-- Whatever is listed below a path stands below it, and the list is sorted. -/
theorem listFiles_below {path base : Path} {listing : Listing}
    (listed : fs.listFiles path base = .ok listing) :
    (∀ p ∈ listing.files, p.IsBelow path) ∧
      listing.files.Pairwise fun a b => a.text.precedes b.text = true := by
  rw [listFiles] at listed
  cases found : fs.directory? path with
  | error fault =>
    rw [found] at listed
    cases listed
  | ok node? =>
    rw [found] at listed
    cases node? with
    | none =>
      cases listed
      exact ⟨fun _ member => (List.not_mem_nil member).elim, List.Pairwise.nil⟩
    | some node =>
      cases listed
      refine ⟨?_, sortedBy_pairwise _ _⟩
      intro p member
      have folder := isDirectory_of_directory? found
      cases node with
      | file bytes => cases folder
      | link target => cases folder
      | directory entries =>
        have inside := mem_sortedBy.mp member
        rw [listNode] at inside
        split at inside
        · cases inside
        split at inside
        · cases inside
        obtain ⟨name, child, _, _, deeper⟩ := mem_listEntries.mp inside
        obtain ⟨below, same⟩ := below_of_mem_listNode deeper
        exact ⟨name :: below, by simp, by simp [same, Path.child]⟩

/-- The index holds some of the files, in the order of their texts. -/
theorem ordered_of_buildIndex {paths : List Path} {index : Index}
    (built : (fs.buildIndex paths).result = .ok index) :
    index.ordered.Sublist (sortedBy Path.text paths.eraseDups) := by
  rw [buildIndex_eq_ok built, Index.ordered, paths_ofRecords_records,
    sortedBy_eq_self ((arranged_inOrder paths).filter _)]
  exact List.filter_sublist

/-- Whether an entry is what is reported about its path where nothing refers to it. -/
def IsEntry (category : Path → Category) (file : UnusedFile) : Prop :=
  file.category = (category file.path).label ∧ file.reason = some Finding.unreferenced.reason

theorem appendUnused_eq_ok {files files' : List UnusedFile} {path : Path} {category : Text}
    {reason : Option Text}
    (added : (fs.appendUnused files path category reason).result = .ok files') :
    files' = files ∨ ∃ size : Nat, files' = files ++ [⟨path, size, category, reason⟩] := by
  rw [appendUnused] at added
  split at added
  · rename_i size _
    cases added
    exact Or.inr ⟨size, rfl⟩
  · split at added
    · cases added
      exact Or.inl rfl
    · cases added

/-- Measuring adds entries for some of the verdicts without a reference, in their order. -/
theorem appendOrphans_eq_ok {category : Path → Category} {files files' : List UnusedFile}
    {verdicts : List Verdict}
    (added : (fs.appendOrphans category files verdicts).result = .ok files') :
    ∃ new, files' = files ++ new ∧
      (new.map UnusedFile.path).Sublist
        ((verdicts.filter fun verdict => !verdict.used).map Verdict.path) ∧
      ∀ file ∈ new, IsEntry category file := by
  induction verdicts generalizing files with
  | nil =>
    cases added
    exact ⟨[], by simp, List.Sublist.refl _, by simp⟩
  | cons verdict verdicts ih =>
    rw [appendOrphans] at added
    cases used : verdict.used with
    | true =>
      rw [used, if_pos rfl] at added
      rw [List.filter_cons_of_neg (by simp [used])]
      exact ih added
    | false =>
      rw [used, if_neg (by decide)] at added
      rw [List.filter_cons_of_pos (by simp [used]), List.map_cons]
      obtain ⟨middle, here, later⟩ := Outcome.result_andThen_eq_ok.mp added
      obtain ⟨new, same, kept, entries⟩ := ih later
      rcases appendUnused_eq_ok here with lost | ⟨size, measured⟩
      · subst lost
        exact ⟨new, same, kept.cons _, entries⟩
      · subst measured
        refine ⟨⟨verdict.path, size, (category verdict.path).label, some verdict.reason⟩ :: new,
          by simp [same], kept.cons_cons _, ?_⟩
        rw [List.forall_mem_cons]
        have finding : verdict.finding = .unreferenced := Finding.used_eq_false.mp used
        exact ⟨⟨rfl, by rw [Verdict.reason, finding]⟩, entries⟩

theorem exists_unused_of_sublist {files : List UnusedFile} {verdicts : List Verdict}
    (kept : (files.map UnusedFile.path).Sublist
      ((verdicts.filter fun verdict => !verdict.used).map Verdict.path))
    {file : UnusedFile} (member : file ∈ files) :
    ∃ verdict ∈ verdicts, verdict.used = false ∧ verdict.path = file.path := by
  obtain ⟨verdict, inside, at_path⟩ := List.mem_map.mp (kept.subset (List.mem_map_of_mem member))
  obtain ⟨known, free⟩ := List.mem_filter.mp inside
  rw [Bool.not_eq_true'] at free
  exact ⟨verdict, known, free, at_path⟩

/-- What is reported was judged unused; nothing else is added. -/
theorem judged_of_orphans {root : Path} {index : Index} {assets : List Path}
    {unused : List UnusedFile} (judged : (fs.orphans root index assets).result = .ok unused) :
    ∃ sources media, unused = sources ++ media ∧
      (sources.map UnusedFile.path).Sublist index.ordered ∧
      (media.map UnusedFile.path).Sublist assets.eraseDups ∧
      (∀ file ∈ sources, IsEntry (·.category (some root)) file ∧
        (index.judge file.path (some root)).used = false) ∧
      ∀ file ∈ media, IsEntry (fun _ => .media) file ∧
        (index.judgeAsset file.path).used = false := by
  obtain ⟨_, _, judged⟩ := Outcome.result_andThen_eq_ok.mp judged
  obtain ⟨files, first, second⟩ := Outcome.result_andThen_eq_ok.mp judged
  obtain ⟨sources, same, kept, entries⟩ := appendOrphans_eq_ok first
  obtain ⟨media, same', kept', entries'⟩ := appendOrphans_eq_ok second
  have judgedPaths : (index.judgeAll (some root)).map Verdict.path = index.ordered := by
    simp [Index.judgeAll, Index.judge, Function.comp_def]
  have judgedAssets : (index.judgeAssets assets).map Verdict.path = assets.eraseDups := by
    simp [Index.judgeAssets, Index.judgeAsset, Function.comp_def]
  refine ⟨sources, media, by rw [same', same, List.nil_append],
    judgedPaths ▸ kept.trans (List.filter_sublist.map _),
    judgedAssets ▸ kept'.trans (List.filter_sublist.map _), ?_, ?_⟩
  · intro file member
    refine ⟨entries file member, ?_⟩
    obtain ⟨verdict, known, free, at_path⟩ := exists_unused_of_sublist kept member
    obtain ⟨path, _, rfl⟩ := List.mem_map.mp known
    have same_path : path = file.path := at_path
    rwa [same_path] at free
  · intro file member
    refine ⟨entries' file member, ?_⟩
    obtain ⟨verdict, known, free, at_path⟩ := exists_unused_of_sublist kept' member
    obtain ⟨path, _, rfl⟩ := List.mem_map.mp known
    have same_path : path = file.path := at_path
    rwa [same_path] at free

/-- The stages that a scan passes on its way to a report. -/
theorem stages_of_analyze {path : Path} {time : Text} {report : Report}
    (reported : (fs.analyze path time).result = .ok report) :
    ∃ root listed listed' index, fs.resolve path = .ok root ∧
      (fs.list (root.join Project.sourceDirectory) root).result = .ok listed ∧
      (fs.list (root.join Project.assetDirectory) root).result = .ok listed' ∧
      (fs.buildIndex (listed.filter Project.isSource)).result = .ok index ∧
      (fs.orphans root index listed').result = .ok report.unused := by
  rw [analyze] at reported
  split at reported
  · cases reported
  rename_i root resolved
  obtain ⟨listed, listing, reported⟩ := Outcome.result_andThen_eq_ok.mp reported
  obtain ⟨listed', listing', reported⟩ := Outcome.result_andThen_eq_ok.mp reported
  obtain ⟨_, _, reported⟩ := Outcome.result_andThen_eq_ok.mp reported
  obtain ⟨index, built, reported⟩ := Outcome.result_andThen_eq_ok.mp reported
  obtain ⟨unused, judged, reported⟩ := Outcome.result_andThen_eq_ok.mp reported
  cases reported
  exact ⟨root, listed, listed', index, resolved, listing, listing', built, judged⟩

end OrphanFiles.FileSystem
