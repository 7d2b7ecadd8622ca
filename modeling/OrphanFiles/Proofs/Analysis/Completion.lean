import OrphanFiles.Proofs.Analysis.Losses

/-! When a scan comes to a report. A file that is lost on the way ends no stage, so it is
enough that both parts of the project can be looked up. -/
namespace OrphanFiles.FileSystem

variable (fs : FileSystem)

/-- Files that cannot be read are left out of the index, so indexing never fails. -/
theorem buildIndex_complete {paths : List Path} (whole : ∀ path ∈ paths, '\x00' ∉ path.text) :
    ∃ index, (fs.buildIndex paths).result = .ok index :=
  ⟨_, congrArg Outcome.result (buildIndex_eq (answers_of_whole whole))⟩

theorem appendOrphans_complete (category : Path → Category) (files : List UnusedFile)
    {verdicts : List Verdict} (whole : ∀ verdict ∈ verdicts, '\x00' ∉ verdict.path.text) :
    ∃ files', (fs.appendOrphans category files verdicts).result = .ok files' := by
  induction verdicts generalizing files with
  | nil => exact ⟨files, rfl⟩
  | cons verdict verdicts ih =>
    rw [List.forall_mem_cons] at whole
    rw [appendOrphans]
    by_cases used : verdict.used = true
    · rw [if_pos used]
      exact ih files whole.2
    · rw [if_neg used]
      have added : ∃ more, (fs.appendUnused files verdict.path (category verdict.path).label
          (some verdict.reason)).result = .ok more := by
        rw [appendUnused]
        cases measured : fs.size verdict.path with
        | ok size => exact ⟨_, rfl⟩
        | error fault =>
          simp only [if_pos (fs.isSystem_of_size whole.1 measured)]
          exact ⟨files, rfl⟩
      obtain ⟨more, added⟩ := added
      obtain ⟨files', later⟩ := ih more whole.2
      exact ⟨files', Outcome.result_andThen_eq_ok.mpr ⟨more, added, later⟩⟩

/-- A scan comes to a report where both parts of the project can be looked up. -/
theorem analyze_complete {fs : FileSystem} {path root : Path} {sources assets : List Path}
    (resolved : fs.resolve path = .ok root)
    (listing : (fs.list (root.join Project.sourceDirectory) root).result = .ok sources)
    (listing' : (fs.list (root.join Project.assetDirectory) root).result = .ok assets)
    (whole : ∀ p ∈ sources, '\x00' ∉ p.text) (whole' : ∀ p ∈ assets, '\x00' ∉ p.text)
    (time : Text) : ∃ report, (fs.analyze path time).result = .ok report := by
  have inside : ∀ p ∈ sources.filter Project.isSource, '\x00' ∉ p.text :=
    fun p member => whole p (List.mem_filter.mp member).1
  obtain ⟨index, built⟩ := fs.buildIndex_complete inside
  have known := ordered_of_buildIndex built
  have judged : ∀ verdict ∈ index.judgeAll (some root), '\x00' ∉ verdict.path.text := by
    intro verdict member
    obtain ⟨p, indexed, rfl⟩ := List.mem_map.mp member
    exact inside p (List.mem_eraseDups.mp (mem_sortedBy.mp (known.subset indexed)))
  have judged' : ∀ verdict ∈ index.judgeAssets assets, '\x00' ∉ verdict.path.text := by
    intro verdict member
    obtain ⟨p, listed, rfl⟩ := List.mem_map.mp member
    exact whole' p (List.mem_eraseDups.mp listed)
  obtain ⟨files, first⟩ := fs.appendOrphans_complete (·.category (some root)) [] judged
  obtain ⟨unused, second⟩ := fs.appendOrphans_complete (fun _ => .media) files judged'
  have orphans : (fs.orphans root index assets).result = .ok unused := by
    rw [FileSystem.orphans]
    simp only [Outcome.result_andThen_eq_ok]
    exact ⟨(), rfl, files, first, second⟩
  rw [analyze, resolved]
  simp only [Outcome.result_andThen_eq_ok]
  exact ⟨_, sources, listing, assets, listing', (), rfl, index, built, unused, orphans, rfl⟩

end OrphanFiles.FileSystem
