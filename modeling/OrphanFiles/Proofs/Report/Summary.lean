import Mathlib.Algebra.BigOperators.Ring.Finset
import OrphanFiles.Proofs.Text.Arrangement
import OrphanFiles.Report.Basic

/-! The summary of a list of unused files is a partition of it: each file is in the one
group of its category. So counts and sizes of the groups add up to those of the list. One more
file changes one group only, and the files taken group by group have the same groups. -/
namespace OrphanFiles

theorem totalSize_eq_sum (files : List UnusedFile) :
    totalSize files = (files.map UnusedFile.size).sum := by
  induction files with
  | nil => rfl
  | cons file files ih =>
    rw [List.map_cons, List.sum_cons, ← ih]
    rfl

/-- The files of some labels, label after label, are the files that have one of them. -/
theorem flatMap_ofCategory_perm {labels : List Text} (distinct : labels.Nodup)
    (files : List UnusedFile) :
    (labels.flatMap fun label => ofCategory label files).Perm
      (files.filter fun file => file.category ∈ labels) := by
  induction labels with
  | nil => simp
  | cons label labels ih =>
    rw [List.nodup_cons] at distinct
    have others : (files.filter fun file => file.category ∈ labels) =
        (files.filter fun file => file.category ∈ label :: labels).filter
          fun file => !decide (file.category = label) := by
      rw [List.filter_filter]
      apply List.filter_congr
      intro file _
      by_cases here : file.category = label <;> simp [here, distinct.1]
    have own : ofCategory label files =
        (files.filter fun file => file.category ∈ label :: labels).filter
          fun file => decide (file.category = label) := by
      rw [ofCategory, List.filter_filter]
      apply List.filter_congr
      intro file _
      by_cases here : file.category = label <;> simp [here]
    have rest := ih distinct.2
    rw [others] at rest
    rw [List.flatMap_cons, own]
    exact (rest.append_left _).trans (List.filter_append_perm _ _)

theorem flatMap_files_summarize_perm (files : List UnusedFile) :
    ((summarize files).flatMap CategorySummary.files).Perm files := by
  have all : (files.filter fun file => file.category ∈ categoriesOf files) = files := by
    apply List.filter_eq_self.mpr
    intro file member
    exact decide_eq_true (List.mem_eraseDups.mpr (List.mem_map_of_mem member))
  have groups := flatMap_ofCategory_perm (nodup_eraseDups (files.map UnusedFile.category)) files
  rw [← categoriesOf, all] at groups
  rw [summarize, List.flatMap_map]
  exact groups

theorem exists_file_of_mem_summarize {files : List UnusedFile} {summary : CategorySummary}
    (member : summary ∈ summarize files) : ∃ file ∈ files, file.category = summary.category := by
  obtain ⟨label, known, rfl⟩ := List.mem_map.mp member
  exact List.mem_map.mp (List.mem_eraseDups.mp known)

theorem count_of_mem_summarize {files : List UnusedFile} {summary : CategorySummary}
    (member : summary ∈ summarize files) : summary.count = summary.files.length := by
  obtain ⟨label, _, rfl⟩ := List.mem_map.mp member
  rfl

theorem size_of_mem_summarize {files : List UnusedFile} {summary : CategorySummary}
    (member : summary ∈ summarize files) : summary.size = totalSize summary.files := by
  obtain ⟨label, _, rfl⟩ := List.mem_map.mp member
  rfl

theorem files_sublist_of_mem_summarize {files : List UnusedFile} {summary : CategorySummary}
    (member : summary ∈ summarize files) : summary.files.Sublist files := by
  obtain ⟨label, _, rfl⟩ := List.mem_map.mp member
  exact List.filter_sublist

theorem sum_count_summarize (files : List UnusedFile) :
    ((summarize files).map CategorySummary.count).sum = files.length := by
  have counts : (summarize files).map CategorySummary.count =
      (summarize files).map fun summary => (summary.files.length : Int) :=
    List.map_congr_left fun _ => count_of_mem_summarize
  rw [counts, ← (flatMap_files_summarize_perm files).length_eq, List.length_flatMap,
    Nat.cast_list_sum, List.map_map]
  rfl

theorem sum_size_summarize (files : List UnusedFile) :
    ((summarize files).map CategorySummary.size).sum = totalSize files := by
  have sizes : (summarize files).map CategorySummary.size =
      (summarize files).map fun summary => (summary.files.map UnusedFile.size).sum := by
    apply List.map_congr_left
    intro summary member
    rw [size_of_mem_summarize member, totalSize_eq_sum]
  rw [sizes, totalSize_eq_sum, ← ((flatMap_files_summarize_perm files).map _).sum_eq,
    List.map_flatMap, List.flatMap_def, List.sum_flatten, List.map_map]
  rfl

/-- Files of one new category that come last make one more group, the last one. -/
theorem summarize_append_uniform {files others : List UnusedFile} {label : Text}
    (fresh : ∀ file ∈ files, file.category ≠ label)
    (uniform : ∀ file ∈ others, file.category = label) (some_other : others ≠ []) :
    summarize (files ++ others) =
      summarize files ++ [⟨label, others.length, totalSize others, others⟩] := by
  have none_before : ofCategory label files = [] := by
    apply List.filter_eq_nil_iff.mpr
    intro file member
    simpa using fresh file member
  have all_after : ofCategory label others = others := by
    apply List.filter_eq_self.mpr
    intro file member
    simpa using uniform file member
  have labels : categoriesOf (files ++ others) = categoriesOf files ++ [label] := by
    have after : (others.map UnusedFile.category).removeAll (files.map UnusedFile.category) =
        others.map UnusedFile.category := by
      apply List.filter_eq_self.mpr
      intro other member
      obtain ⟨file, inside, rfl⟩ := List.mem_map.mp member
      have absent : file.category ∉ files.map UnusedFile.category := by
        intro known
        obtain ⟨earlier, before, same⟩ := List.mem_map.mp known
        exact fresh earlier before (same.trans (uniform file inside))
      simpa using absent
    have same : others.map UnusedFile.category = List.replicate others.length label :=
      List.map_eq_replicate_iff.mpr uniform
    obtain ⟨first, rest, shape⟩ := List.exists_cons_of_ne_nil some_other
    rw [categoriesOf, List.map_append, List.eraseDups_append, after, same, shape,
      List.length_cons, List.replicate_succ, List.eraseDups_cons]
    simp [categoriesOf]
  have before : ∀ other ∈ categoriesOf files, ofCategory other others = [] := by
    intro other member
    obtain ⟨file, inside, rfl⟩ := List.mem_map.mp (List.mem_eraseDups.mp member)
    apply List.filter_eq_nil_iff.mpr
    intro later after
    simpa [uniform later after] using (fresh file inside).symm
  rw [summarize, labels, List.map_append, summarize]
  congr 1
  · apply List.map_congr_left
    intro other member
    have added := before other member
    simp only [ofCategory, List.filter_append] at added ⊢
    rw [added, List.append_nil]
  · have group : ofCategory label (files ++ others) = others := by
      simp only [ofCategory, List.filter_append] at none_before all_after ⊢
      rw [none_before, all_after, List.nil_append]
    simp only [List.map_cons, List.map_nil, group]

/-- A category that only the files at the end have is summarized last, by those files. -/
theorem summary_of_uniform_end {files others : List UnusedFile} {label : Text}
    (fresh : ∀ file ∈ files, file.category ≠ label)
    (uniform : ∀ file ∈ others, file.category = label) {summary : CategorySummary}
    (member : summary ∈ summarize (files ++ others)) (labelled : summary.category = label) :
    (summarize (files ++ others)).getLast? = some summary ∧ summary.files = others := by
  have not_before : summary ∉ summarize files := by
    intro before
    obtain ⟨file, inside, same⟩ := exists_file_of_mem_summarize before
    exact fresh file inside (same.trans labelled)
  by_cases none_other : others = []
  · rw [none_other, List.append_nil] at member
    exact absurd member not_before
  · rw [summarize_append_uniform fresh uniform none_other] at member ⊢
    have last := (List.mem_append.mp member).resolve_left not_before
    rw [List.mem_singleton] at last
    subst last
    exact ⟨List.getLast?_concat, rfl⟩

/-- The group of a label. -/
def groupOf (files : List UnusedFile) (label : Text) : CategorySummary :=
  let members := ofCategory label files
  ⟨label, members.length, totalSize members, members⟩

@[simp] theorem category_groupOf (files : List UnusedFile) (label : Text) :
    (groupOf files label).category = label := rfl

theorem summarize_eq_map (files : List UnusedFile) :
    summarize files = (categoriesOf files).map (groupOf files) := rfl

/-- A group with one more file at the end. -/
def CategorySummary.extend (summary : CategorySummary) (file : UnusedFile) : CategorySummary :=
  { summary with
    count := summary.count + 1
    size := summary.size + file.size
    files := summary.files ++ [file] }

/-- Puts a file into the group of its category, or into a new group behind the others. -/
def joinGroup (file : UnusedFile) : List CategorySummary → List CategorySummary
  | [] => [CategorySummary.extend ⟨file.category, 0, 0, []⟩ file]
  | summary :: summaries =>
    if summary.category = file.category then summary.extend file :: summaries
    else summary :: joinGroup file summaries

theorem groupOf_concat (files : List UnusedFile) (file : UnusedFile) (label : Text) :
    groupOf (files ++ [file]) label =
      if label = file.category then (groupOf files label).extend file else groupOf files label := by
  by_cases own : label = file.category
  · have added : ofCategory label (files ++ [file]) = ofCategory label files ++ [file] := by
      simp [ofCategory, own]
    rw [if_pos own, groupOf, added, totalSize_eq_sum, List.map_append, List.sum_append,
      ← totalSize_eq_sum, List.length_append]
    simp [CategorySummary.extend, groupOf]
  · have kept : ofCategory label (files ++ [file]) = ofCategory label files := by
      simp [ofCategory, Ne.symm own]
    rw [if_neg own, groupOf, kept, groupOf]

theorem nodup_categoriesOf (files : List UnusedFile) : (categoriesOf files).Nodup :=
  nodup_eraseDups _

theorem categoriesOf_concat (files : List UnusedFile) (file : UnusedFile) :
    categoriesOf (files ++ [file]) =
      if file.category ∈ categoriesOf files then categoriesOf files
      else categoriesOf files ++ [file.category] := by
  rw [categoriesOf, List.map_append, List.map_singleton, eraseDups_concat]
  simp only [categoriesOf, List.mem_eraseDups]

theorem joinGroup_groups {files : List UnusedFile} {file : UnusedFile} {labels : List Text}
    (distinct : labels.Nodup)
    (fresh : file.category ∉ labels → ofCategory file.category files = []) :
    joinGroup file (labels.map (groupOf files)) =
      (if file.category ∈ labels then labels else labels ++ [file.category]).map
        (groupOf (files ++ [file])) := by
  induction labels with
  | nil =>
    rw [if_neg List.not_mem_nil, List.nil_append, List.map_singleton, groupOf_concat, if_pos rfl,
      groupOf, fresh List.not_mem_nil]
    rfl
  | cons label labels ih =>
    rw [List.nodup_cons] at distinct
    rw [List.map_cons, joinGroup, category_groupOf]
    by_cases own : label = file.category
    · have later : labels.map (groupOf files) = labels.map (groupOf (files ++ [file])) := by
        apply List.map_congr_left
        intro other member
        rw [groupOf_concat, if_neg]
        intro same
        exact distinct.1 (own.trans same.symm ▸ member)
      rw [if_pos own, if_pos (own ▸ List.mem_cons_self), List.map_cons, groupOf_concat, if_pos own,
        later]
    · have among : file.category ∈ label :: labels ↔ file.category ∈ labels := by
        simp [Ne.symm own]
      have rest := ih distinct.2 fun absent => fresh (mt among.mp absent)
      have first : groupOf (files ++ [file]) label = groupOf files label := by
        rw [groupOf_concat, if_neg own]
      rw [if_neg own, rest, ← first, ← List.map_cons]
      simp only [among]
      split <;> rfl

theorem length_summarize (files : List UnusedFile) :
    (summarize files).length = (files.map UnusedFile.category).toFinset.card := by
  have same : (categoriesOf files).toFinset = (files.map UnusedFile.category).toFinset := by
    ext label
    simp [categoriesOf]
  rw [summarize_eq_map, List.length_map, ← same,
    List.toFinset_card_of_nodup (nodup_categoriesOf files)]

theorem ofCategory_eq_nil {files : List UnusedFile} {label : Text} :
    ofCategory label files = [] ↔ label ∉ categoriesOf files := by
  simp [ofCategory, categoriesOf, List.mem_eraseDups]

/-- One more file at the end is put into its group; nothing else changes. -/
theorem summarize_concat (files : List UnusedFile) (file : UnusedFile) :
    summarize (files ++ [file]) = joinGroup file (summarize files) := by
  rw [summarize_eq_map, summarize_eq_map, categoriesOf_concat,
    joinGroup_groups (nodup_categoriesOf files) ofCategory_eq_nil.mpr]

/-- The summary grows file by file. -/
theorem summarize_eq_foldl (files : List UnusedFile) :
    summarize files = files.foldl (fun summaries file => joinGroup file summaries) [] := by
  induction files using List.reverseRecOn with
  | nil => rfl
  | append_singleton files file ih => rw [List.foldl_concat, ← ih, summarize_concat]

/-- Groups put one behind the other are found again as they are. -/
theorem summarize_flatMap_ofCategory {files : List UnusedFile} {labels : List Text}
    (distinct : labels.Nodup) (known : ∀ label ∈ labels, label ∈ categoriesOf files) :
    summarize (labels.flatMap fun label => ofCategory label files) =
      labels.map (groupOf files) := by
  induction labels using List.reverseRecOn with
  | nil => rfl
  | append_singleton labels label ih =>
    obtain ⟨distinct', _, apart⟩ := List.nodup_append.mp distinct
    rw [List.forall_mem_append, List.forall_mem_singleton] at known
    have uniform : ∀ file ∈ ofCategory label files, file.category = label := by
      intro file member
      simpa using (List.mem_filter.mp member).2
    have fresh : ∀ file ∈ labels.flatMap fun label => ofCategory label files,
        file.category ≠ label := by
      intro file member
      obtain ⟨other, inside, labelled⟩ := List.mem_flatMap.mp member
      have same : file.category = other := by simpa using (List.mem_filter.mp labelled).2
      rw [same]
      exact apart other inside label (List.mem_singleton_self label)
    have some_file : ofCategory label files ≠ [] := fun none => ofCategory_eq_nil.mp none known.2
    rw [List.flatMap_append, List.flatMap_singleton,
      summarize_append_uniform fresh uniform some_file, ih distinct' known.1, List.map_append]
    rfl

theorem summarize_flatMap_files (files : List UnusedFile) :
    summarize ((summarize files).flatMap CategorySummary.files) = summarize files := by
  rw [summarize_eq_map files, List.flatMap_map]
  exact summarize_flatMap_ofCategory (nodup_categoriesOf files) fun _ member => member

/-- The groups are those that the files make when they are put in one after the other. The
categories come in the order in which they first appear, each once; a group holds the files of
its category in their order, with their number and the sum of their sizes. Together the groups
hold each file once, and grouping them again changes nothing. -/
theorem summarize_partitions (files : List UnusedFile) :
    summarize files = files.foldl (fun summaries file => joinGroup file summaries) [] ∧
      ((summarize files).map CategorySummary.category).Pairwise
        (fun a b => (files.map UnusedFile.category).idxOf a <
          (files.map UnusedFile.category).idxOf b) ∧
      (∀ label, label ∈ (summarize files).map CategorySummary.category ↔
        ∃ file ∈ files, file.category = label) ∧
      (∀ summary ∈ summarize files,
        summary.files = files.filter (·.category = summary.category) ∧ summary.files ≠ [] ∧
          summary.count = summary.files.length ∧
          summary.size = (summary.files.map UnusedFile.size).sum) ∧
      ((summarize files).flatMap CategorySummary.files).Perm files ∧
      ((summarize files).map CategorySummary.count).sum = files.length ∧
      ((summarize files).map CategorySummary.size).sum = (files.map UnusedFile.size).sum ∧
      summarize ((summarize files).flatMap CategorySummary.files) = summarize files := by
  refine ⟨summarize_eq_foldl files, ?_, ?_, ?_, flatMap_files_summarize_perm files,
    sum_count_summarize files, ?_, summarize_flatMap_files files⟩
  · rw [map_category_summarize]
    exact eraseDups_pairwise_idxOf _
  · intro label
    rw [map_category_summarize, categoriesOf, List.mem_eraseDups, List.mem_map]
  · intro summary member
    refine ⟨?_, files_ne_nil_of_mem_summarize member, count_of_mem_summarize member, ?_⟩
    · obtain ⟨label, _, rfl⟩ := List.mem_map.mp member
      rfl
    · rw [size_of_mem_summarize member, totalSize_eq_sum]
  · rw [sum_size_summarize, totalSize_eq_sum]

end OrphanFiles
