import OrphanFiles.Proofs.Path.Anchored
import OrphanFiles.Proofs.Report.Characters
import OrphanFiles.Proofs.Report.Printing

/-! What the lines of a plain report say. Between the opening and the notes there is one section
for each category, and in it one row for each of its files; the groups hold each unused file
once, and so do the rows. -/
namespace OrphanFiles

/-- What is shown of a path: the rest of it below the root, or all of it if it is not below. -/
def Path.ShownFrom (root path : Path) (shown : Text) : Prop :=
  (∃ rest : Path, rest.anchor = .relative ∧ path = root.join rest ∧ shown = rest.text) ∨
    (∀ rest : Path, rest.anchor = .relative → path ≠ root.join rest) ∧ shown = path.text

theorem Path.shownFrom_below (root path : Path) : root.ShownFrom path (path.below root).text := by
  unfold below
  cases stripped : path.relativeTo? root with
  | none =>
    right
    refine ⟨?_, by simp [stripped]⟩
    rintro rest relative rfl
    rw [relativeTo?_join relative] at stripped
    cases stripped
  | some rest =>
    left
    obtain ⟨relative, same⟩ := relativeTo?_eq_some.mp stripped
    exact ⟨rest, relative, same.trans (join_relative relative).symm, by simp [stripped]⟩

/-- A row: the branch, the path from the root, and the size between brackets. -/
def IsRow (root : Path) (branch : Text) (file : UnusedFile) (row : Text) : Prop :=
  ∃ shown size, root.ShownFrom file.path shown ∧ ByteSize.format? file.size = some size ∧
    row = branch ++ ' ' :: shown ++ " (".toList ++ size ++ [')']

/-- A title in a box of eighty columns, or of more if it does not fit, with an empty line on
either side. -/
def boxed (title : Text) : List Text := [
  [],
  '┌' :: List.replicate 78 '─' ++ ['┐'],
  "│ ".toList ++ title ++ List.replicate (76 - title.length) ' ' ++ " │".toList,
  '└' :: List.replicate 78 '─' ++ ['┘'],
  []]

/-- A section: the box with the label in capitals and the number of files, the size of the
group, and right below it a row for each file, the last of which hangs on the closing branch. -/
def IsSection (root : Path) (summary : CategorySummary) (lines : List Text) : Prop :=
  ∃ size earlier last rows row, ByteSize.format? summary.size = some size ∧
    summary.files = earlier ++ [last] ∧
    List.Forall₂ (IsRow root "├─".toList) earlier rows ∧ IsRow root "└─".toList last row ∧
    lines =
      boxed (Layout.iconOf summary.category ++ ' ' :: Unicode.upper summary.category ++
        " (".toList ++ Text.ofInt summary.count ++ " files)".toList) ++
      ("Total size: ".toList ++ size) :: (rows ++ [row])

/-- Whether lines are those of a report: the opening, the overview with the number of files, the
number of categories and the size of all, a section for each group, and the notes. -/
def Report.IsListing (report : Report) (lines : List Text) : Prop :=
  ∃ savings sections, ByteSize.format? report.totalSize = some savings ∧
    List.Forall₂ (IsSection (.ofText report.root)) report.byCategory sections ∧
    lines =
      (Layout.banner ++ Layout.counts report).map (Line.write false) ++
      [[],
        "📊 Summary:".toList,
        "├─ Unused files found: ".toList ++ Text.ofInt report.unused.length,
        "├─ Types of unused files: ".toList ++
          Text.ofInt (report.unused.map UnusedFile.category).toFinset.card,
        "└─ Potential savings: ".toList ++ savings] ++
      sections.flatten ++ Layout.notes.map (Line.write false)

theorem Line.Lacks.notMem_write {line : Line} {c : Char} (lacks : line.Lacks c) :
    c ∉ line.write false := by
  intro member
  obtain ⟨span, inside, found⟩ := List.mem_flatMap.mp member
  exact lacks span inside found

theorem splitOn_writeLines {lines : List Line} (some_line : lines ≠ [])
    (unbroken : ∀ line ∈ lines, line.Lacks '\n') :
    (writeLines false lines).splitOn '\n' = lines.map (Line.write false) := by
  apply List.splitOn_intercalate
  · intro text member
    obtain ⟨line, inside, rfl⟩ := List.mem_map.mp member
    exact (unbroken line inside).notMem_write
  · simpa using some_line

namespace Layout

variable {root : Path}

theorem isRow_of_row? {branch : Text} {file : UnusedFile} {row : Line}
    (written : row? root branch file = some row) :
    IsRow root branch file (row.write false) := by
  obtain ⟨size, sized, rfl⟩ := row?_eq_some.mp written
  refine ⟨_, size, Path.shownFrom_below root file.path, sized, ?_⟩
  simp [Line.write, Span.write]

theorem isRow_of_rowsOn {branch : Text} {files : List UnusedFile} {rows : List Line}
    (written : RowsOn root branch files rows) :
    List.Forall₂ (IsRow root branch) files (rows.map (Line.write false)) := by
  rw [List.forall₂_map_right_iff]
  exact written.imp fun _ _ => isRow_of_row?

theorem write_box (title : Text) : (box title).map (Line.write false) = boxed title := by
  have padding : 77 - (title.length + 1) = 76 - title.length := by omega
  simp [box, boxed, Line.write, Span.write, blank, ruled, padRight, width, padding]

theorem write_overview (report : Report) (savings : Text) :
    (overview report savings).map (Line.write false) = [
      [],
      "📊 Summary:".toList,
      "├─ Unused files found: ".toList ++ Text.ofInt report.unused.length,
      "├─ Types of unused files: ".toList ++ Text.ofInt report.byCategory.length,
      "└─ Potential savings: ".toList ++ savings] := by
  simp [overview, Line.write, Span.write, blank, line, item, middleBranch, lastBranch]

theorem isSection_of_section? {summary : CategorySummary} {lines : List Line}
    (some_file : summary.files ≠ []) (written : section? root summary = some lines) :
    IsSection root summary (lines.map (Line.write false)) := by
  obtain ⟨size, listing, sized, listed, rfl⟩ := section?_eq_some.mp written
  obtain ⟨earlier, last, split⟩ := (List.eq_nil_or_concat summary.files).resolve_left some_file
  rw [List.concat_eq_append] at split
  rw [split] at listed
  obtain ⟨rows, row, above, final, rfl⟩ := rows?_concat_eq_some.mp listed
  refine ⟨size, earlier, last, _, _, sized, split, isRow_of_rowsOn above, isRow_of_row? final, ?_⟩
  rw [List.map_append, write_box, List.map_cons, List.map_append]
  simp [Line.write, Span.write, title]

theorem isSection_of_sections {summaries : List CategorySummary} {sections : List (List Line)}
    (some_file : ∀ summary ∈ summaries, summary.files ≠ [])
    (written : List.Forall₂ (fun summary part => section? root summary = some part)
      summaries sections) :
    List.Forall₂ (IsSection root) summaries (sections.map (List.map (Line.write false))) := by
  induction written with
  | nil => exact .nil
  | cons here _ ih =>
    rw [List.forall_mem_cons] at some_file
    exact .cons (isSection_of_section? some_file.1 here) (ih some_file.2)

end Layout

namespace Report

/-- Where the groups are those of the unused files, it is enough to look at these. -/
theorem lacks_of_grouped {report : Report} {c : Char}
    (grouped : report.byCategory = summarize report.unused)
    (free : ∀ file ∈ report.unused, c ∉ file.path.text ∧ c ∉ file.category) : report.Lacks c := by
  constructor
  · intro summary known
    obtain ⟨file, member, same⟩ := exists_file_of_mem_summarize (grouped ▸ known)
    rw [← same]
    exact (free file member).2
  · intro summary known file member
    exact (free file ((files_sublist_of_mem_summarize (grouped ▸ known)).subset member)).1

/-- A report on unused files, grouped and with sizes that can be written, has a text. Its lines
are the opening, the overview, and for each group its section with one row for each file, and
then the notes; each unused file is in one group, once. -/
theorem lists_each_unused_file {report : Report} (some_unused : report.unused ≠ [])
    (grouped : report.byCategory = summarize report.unused)
    (unbroken : ∀ file ∈ report.unused, '\n' ∉ file.path.text ∧ '\n' ∉ file.category)
    (printable : report.Printable) :
    ∃ text, report.render? false = some text ∧ report.IsListing (text.splitOn '\n') ∧
      (report.byCategory.flatMap CategorySummary.files).Perm report.unused := by
  obtain ⟨text, rendered⟩ := printable.exists_text false
  obtain ⟨lines, laid, written⟩ := Option.map_eq_some_iff.mp rendered
  obtain ⟨savings, sections, total, parts, shape⟩ := (layout?_eq_some some_unused).mp laid
  have some_file : ∀ summary ∈ report.byCategory, summary.files ≠ [] := by
    intro summary known
    exact files_ne_nil_of_mem_summarize (grouped ▸ known)
  refine ⟨text, rendered, ?_, grouped ▸ flatMap_files_summarize_perm report.unused⟩
  refine ⟨savings, _, total, Layout.isSection_of_sections some_file parts, ?_⟩
  have some_line : lines ≠ [] := by simp [shape, Layout.banner]
  have whole := (lacks_of_grouped grouped unbroken).layout (by decide) laid
  rw [← written, splitOn_writeLines some_line whole, shape, ← length_summarize, ← grouped,
    ← Layout.write_overview]
  simp only [List.map_append, List.map_flatten]

/-- Two files of one category, and between them a file that is not below the root. -/
def atticFiles : List UnusedFile := [
  ⟨.ofText "/shop/src/cart.ts".toList, 2048, "util".toList, none⟩,
  ⟨.ofText "/attic/old.css".toList, 1, "style".toList, none⟩,
  ⟨.ofText "/shop/src/tax.ts".toList, 10, "util".toList, none⟩]

def atticReport : Report where
  root := "/shop".toList
  generatedAt := []
  sourceFiles := 5
  publicFiles := 0
  unused := atticFiles
  totalSize := 2059
  byCategory := summarize atticFiles

theorem attic_report_lists :
    atticReport.Printable ∧
      ∃ text, atticReport.render? false = some text ∧ atticReport.IsListing (text.splitOn '\n') ∧
        (atticReport.byCategory.flatMap CategorySummary.files).Perm atticFiles := by
  have measured : atticReport.Measured := ⟨by decide, rfl, rfl⟩
  have printable := measured.printable (by decide +kernel)
  exact ⟨printable, lists_each_unused_file (by decide) rfl (by decide +kernel) printable⟩

end Report
end OrphanFiles
