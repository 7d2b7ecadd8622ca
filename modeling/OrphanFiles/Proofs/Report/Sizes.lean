import OrphanFiles.Proofs.ByteSize.Order
import OrphanFiles.Proofs.Json.RoundTrip
import OrphanFiles.Proofs.Report.Printing
import OrphanFiles.Proofs.Report.Shape

/-! The sizes in a readable report. Read off its lines they are the total of all, and for each
group its own total and the sizes of its files; none of them is shown as less than a smaller
one. -/
namespace OrphanFiles

/-- The sizes in a report: of all, and of each group and its files. -/
def Report.sizes (report : Report) : List ℤ :=
  report.totalSize ::
    report.byCategory.flatMap fun summary => summary.size :: summary.files.map UnusedFile.size

/-- The size that a line shows, if there is one in it. -/
def Layout.sizeText? : Line → Option Text
  | [⟨.gray, t⟩] => Text.strip? "Total size: ".toList t
  | [_, ⟨.white, t⟩] => Text.strip? " Potential savings: ".toList t
  | [_, _, ⟨.gray, t⟩] => (Text.strip? " (".toList t).map List.dropLast
  | _ => none

namespace Layout

open ByteSize

/-- The texts that lines show are those of the sizes, one by one. -/
def ShowSizes (sizes : List ℤ) (lines : List Line) : Prop :=
  List.Forall₂ (fun size text => format? size = some text) sizes (lines.filterMap sizeText?)

theorem ShowSizes.append {sizes sizes' : List ℤ} {lines lines' : List Line}
    (shown : ShowSizes sizes lines) (shown' : ShowSizes sizes' lines') :
    ShowSizes (sizes ++ sizes') (lines ++ lines') := by
  rw [ShowSizes, List.filterMap_append]
  exact List.rel_append shown shown'

theorem showSizes_nil {lines : List Line} (silent : lines.filterMap sizeText? = []) :
    ShowSizes [] lines := by
  rw [ShowSizes, silent]
  exact .nil

theorem showSizes_singleton {size : ℤ} {text : Text} {line : Line}
    (written : format? size = some text) (shown : sizeText? line = some text) :
    ShowSizes [size] [line] := by
  rw [ShowSizes, List.filterMap_cons_some shown]
  exact .cons written .nil

variable {root : Path}

theorem showSizes_row {branch : Text} {file : UnusedFile} {row : Line}
    (written : row? root branch file = some row) : ShowSizes [file.size] [row] := by
  obtain ⟨size, sized, rfl⟩ := row?_eq_some.mp written
  apply showSizes_singleton sized
  have bracket : Text.strip? " (".toList (" (".toList ++ size ++ [')']) = some (size ++ [')']) :=
    Text.strip?_eq_some.mpr (List.append_assoc ..)
  rw [sizeText?, bracket, Option.map_some, List.dropLast_concat]

theorem showSizes_rows {files : List UnusedFile} {lines : List Line}
    (written : rows? root files = some lines) :
    ShowSizes (files.map UnusedFile.size) lines := by
  rcases List.eq_nil_or_concat files with rfl | ⟨earlier, last, rfl⟩
  · cases written
    exact showSizes_nil rfl
  · rw [List.concat_eq_append] at written ⊢
    obtain ⟨rows, row, above, final, rfl⟩ := rows?_concat_eq_some.mp written
    rw [List.map_append]
    refine ShowSizes.append ?_ (showSizes_row final)
    clear written
    induction above with
    | nil => exact showSizes_nil rfl
    | cons here _ ih => exact (showSizes_row here).append ih

theorem showSizes_section {summary : CategorySummary} {lines : List Line}
    (written : section? root summary = some lines) :
    ShowSizes (summary.size :: summary.files.map UnusedFile.size) lines := by
  obtain ⟨size, rows, sized, listed, rfl⟩ := section?_eq_some.mp written
  have boxed : ShowSizes [] (box (title summary)) := showSizes_nil rfl
  have whole : ShowSizes [summary.size] [[⟨.gray, "Total size: ".toList ++ size⟩]] :=
    showSizes_singleton sized (Text.strip?_eq_some.mpr rfl)
  exact boxed.append (whole.append (showSizes_rows listed))

theorem showSizes_sections {summaries : List CategorySummary} {sections : List (List Line)}
    (written : List.Forall₂ (fun summary part => section? root summary = some part)
      summaries sections) :
    ShowSizes (summaries.flatMap fun summary =>
      summary.size :: summary.files.map UnusedFile.size) sections.flatten := by
  induction written with
  | nil => exact showSizes_nil rfl
  | cons here _ ih => exact (showSizes_section here).append ih

/-- A line that starts with a number is not taken for one with a size. -/
theorem sizeText?_count (branch : Text) (count : ℤ) (what : Text) :
    sizeText? (item branch (Text.ofInt count ++ what)) = none := by
  cases count with
  | ofNat n =>
    obtain ⟨first, more, same, digit⟩ := Json.toDigits_open n
    have other : 'P' ≠ first := by
      rintro rfl
      cases digit
    simp [item, sizeText?, Text.ofInt, same, Text.strip?, other]
  | negSucc n => simp [item, sizeText?, Text.ofInt, Text.strip?]

theorem showSizes_counts (report : Report) : ShowSizes [] (counts report) := by
  apply showSizes_nil
  simp only [counts, List.filterMap_cons, sizeText?_count]
  rfl

theorem showSizes_overview (report : Report) {savings : Text}
    (written : format? report.totalSize = some savings) :
    ShowSizes [report.totalSize] (overview report savings) := by
  have silent : ShowSizes [] ((overview report savings).take 4) := showSizes_nil rfl
  exact silent.append (showSizes_singleton written (Text.strip?_eq_some.mpr rfl))

end Layout

namespace Report

open Layout ByteSize

theorem showSizes_layout {report : Report} (some_unused : report.unused ≠ []) {lines : List Line}
    (laid : report.layout? = some lines) : ShowSizes report.sizes lines := by
  obtain ⟨savings, sections, total, parts, rfl⟩ := (layout?_eq_some some_unused).mp laid
  have opening : ShowSizes [] banner := showSizes_nil rfl
  have closing : ShowSizes [] notes := showSizes_nil rfl
  have whole := (((opening.append (showSizes_counts report)).append
    (showSizes_overview report total)).append (showSizes_sections parts)).append closing
  simpa [sizes] using whole

/-- A larger size is never shown as less than a smaller one. In a report with unused files the
lines show each size as it is formatted, and no two of them the other way round. -/
theorem sizes_shown_in_order :
    (∀ (a b : ℤ) (s t : Text), 0 ≤ a → a ≤ b → format? a = some s → format? b = some t →
      ShownAtMost s t) ∧
    ∀ (report : Report) (color : Bool) (text : Text), report.unused ≠ [] →
      report.render? color = some text →
      ∃ lines, report.layout? = some lines ∧ text = writeLines color lines ∧
        ShowSizes report.sizes lines ∧
        ∀ a b s t, (a, s) ∈ report.sizes.zip (lines.filterMap sizeText?) →
          (b, t) ∈ report.sizes.zip (lines.filterMap sizeText?) → 0 ≤ a → a ≤ b →
          ShownAtMost s t := by
  refine ⟨fun a b s t => shownAtMost_of_le, ?_⟩
  intro report color text some_unused rendered
  obtain ⟨lines, laid, written⟩ := Option.map_eq_some_iff.mp rendered
  have shown := showSizes_layout some_unused laid
  refine ⟨lines, laid, written.symm, shown, ?_⟩
  intro a b s t first second nonneg ordered
  exact shownAtMost_of_le nonneg ordered (List.forall₂_zip shown first)
    (List.forall₂_zip shown second)

/-- One byte less than a megabyte, and a megabyte. -/
def megabyteFiles : List UnusedFile := [
  ⟨.ofText "/shop/public/less.mp4".toList, 1048575, "media".toList, none⟩,
  ⟨.ofText "/shop/public/full.mp4".toList, 1048576, "media".toList, none⟩]

def megabyteReport : Report where
  root := "/shop".toList
  generatedAt := []
  sourceFiles := 0
  publicFiles := 2
  unused := megabyteFiles
  totalSize := 2097151
  byCategory := summarize megabyteFiles

theorem sizes_shown_in_order_at_megabyte :
    ShownAtMost "1024 KB".toList "1 MB".toList ∧ megabyteReport.unused ≠ [] ∧
      ∃ text, megabyteReport.render? false = some text ∧
        ∃ lines, megabyteReport.layout? = some lines ∧ text = writeLines false lines ∧
          ShowSizes megabyteReport.sizes lines ∧
          ∀ a b s t, (a, s) ∈ megabyteReport.sizes.zip (lines.filterMap sizeText?) →
            (b, t) ∈ megabyteReport.sizes.zip (lines.filterMap sizeText?) → 0 ≤ a → a ≤ b →
            ShownAtMost s t := by
  obtain ⟨ordered, listed⟩ := sizes_shown_in_order
  have measured : megabyteReport.Measured := ⟨by decide, rfl, rfl⟩
  obtain ⟨text, rendered⟩ := (measured.printable (by decide +kernel)).exists_text false
  have some_unused : megabyteReport.unused ≠ [] := by decide
  exact ⟨ordered 1048575 1048576 _ _ (by decide) (by decide) (by decide) (by decide), some_unused,
    text, rendered, listed _ _ _ some_unused rendered⟩

end Report
end OrphanFiles
