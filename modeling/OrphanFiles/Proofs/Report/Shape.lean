import Mathlib.Data.List.Forall2
import OrphanFiles.Report.Layout

/-! The parts of which a readable report is put together. A section has one row for each file,
and all but the last row hang on the middle branch; the sections stand one behind the other
between the overview and the notes. -/
namespace OrphanFiles

namespace Layout

variable {root : Path}

theorem row?_eq_some {branch : Text} {file : UnusedFile} {row : Line} :
    row? root branch file = some row ↔
      ∃ size, ByteSize.format? file.size = some size ∧
        row = [⟨.blue, branch⟩, ⟨.yellow, ' ' :: (file.path.below root).text⟩,
          ⟨.gray, " (".toList ++ size ++ [')']⟩] := by
  rw [row?]
  cases ByteSize.format? file.size <;> simp [eq_comm]

/-- Rows of files, all on one branch. -/
def RowsOn (root : Path) (branch : Text) (files : List UnusedFile) (rows : List Line) : Prop :=
  List.Forall₂ (fun file row => row? root branch file = some row) files rows

/-- The last row hangs on the closing branch and the others on the middle one. -/
theorem rows?_concat_eq_some {earlier : List UnusedFile} {last : UnusedFile} {lines : List Line} :
    rows? root (earlier ++ [last]) = some lines ↔
      ∃ rows row, RowsOn root middleBranch earlier rows ∧ row? root lastBranch last = some row ∧
        lines = rows ++ [row] := by
  induction earlier generalizing lines with
  | nil =>
    rw [List.nil_append, rows?]
    cases row? root lastBranch last <;> simp [RowsOn, eq_comm]
  | cons file earlier ih =>
    have step : rows? root (file :: earlier ++ [last]) = do
        let row ← row? root middleBranch file
        let rows ← rows? root (earlier ++ [last])
        return row :: rows := by
      cases earlier <;> rfl
    rw [step]
    constructor
    · intro written
      simp only [Option.bind_eq_bind, Option.bind_eq_some_iff, ih] at written
      obtain ⟨first, here, _, ⟨rows, row, later, final, rfl⟩, same⟩ := written
      cases same
      exact ⟨first :: rows, row, .cons here later, final, rfl⟩
    · rintro ⟨_, row, _ | ⟨here, later⟩, final, rfl⟩
      have rest := ih.mpr ⟨_, row, later, final, rfl⟩
      rw [here, Option.bind_eq_bind, Option.bind_some, rest]
      rfl

theorem section?_eq_some {summary : CategorySummary} {lines : List Line} :
    (section? root summary = some lines) ↔
      ∃ size rows, ByteSize.format? summary.size = some size ∧
        rows? root summary.files = some rows ∧
        lines = box (title summary) ++ [⟨.gray, "Total size: ".toList ++ size⟩] :: rows := by
  rw [section?]
  cases ByteSize.format? summary.size <;> cases rows? root summary.files <;> simp [eq_comm]

theorem sections?_eq_some {summaries : List CategorySummary} {lines : List Line} :
    sections? root summaries = some lines ↔
      ∃ sections, List.Forall₂ (fun summary part => section? root summary = some part)
        summaries sections ∧ lines = sections.flatten := by
  induction summaries generalizing lines with
  | nil => simp [sections?, eq_comm]
  | cons summary summaries ih =>
    rw [sections?]
    constructor
    · intro written
      simp only [Option.bind_eq_bind, Option.bind_eq_some_iff, ih] at written
      obtain ⟨part, here, _, ⟨sections, later, rfl⟩, same⟩ := written
      cases same
      exact ⟨part :: sections, .cons here later, rfl⟩
    · rintro ⟨_, _ | ⟨here, later⟩, rfl⟩
      rw [here, Option.bind_eq_bind, Option.bind_some, ih.mpr ⟨_, later, rfl⟩]
      rfl

end Layout

open Layout

theorem Report.layout?_eq_some {report : Report} (some_unused : report.unused ≠ [])
    {lines : List Line} :
    report.layout? = some lines ↔
      ∃ savings sections, ByteSize.format? report.totalSize = some savings ∧
        List.Forall₂ (fun summary part => section? (.ofText report.root) summary = some part)
          report.byCategory sections ∧
        lines =
          banner ++ counts report ++ overview report savings ++ sections.flatten ++ notes := by
  rw [layout?, if_neg some_unused]
  constructor
  · intro written
    simp only [Option.bind_eq_bind, Option.bind_eq_some_iff, sections?_eq_some] at written
    obtain ⟨savings, total, _, ⟨sections, parts, rfl⟩, same⟩ := written
    cases same
    exact ⟨savings, sections, total, parts, rfl⟩
  · rintro ⟨savings, sections, total, parts, rfl⟩
    rw [total, Option.bind_eq_bind, Option.bind_some, sections?_eq_some.mpr ⟨_, parts, rfl⟩]
    rfl

end OrphanFiles
