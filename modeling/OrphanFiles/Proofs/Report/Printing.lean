import Mathlib.Algebra.Order.BigOperators.Group.List
import OrphanFiles.Proofs.Report.Summary
import OrphanFiles.Report.Layout

/-! Which reports have a text. It is enough that no size is too large to be written, and where
totals are those of the files no size exceeds the total. -/
namespace OrphanFiles

/-- Rounding to some leading digits adds at most half of the number. -/
theorem roundSignificant_le {digits : Nat} (positive : 0 < digits) (count : Nat) :
    2 * roundSignificant digits count ≤ 3 * count := by
  by_cases short : count.log2 < digits
  · rw [roundSignificant_of_log2_lt short]
    omega
  · have nonzero : count ≠ 0 := by
      rintro rfl
      exact short positive
    have grain : 1 <<< (count.log2 + 1 - digits) ≤ count := by
      rw [Nat.one_shiftLeft]
      exact (Nat.pow_le_pow_right (by decide) (by omega)).trans (Nat.log2_self_le nonzero)
    have rounded := roundHalfEven_mul_le count (1 <<< (count.log2 + 1 - digits))
    rw [roundSignificant]
    omega

/-- Sizes of fewer than 2^1023 bytes can be written. -/
theorem ByteSize.format?_isSome {size : Int} (small : size.natAbs < 2 ^ 1023) :
    (format? size).isSome = true := by
  rw [format?]
  split
  · rfl
  · -- Rounding can add half, so a whole binary digit of the bound is kept free.
    have rounded := roundSignificant_le (by decide : 0 < significantDigits) size.natAbs
    have bound : quotientBound = 2 * 2 ^ 1023 := by decide +kernel
    have grown := Nat.le_mul_of_pos_right quotientBound (unitBytes_pos (unitOf size))
    have inside : ¬ quotientBound * unitBytes (unitOf size) ≤
        roundSignificant significantDigits size.natAbs := by omega
    simp only [hundredths?, if_neg inside]
    rfl

/-- Whether all sizes of a report can be written. -/
structure Report.Printable (report : Report) : Prop where
  total : (ByteSize.format? report.totalSize).isSome = true
  groups : ∀ summary ∈ report.byCategory, (ByteSize.format? summary.size).isSome = true
  files : ∀ summary ∈ report.byCategory, ∀ file ∈ summary.files,
    (ByteSize.format? file.size).isSome = true

namespace Layout

variable (root : Path)

theorem exists_row {file : UnusedFile} (written : (ByteSize.format? file.size).isSome = true)
    (branch : Text) : ∃ row, row? root branch file = some row := by
  obtain ⟨size, same⟩ := Option.isSome_iff_exists.mp written
  exact ⟨_, by rw [row?, same]; rfl⟩

theorem exists_rows {files : List UnusedFile}
    (written : ∀ file ∈ files, (ByteSize.format? file.size).isSome = true) :
    ∃ rows, rows? root files = some rows := by
  induction files with
  | nil => exact ⟨[], rfl⟩
  | cons file files ih =>
    rw [List.forall_mem_cons] at written
    cases files with
    | nil =>
      obtain ⟨row, here⟩ := exists_row root written.1 lastBranch
      exact ⟨[row], by rw [rows?, here]; rfl⟩
    | cons next files =>
      obtain ⟨row, here⟩ := exists_row root written.1 middleBranch
      obtain ⟨rows, rest⟩ := ih written.2
      exact ⟨row :: rows, by rw [rows?, here, rest]; rfl⟩

theorem exists_sections {summaries : List CategorySummary}
    (groups : ∀ summary ∈ summaries, (ByteSize.format? summary.size).isSome = true)
    (files : ∀ summary ∈ summaries, ∀ file ∈ summary.files,
      (ByteSize.format? file.size).isSome = true) :
    ∃ sections, sections? root summaries = some sections := by
  induction summaries with
  | nil => exact ⟨[], rfl⟩
  | cons summary summaries ih =>
    rw [List.forall_mem_cons] at groups files
    obtain ⟨size, written⟩ := Option.isSome_iff_exists.mp groups.1
    obtain ⟨rows, listed⟩ := exists_rows root files.1
    obtain ⟨rest, later⟩ := ih groups.2 files.2
    exact ⟨_, by rw [sections?, section?, written, listed, later]; rfl⟩

end Layout

theorem Report.Printable.exists_text {report : Report} (printable : report.Printable)
    (color : Bool) : ∃ text, report.render? color = some text := by
  obtain ⟨size, written⟩ := Option.isSome_iff_exists.mp printable.total
  obtain ⟨sections, laid⟩ :=
    Layout.exists_sections (.ofText report.root) printable.groups printable.files
  rw [Report.render?, layout?]
  split
  · exact ⟨_, rfl⟩
  · rw [written, laid]
    exact ⟨_, rfl⟩

theorem totalSize_le_of_sublist {files fewer : List UnusedFile}
    (natural : ∀ file ∈ files, 0 ≤ file.size) (kept : fewer.Sublist files) :
    totalSize fewer ≤ totalSize files := by
  rw [totalSize_eq_sum, totalSize_eq_sum]
  apply (kept.map UnusedFile.size).sum_le_sum
  intro size known
  obtain ⟨file, member, rfl⟩ := List.mem_map.mp known
  exact natural file member

/-- Whether sizes are counts of bytes and all totals are those of the files. -/
structure Report.Measured (report : Report) : Prop where
  natural : ∀ file ∈ report.unused, 0 ≤ file.size
  total_eq : report.totalSize = OrphanFiles.totalSize report.unused
  groups_eq : report.byCategory = summarize report.unused

theorem Report.Measured.printable {report : Report} (measured : report.Measured)
    (small : report.totalSize < 2 ^ 1023) : report.Printable := by
  have part {fewer : List UnusedFile} (kept : fewer.Sublist report.unused) :
      (ByteSize.format? (OrphanFiles.totalSize fewer)).isSome = true := by
    have less := totalSize_le_of_sublist measured.natural kept
    have positive := totalSize_le_of_sublist
      (fun file member => measured.natural file (kept.subset member)) (List.nil_sublist fewer)
    have none : OrphanFiles.totalSize [] = 0 := rfl
    have total := measured.total_eq
    exact ByteSize.format?_isSome (by omega)
  have group (summary : CategorySummary) (known : summary ∈ report.byCategory) :
      summary.files.Sublist report.unused ∧
        summary.size = OrphanFiles.totalSize summary.files := by
    rw [measured.groups_eq] at known
    exact ⟨files_sublist_of_mem_summarize known, size_of_mem_summarize known⟩
  refine ⟨measured.total_eq ▸ part (List.Sublist.refl _), ?_, ?_⟩
  · intro summary known
    rw [(group summary known).2]
    exact part (group summary known).1
  · intro summary known file member
    have single := part ((List.singleton_sublist.mpr member).trans (group summary known).1)
    have alone : OrphanFiles.totalSize [file] = file.size := Int.add_zero _
    rwa [alone] at single

end OrphanFiles
