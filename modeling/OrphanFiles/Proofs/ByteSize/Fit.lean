import OrphanFiles.Proofs.ByteSize.Exact

/-! The number in front of a unit. It is at least one, and below the largest unit it is at most
1024. The unit is chosen on the size and the number is rounded after that, so 1024 itself is
written where the size is within half a hundredth of the next unit. -/
namespace OrphanFiles.ByteSize

theorem lt_of_unitOf_lt {size : ℤ} {unit : ℕ} (few : unit ≤ 3) (below : unitOf size < unit) :
    size < 1024 ^ unit := by
  by_contra reached
  have positive : 0 < size := lt_of_lt_of_le (by positivity) (not_lt.mp reached)
  have greatest := (isGreatest_unitOf positive).2 ⟨few, not_lt.mp reached⟩
  omega

theorem unitOf_le_three (size : ℤ) : unitOf size ≤ 3 := by
  rw [unitOf]
  split_ifs <;> omega

/-- The text of a size is read back as its hundredths of its unit. -/
theorem shown_of_format? {size : ℤ} (nonneg : 0 ≤ size) {text : Text}
    (written : format? size = some text) :
    ∃ hundredths : ℕ, hundredths? size.natAbs (unitOf size) = some hundredths ∧
      Shown.ofText? text = some ⟨hundredths / 100, unitOf size⟩ := by
  obtain ⟨hundredths, name, rounded, named, rfl⟩ := (format?_eq_some nonneg).mp written
  exact ⟨hundredths, rounded, ofText?_written (isNumeral_numeral hundredths) named⟩

theorem pow_1024 (unit : ℕ) : 1024 ^ unit = 2 ^ (10 * unit) := by
  rw [pow_mul]
  rfl

section Hundredths

variable {count hundredths : ℕ} (written : hundredths? count (unitOf count) = some hundredths)
include written

theorem le_hundredths (positive : 0 < count) : 100 ≤ hundredths := by
  obtain ⟨-, rfl⟩ := hundredths?_eq_some.mp written
  have reached : 1024 ^ unitOf count ≤ count := by
    exact_mod_cast (isGreatest_unitOf (Int.natCast_pos.mpr positive)).1.2
  rw [pow_1024] at reached
  have kept := two_pow_le_roundSignificant (by decide : 0 < significantDigits) reached
  rw [unitBytes_eq, pow_1024]
  apply le_roundHalfEven (by positivity)
  omega

/-- Below the largest unit no more than 1024 of a unit are written. -/
theorem hundredths_le (smaller : unitOf count < 3) : hundredths ≤ 102400 := by
  obtain ⟨-, rfl⟩ := hundredths?_eq_some.mp written
  have missed : count ≤ 1024 ^ (unitOf count + 1) := by
    exact_mod_cast (lt_of_unitOf_lt smaller (Nat.lt_succ_self _)).le
  rw [pow_1024] at missed
  have kept := roundSignificant_le_two_pow (by decide : 0 < significantDigits) missed
  rw [← pow_1024, pow_succ] at kept
  rw [unitBytes_eq]
  apply roundHalfEven_le (by positivity)
  omega

/-- A size below the largest unit is short enough to be rounded once. -/
theorem hundredths_of_unitOf_lt (smaller : unitOf count < 3) :
    hundredths = roundHalfEven (count * 100) (1024 ^ unitOf count) := by
  have missed : (count : ℤ) < 1024 ^ 3 := lt_of_unitOf_lt (le_refl 3) smaller
  have narrow : count.log2 < significantDigits := by
    by_cases zero : count = 0
    · rw [zero]
      decide
    · exact (Nat.log2_lt zero).mpr (by rw [significantDigits]; omega)
  rw [hundredths?_of_log2_lt narrow, unitBytes_eq] at written
  exact (Option.some.inj written).symm

theorem number_eq_iff (smaller : unitOf count < 3) :
    (hundredths / 100 : ℚ) = 1024 ↔ 1024 - 1 / 200 ≤ (count / 1024 ^ unitOf count : ℚ) := by
  have even : Even 102400 := by decide
  calc (hundredths / 100 : ℚ) = 1024 ↔ 102400 ≤ hundredths := by
        constructor
        · intro full
          have whole : (hundredths : ℚ) = (102400 : ℕ) := by
            push_cast
            linarith
          exact (Nat.cast_injective whole).ge
        · intro reached
          rw [Nat.le_antisymm (hundredths_le written smaller) reached]
          norm_num
    _ ↔ 2 * (102400 * 1024 ^ unitOf count) ≤ 2 * (count * 100) + 1024 ^ unitOf count := by
        rw [hundredths_of_unitOf_lt written smaller]
        exact le_roundHalfEven_iff_of_even (by positivity) even
    _ ↔ 1024 - 1 / 200 ≤ (count / 1024 ^ unitOf count : ℚ) := by
        rw [le_div_iff₀ (by positivity), ← @Nat.cast_le ℚ]
        push_cast
        constructor <;> intro close <;> linarith

end Hundredths

/-- The number is at least one. Below the largest unit it is at most 1024, and it is 1024 just
where the size is at most half a hundredth of the unit away from that. -/
theorem number_fits_unit {size : ℤ} (positive : 1 ≤ size) {text : Text}
    (written : format? size = some text) :
    ∃ shown, Shown.ofText? text = some shown ∧ 1 ≤ shown.number ∧
      (unitNames[shown.unit]? ≠ some "GB".toList →
        shown.number ≤ 1024 ∧
          (shown.number = 1024 ↔ 1024 - 1 / 200 ≤ (size / 1024 ^ shown.unit : ℚ))) := by
  lift size to ℕ using by omega
  obtain ⟨hundredths, rounded, shown⟩ := shown_of_format? size.cast_nonneg written
  rw [Int.natAbs_natCast] at rounded
  have least : 100 ≤ hundredths := le_hundredths rounded (by omega)
  refine ⟨_, shown, ?_, ?_⟩
  · rw [le_div_iff₀ (by norm_num)]
    exact_mod_cast least
  · intro smaller
    have below : unitOf size < 3 := by
      refine lt_of_le_of_ne (unitOf_le_three size) ?_
      intro largest
      exact smaller (by rw [largest]; rfl)
    have most : hundredths ≤ 102400 := hundredths_le rounded below
    refine ⟨?_, by simpa using number_eq_iff rounded below⟩
    rw [div_le_iff₀ (by norm_num)]
    exact_mod_cast most

theorem number_fits_below_megabyte : (1 : ℤ) ≤ 1048575 ∧ format? 1048575 = some "1024 KB".toList ∧
    ∃ shown, Shown.ofText? "1024 KB".toList = some shown ∧ 1 ≤ shown.number ∧
      (unitNames[shown.unit]? ≠ some "GB".toList →
        shown.number ≤ 1024 ∧
          (shown.number = 1024 ↔
            1024 - 1 / 200 ≤ (((1048575 : ℤ) : ℚ) / 1024 ^ shown.unit : ℚ))) :=
  ⟨by decide, by decide, number_fits_unit (by decide) (by decide)⟩

/-- One byte less than a megabyte is written as 1024 kilobytes. -/
theorem number_reaches_next_unit : ¬ ∀ (size : ℤ) (text : Text), 1 ≤ size →
    format? size = some text → ∃ shown, Shown.ofText? text = some shown ∧ 1 ≤ shown.number ∧
      (unitNames[shown.unit]? ≠ some "GB".toList → shown.number < 1024) := by
  intro fits
  obtain ⟨shown, read, -, small⟩ := fits 1048575 "1024 KB".toList (by decide) (by decide)
  have kilobytes : Shown.ofText? "1024 KB".toList = some ⟨1024, 1⟩ := by decide
  rw [kilobytes] at read
  cases read
  exact absurd (small (by decide)) (lt_irrefl _)

end OrphanFiles.ByteSize
