import Mathlib.Order.Bounds.Basic
import OrphanFiles.Proofs.ByteSize.Numeral
import OrphanFiles.Proofs.ByteSize.Rounding

/-! How a count of bytes is written. The unit is the largest of the four that the count reaches.
Below 2^53 the count itself is what is rounded, once, to the nearest hundredth of the unit, and
the text is the numeral of that and the unit's name. -/
namespace OrphanFiles.ByteSize

theorem unitBytes_eq (unit : ℕ) : unitBytes unit = 1024 ^ unit := by
  induction unit with
  | zero => rfl
  | succ unit ih => rw [unitBytes, ih, pow_succ, Nat.mul_comm]

theorem isGreatest_unitOf {size : ℤ} (positive : 0 < size) :
    IsGreatest {unit : ℕ | unit ≤ 3 ∧ (1024 : ℤ) ^ unit ≤ size} (unitOf size) := by
  simp only [unitOf, unitBytes_eq]
  constructor
  · rw [Set.mem_ofPred_eq]
    split_ifs <;> omega
  · rintro unit ⟨few, reached⟩
    interval_cases unit <;> split_ifs <;> omega

theorem exists_unitName (size : ℤ) : ∃ name, unitNames[unitOf size]? = some name := by
  rw [unitOf]
  split
  · exact ⟨_, rfl⟩
  · split
    · exact ⟨_, rfl⟩
    · split <;> exact ⟨_, rfl⟩

theorem hundredths?_eq_some {count unit hundredths : ℕ} :
    hundredths? count unit = some hundredths ↔
      roundSignificant significantDigits count < quotientBound * unitBytes unit ∧
        roundHalfEven (roundSignificant significantDigits count * 100) (unitBytes unit) =
          hundredths := by
  simp only [hundredths?]
  split
  · rename_i large
    simp [Nat.not_lt_of_le large]
  · rename_i bounded
    simp [Nat.lt_of_not_le bounded]

/-- What is written is the numeral of some hundredths and the name of the unit. -/
theorem format?_eq_some {size : ℤ} (nonneg : 0 ≤ size) {text : Text} :
    format? size = some text ↔ ∃ hundredths name,
      hundredths? size.natAbs (unitOf size) = some hundredths ∧
        unitNames[unitOf size]? = some name ∧ text = numeral hundredths ++ ' ' :: name := by
  obtain ⟨name, named⟩ := exists_unitName size
  rw [format?]
  split
  · rename_i zero
    subst zero
    have none : hundredths? 0 (unitOf 0) = some 0 := by
      rw [hundredths?_of_log2_lt (by decide)]
      rfl
    have smallest : unitNames[unitOf 0]? = some "Bytes".toList := rfl
    rw [Int.natAbs_zero, none, smallest]
    simp [eq_comm, numeral, decimals]
  · simp only [if_neg (Int.not_lt.mpr nonneg), named, List.getD_eq_getElem?_getD,
      Option.getD_some, List.nil_append, Option.map_eq_some_iff, Option.some.injEq,
      eq_comm (a := text), exists_eq_left', exists_and_left]

/-- A count below 2^53 is written as the nearest number of hundredths of the largest unit that
it reaches, in the one numeral of that number. -/
theorem format?_exact {size : ℤ} (positive : 1 ≤ size) (short : size < 2 ^ 53) :
    ∃ unit name hundredths,
      IsGreatest {unit : ℕ | unit ≤ 3 ∧ (1024 : ℤ) ^ unit ≤ size} unit ∧
        unitNames[unit]? = some name ∧
        IsNearest (1 / 100) (size / 1024 ^ unit) hundredths ∧
        ∀ text, format? size = some text ↔
          ∃ number, IsNumeral number (hundredths / 100) ∧ text = number ++ ' ' :: name := by
  obtain ⟨name, named⟩ := exists_unitName size
  have narrow : size.natAbs.log2 < significantDigits :=
    (Nat.log2_lt (by omega)).mpr (by rw [significantDigits]; omega)
  have rounded : hundredths? size.natAbs (unitOf size) = _ := hundredths?_of_log2_lt narrow
  have fine : (0 : ℚ) < 1 / 100 := by norm_num
  have nearest := isNearest_roundHalfEven fine (size.natAbs * 100) (unitBytes_pos (unitOf size))
  have quotient : ((size.natAbs * 100 : ℕ) : ℚ) / (unitBytes (unitOf size) : ℕ) * (1 / 100) =
      size / 1024 ^ unitOf size := by
    have count : ((size.natAbs : ℕ) : ℚ) = size := by
      rw [Nat.cast_natAbs, abs_of_nonneg (by omega)]
    rw [unitBytes_eq]
    push_cast [count]
    ring
  refine ⟨unitOf size, name, _, isGreatest_unitOf positive, named, quotient ▸ nearest, ?_⟩
  intro text
  simp only [format?_eq_some (by omega : 0 ≤ size), rounded, named, isNumeral_iff]
  simp

/-- Nine eighths of a unit lie halfway between two hundredths. -/
theorem exact_at_tie : (1 : ℤ) ≤ 1152 ∧ (1152 : ℤ) < 2 ^ 53 ∧
    ∃ unit name hundredths,
      IsGreatest {unit : ℕ | unit ≤ 3 ∧ (1024 : ℤ) ^ unit ≤ 1152} unit ∧
        unitNames[unit]? = some name ∧
        IsNearest (1 / 100) ((1152 : ℤ) / 1024 ^ unit) hundredths ∧
        ∀ text, format? 1152 = some text ↔
          ∃ number, IsNumeral number (hundredths / 100) ∧ text = number ++ ' ' :: name :=
  ⟨by decide, by decide, format?_exact (by decide) (by decide)⟩

example : format? 1152 = some "1.12 KB".toList := by decide

end OrphanFiles.ByteSize
