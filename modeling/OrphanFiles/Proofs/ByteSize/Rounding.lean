import Mathlib.Algebra.Order.Ring.Abs
import Mathlib.Data.Rat.Cast.Order
import Mathlib.Tactic.FieldSimp
import Mathlib.Tactic.Linarith
import Mathlib.Tactic.Positivity
import Mathlib.Tactic.Ring
import OrphanFiles.Rounding

/-! What rounding keeps. A quotient goes to the nearest multiple of a grain, rounding keeps the
order of numbers, and it leaves a multiple and a power of two as they are. Rounding twice keeps
the order too, so bounds that can be written exactly pass through both roundings. -/
namespace OrphanFiles

/-- The nearest multiple of a grain, and of two that are equally near the even one. -/
structure IsNearest (grain q : ℚ) (k : ℕ) : Prop where
  nearest (other : ℤ) : |q - k * grain| ≤ |q - other * grain|
  even_of_tie (other : ℤ) (apart : other ≠ k) (tie : |q - k * grain| = |q - other * grain|) :
    Even k

/-- A multiple at most half a grain away is nearest, if it is even where it is that far away. -/
theorem isNearest_of_error {grain q : ℚ} (positive : 0 < grain) {k : ℕ}
    (close : |q - k * grain| ≤ grain / 2) (even : |q - k * grain| = grain / 2 → Even k) :
    IsNearest grain q k := by
  have others (other : ℤ) (apart : other ≠ k) : grain / 2 ≤ |q - other * grain| := by
    have gap : (1 : ℚ) ≤ |(k : ℚ) - other| := by
      have whole : 1 ≤ |(k : ℤ) - other| := Int.one_le_abs (sub_ne_zero.mpr apart.symm)
      exact_mod_cast whole
    have spread : grain ≤ |(k * grain - other * grain : ℚ)| := by
      rw [← sub_mul, abs_mul, abs_of_pos positive]
      exact le_mul_of_one_le_left positive.le gap
    have between := abs_sub_le (k * grain) q (other * grain)
    rw [abs_sub_comm (k * grain) q] at between
    linarith
  constructor
  · intro other
    by_cases same : other = k
    · rw [same, Int.cast_natCast]
    · exact close.trans (others other same)
  · intro other apart tie
    exact even (le_antisymm close (tie ▸ others other apart))

theorem even_roundHalfEven_of_tie {n d : ℕ} (positive : 0 < d)
    (tie : 2 * n + d = 2 * (roundHalfEven n d * d) ∨ 2 * n = 2 * (roundHalfEven n d * d) + d) :
    Even (roundHalfEven n d) := by
  have parts := Nat.div_add_mod n d
  have remainder := Nat.mod_lt n positive
  have down : n / d * d = d * (n / d) := Nat.mul_comm _ _
  have up : (n / d + 1) * d = d * (n / d) + d := by rw [Nat.add_mul, Nat.one_mul, down]
  unfold roundHalfEven at tie ⊢
  split at tie
  · omega
  · split at tie
    · omega
    · rename_i below above
      rw [if_neg below, if_neg above, Nat.even_iff]
      omega

theorem isNearest_roundHalfEven {grain : ℚ} (fine : 0 < grain) (n : ℕ) {d : ℕ}
    (positive : 0 < d) : IsNearest grain (n / d * grain) (roundHalfEven n d) := by
  have wide : (0 : ℚ) < d := by exact_mod_cast positive
  have upper : (2 * (roundHalfEven n d * d) : ℚ) ≤ 2 * n + d := by
    exact_mod_cast roundHalfEven_mul_le n d
  have lower : (2 * n : ℚ) ≤ 2 * (roundHalfEven n d * d) + d := by
    exact_mod_cast le_roundHalfEven_mul n positive
  have error : |(n / d * grain - roundHalfEven n d * grain : ℚ)| =
      |(n - roundHalfEven n d * d : ℚ)| / d * grain := by
    rw [← sub_mul, abs_mul, abs_of_pos fine, div_sub' wide.ne', abs_div, abs_of_pos wide,
      mul_comm (d : ℚ)]
  have bound : |(n - roundHalfEven n d * d : ℚ)| ≤ d / 2 := by
    rw [abs_le]
    constructor <;> linarith
  apply isNearest_of_error fine
  · rw [error]
    have half : |(n - roundHalfEven n d * d : ℚ)| / d ≤ 1 / 2 := by
      rw [div_le_iff₀ wide]
      linarith
    calc |(n - roundHalfEven n d * d : ℚ)| / d * grain ≤ 1 / 2 * grain :=
          mul_le_mul_of_nonneg_right half fine.le
      _ = grain / 2 := by ring
  · intro tie
    rw [error] at tie
    have half : |(n - roundHalfEven n d * d : ℚ)| = d / 2 := by
      field_simp at tie
      linarith
    apply even_roundHalfEven_of_tie positive
    rcases abs_eq (by positivity) |>.mp half with above | below
    · right
      have same : (2 * n : ℚ) = 2 * (roundHalfEven n d * d) + d := by linarith
      exact_mod_cast same
    · left
      have same : (2 * n + d : ℚ) = 2 * (roundHalfEven n d * d) := by linarith
      exact_mod_cast same

theorem roundHalfEven_mono {n m d : ℕ} (positive : 0 < d) (ordered : n ≤ m) :
    roundHalfEven n d ≤ roundHalfEven m d := by
  by_contra crossed
  have step : (roundHalfEven m d + 1) * d ≤ roundHalfEven n d * d :=
    Nat.mul_le_mul_right d (Nat.lt_of_not_le crossed)
  rw [Nat.add_mul, Nat.one_mul] at step
  have below := roundHalfEven_mul_le n d
  have above := le_roundHalfEven_mul m positive
  -- The two can only cross halfway between neighbours, and then they are one number.
  have same : n = m := by omega
  exact crossed (same ▸ Nat.le_refl _)

theorem roundHalfEven_mul (k : ℕ) {d : ℕ} (positive : 0 < d) : roundHalfEven (k * d) d = k := by
  rw [roundHalfEven, Nat.mul_mod_left, Nat.mul_div_cancel k positive, if_pos (by omega)]

theorem roundHalfEven_le {n k d : ℕ} (positive : 0 < d) (bound : n ≤ k * d) :
    roundHalfEven n d ≤ k := by
  rw [← roundHalfEven_mul k positive]
  exact roundHalfEven_mono positive bound

theorem le_roundHalfEven {n k d : ℕ} (positive : 0 < d) (bound : k * d ≤ n) :
    k ≤ roundHalfEven n d := by
  rw [← roundHalfEven_mul k positive]
  exact roundHalfEven_mono positive bound

/-- An even whole is reached from half below it. -/
theorem le_roundHalfEven_iff_of_even {n k d : ℕ} (positive : 0 < d) (even : Even k) :
    k ≤ roundHalfEven n d ↔ 2 * (k * d) ≤ 2 * n + d := by
  constructor
  · intro reached
    have grown := Nat.mul_le_mul_right d reached
    have below := roundHalfEven_mul_le n d
    omega
  · intro close
    by_contra missed
    have step : (roundHalfEven n d + 1) * d ≤ k * d :=
      Nat.mul_le_mul_right d (Nat.lt_of_not_le missed)
    have above := le_roundHalfEven_mul n positive
    rw [Nat.add_mul, Nat.one_mul] at step
    have halfway : 2 * n = 2 * (roundHalfEven n d * d) + d := by omega
    have next : roundHalfEven n d + 1 = k := by
      have same : (roundHalfEven n d + 1) * d = k * d := by
        rw [Nat.add_mul, Nat.one_mul]
        omega
      exact Nat.eq_of_mul_eq_mul_right positive same
    have odd := even_roundHalfEven_of_tie positive (Or.inr halfway)
    rw [Nat.even_iff] at even odd
    omega

section Significant

variable {digits : ℕ} (some_digit : 0 < digits)
include some_digit

theorem roundSignificant_le_two_pow {n power : ℕ} (bound : n ≤ 2 ^ power) :
    roundSignificant digits n ≤ 2 ^ power := by
  by_cases short : n.log2 < digits
  · rwa [roundSignificant_of_log2_lt short]
  · have nonzero : n ≠ 0 := by
      rintro rfl
      exact short some_digit
    have reached : n.log2 ≤ power :=
      (Nat.pow_le_pow_iff_right (by decide)).mp ((Nat.log2_self_le nonzero).trans bound)
    have split : 2 ^ power = 2 ^ (power - (n.log2 + 1 - digits)) * 2 ^ (n.log2 + 1 - digits) := by
      rw [← pow_add]
      congr 1
      omega
    rw [roundSignificant, Nat.one_shiftLeft]
    rw [split] at bound ⊢
    exact Nat.mul_le_mul_right _ (roundHalfEven_le (Nat.two_pow_pos _) bound)

theorem two_pow_le_roundSignificant {n power : ℕ} (bound : 2 ^ power ≤ n) :
    2 ^ power ≤ roundSignificant digits n := by
  by_cases short : n.log2 < digits
  · rwa [roundSignificant_of_log2_lt short]
  · have nonzero : n ≠ 0 := (Nat.two_pow_pos power |>.trans_le bound).ne'
    have reached : power ≤ n.log2 := (Nat.le_log2 nonzero).mpr bound
    -- The leading power of two of the number is a multiple of the grain.
    have split : 2 ^ n.log2 = 2 ^ (digits - 1) * 2 ^ (n.log2 + 1 - digits) := by
      rw [← pow_add]
      congr 1
      omega
    have leading := Nat.log2_self_le nonzero
    rw [split] at leading
    calc 2 ^ power ≤ 2 ^ n.log2 := Nat.pow_le_pow_right (by decide) reached
      _ = 2 ^ (digits - 1) * 2 ^ (n.log2 + 1 - digits) := split
      _ ≤ roundSignificant digits n := by
        rw [roundSignificant, Nat.one_shiftLeft]
        exact Nat.mul_le_mul_right _ (le_roundHalfEven (Nat.two_pow_pos _) leading)

theorem roundSignificant_mono {n m : ℕ} (ordered : n ≤ m) :
    roundSignificant digits n ≤ roundSignificant digits m := by
  rcases Nat.eq_zero_or_pos n with zero | positive
  · rw [zero, roundSignificant_of_log2_lt some_digit]
    exact Nat.zero_le _
  · have nonzero : m ≠ 0 := by omega
    rcases Nat.lt_or_ge n.log2 m.log2 with lower | level
    · -- A power of two stands between the two, and rounding leaves it where it is.
      have below : n ≤ 2 ^ (n.log2 + 1) := Nat.lt_log2_self.le
      have above : 2 ^ (n.log2 + 1) ≤ m :=
        (Nat.pow_le_pow_right (by decide) lower).trans (Nat.log2_self_le nonzero)
      exact (roundSignificant_le_two_pow some_digit below).trans
        (two_pow_le_roundSignificant some_digit above)
    · have same : n.log2 = m.log2 :=
        Nat.le_antisymm ((Nat.le_log2 nonzero).mpr ((Nat.log2_self_le positive.ne').trans ordered))
          level
      rw [roundSignificant, roundSignificant, same, Nat.one_shiftLeft]
      exact Nat.mul_le_mul_right _ (roundHalfEven_mono (Nat.two_pow_pos _) ordered)

end Significant

end OrphanFiles
