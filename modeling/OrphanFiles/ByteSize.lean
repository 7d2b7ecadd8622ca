import OrphanFiles.Rounding
import OrphanFiles.Text.Basic

/-! Byte counts as people read them: in the largest of four units that the count
reaches, with at most two decimals. The quotient passes through a binary number
of 53 significant digits and of bounded size before it is written. -/
namespace OrphanFiles.ByteSize

def unitNames : List Text := ["Bytes".toList, "KB".toList, "MB".toList, "GB".toList]

/-- The bytes in a unit, by its place among the units. -/
def unitBytes : Nat → Nat
  | 0 => 1
  | unit + 1 => 1024 * unitBytes unit

theorem unitBytes_pos (unit : Nat) : 0 < unitBytes unit := by
  induction unit with
  | zero => decide
  | succ unit ih => exact Nat.mul_pos (by decide) ih

/-- The place of the unit of a count; below zero there is only the smallest unit. -/
def unitOf (size : Int) : Nat :=
  if size < unitBytes 1 then 0
  else if size < unitBytes 2 then 1
  else if size < unitBytes 3 then 2
  else 3

/-- Quotients that need more than 1024 binary digits before the point are out of bounds. -/
def quotientBound : Nat := 1 <<< 1024

def significantDigits : Nat := 53

/-- Hundredths of the unit in a count, or none if the quotient is out of bounds. -/
def hundredths? (count unit : Nat) : Option Nat :=
  let rounded := roundSignificant significantDigits count
  if quotientBound * unitBytes unit ≤ rounded then none
  else some (roundHalfEven (rounded * 100) (unitBytes unit))

/-- The two decimals of a number of hundredths, less the zeros at their end. -/
def decimals (hundredths : Nat) : Text :=
  let tenth := hundredths / 10 % 10
  let rest := hundredths % 10
  if rest ≠ 0 then ['.', Nat.digitChar tenth, Nat.digitChar rest]
  else if tenth ≠ 0 then ['.', Nat.digitChar tenth]
  else []

def numeral (hundredths : Nat) : Text :=
  Nat.toDigits 10 (hundredths / 100) ++ decimals hundredths

/-- The written form of a count, or none if it is out of bounds. -/
def format? (size : Int) : Option Text :=
  if size = 0 then some "0 Bytes".toList
  else
    let unit := unitOf size
    (hundredths? size.natAbs unit).map fun hundredths =>
      (if size < 0 then ['-'] else []) ++ numeral hundredths ++ ' ' :: unitNames.getD unit []

theorem lt_quotientBound_of_log2_lt {count : Nat} (short : count.log2 < significantDigits) :
    count < quotientBound := by
  have wide : 1 <<< significantDigits ≤ quotientBound := by decide
  have narrow : count < 1 <<< significantDigits := by
    rw [Nat.one_shiftLeft]
    exact Nat.lt_of_lt_of_le Nat.lt_log2_self (Nat.pow_le_pow_right (by decide) short)
  omega

theorem hundredths?_of_log2_lt {count unit : Nat} (short : count.log2 < significantDigits) :
    hundredths? count unit = some (roundHalfEven (count * 100) (unitBytes unit)) := by
  have bound : ¬ quotientBound * unitBytes unit ≤ count := by
    have grown := Nat.le_mul_of_pos_right quotientBound (unitBytes_pos unit)
    have small := lt_quotientBound_of_log2_lt short
    omega
  simp only [hundredths?, roundSignificant_of_log2_lt short, if_neg bound]

end OrphanFiles.ByteSize
