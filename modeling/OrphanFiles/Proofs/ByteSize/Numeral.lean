import Mathlib.Data.Rat.Cast.Order
import Mathlib.Tactic.IntervalCases
import Mathlib.Tactic.Linarith
import Mathlib.Tactic.Ring
import OrphanFiles.ByteSize

/-! Numbers of hundredths in decimal digits. What is written is the one shortest numeral of the
number, and a size is read back from its text as that number of the unit that is named. -/
namespace OrphanFiles.ByteSize

/-- Whether a text is the decimal numeral of a number: the digits of the whole part and, unless
that is all, a point and one or two decimals, of which the last one is not a zero. -/
def IsNumeral (t : Text) (q : ℚ) : Prop :=
  ∃ (whole : ℕ) (decimals : Text), decimals.length ≤ 2 ∧ (∀ c ∈ decimals, c.isDigit = true) ∧
    decimals.getLast? ≠ some '0' ∧
    t = Nat.toDigits 10 whole ++ (if decimals = [] then [] else '.' :: decimals) ∧
    q = whole + Nat.ofDigitChars 10 decimals 0 / 10 ^ decimals.length

def natural? (t : Text) : Option ℕ :=
  if t ≠ [] ∧ t.all Char.isDigit = true then some (Nat.ofDigitChars 10 t 0) else none

/-- The number that digits stand for, with one point between them or without. -/
def number? (t : Text) : Option ℚ :=
  match t.splitOn '.' with
  | [whole] => (natural? whole).map fun n => (n : ℚ)
  | [whole, decimals] => do
    let n ← natural? whole
    let rest ← natural? decimals
    return n + rest / 10 ^ decimals.length
  | _ => none

/-- A size as it is shown: so many of a unit. -/
structure Shown where
  number : ℚ
  unit : ℕ
deriving DecidableEq

namespace Shown

/-- Reads a number and behind a blank the name of a unit. -/
def ofText? (t : Text) : Option Shown :=
  match t.splitOn ' ' with
  | [number, name] => do return ⟨← number? number, ← unitNames.idxOf? name⟩
  | _ => none

/-- The quantity that is shown. -/
def bytes (shown : Shown) : ℚ :=
  shown.number * 1024 ^ shown.unit

end Shown

theorem exists_digit {c : Char} (digit : c.isDigit = true) : ∃ d < 10, c = Nat.digitChar d := by
  have bounds : 48 ≤ c.toNat ∧ c.toNat ≤ 57 := by
    simpa [Char.isDigit, UInt32.le_iff_toNat_le] using digit
  refine ⟨c.toNat - 48, by omega, Char.toNat_inj.mp ?_⟩
  rw [Nat.toNat_digitChar_of_lt_ten (by omega)]
  omega

/-- A number of hundredths is written by its whole part and by its two decimals. -/
theorem numeral_eq (whole : ℕ) {tenth rest : ℕ} (small : tenth < 10) (small' : rest < 10) :
    numeral (100 * whole + 10 * tenth + rest) =
      Nat.toDigits 10 whole ++
        if rest ≠ 0 then ['.', Nat.digitChar tenth, Nat.digitChar rest]
        else if tenth ≠ 0 then ['.', Nat.digitChar tenth]
        else [] := by
  have front : (100 * whole + 10 * tenth + rest) / 100 = whole := by omega
  have first : (100 * whole + 10 * tenth + rest) / 10 % 10 = tenth := by omega
  have second : (100 * whole + 10 * tenth + rest) % 10 = rest := by omega
  rw [numeral, decimals, front, first, second]

theorem ofDigitChars_one {d : ℕ} (small : d < 10) :
    Nat.ofDigitChars 10 [Nat.digitChar d] 0 = d := by
  simp [Nat.ofDigitChars, Nat.toNat_digitChar_of_lt_ten small]

theorem ofDigitChars_two {d d' : ℕ} (small : d < 10) (small' : d' < 10) :
    Nat.ofDigitChars 10 [Nat.digitChar d, Nat.digitChar d'] 0 = 10 * d + d' := by
  simp [Nat.ofDigitChars, Nat.toNat_digitChar_of_lt_ten, small, small']

theorem isNumeral_numeral (hundredths : ℕ) : IsNumeral (numeral hundredths) (hundredths / 100) := by
  obtain ⟨whole, tenth, rest, small, small', rfl⟩ : ∃ whole tenth rest, tenth < 10 ∧
      rest < 10 ∧ hundredths = 100 * whole + 10 * tenth + rest :=
    ⟨hundredths / 100, hundredths / 10 % 10, hundredths % 10, by omega, by omega, by omega⟩
  rw [numeral_eq whole small small']
  by_cases two : rest ≠ 0
  · refine ⟨whole, [Nat.digitChar tenth, Nat.digitChar rest], by simp, ?_, ?_, by simp [two], ?_⟩
    · simp [Nat.isDigit_digitChar, small, small']
    · simpa using two
    · rw [ofDigitChars_two small small']
      push_cast [List.length_cons, List.length_nil]
      ring
  by_cases one : tenth ≠ 0
  · refine ⟨whole, [Nat.digitChar tenth], by simp, ?_, ?_, by simp [two, one], ?_⟩
    · simp [Nat.isDigit_digitChar, small]
    · simpa using one
    · rw [ofDigitChars_one small, not_not.mp two]
      push_cast [List.length_cons, List.length_nil]
      ring
  · refine ⟨whole, [], by simp, by simp, by simp, by simp [two, one], ?_⟩
    rw [not_not.mp two, not_not.mp one]
    simp [Nat.ofDigitChars]

theorem hundredths_of_isNumeral {t : Text} {q : ℚ} (written : IsNumeral t q) :
    ∃ hundredths : ℕ, q = hundredths / 100 ∧ t = numeral hundredths := by
  obtain ⟨whole, decimals, short, digits, tight, rfl, rfl⟩ := written
  -- There are no decimals, one, or two, and the last one is not a zero.
  rcases decimals with _ | ⟨c, _ | ⟨c', _ | ⟨c'', later⟩⟩⟩
  · refine ⟨100 * whole + 10 * 0 + 0, ?_, ?_⟩
    · simp [Nat.ofDigitChars]
    · rw [numeral_eq whole (by decide) (by decide)]
      simp
  · obtain ⟨tenth, small, rfl⟩ := exists_digit (digits c (by simp))
    have nonzero : tenth ≠ 0 := by simpa using tight
    refine ⟨100 * whole + 10 * tenth + 0, ?_, ?_⟩
    · rw [ofDigitChars_one small]
      push_cast [List.length_cons, List.length_nil]
      ring
    · rw [numeral_eq whole small (by decide)]
      simp [nonzero]
  · obtain ⟨tenth, small, rfl⟩ := exists_digit (digits c (by simp))
    obtain ⟨rest, small', rfl⟩ := exists_digit (digits c' (by simp))
    have nonzero : rest ≠ 0 := by simpa using tight
    refine ⟨100 * whole + 10 * tenth + rest, ?_, ?_⟩
    · rw [ofDigitChars_two small small']
      push_cast [List.length_cons, List.length_nil]
      ring
    · rw [numeral_eq whole small small']
      simp [nonzero]
  · simp at short

/-- The text of a number of hundredths is its numeral, and there is no other one. -/
theorem isNumeral_iff {t : Text} {hundredths : ℕ} :
    IsNumeral t (hundredths / 100) ↔ t = numeral hundredths := by
  constructor
  · intro written
    obtain ⟨other, value, rfl⟩ := hundredths_of_isNumeral written
    have same : (hundredths : ℚ) = other := by linarith
    rw [Nat.cast_injective same]
  · rintro rfl
    exact isNumeral_numeral hundredths

theorem natural?_of_digits {t : Text} (nonempty : t ≠ []) (digits : ∀ c ∈ t, c.isDigit = true) :
    natural? t = some (Nat.ofDigitChars 10 t 0) := by
  rw [natural?, if_pos ⟨nonempty, List.all_eq_true.mpr digits⟩]

theorem digits_toDigits (n : ℕ) : ∀ c ∈ Nat.toDigits 10 n, c.isDigit = true :=
  fun _ member => Nat.isDigit_of_mem_toDigits (by decide) (by decide) member

theorem natural?_toDigits (n : ℕ) : natural? (Nat.toDigits 10 n) = some n := by
  rw [natural?_of_digits Nat.toDigits_ne_nil (digits_toDigits n), Nat.ofDigitChars_ten_toDigits]

theorem notMem_of_digits {t : Text} (digits : ∀ c ∈ t, c.isDigit = true) (mark : Char)
    (other : mark.isDigit = false) : mark ∉ t := by
  intro member
  rw [digits mark member] at other
  cases other

/-- A numeral is read as the number that it was written for. -/
theorem number?_of_isNumeral {t : Text} {q : ℚ} (written : IsNumeral t q) :
    number? t = some q := by
  obtain ⟨whole, decimals, _, digits, _, rfl, rfl⟩ := written
  have unpointed := notMem_of_digits (digits_toDigits whole) '.' rfl
  by_cases none : decimals = []
  · rw [if_pos none, List.append_nil, number?, List.splitOn_eq_singleton unpointed]
    simp [natural?_toDigits, none, Nat.ofDigitChars]
  · rw [if_neg none, number?, List.splitOn_append_cons_self_of_not_mem unpointed,
      List.splitOn_eq_singleton (notMem_of_digits digits '.' rfl)]
    simp [natural?_toDigits, natural?_of_digits none digits]

theorem blank_notMem_of_isNumeral {t : Text} {q : ℚ} (written : IsNumeral t q) : ' ' ∉ t := by
  obtain ⟨whole, decimals, _, digits, _, rfl, _⟩ := written
  rw [List.mem_append, not_or]
  refine ⟨notMem_of_digits (digits_toDigits whole) ' ' rfl, ?_⟩
  split
  · simp
  · simpa using notMem_of_digits digits ' ' rfl

theorem unit_of_name {unit : ℕ} {name : Text} (known : unitNames[unit]? = some name) :
    ' ' ∉ name ∧ unitNames.idxOf? name = some unit := by
  have small : unit < 4 := (List.getElem?_eq_some_iff.mp known).1
  interval_cases unit <;> cases known <;> decide

/-- A numeral with a unit's name behind a blank is read as that many of the unit. -/
theorem ofText?_written {t : Text} {q : ℚ} (written : IsNumeral t q) {unit : ℕ} {name : Text}
    (known : unitNames[unit]? = some name) :
    Shown.ofText? (t ++ ' ' :: name) = some ⟨q, unit⟩ := by
  obtain ⟨unbroken, named⟩ := unit_of_name known
  rw [Shown.ofText?, List.splitOn_append_cons_self_of_not_mem (blank_notMem_of_isNumeral written),
    List.splitOn_eq_singleton unbroken]
  simp [number?_of_isNumeral written, named]

end OrphanFiles.ByteSize
