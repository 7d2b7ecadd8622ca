/-! Rounding of exact quotients to the nearest whole, a half going to the even
neighbour, and of whole numbers to a number of significant binary digits. -/
namespace OrphanFiles

def roundHalfEven (n d : Nat) : Nat :=
  if 2 * (n % d) < d then n / d
  else if d < 2 * (n % d) then n / d + 1
  else n / d + n / d % 2

theorem roundHalfEven_mul_le (n d : Nat) : 2 * (roundHalfEven n d * d) ≤ 2 * n + d := by
  have parts := Nat.div_add_mod n d
  unfold roundHalfEven
  split
  · have : n / d * d = d * (n / d) := Nat.mul_comm _ _
    omega
  · split
    · have : (n / d + 1) * d = d * (n / d) + d := by rw [Nat.add_mul, Nat.mul_comm]; omega
      omega
    · rcases Nat.mod_two_eq_zero_or_one (n / d) with even | odd
      · have : (n / d + n / d % 2) * d = d * (n / d) := by rw [even, Nat.add_zero, Nat.mul_comm]
        omega
      · have : (n / d + n / d % 2) * d = d * (n / d) + d := by
          rw [odd, Nat.add_mul, Nat.mul_comm]; omega
        omega

theorem le_roundHalfEven_mul (n : Nat) {d : Nat} (positive : 0 < d) :
    2 * n ≤ 2 * (roundHalfEven n d * d) + d := by
  have parts := Nat.div_add_mod n d
  have remainder := Nat.mod_lt n positive
  unfold roundHalfEven
  split
  · have : n / d * d = d * (n / d) := Nat.mul_comm _ _
    omega
  · split
    · have : (n / d + 1) * d = d * (n / d) + d := by rw [Nat.add_mul, Nat.mul_comm]; omega
      omega
    · rcases Nat.mod_two_eq_zero_or_one (n / d) with even | odd
      · have : (n / d + n / d % 2) * d = d * (n / d) := by rw [even, Nat.add_zero, Nat.mul_comm]
        omega
      · have : (n / d + n / d % 2) * d = d * (n / d) + d := by
          rw [odd, Nat.add_mul, Nat.mul_comm]; omega
        omega

@[simp] theorem roundHalfEven_one (n : Nat) : roundHalfEven n 1 = n := by
  simp [roundHalfEven, Nat.mod_one]

/-- The nearest number with at most `digits` significant binary digits. -/
def roundSignificant (digits n : Nat) : Nat :=
  let grain := 1 <<< (n.log2 + 1 - digits)
  roundHalfEven n grain * grain

theorem roundSignificant_of_log2_lt {digits n : Nat} (short : n.log2 < digits) :
    roundSignificant digits n = n := by
  have fine : n.log2 + 1 - digits = 0 := Nat.sub_eq_zero_of_le short
  simp [roundSignificant, fine]

end OrphanFiles
