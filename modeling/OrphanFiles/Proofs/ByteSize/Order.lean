import OrphanFiles.Proofs.ByteSize.Fit

/-! The order of sizes in their written forms. Within one unit both roundings keep the order. A
size that does not reach the next unit is shown as at most one of that unit, and a size that
reaches a unit as at least one of it, so the order is kept across units as well. -/
namespace OrphanFiles.ByteSize

/-- Both texts are sizes, and the first one shows at most what the second one shows. -/
def ShownAtMost (s t : Text) : Prop :=
  ∃ x y, Shown.ofText? s = some x ∧ Shown.ofText? t = some y ∧ x.bytes ≤ y.bytes

theorem unitOf_mono {a b : ℤ} (ordered : a ≤ b) : unitOf a ≤ unitOf b := by
  simp only [unitOf, unitBytes_eq]
  split_ifs <;> omega

theorem hundredths_mono {count count' unit hundredths hundredths' : ℕ} (ordered : count ≤ count')
    (written : hundredths? count unit = some hundredths)
    (written' : hundredths? count' unit = some hundredths') : hundredths ≤ hundredths' := by
  obtain ⟨-, rfl⟩ := hundredths?_eq_some.mp written
  obtain ⟨-, rfl⟩ := hundredths?_eq_some.mp written'
  have kept := roundSignificant_mono (by decide : 0 < significantDigits) ordered
  exact roundHalfEven_mono (unitBytes_pos unit) (Nat.mul_le_mul_right 100 kept)

theorem bytes_le_bytes {a b hundredths hundredths' : ℕ} (ordered : a ≤ b)
    (written : hundredths? a (unitOf a) = some hundredths)
    (written' : hundredths? b (unitOf b) = some hundredths') :
    Shown.bytes ⟨hundredths / 100, unitOf a⟩ ≤ Shown.bytes ⟨hundredths' / 100, unitOf b⟩ := by
  simp only [Shown.bytes]
  rcases (unitOf_mono (Int.ofNat_le.mpr ordered)).lt_or_eq with lower | same
  · have positive : 0 < b := by
      by_contra zero
      have same : a = b := by omega
      exact lower.ne (same ▸ rfl)
    have most : hundredths ≤ 102400 :=
      hundredths_le written (lower.trans_le (unitOf_le_three b))
    have least : 100 ≤ hundredths' := le_hundredths written' positive
    calc (hundredths / 100 * 1024 ^ unitOf a : ℚ) ≤ 1024 * 1024 ^ unitOf a := by
          have most : (hundredths : ℚ) ≤ 102400 := by exact_mod_cast most
          gcongr
          linarith
      _ = 1024 ^ (unitOf a + 1) := by rw [pow_succ']
      _ ≤ 1024 ^ unitOf b := pow_le_pow_right₀ (by norm_num) lower
      _ ≤ hundredths' / 100 * 1024 ^ unitOf b := by
          have least : (100 : ℚ) ≤ hundredths' := by exact_mod_cast least
          apply le_mul_of_one_le_left (by positivity)
          linarith
  · rw [← same] at written' ⊢
    have kept : hundredths ≤ hundredths' := hundredths_mono ordered written written'
    gcongr

/-- Of two sizes the larger one is not shown as less. -/
theorem shownAtMost_of_le {a b : ℤ} {s t : Text} (nonneg : 0 ≤ a) (ordered : a ≤ b)
    (written : format? a = some s) (written' : format? b = some t) : ShownAtMost s t := by
  lift b to ℕ using nonneg.trans ordered
  lift a to ℕ using nonneg
  obtain ⟨hundredths, rounded, shown⟩ := shown_of_format? a.cast_nonneg written
  obtain ⟨hundredths', rounded', shown'⟩ := shown_of_format? b.cast_nonneg written'
  exact ⟨_, _, shown, shown', bytes_le_bytes (Int.ofNat_le.mp ordered) rounded rounded'⟩

end OrphanFiles.ByteSize
