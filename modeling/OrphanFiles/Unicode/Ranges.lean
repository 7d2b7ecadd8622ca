import OrphanFiles.Text.Basic

/-! Sets of characters given by increasing, disjoint ranges of code points. -/
namespace OrphanFiles.Unicode

/-- First and last code points of the ranges. -/
abbrev Ranges := List (Nat × Nat)

/-- Ranges that start above the code point end the search. -/
def Ranges.covers : Ranges → Nat → Bool
  | [], _ => false
  | (low, high) :: above, code => low ≤ code && (code ≤ high || covers above code)

theorem Ranges.exists_of_covers {ranges : Ranges} {code : Nat} (h : ranges.covers code = true) :
    ∃ range ∈ ranges, range.1 ≤ code ∧ code ≤ range.2 := by
  induction ranges with
  | nil => simp [covers] at h
  | cons range above ih =>
    simp only [covers, Bool.and_eq_true, Bool.or_eq_true, decide_eq_true_eq] at h
    rcases h with ⟨low, high | later⟩
    · exact ⟨range, List.mem_cons_self, low, high⟩
    · obtain ⟨found, member, bounds⟩ := ih later
      exact ⟨found, List.mem_cons_of_mem _ member, bounds⟩

end OrphanFiles.Unicode
