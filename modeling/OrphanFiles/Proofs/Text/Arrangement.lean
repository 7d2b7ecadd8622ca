import Mathlib.Data.List.Induction
import OrphanFiles.Text.Order

/-! A list arranged by distinct texts is the only such arrangement of its members. So
an arrangement does not tell in which order its members were met. -/
namespace OrphanFiles

theorem Text.precedes_append (front s t : Text) :
    precedes (front ++ s) (front ++ t) = precedes s t := by
  induction front with
  | nil => rfl
  | cons c front ih => simp [precedes, ih]

/-- Whether the texts of a list increase strictly from each member to the next. -/
def InOrder (key : α → Text) (members : List α) : Prop :=
  members.Pairwise fun a b => (key a).precedes (key b) = true ∧ key a ≠ key b

namespace InOrder

theorem nodup {key : α → Text} {members : List α} (order : InOrder key members) :
    members.Nodup := by
  apply List.Pairwise.imp _ order
  intro a b later same
  exact later.2 (congrArg key same)

theorem filter {key : α → Text} {members : List α} (order : InOrder key members)
    (p : α → Bool) : InOrder key (members.filter p) :=
  List.Pairwise.filter p order

theorem sublist {key : α → Text} {members fewer : List α} (order : InOrder key members)
    (kept : fewer.Sublist members) : InOrder key fewer :=
  List.Pairwise.sublist kept order

theorem filterMap {key : α → Text} {key' : β → Text} {f : α → Option β} {members : List α}
    (order : InOrder key members) (keeps : ∀ a b, f a = some b → key' b = key a) :
    InOrder key' (members.filterMap f) := by
  apply List.Pairwise.filterMap f _ order
  intro a a' before b found b' found'
  rw [keeps a b found, keeps a' b' found']
  exact before

theorem of_pairwise {key : α → Text} {members : List α}
    (sorted : members.Pairwise fun a b => (key a).precedes (key b) = true)
    (distinct : members.Nodup)
    (injective : ∀ a ∈ members, ∀ b ∈ members, key a = key b → a = b) : InOrder key members := by
  apply List.Pairwise.imp_of_mem _ (sorted.and distinct)
  intro a b inside inside' ⟨before, apart⟩
  refine ⟨before, ?_⟩
  intro same
  exact apart (injective a inside b inside' same)

/-- What all texts have in front makes no difference to their order. -/
theorem iff_of_append {key rest : α → Text} {front : Text} {members : List α}
    (split : ∀ a ∈ members, key a = front ++ rest a) :
    InOrder key members ↔ InOrder rest members := by
  apply List.Pairwise.iff_of_mem
  intro a b inside inside'
  rw [split a inside, split b inside', Text.precedes_append]
  simp

theorem eq_of_mem_iff {key : α → Text} {a b : List α} (order : InOrder key a)
    (order' : InOrder key b) (same : ∀ x, x ∈ a ↔ x ∈ b) : a = b := by
  have perm : a.Perm b := (List.perm_ext_iff_of_nodup order.nodup order'.nodup).mpr same
  refine List.Perm.eq_of_pairwise ?_ order order' perm
  intro x y _ _ before after
  exact absurd (Text.eq_of_precedes before.1 after.1) before.2

end InOrder

theorem eraseDups_eq_self [BEq α] [LawfulBEq α] {members : List α} (distinct : members.Nodup) :
    members.eraseDups = members := by
  induction members with
  | nil => rfl
  | cons a members ih =>
    rw [List.nodup_cons] at distinct
    have fresh : members.filter (fun b => !b == a) = members := by
      apply List.filter_eq_self.mpr
      intro b member
      rw [Bool.not_eq_true', beq_eq_false_iff_ne]
      intro same
      exact distinct.1 (same ▸ member)
    rw [List.eraseDups_cons, fresh, ih distinct.2]

theorem eraseDups_sublist [BEq α] : ∀ members : List α, members.eraseDups.Sublist members
  | [] => List.Sublist.refl _
  | a :: members => by
    rw [List.eraseDups_cons]
    exact ((eraseDups_sublist _).trans List.filter_sublist).cons_cons a
termination_by members => members.length
decreasing_by exact Nat.lt_succ_of_le (List.length_filter_le _ _)

theorem eraseDups_concat [BEq α] [LawfulBEq α] (members : List α) (last : α)
    [Decidable (last ∈ members)] :
    (members ++ [last]).eraseDups =
      if last ∈ members then members.eraseDups else members.eraseDups ++ [last] := by
  rw [List.eraseDups_append]
  by_cases known : last ∈ members
  · simp [List.removeAll, known]
  · simp [List.removeAll, known, List.eraseDups_cons]

/-- What is kept of a list with repetitions comes in the order of first occurrences. -/
theorem eraseDups_pairwise_idxOf [BEq α] [LawfulBEq α] (members : List α) :
    members.eraseDups.Pairwise fun a b => members.idxOf a < members.idxOf b := by
  induction members using List.reverseRecOn with
  | nil => exact List.Pairwise.nil
  | append_singleton members last ih =>
    have earlier : members.eraseDups.Pairwise fun a b =>
        (members ++ [last]).idxOf a < (members ++ [last]).idxOf b := by
      apply List.Pairwise.imp_of_mem _ ih
      intro a b inside inside' before
      rwa [List.idxOf_append, List.idxOf_append, if_pos (List.mem_eraseDups.mp inside),
        if_pos (List.mem_eraseDups.mp inside')]
    rw [eraseDups_concat]
    by_cases known : last ∈ members
    · rwa [if_pos known]
    · rw [if_neg known]
      refine List.pairwise_append.mpr ⟨earlier, List.pairwise_singleton _ _, ?_⟩
      intro a inside b single
      have old := List.mem_eraseDups.mp inside
      rw [List.mem_singleton.mp single, List.idxOf_append, List.idxOf_append, if_pos old,
        if_neg known]
      exact Nat.lt_add_left _ (List.idxOf_lt_length_of_mem old)

theorem nodup_eraseDups [BEq α] [LawfulBEq α] (members : List α) : members.eraseDups.Nodup := by
  apply List.Pairwise.imp _ (eraseDups_pairwise_idxOf members)
  rintro a b before rfl
  exact absurd before (Nat.lt_irrefl _)

theorem sortedBy_inOrder {key : α → Text} {members : List α} (distinct : members.Nodup)
    (injective : ∀ a ∈ members, ∀ b ∈ members, key a = key b → a = b) :
    InOrder key (sortedBy key members) := by
  have nodup : (sortedBy key members).Nodup := (sortedBy_perm key members).nodup_iff.mpr distinct
  apply InOrder.of_pairwise (sortedBy_pairwise key members) nodup
  intro a inside b inside'
  exact injective a (mem_sortedBy.mp inside) b (mem_sortedBy.mp inside')

theorem sortedBy_eq_self {key : α → Text} {members : List α} (order : InOrder key members) :
    sortedBy key members = members :=
  List.mergeSort_of_pairwise (order.imp And.left)

end OrphanFiles
