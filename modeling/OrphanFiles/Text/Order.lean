import OrphanFiles.Text.Basic

/-! Lists arranged by a text of each member, compared code point by code point.
Every listing, index and import set of the program is put into this order, so
no answer depends on how a directory or a table happens to be enumerated. -/
namespace OrphanFiles
namespace Text

/-- Whether a text stands at or before another: the first place where they differ
decides, and a text stands before its continuations. -/
def precedes : Text → Text → Bool
  | [], _ => true
  | _ :: _, [] => false
  | c :: s, d :: t => c.toNat < d.toNat || c = d && precedes s t

@[simp] theorem precedes_self (t : Text) : precedes t t = true := by
  induction t with
  | nil => rfl
  | cons c t ih => simp [precedes, ih]

theorem precedes_trans {s t u : Text} (st : precedes s t = true) (tu : precedes t u = true) :
    precedes s u = true := by
  fun_induction precedes s t generalizing u with
  | case1 => rfl
  | case2 => simp at st
  | case3 c s d t ih =>
    cases u with
    | nil => simp [precedes] at tu
    | cons e u => grind [precedes]

theorem precedes_total (s t : Text) : (precedes s t || precedes t s) = true := by
  fun_induction precedes s t with
  | case1 => rfl
  | case2 => rfl
  | case3 c s d t ih =>
    rcases Nat.lt_trichotomy c.toNat d.toNat with less | same | more
    · simp [less]
    · simp_all [Char.toNat_inj, precedes]
    · simp [precedes, more]

theorem eq_of_precedes {s t : Text} (st : precedes s t = true) (ts : precedes t s = true) :
    s = t := by
  fun_induction precedes s t with
  | case1 t => cases t with
    | nil => rfl
    | cons => simp [precedes] at ts
  | case2 => simp at st
  | case3 c s d t ih => grind [precedes]

end Text

def sortedBy (key : α → Text) (members : List α) : List α :=
  members.mergeSort fun a b => (key a).precedes (key b)

theorem sortedBy_perm (key : α → Text) (members : List α) :
    (sortedBy key members).Perm members :=
  List.mergeSort_perm _ _

@[simp] theorem mem_sortedBy {key : α → Text} {members : List α} {a : α} :
    a ∈ sortedBy key members ↔ a ∈ members :=
  List.mem_mergeSort

theorem sortedBy_pairwise (key : α → Text) (members : List α) :
    (sortedBy key members).Pairwise fun a b => (key a).precedes (key b) = true := by
  have transitive (a b c : α) (ab : (key a).precedes (key b) = true)
      (bc : (key b).precedes (key c) = true) : (key a).precedes (key c) = true :=
    Text.precedes_trans ab bc
  have total (a b : α) : ((key a).precedes (key b) || (key b).precedes (key a)) = true :=
    Text.precedes_total (key a) (key b)
  exact List.pairwise_mergeSort transitive total members

/-- Each text once, in increasing order. -/
def sortedTexts (members : List Text) : List Text :=
  sortedBy id members.eraseDups

@[simp] theorem mem_sortedTexts {members : List Text} {t : Text} :
    t ∈ sortedTexts members ↔ t ∈ members := by
  simp [sortedTexts]

end OrphanFiles
