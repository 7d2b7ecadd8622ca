import OrphanFiles.Proofs.Json.RoundTrip
import OrphanFiles.Proofs.Text.Decoding

/-! The characters of a printed document. All are ASCII, whatever the texts in it hold, so
its bytes are its characters. -/
namespace OrphanFiles

namespace Text.IsAscii

theorem append {s t : Text} (first : s.IsAscii) (second : t.IsAscii) : IsAscii (s ++ t) :=
  List.forall_mem_append.mpr ⟨first, second⟩

theorem cons {c : Char} {t : Text} (first : c.toNat < 0x80) (rest : t.IsAscii) :
    IsAscii (c :: t) :=
  List.forall_mem_cons.mpr ⟨first, rest⟩

theorem flatMap {members : List α} {print : α → Text}
    (each : ∀ member ∈ members, (print member).IsAscii) : IsAscii (members.flatMap print) := by
  intro c found
  obtain ⟨member, inside, printed⟩ := List.mem_flatMap.mp found
  exact each member inside c printed

end Text.IsAscii

theorem Text.isAscii_toDigits {base : Nat} (small : base ≤ 16) (positive : 1 < base) (n : Nat) :
    IsAscii (Nat.toDigits base n) := by
  have digit : ∀ digit < 16, (Nat.digitChar digit).toNat < 0x80 := by decide
  induction n using Nat.strongRecOn with
  | ind n ih =>
    by_cases last : n < base
    · rw [Nat.toDigits_of_lt_base last]
      exact .cons (digit n (by omega)) (by decide)
    · rw [Nat.toDigits_of_base_le positive (Nat.le_of_not_lt last)]
      have less : n % base < base := Nat.mod_lt n (by omega)
      have smaller : n / base < n := Nat.div_lt_self (by omega) positive
      exact (ih _ smaller).append (.cons (digit _ (by omega)) (by simp [IsAscii]))

namespace Json

open Text (IsAscii)

theorem isAscii_escapeUnit (unit : Nat) : IsAscii (escapeUnit unit) := by
  have zeros (count : Nat) : IsAscii (List.replicate count '0') := by
    intro c member
    rw [List.eq_of_mem_replicate member]
    decide
  rw [escapeUnit_eq, Text.hex]
  exact .cons (by decide) (.cons (by decide)
    ((zeros _).append (Text.isAscii_toDigits (by decide) (by decide) unit)))

theorem isAscii_escape (c : Char) : IsAscii (escape c) := by
  unfold escape
  repeat' split
  all_goals try decide
  · rename_i printable
    exact .cons (by omega) (by decide)
  · rw [escapeUnits]
    split
    · exact isAscii_escapeUnit _
    · exact (isAscii_escapeUnit _).append (isAscii_escapeUnit _)

theorem isAscii_writeText (t : Text) : IsAscii (writeText t) := by
  have quote : IsAscii ['"'] := by decide
  rw [writeText_eq]
  exact .cons (by decide) ((IsAscii.flatMap fun c _ => isAscii_escape c).append quote)

theorem isAscii_ofInt (value : Int) : IsAscii (Text.ofInt value) := by
  cases value with
  | ofNat n => exact Text.isAscii_toDigits (by decide) (by decide) n
  | negSucc n => exact .cons (by decide) (Text.isAscii_toDigits (by decide) (by decide) _)

theorem isAscii_lineAt (depth : Nat) : IsAscii (lineAt depth) := by
  apply IsAscii.cons (by decide)
  intro c member
  rw [List.eq_of_mem_replicate member]
  decide

theorem isAscii_joined {line : Text} {print : α → Text} {first : α} {later : List α}
    (blank : IsAscii line) (each : ∀ member ∈ first :: later, IsAscii (print member)) :
    IsAscii (joined line print first later) := by
  rw [List.forall_mem_cons] at each
  exact (blank.append each.1).append
    (.flatMap fun member inside => .cons (by decide) (blank.append (each.2 member inside)))

theorem isAscii_write (json : Json) : ∀ depth, IsAscii (write depth json) := by
  induction json using memberInduction with
  | null =>
    intro depth
    rw [write]
    decide
  | number value =>
    intro depth
    rw [write]
    exact isAscii_ofInt value
  | text value =>
    intro depth
    rw [write]
    exact isAscii_writeText value
  | list items each =>
    intro depth
    cases items with
    | nil =>
      rw [write]
      decide
    | cons first later =>
      have members := isAscii_joined (isAscii_lineAt (depth + 1)) fun item member =>
        each item member (depth + 1)
      rw [write_list_cons]
      exact .cons (by decide) ((members.append (isAscii_lineAt depth)).append
        (.cons (by decide) (by decide)))
  | object fields each =>
    intro depth
    cases fields with
    | nil =>
      rw [write]
      decide
    | cons first later =>
      have colon : IsAscii ": ".toList := by decide
      have members : IsAscii (joined (lineAt (depth + 1)) (writeField (depth + 1)) first later) :=
        isAscii_joined (isAscii_lineAt (depth + 1)) fun field member =>
          ((isAscii_writeText field.1).append colon).append (each field member (depth + 1))
      rw [write_object_cons]
      exact .cons (by decide) ((members.append (isAscii_lineAt depth)).append
        (.cons (by decide) (by decide)))

theorem isAscii_document (json : Json) : IsAscii json.document :=
  isAscii_write json 0

end Json
end OrphanFiles
