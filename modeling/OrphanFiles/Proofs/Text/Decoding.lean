import OrphanFiles.Text.Newlines
import OrphanFiles.Text.Utf8

/-! What of a text is found again when its bytes are read, in whatever company. Reading starts
anew at each byte that cannot continue a sequence, so a sequence that is broken off in front
of it takes nothing of it away. -/
namespace OrphanFiles

/-- Whether all characters of a text are ASCII. -/
def Text.IsAscii (t : Text) : Prop :=
  ∀ c ∈ t, c.toNat < 0x80

instance (t : Text) : Decidable t.IsAscii :=
  decidable_of_iff (t.all fun c => decide (c.toNat < 0x80)) (by simp [Text.IsAscii])

namespace Utf8

/-- Whether bytes do not start with one that could continue a sequence. -/
def StartsAnew (bytes : Bytes) : Prop :=
  ∀ byte ∈ bytes.head?, ¬ (0x80 ≤ byte.toNat ∧ byte.toNat < 0xc0)

variable {bytes front behind rest : Bytes} {c : Char}

/-- A sequence neither reaches into bytes that start anew nor waits for them. -/
theorem sequence?_append (anew : StartsAnew behind) (least value more : Nat) (front : Bytes) :
    sequence? least value more (front ++ behind) =
      (sequence? least value more front).map fun (c, rest) => (c, rest ++ behind) := by
  fun_induction sequence? least value more front with
  | case1 value rest valid => simp [sequence?, valid]
  | case2 value rest invalid => simp [sequence?, invalid]
  | case3 value more =>
    cases behind with
    | nil => rfl
    | cons byte behind =>
      have foreign := anew byte rfl
      rw [List.nil_append, sequence?, if_neg foreign]
      rfl
  | case4 value more byte rest continues ih =>
    rw [List.cons_append, sequence?, if_pos continues, ih]
  | case5 value more byte rest foreign =>
    rw [List.cons_append, sequence?, if_neg foreign]
    rfl

theorem scalar?_append (anew : StartsAnew behind) (lead : UInt8) (front : Bytes) :
    scalar? (lead :: front ++ behind) =
      (scalar? (lead :: front)).map fun (c, rest) => (c, rest ++ behind) := by
  simp only [List.cons_append, scalar?, sequence?_append anew]
  repeat' split
  all_goals rfl

theorem decode_nil : decode [] = [] := by
  simp [decode, scalar?]

theorem decode_of_scalar? (found : scalar? bytes = some (c, rest)) :
    decode bytes = c :: decode rest := by
  rw [decode]
  split
  · rename_i found'
    rw [found] at found'
    cases found'
    rfl
  · rename_i missed
    rw [found] at missed
    cases missed

theorem decode_of_broken {lead : UInt8} (broken : scalar? (lead :: rest) = none) :
    decode (lead :: rest) = decode rest := by
  rw [decode]
  split
  · rename_i found
    rw [broken] at found
    cases found
  · rfl

/-- Bytes that start anew are read as if nothing stood in front of them. -/
theorem decode_append (anew : StartsAnew behind) (front : Bytes) :
    decode (front ++ behind) = decode front ++ decode behind := by
  -- A step takes off one broken byte or a whole sequence, so the induction is on the length.
  induction size : front.length using Nat.strongRecOn generalizing front with
  | ind _ ih =>
    subst size
    cases front with
    | nil => simp [decode_nil]
    | cons lead front =>
      have step := scalar?_append anew lead front
      cases found : scalar? (lead :: front) with
      | none =>
        rw [found] at step
        rw [decode_of_broken found]
        exact (decode_of_broken step).trans (ih _ (Nat.lt_succ_self _) front rfl)
      | some first =>
        obtain ⟨c, rest⟩ := first
        rw [found] at step
        rw [decode_of_scalar? step, decode_of_scalar? found,
          ih _ (length_lt_of_scalar? found) rest rfl, List.cons_append]

theorem toNat_ofNat_of_lt {n : Nat} (small : n < 0x100) : (UInt8.ofNat n).toNat = n := by
  rw [UInt8.toNat_ofNat', Nat.mod_eq_of_lt small]

theorem toNat_lt (c : Char) : c.toNat < 0x110000 := by
  have valid : c.toNat.isValidChar := c.valid
  unfold Nat.isValidChar at valid
  omega

/-- The value of a character ends a sequence that is no longer than it needs to be. -/
theorem sequence?_value {least : Nat} (due : least ≤ c.toNat) (rest : Bytes) :
    sequence? least c.toNat 0 rest = some (c, rest) := by
  rw [sequence?, if_pos ⟨due, c.valid⟩, Char.ofNat_toNat]

theorem sequence?_continuation {digit : Nat} (small : digit < 0x40) (least value more : Nat)
    (rest : Bytes) :
    sequence? least value (more + 1) (UInt8.ofNat (0x80 + digit) :: rest) =
      sequence? least (value * 0x40 + digit) more rest := by
  have byte := toNat_ofNat_of_lt (by omega : 0x80 + digit < 0x100)
  rw [sequence?, if_pos (by omega), byte, Nat.add_sub_cancel_left]

/-- The sequence of a character is read as that character. -/
theorem scalar?_encodeChar (c : Char) (rest : Bytes) :
    scalar? (encodeChar c ++ rest) = some (c, rest) := by
  have bound := toNat_lt c
  simp only [encodeChar]
  by_cases one : c.toNat < 0x80
  · have lead := toNat_ofNat_of_lt (by omega : c.toNat < 0x100)
    simp only [if_pos one, List.cons_append, List.nil_append, scalar?, lead]
    exact sequence?_value (Nat.zero_le _) rest
  rw [if_neg one]
  by_cases two : c.toNat < 0x800
  · have lead := toNat_ofNat_of_lt (by omega : 0xc0 + c.toNat / 0x40 < 0x100)
    have value : c.toNat / 0x40 * 0x40 + c.toNat % 0x40 = c.toNat := by omega
    simp only [if_pos two, List.cons_append, List.nil_append, scalar?, lead]
    rw [if_neg (by omega), if_neg (by omega), if_pos (by omega), Nat.add_sub_cancel_left,
      sequence?_continuation (by omega), value]
    exact sequence?_value (by omega) rest
  rw [if_neg two]
  by_cases three : c.toNat < 0x10000
  · have lead := toNat_ofNat_of_lt (by omega : 0xe0 + c.toNat / 0x1000 < 0x100)
    have value : (c.toNat / 0x1000 * 0x40 + c.toNat / 0x40 % 0x40) * 0x40 + c.toNat % 0x40 =
        c.toNat := by omega
    simp only [if_pos three, List.cons_append, List.nil_append, scalar?, lead]
    rw [if_neg (by omega), if_neg (by omega), if_neg (by omega), if_pos (by omega),
      Nat.add_sub_cancel_left, sequence?_continuation (by omega),
      sequence?_continuation (by omega), value]
    exact sequence?_value (by omega) rest
  · have lead := toNat_ofNat_of_lt (by omega : 0xf0 + c.toNat / 0x40000 < 0x100)
    have value : ((c.toNat / 0x40000 * 0x40 + c.toNat / 0x1000 % 0x40) * 0x40 +
        c.toNat / 0x40 % 0x40) * 0x40 + c.toNat % 0x40 = c.toNat := by omega
    simp only [if_neg three, List.cons_append, List.nil_append, scalar?, lead]
    rw [if_neg (by omega), if_neg (by omega), if_neg (by omega), if_neg (by omega),
      if_pos (by omega), Nat.add_sub_cancel_left, sequence?_continuation (by omega),
      sequence?_continuation (by omega), sequence?_continuation (by omega), value]
    exact sequence?_value (by omega) rest

theorem encode_cons (c : Char) (t : Text) : encode (c :: t) = encodeChar c ++ encode t :=
  List.flatMap_cons

theorem decode_encode_append (t : Text) (behind : Bytes) :
    decode (encode t ++ behind) = t ++ decode behind := by
  induction t with
  | nil => rfl
  | cons c t ih =>
    rw [encode_cons, List.append_assoc, decode_of_scalar? (scalar?_encodeChar c _), ih,
      List.cons_append]

/-- Every text is read back from its bytes. -/
theorem decode_encode (t : Text) : decode (encode t) = t := by
  have read := decode_encode_append t []
  rwa [List.append_nil, decode_nil, List.append_nil] at read

/-- The sequence of a character is the one that the standard library gives it. -/
theorem encodeChar_eq (c : Char) : encodeChar c = String.utf8EncodeChar c := by
  have bound := toNat_lt c
  have code : c.val.toNat = c.toNat := rfl
  have low (digit : Nat) : 0x80 + digit = digit + 128 := Nat.add_comm _ _
  simp only [encodeChar, String.utf8EncodeChar, code, ← Nat.lt_add_one_iff, Nat.reduceAdd]
  by_cases one : c.toNat < 0x80
  · simp only [if_pos one]
  by_cases two : c.toNat < 0x800
  · have lead : c.toNat / 0x40 % 0x20 = c.toNat / 0x40 := Nat.mod_eq_of_lt (by omega)
    simp only [if_neg one, if_pos two, lead, Nat.add_comm 0xc0, low]
  by_cases three : c.toNat < 0x10000
  · have lead : c.toNat / 0x1000 % 0x10 = c.toNat / 0x1000 := Nat.mod_eq_of_lt (by omega)
    simp only [if_neg one, if_neg two, if_pos three, lead, Nat.add_comm 0xe0, low]
  · have lead : c.toNat / 0x40000 % 8 = c.toNat / 0x40000 := Nat.mod_eq_of_lt (by omega)
    simp only [if_neg one, if_neg two, if_neg three, lead, Nat.add_comm 0xf0, low]

theorem toByteArray_encode (t : Text) : (encode t).toByteArray = t.utf8Encode := by
  have same : encodeChar = String.utf8EncodeChar := funext encodeChar_eq
  rw [encode, same]
  rfl

theorem encode_cons_ascii (ascii : c.toNat < 0x80) (t : Text) :
    encode (c :: t) = UInt8.ofNat c.toNat :: encode t := by
  simp [encode, encodeChar, ascii]

theorem startsAnew_encode_append {c : Char} {t : Text} (ascii : c.toNat < 0x80) (behind : Bytes) :
    StartsAnew (encode (c :: t) ++ behind) := by
  rw [encode_cons_ascii ascii]
  intro byte (first : some _ = some byte)
  cases first
  rw [UInt8.toNat_ofNat']
  omega

/-- An ASCII text is found in all bytes that hold its own. -/
theorem infix_decode {t : Text} (ascii : t.IsAscii) (held : encode t <:+: bytes) :
    t <:+: decode bytes := by
  obtain ⟨front, behind, rfl⟩ := held
  -- An empty text gives the bytes behind it no first byte of its own to start anew with.
  cases t with
  | nil => exact List.nil_infix
  | cons c t =>
    have anew : StartsAnew (encode (c :: t) ++ behind) :=
      startsAnew_encode_append (ascii c List.mem_cons_self) behind
    rw [List.append_assoc, decode_append anew, decode_encode_append, ← List.append_assoc]
    exact List.infix_append _ _ _

end Utf8

namespace Text

theorem unifyNewlines_suffix_cons (c : Char) (t : Text) :
    unifyNewlines t <:+ unifyNewlines (c :: t) := by
  rw [unifyNewlines.eq_def (c :: t)]
  split
  · rename_i empty
    cases empty
  · rename_i rest pair
    cases pair
    exact List.suffix_refl _
  · rename_i other _ _ same
    cases same
    exact List.suffix_cons _ _

theorem unifyNewlines_suffix_append (s t : Text) : unifyNewlines t <:+ unifyNewlines (s ++ t) := by
  induction s with
  | nil => exact List.suffix_refl _
  | cons c s ih => exact ih.trans (unifyNewlines_suffix_cons c (s ++ t))

/-- A text without a carriage return stays as it is, whatever follows it. -/
theorem unifyNewlines_append {s : Text} (free : '\r' ∉ s) (t : Text) :
    unifyNewlines (s ++ t) = s ++ unifyNewlines t := by
  induction s with
  | nil => rfl
  | cons c s ih =>
    rw [List.mem_cons, not_or] at free
    have other : c ≠ '\r' := fun same => free.1 same.symm
    rw [List.cons_append, unifyNewlines, ih free.2, if_neg other, List.cons_append]
    intro rest same
    exact absurd same other

theorem infix_unifyNewlines {s t : Text} (free : '\r' ∉ s) (held : s <:+: t) :
    s <:+: unifyNewlines t := by
  obtain ⟨front, behind, rfl⟩ := held
  have kept := unifyNewlines_suffix_append front (s ++ behind)
  rw [unifyNewlines_append free, ← List.append_assoc] at kept
  exact (List.prefix_append s _).isInfix.trans kept.isInfix

end Text
end OrphanFiles
