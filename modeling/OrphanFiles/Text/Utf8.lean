import OrphanFiles.Text.Basic

/-! UTF-8. Reading never fails: a byte that starts no well-formed sequence is left
out, and reading goes on with the next byte. A byte order mark is a character. -/
namespace OrphanFiles

abbrev Bytes := List UInt8

namespace Utf8

/-- Reads the given number of continuation bytes onto a value. The result has to be
a scalar value that no shorter sequence could hold. -/
def sequence? (least value : Nat) : Nat → Bytes → Option (Char × Bytes)
  | 0, rest => if least ≤ value ∧ value.isValidChar then some (Char.ofNat value, rest) else none
  | _ + 1, [] => none
  | more + 1, byte :: rest =>
    if 0x80 ≤ byte.toNat ∧ byte.toNat < 0xc0 then
      sequence? least (value * 0x40 + (byte.toNat - 0x80)) more rest
    else none

/-- The character whose sequence starts the bytes, and the bytes behind it. -/
def scalar? : Bytes → Option (Char × Bytes)
  | [] => none
  | lead :: rest =>
    let value := lead.toNat
    if value < 0x80 then sequence? 0 value 0 rest
    else if value < 0xc0 then none
    else if value < 0xe0 then sequence? 0x80 (value - 0xc0) 1 rest
    else if value < 0xf0 then sequence? 0x800 (value - 0xe0) 2 rest
    else if value < 0xf8 then sequence? 0x10000 (value - 0xf0) 3 rest
    else none

theorem length_le_of_sequence? {least value more : Nat} {bytes rest : Bytes} {c : Char}
    (h : sequence? least value more bytes = some (c, rest)) : rest.length ≤ bytes.length := by
  fun_induction sequence? least value more bytes with
  | case1 => cases h; exact Nat.le_refl _
  | case2 => cases h
  | case3 => cases h
  | case4 _ _ _ _ _ ih => exact Nat.le_succ_of_le (ih h)
  | case5 => cases h

theorem length_lt_of_scalar? {bytes rest : Bytes} {c : Char}
    (h : scalar? bytes = some (c, rest)) : rest.length < bytes.length := by
  cases bytes with
  | nil => cases h
  | cons lead tail =>
    simp only [scalar?] at h
    repeat' split at h
    all_goals first
      | exact Nat.lt_succ_of_le (length_le_of_sequence? h)
      | cases h

def decode (bytes : Bytes) : Text :=
  match _found : scalar? bytes with
  | some (c, rest) => c :: decode rest
  | none =>
    match bytes with
    | [] => []
    | _ :: rest => decode rest
termination_by bytes.length
decreasing_by
  · exact length_lt_of_scalar? _found
  · simp

def encodeChar (c : Char) : Bytes :=
  let value := c.toNat
  if value < 0x80 then [UInt8.ofNat value]
  else if value < 0x800 then
    [UInt8.ofNat (0xc0 + value / 0x40), UInt8.ofNat (0x80 + value % 0x40)]
  else if value < 0x10000 then
    [UInt8.ofNat (0xe0 + value / 0x1000), UInt8.ofNat (0x80 + value / 0x40 % 0x40),
      UInt8.ofNat (0x80 + value % 0x40)]
  else
    [UInt8.ofNat (0xf0 + value / 0x40000), UInt8.ofNat (0x80 + value / 0x1000 % 0x40),
      UInt8.ofNat (0x80 + value / 0x40 % 0x40), UInt8.ofNat (0x80 + value % 0x40)]

def encode (t : Text) : Bytes :=
  t.flatMap encodeChar

/-- The number of bytes of an encoded text. -/
def size (t : Text) : Nat :=
  (encode t).length

end Utf8
end OrphanFiles
