import OrphanFiles.Json.Basic

/-! Reading JSON documents without fractions and truth values by the grammar: blanks may
stand between any two parts, a character is written as it is or as an escape, and two
escaped surrogates are one character. The reader knows nothing of the printed form, which
is one of many for the same document. -/
namespace OrphanFiles.Json

def isBlank (c : Char) : Bool :=
  c = ' ' || c = '\t' || c = '\n' || c = '\r'

def skipBlanks (t : Text) : Text :=
  t.dropWhile isBlank

def hexValue? (c : Char) : Option Nat :=
  if '0' ≤ c ∧ c ≤ '9' then some (c.toNat - 0x30)
  else if 'a' ≤ c ∧ c ≤ 'f' then some (c.toNat - 0x61 + 10)
  else if 'A' ≤ c ∧ c ≤ 'F' then some (c.toNat - 0x41 + 10)
  else none

/-- Reads a UTF-16 unit in four hexadecimal digits. -/
def unit? : Text → Option (Nat × Text)
  | a :: b :: c :: d :: rest =>
    (hexValue? a).bind fun a => (hexValue? b).bind fun b =>
    (hexValue? c).bind fun c => (hexValue? d).map fun d =>
      (((a * 16 + b) * 16 + c) * 16 + d, rest)
  | _ => none

/-- Reads the character of an escape by number, behind the letter u. A character above the
basic plane takes two surrogates; one without the other is no character. -/
def numbered? (t : Text) : Option (Char × Text) :=
  (unit? t).bind fun (unit, rest) =>
  if unit < 0xd800 ∨ 0xe000 ≤ unit then some (Char.ofNat unit, rest)
  else if 0xdc00 ≤ unit then none
  else
    (Text.strip? "\\u".toList rest).bind fun rest =>
    (unit? rest).bind fun (low, rest) =>
    if 0xdc00 ≤ low ∧ low < 0xe000 then
      some (Char.ofNat (0x10000 + (unit - 0xd800) * 0x400 + (low - 0xdc00)), rest)
    else none

/-- The escapes of one letter, and the characters that they stand for. -/
def shortEscapes : List (Char × Char) := [
  ('"', '"'), ('\\', '\\'), ('/', '/'), ('b', '\x08'), ('f', '\x0c'), ('n', '\n'), ('r', '\r'),
  ('t', '\t')]

/-- Reads one character of a quoted text. -/
def character? : Text → Option (Char × Text)
  | [] => none
  | c :: t =>
    if c = '\\' then
      match t with
      | [] => none
      | letter :: rest =>
        if letter = 'u' then numbered? rest
        else (shortEscapes.lookup letter).map fun shown => (shown, rest)
    else if c = '"' ∨ c.toNat < 0x20 then none
    else some (c, t)

/-- Reads the characters up to the closing quote. The length is compared only to show that
the reading ends; a character that is read always leaves less. -/
def characters? (t : Text) : Option (Text × Text) :=
  match Text.strip? ['"'] t with
  | some rest => some ([], rest)
  | none =>
    (character? t).bind fun (c, rest) =>
    if rest.length < t.length then
      (characters? rest).map fun (shown, behind) => (c :: shown, behind)
    else none
termination_by t.length

/-- Reads a number without sign. No zero stands in front of other digits. -/
def natural? (t : Text) : Option (Nat × Text) :=
  let digits := t.takeWhile Char.isDigit
  if digits = [] ∨ (digits.head? = some '0' ∧ digits ≠ ['0']) then none
  else some (Nat.ofDigitChars 10 digits 0, t.dropWhile Char.isDigit)

def number? (t : Text) : Option (Int × Text) :=
  match Text.strip? ['-'] t with
  | some t => (natural? t).map fun (value, rest) => (-value, rest)
  | none => (natural? t).map fun (value, rest) => (value, rest)

/-- Reads members with a comma between each two, up to the bracket that closes them. -/
def members? (closing : Char) (member? : Text → Option (α × Text)) (t : Text) :
    Option (List α × Text) :=
  (member? t).bind fun (member, rest) =>
  match skipBlanks rest with
  | [] => none
  | c :: behind =>
    if c = closing then some ([member], behind)
    else if c = ',' ∧ behind.length < t.length then
      (members? closing member? behind).map fun (members, rest) => (member :: members, rest)
    else none
termination_by t.length

/-- Reads what stands between brackets, behind the opening one. -/
def enclosed? (closing : Char) (member? : Text → Option (α × Text)) (t : Text) :
    Option (List α × Text) :=
  match Text.strip? [closing] (skipBlanks t) with
  | some rest => some ([], rest)
  | none => members? closing member? t

/-- Reads a name, a colon and a value. -/
def field? (value? : Text → Option (α × Text)) (t : Text) : Option ((Text × α) × Text) :=
  (Text.strip? ['"'] (skipBlanks t)).bind fun rest =>
  (characters? rest).bind fun (key, rest) =>
  (Text.strip? [':'] (skipBlanks rest)).bind fun rest =>
  (value? rest).map fun (value, rest) => ((key, value), rest)

/-- Reads a value that is nested less deep than a limit. -/
def value? : Nat → Text → Option (Json × Text)
  | 0, _ => none
  | limit + 1, t =>
    match skipBlanks t with
    | [] => none
    | c :: rest =>
      if c = '"' then (characters? rest).map fun (shown, rest) => (text shown, rest)
      else if c = '[' then
        (enclosed? ']' (value? limit) rest).map fun (items, rest) => (list items, rest)
      else if c = '\x7b' then
        (enclosed? '\x7d' (field? (value? limit)) rest).map fun (fields, rest) =>
          (object fields, rest)
      else if c = 'n' then (Text.strip? "ull".toList rest).map fun rest => (null, rest)
      else (number? (c :: rest)).map fun (value, rest) => (number value, rest)

/-- Reads a text as one document. Nothing in it is nested deeper than it is long. -/
def read? (t : Text) : Option Json :=
  (value? t.length t).bind fun (json, rest) =>
  if skipBlanks rest = [] then some json else none

example : read? "[ \x7b\"a\\u00e9\":-10\x7d ,\n\"\\ud83d\\ude00\\/\",null]".toList =
    some (list [object [("aé".toList, number (-10))], text "😀/".toList, null]) := by
  cbv

end OrphanFiles.Json
