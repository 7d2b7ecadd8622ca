import OrphanFiles.Text.Basic

/-! JSON documents without fractions, and their printed form in ASCII: one entry a
line, two spaces for each level, and every character outside the printable ASCII
range written as an escape of its UTF-16 units. -/
namespace OrphanFiles

inductive Json
  | null
  | number (value : Int)
  | text (value : Text)
  | list (items : List Json)
  | object (fields : List (Text × Json))

namespace Json

def escapeUnit (unit : Nat) : Text :=
  "\\u".toList ++ Text.hex 4 unit

/-- One unit for a character of the basic plane, a surrogate pair above it. -/
def escapeUnits (code : Nat) : Text :=
  if code < 0x10000 then escapeUnit code
  else
    escapeUnit (0xd800 + (code - 0x10000) / 0x400) ++ escapeUnit (0xdc00 + (code - 0x10000) % 0x400)

def escape (c : Char) : Text :=
  if c = '"' then "\\\"".toList
  else if c = '\\' then "\\\\".toList
  else if c = '\n' then "\\n".toList
  else if c = '\r' then "\\r".toList
  else if c = '\t' then "\\t".toList
  else if c = '\x08' then "\\b".toList
  else if c = '\x0c' then "\\f".toList
  else if 0x20 ≤ c.toNat ∧ c.toNat ≤ 0x7e then [c]
  else escapeUnits c.toNat

def writeText (t : Text) : Text :=
  '"' :: t.flatMap escape ++ ['"']

/-- A line break and the indentation of a level. -/
def lineAt (depth : Nat) : Text :=
  '\n' :: List.replicate (2 * depth) ' '

mutual

def write (depth : Nat) : Json → Text
  | null => "null".toList
  | number value => Text.ofInt value
  | text value => writeText value
  | list [] => "[]".toList
  | list (item :: items) =>
    '[' :: lineAt (depth + 1) ++ write (depth + 1) item ++ writeItems (depth + 1) items ++
      lineAt depth ++ [']']
  | object [] => ['\x7b', '\x7d']
  | object ((key, value) :: fields) =>
    '\x7b' :: lineAt (depth + 1) ++ writeText key ++ ": ".toList ++ write (depth + 1) value ++
      writeFields (depth + 1) fields ++ lineAt depth ++ ['\x7d']

/-- Items after the first, each behind a comma. -/
def writeItems (depth : Nat) : List Json → Text
  | [] => []
  | item :: items => ',' :: lineAt depth ++ write depth item ++ writeItems depth items

def writeFields (depth : Nat) : List (Text × Json) → Text
  | [] => []
  | (key, value) :: fields =>
    ',' :: lineAt depth ++ writeText key ++ ": ".toList ++ write depth value ++
      writeFields depth fields

end

/-- The printed document, without a line break at its end. -/
def document (json : Json) : Text :=
  write 0 json

end Json
end OrphanFiles
