import OrphanFiles.Unicode.Printable

/-! A text between quotes, as messages show paths. Single quotes are used unless the
text holds single quotes and no double ones. The quote in use, the backslash and
every character that cannot be shown are escaped. -/
namespace OrphanFiles.Text

def quoteFor (t : Text) : Char :=
  if t.contains '\'' && !t.contains '"' then '"' else '\''

/-- The shortest numeric escape that holds the code point. -/
def numericEscape (code : Nat) : Text :=
  if code ≤ 0xff then "\\x".toList ++ hex 2 code
  else if code ≤ 0xffff then "\\u".toList ++ hex 4 code
  else "\\U".toList ++ hex 8 code

def showChar (quote c : Char) : Text :=
  if c = quote ∨ c = '\\' then ['\\', c]
  else if c = '\t' then "\\t".toList
  else if c = '\n' then "\\n".toList
  else if c = '\r' then "\\r".toList
  else if Unicode.isPrintable c then [c]
  else numericEscape c.toNat

def quoted (t : Text) : Text :=
  let quote := quoteFor t
  quote :: t.flatMap (showChar quote) ++ [quote]

end OrphanFiles.Text
