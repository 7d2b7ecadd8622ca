import OrphanFiles.Unicode.Ranges

/-! Blank characters: the separators of Unicode, the control characters that
move the position, and the four information separators U+001C to U+001F. -/
namespace OrphanFiles.Unicode

def blanks : Ranges :=
  [(9, 13), (28, 32), (133, 133), (160, 160), (5760, 5760), (8192, 8202), (8232, 8233),
   (8239, 8239), (8287, 8287), (12288, 12288)]

def isBlank (c : Char) : Bool :=
  blanks.covers c.toNat

end OrphanFiles.Unicode
