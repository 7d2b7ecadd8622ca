import OrphanFiles.Text.Basic

/-! Lines made of styled spans. The wording of a line does not depend on colour;
colour only decides whether each span is wrapped in terminal escapes. -/
namespace OrphanFiles

inductive Style
  | blue
  | green
  | yellow
  | gray
  | white
  | bold
deriving DecidableEq

def Style.code : Style → Text
  | blue => "34".toList
  | green => "32".toList
  | yellow => "33".toList
  | gray => "90".toList
  | white => "37".toList
  | bold => "1".toList

structure Span where
  style : Style
  text : Text

abbrev Line := List Span

def Span.write (color : Bool) (span : Span) : Text :=
  if color then "\x1b[".toList ++ span.style.code ++ 'm' :: span.text ++ "\x1b[0m".toList
  else span.text

def Line.write (color : Bool) (line : Line) : Text :=
  line.flatMap (Span.write color)

/-- Lines with a line break between each two. -/
def writeLines (color : Bool) (lines : List Line) : Text :=
  ['\n'].intercalate (lines.map (Line.write color))

end OrphanFiles
