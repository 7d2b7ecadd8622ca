import OrphanFiles.Proofs.Report.Characters
import OrphanFiles.Proofs.Report.Printing

/-! Colour in a report is escapes and nothing else. A coloured text is taken apart into escapes
and other characters. Without its escapes it is the plain text, and the escapes are in turn a
style and the reset. -/
namespace OrphanFiles

namespace Escape

/-- A character of its own, or an escape by the code in it. -/
inductive Piece
  | character (c : Char)
  | escape (code : Text)

namespace Piece

def character? : Piece → Option Char
  | character c => some c
  | escape _ => none

def code? : Piece → Option Text
  | character _ => none
  | escape code => some code

end Piece

/-- The digits of the escape that opens a text, and what follows the escape. -/
def escape? : Text → Option (Text × Text)
  | '\x1b' :: '[' :: rest =>
    match rest.dropWhile Char.isDigit with
    | 'm' :: behind => some (rest.takeWhile Char.isDigit, behind)
    | _ => none
  | _ => none

theorem length_lt_of_escape? {t code behind : Text} (found : escape? t = some (code, behind)) :
    behind.length < t.length := by
  unfold escape? at found
  split at found
  · rename_i rest
    split at found
    · rename_i behind' marked
      cases found
      have shorter := (List.dropWhile_suffix Char.isDigit (l := rest)).length_le
      rw [marked, List.length_cons] at shorter
      simp only [List.length_cons]
      omega
    · cases found
  · cases found

/-- A text taken apart from left to right. -/
def pieces (t : Text) : List Piece :=
  match _found : escape? t with
  | some (code, behind) => .escape code :: pieces behind
  | none =>
    match t with
    | [] => []
    | c :: rest => .character c :: pieces rest
termination_by t.length
decreasing_by
  · exact length_lt_of_escape? _found
  · simp

/-- A text without its escapes. -/
def shown (t : Text) : Text :=
  (pieces t).filterMap Piece.character?

/-- The codes of the escapes in a text. -/
def codes (t : Text) : List Text :=
  (pieces t).filterMap Piece.code?

/-- Whether each style is followed by the reset before the next style, and the last one too. -/
def Alternates : List Text → Prop
  | [] => True
  | [_] => False
  | start :: reset :: later =>
    (∃ style : Style, start = style.code) ∧ reset = ['0'] ∧ Alternates later

theorem pieces_nil : pieces [] = [] := by
  simp [pieces, escape?]

theorem pieces_cons {c : Char} (other : c ≠ '\x1b') (t : Text) :
    pieces (c :: t) = .character c :: pieces t := by
  have none_here : escape? (c :: t) = none := by
    unfold escape?
    split
    · rename_i opens
      cases opens
      exact absurd rfl other
    · rfl
  rw [pieces]
  split
  · rename_i found
    rw [none_here] at found
    cases found
  · rfl

theorem pieces_append {s : Text} (free : '\x1b' ∉ s) (t : Text) :
    pieces (s ++ t) = s.map Piece.character ++ pieces t := by
  induction s with
  | nil => rfl
  | cons c s ih =>
    rw [List.mem_cons, not_or] at free
    rw [List.cons_append, pieces_cons (Ne.symm free.1), ih free.2, List.map_cons, List.cons_append]

theorem pieces_escape {code : Text} (digits : code.all Char.isDigit = true) (t : Text) :
    pieces ('\x1b' :: '[' :: (code ++ 'm' :: t)) = .escape code :: pieces t := by
  rw [List.all_eq_true] at digits
  have taken : (code ++ 'm' :: t).takeWhile Char.isDigit = code := by
    rw [List.takeWhile_append_of_pos digits, List.takeWhile_cons_of_neg (by decide),
      List.append_nil]
  have dropped : (code ++ 'm' :: t).dropWhile Char.isDigit = 'm' :: t := by
    rw [List.dropWhile_append_of_pos digits, List.dropWhile_cons_of_neg (by decide)]
  have here : escape? ('\x1b' :: '[' :: (code ++ 'm' :: t)) = some (code, t) := by
    simp only [escape?, dropped, taken]
  rw [pieces]
  split
  · rename_i found
    rw [here] at found
    cases found
    rfl
  · rename_i missed
    rw [here] at missed
    cases missed

theorem digits_code (style : Style) : style.code.all Char.isDigit = true := by
  cases style <;> decide

/-- A coloured span is its style, its characters and the reset. -/
theorem pieces_span {span : Span} (free : '\x1b' ∉ span.text) (t : Text) :
    pieces (span.write true ++ t) =
      .escape span.style.code :: span.text.map Piece.character ++ .escape ['0'] :: pieces t := by
  have split : span.write true ++ t = '\x1b' :: '[' ::
      (span.style.code ++ 'm' :: (span.text ++ '\x1b' :: '[' :: (['0'] ++ 'm' :: t))) := by
    simp [Span.write]
  rw [split, pieces_escape (digits_code _), pieces_append free, pieces_escape (by decide),
    List.cons_append]

theorem shown_span {span : Span} (free : '\x1b' ∉ span.text) (t : Text) :
    shown (span.write true ++ t) = span.write false ++ shown t := by
  have characters : (span.text.map Piece.character).filterMap Piece.character? = span.text := by
    simp [List.filterMap_map, Function.comp_def, Piece.character?]
  rw [shown, pieces_span free, List.filterMap_append, List.filterMap_cons_none rfl, characters,
    List.filterMap_cons_none rfl]
  rfl

theorem codes_span {span : Span} (free : '\x1b' ∉ span.text) (t : Text) :
    codes (span.write true ++ t) = span.style.code :: ['0'] :: codes t := by
  have characters : (span.text.map Piece.character).filterMap Piece.code? = [] := by
    simp [List.filterMap_map, Function.comp_def, Piece.code?]
  have opens : Piece.code? (.escape span.style.code) = some span.style.code := rfl
  have closes : Piece.code? (.escape ['0']) = some ['0'] := rfl
  rw [codes, pieces_span free, List.filterMap_append, List.filterMap_cons_some opens, characters,
    List.filterMap_cons_some closes]
  rfl

theorem shown_line {line : Line} (free : line.Lacks '\x1b') (t : Text) :
    shown (line.write true ++ t) = line.write false ++ shown t := by
  induction line with
  | nil => rfl
  | cons span line ih =>
    rw [Line.Lacks, List.forall_mem_cons] at free
    simp only [Line.write, List.flatMap_cons, List.append_assoc] at ih ⊢
    rw [shown_span free.1, ih free.2]

theorem Alternates.line {line : Line} (free : line.Lacks '\x1b') {t : Text}
    (rest : Alternates (codes t)) : Alternates (codes (line.write true ++ t)) := by
  induction line with
  | nil => exact rest
  | cons span line ih =>
    rw [Line.Lacks, List.forall_mem_cons] at free
    simp only [Line.write, List.flatMap_cons, List.append_assoc] at ih ⊢
    rw [codes_span free.1]
    exact ⟨⟨span.style, rfl⟩, rfl, ih free.2⟩

theorem writeLines_cons_cons (color : Bool) (line next : Line) (lines : List Line) :
    writeLines color (line :: next :: lines) =
      line.write color ++ '\n' :: writeLines color (next :: lines) := by
  simp [writeLines, List.intercalate_cons_cons]

theorem shown_newline (t : Text) : shown ('\n' :: t) = '\n' :: shown t := by
  have kept : Piece.character? (.character '\n') = some '\n' := rfl
  rw [shown, pieces_cons (by decide), List.filterMap_cons_some kept, shown]

theorem codes_newline (t : Text) : codes ('\n' :: t) = codes t := by
  rw [codes, pieces_cons (by decide), List.filterMap_cons_none rfl, codes]

theorem shown_nil : shown [] = [] := by
  rw [shown, pieces_nil, List.filterMap_nil]

theorem codes_nil : codes [] = [] := by
  rw [codes, pieces_nil, List.filterMap_nil]

/-- What is left of coloured lines without their escapes are the plain lines. -/
theorem shown_writeLines {lines : List Line} (free : ∀ line ∈ lines, line.Lacks '\x1b') :
    shown (writeLines true lines) = writeLines false lines := by
  induction lines with
  | nil => exact shown_nil
  | cons line lines ih =>
    rw [List.forall_mem_cons] at free
    cases lines with
    | nil =>
      have alone := shown_line free.1 []
      rw [shown_nil] at alone
      simpa [writeLines] using alone
    | cons next lines =>
      rw [writeLines_cons_cons, writeLines_cons_cons, shown_line free.1, shown_newline,
        ih free.2]

theorem alternates_writeLines {lines : List Line} (free : ∀ line ∈ lines, line.Lacks '\x1b') :
    Alternates (codes (writeLines true lines)) := by
  have closed : Alternates (codes []) := by
    rw [codes_nil]
    exact trivial
  induction lines with
  | nil => exact closed
  | cons line lines ih =>
    rw [List.forall_mem_cons] at free
    cases lines with
    | nil =>
      have alone := Alternates.line free.1 closed
      simpa [writeLines] using alone
    | cons next lines =>
      rw [writeLines_cons_cons]
      apply Alternates.line free.1
      rw [codes_newline]
      exact ih free.2

end Escape

namespace Report

open Escape

/-- Where no path and no label holds an escape character, a report has a coloured text where it
has a plain one. The coloured text without its escapes is the plain one, and its escapes are in
turn the code of a style and the reset, which comes last. -/
theorem color_adds_escapes_only {report : Report} (free : report.Lacks '\x1b') :
    ((report.render? true).isSome = (report.render? false).isSome) ∧
      ∀ colored, report.render? true = some colored →
        report.render? false = some (shown colored) ∧ Alternates (codes colored) := by
  refine ⟨by simp [render?], ?_⟩
  intro colored rendered
  obtain ⟨lines, laid, rfl⟩ := Option.map_eq_some_iff.mp rendered
  have clean := free.layout (by decide) laid
  refine ⟨?_, alternates_writeLines clean⟩
  rw [render?, laid, Option.map_some, shown_writeLines clean]

/-- The path and the label read like escapes, but for the character that opens one. -/
def bracketFiles : List UnusedFile :=
  [⟨.ofText "/shop/[31m.ts".toList, 10, "[0m".toList, none⟩]

def bracketReport : Report where
  root := "/shop".toList
  generatedAt := []
  sourceFiles := 1
  publicFiles := 0
  unused := bracketFiles
  totalSize := 10
  byCategory := summarize bracketFiles

theorem bracket_report_colors :
    bracketReport.Lacks '\x1b' ∧ ∃ colored, bracketReport.render? true = some colored ∧
      bracketReport.render? false = some (shown colored) ∧ Alternates (codes colored) := by
  have free : bracketReport.Lacks '\x1b' := ⟨by decide +kernel, by decide +kernel⟩
  have measured : bracketReport.Measured := ⟨by decide, rfl, rfl⟩
  have printable := measured.printable (by decide +kernel)
  obtain ⟨colored, rendered⟩ := printable.exists_text true
  exact ⟨free, colored, rendered, (color_adds_escapes_only free).2 colored rendered⟩

end Report
end OrphanFiles
