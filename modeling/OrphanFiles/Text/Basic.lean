/-! Text as a list of Unicode scalar values, with the substring test on which
every verdict rests. Paths, sources and reports are all texts; nothing here
knows about files. -/
namespace OrphanFiles

abbrev Text := List Char

namespace Text

/-- All final stretches of a text, the whole text first and the empty one last. -/
def suffixes : Text → List Text
  | [] => [[]]
  | c :: rest => (c :: rest) :: suffixes rest

theorem mem_suffixes {s t : Text} : s ∈ suffixes t ↔ s <:+ t := by
  induction t with
  | nil => simp [suffixes]
  | cons c rest ih => rw [suffixes, List.mem_cons, ih, List.suffix_cons_iff]

def occursIn (needle hay : Text) : Bool :=
  (suffixes hay).any fun s => needle.isPrefixOf s

theorem occursIn_iff {needle hay : Text} : occursIn needle hay = true ↔ needle <:+: hay := by
  simp [occursIn, List.any_eq_true, mem_suffixes, List.infix_iff_prefix_suffix, and_comm]

/-- What follows a leading `lead`, if the text starts with it. -/
def strip? : (lead t : Text) → Option Text
  | [], t => some t
  | _ :: _, [] => none
  | l :: lead, c :: t => if l = c then strip? lead t else none

theorem strip?_eq_some {lead t rest : Text} : strip? lead t = some rest ↔ t = lead ++ rest := by
  induction lead generalizing t with
  | nil => simp [strip?]
  | cons l lead ih =>
    cases t with
    | nil => simp [strip?]
    | cons c t =>
      by_cases same : l = c
      · simp [strip?, same, ih]
      · simp [strip?, same, Ne.symm same]

theorem suffix_of_strip? {lead t rest : Text} (h : strip? lead t = some rest) : rest <:+ t :=
  ⟨lead, (strip?_eq_some.mp h).symm⟩

/-- What follows the first occurrence of `mark`. -/
def after? (mark t : Text) : Option Text :=
  (suffixes t).findSome? (strip? mark)

theorem after?_isSome {mark t : Text} : (after? mark t).isSome = occursIn mark t := by
  have stripped (s : Text) : (strip? mark s).isSome = mark.isPrefixOf s := by
    rw [Bool.eq_iff_iff, Option.isSome_iff_exists, List.isPrefixOf_iff_prefix]
    simp only [strip?_eq_some]
    exact ⟨fun ⟨rest, h⟩ => ⟨rest, h.symm⟩, fun ⟨rest, h⟩ => ⟨rest, h.symm⟩⟩
  simp only [after?, occursIn, List.isSome_findSome?, stripped]

/-- A text without the one newline that may end it. -/
def withoutFinalNewline (t : Text) : Text :=
  if t.getLast? = some '\n' then t.dropLast else t

/-- Whether one of the endings closes the text, a single newline after it being overlooked. -/
def endsWithAny (endings : List Text) (t : Text) : Bool :=
  endings.any fun ending => ending.isSuffixOf (withoutFinalNewline t)

/-- The text less the first listed ending that closes it; a newline after the
ending is overlooked and kept. -/
def cutEnding (endings : List Text) (t : Text) : Text :=
  match endings.find? fun ending => ending.isSuffixOf (withoutFinalNewline t) with
  | none => t
  | some ending =>
    let body := withoutFinalNewline t
    body.take (body.length - ending.length) ++ t.drop body.length

/-- Capitals A to Z become small letters; nothing else changes. -/
def foldCase (t : Text) : Text :=
  t.map Char.toLower

def ofInt : Int → Text
  | .ofNat n => Nat.toDigits 10 n
  | .negSucc n => '-' :: Nat.toDigits 10 (n + 1)

/-- A number in base sixteen with small letters, zeros in front up to the given width. -/
def hex (width n : Nat) : Text :=
  let digits := Nat.toDigits 16 n
  List.replicate (width - digits.length) '0' ++ digits

end Text
end OrphanFiles
