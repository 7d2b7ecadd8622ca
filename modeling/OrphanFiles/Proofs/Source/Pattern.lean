import OrphanFiles.Proofs.Source.ImportForms

/-! Patterns that a text is searched for, part by part. A search tries the places of the text
from the left. At each one it takes the longest run that a part allows, and gives its characters
back one by one as long as the parts behind it do not follow. Whether it finds something
depends on no order of trials: it does exactly if some stretch of the text spells the pattern. -/
namespace OrphanFiles.Source

/-- The texts behind the runs that a text starts with, the one behind the longest run first. -/
def behindRuns (allowed : Char → Bool) : Text → List Text
  | [] => []
  | c :: t => if allowed c then behindRuns allowed t ++ [t] else []

theorem isRun_cons {allowed : Char → Bool} {c : Char} {run : Text} :
    IsRun allowed (c :: run) ↔ allowed c = true ∧ (run = [] ∨ IsRun allowed run) := by
  rw [IsRun, IsRun, List.forall_mem_cons]
  by_cases single : run = [] <;> simp [single]

theorem mem_behindRuns {allowed : Char → Bool} {t rest : Text} :
    rest ∈ behindRuns allowed t ↔ ∃ run, IsRun allowed run ∧ t = run ++ rest := by
  induction t with
  | nil => simp [behindRuns, IsRun]
  | cons c t ih =>
    have first : rest ∈ behindRuns allowed (c :: t) ↔
        allowed c = true ∧ (rest ∈ behindRuns allowed t ∨ rest = t) := by
      by_cases fits : allowed c = true <;> simp [behindRuns, fits]
    rw [first, ih]
    constructor
    · rintro ⟨fits, ⟨run, is_run, rfl⟩ | rfl⟩
      · exact ⟨c :: run, isRun_cons.mpr ⟨fits, Or.inr is_run⟩, rfl⟩
      · exact ⟨[c], isRun_cons.mpr ⟨fits, Or.inl rfl⟩, rfl⟩
    · rintro ⟨run, is_run, split⟩
      obtain ⟨d, run, rfl⟩ := List.exists_cons_of_ne_nil is_run.1
      obtain ⟨rfl, rfl⟩ := List.cons.inj split
      obtain ⟨fits, rfl | later⟩ := isRun_cons.mp is_run
      · exact ⟨fits, Or.inr rfl⟩
      · exact ⟨fits, Or.inl ⟨run, later, rfl⟩⟩

/-- A part of a pattern: a word, one character of a class, or a run of a class. -/
inductive Part
  | word (letters : Text)
  | oneOf (allowed : Char → Bool)
  | someOf (allowed : Char → Bool)

namespace Part

/-- The texts that the part can leave behind it, in the order in which they are tried. -/
def rests : Part → Text → List Text
  | word letters, t => (Text.strip? letters t).toList
  | oneOf _, [] => []
  | oneOf allowed, c :: t => if allowed c then [t] else []
  | someOf allowed, t => behindRuns allowed t

def Spells : Part → Text → Prop
  | word letters, written => written = letters
  | oneOf allowed, written => ∃ c, allowed c = true ∧ written = [c]
  | someOf allowed, written => IsRun allowed written

theorem mem_rests {part : Part} {t rest : Text} :
    rest ∈ part.rests t ↔ ∃ written, part.Spells written ∧ t = written ++ rest := by
  cases part with
  | word letters => simp [rests, Spells, Text.strip?_eq_some]
  | oneOf allowed =>
    cases t with
    | nil => simp [rests, Spells]
    | cons c t =>
      by_cases fits : allowed c = true
      · simpa [rests, Spells, fits] using eq_comm
      · simp [rests, Spells, fits]
  | someOf allowed => exact mem_behindRuns

end Part

/-- Parts that follow one another. -/
abbrev Pattern := List Part

namespace Pattern

def rests : Pattern → Text → List Text
  | [], t => [t]
  | part :: pattern, t => (part.rests t).flatMap (rests pattern)

def Spells : Pattern → Text → Prop
  | [], written => written = []
  | part :: pattern, written =>
    ∃ front back, part.Spells front ∧ Spells pattern back ∧ written = front ++ back

theorem mem_rests {pattern : Pattern} {t rest : Text} :
    rest ∈ pattern.rests t ↔ ∃ written, pattern.Spells written ∧ t = written ++ rest := by
  induction pattern generalizing t with
  | nil => simp [rests, Spells, eq_comm]
  | cons part pattern ih =>
    simp only [rests, List.mem_flatMap, Part.mem_rests, ih]
    constructor
    · rintro ⟨_, ⟨front, spells, rfl⟩, back, later, rfl⟩
      exact ⟨front ++ back, ⟨front, back, spells, later, rfl⟩, by rw [List.append_assoc]⟩
    · rintro ⟨_, ⟨front, back, spells, later, rfl⟩, rfl⟩
      exact ⟨back ++ rest, ⟨front, spells, by rw [List.append_assoc]⟩, back, later, rfl⟩

/-- Whether a search for the pattern ends with a match. -/
def isFound (pattern : Pattern) (t : Text) : Bool :=
  (Text.suffixes t).any fun s => !(pattern.rests s).isEmpty

theorem isFound_iff {pattern : Pattern} {t : Text} :
    pattern.isFound t = true ↔ ∃ written, written <:+: t ∧ pattern.Spells written := by
  have matched (s : Text) :
      (!(pattern.rests s).isEmpty) = true ↔ ∃ rest, rest ∈ pattern.rests s := by
    rw [Bool.not_eq_true', List.isEmpty_eq_false_iff_exists_mem]
  simp only [isFound, List.any_eq_true, Text.mem_suffixes, matched, mem_rests]
  constructor
  · rintro ⟨_, inside, rest, written, spells, rfl⟩
    exact ⟨written, (List.prefix_append written rest).isInfix.trans inside.isInfix, spells⟩
  · rintro ⟨written, ⟨before, rest, joined⟩, spells⟩
    exact ⟨written ++ rest, ⟨before, by rw [← joined, List.append_assoc]⟩, rest, written, spells,
      rfl⟩

end Pattern
end OrphanFiles.Source
