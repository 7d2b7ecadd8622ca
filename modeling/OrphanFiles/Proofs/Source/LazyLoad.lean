import Mathlib.Data.List.TakeWhile
import OrphanFiles.Proofs.Source.Pattern
import OrphanFiles.Source.LazyLoad

/-! When a text shows the sign of a lazy load. A search for the call as it is spelled comes down
to one condition on the stretch in front of the first parenthesis that closes it. So a call is
seen that gets an import as it is. A call that gets a function without parameters is never seen:
their empty list closes the stretch too early. -/
namespace OrphanFiles.Source

/-- The spelling that is searched for. -/
def lazyCall : Pattern :=
  [.word "dynamic(".toList, .someOf (· ≠ ')'), .oneOf importQuotes.contains, .word [')']]

/-- An argument up to the first parenthesis that closes a call, if it ends in a quote and holds
more than that. -/
structure EndsInQuote (argument : Text) : Prop where
  unclosed : ')' ∉ argument
  two_le : 2 ≤ argument.length
  quoted : ∃ quote ∈ importQuotes, argument.getLast? = some quote

def IsLazyCall (call : Text) : Prop :=
  ∃ argument, EndsInQuote argument ∧ call = "dynamic(".toList ++ argument ++ [')']

theorem decide_ne_of_notMem {t : Text} {mark : Char} (free : mark ∉ t) :
    ∀ c ∈ t, decide (c ≠ mark) = true := by
  intro c member
  rw [decide_eq_true_eq]
  rintro rfl
  exact free member

theorem isLazyArgument_of_notMem {t : Text} (absent : ')' ∉ t) : isLazyArgument t = false := by
  have whole : t.takeWhile (· ≠ ')') = t :=
    List.takeWhile_eq_self_iff.mpr (decide_ne_of_notMem absent)
  rw [isLazyArgument, whole]
  simp

theorem isLazyArgument_append {argument : Text} (unclosed : ')' ∉ argument) (rest : Text) :
    isLazyArgument (argument ++ ')' :: rest) = true ↔ EndsInQuote argument := by
  have taken : (argument ++ ')' :: rest).takeWhile (· ≠ ')') = argument := by
    rw [List.takeWhile_append_of_pos (decide_ne_of_notMem unclosed),
      List.takeWhile_cons_of_neg (by decide), List.append_nil]
  simp only [isLazyArgument, taken, Bool.and_eq_true, decide_eq_true_eq, Option.any_eq_true,
    List.contains_iff_mem]
  constructor
  · rintro ⟨⟨_, two_le⟩, quote, last, known⟩
    exact ⟨unclosed, two_le, quote, known, last⟩
  · rintro ⟨_, two_le, quote, known, last⟩
    exact ⟨⟨by simp, two_le⟩, quote, last, known⟩

theorem isLazyArgument_iff {t : Text} :
    isLazyArgument t = true ↔
      ∃ argument rest, EndsInQuote argument ∧ t = argument ++ ')' :: rest := by
  constructor
  · intro is_argument
    by_cases closed : ')' ∈ t
    · obtain ⟨argument, rest, rfl, unclosed⟩ := List.eq_append_cons_of_mem closed
      exact ⟨argument, rest, (isLazyArgument_append unclosed rest).mp is_argument, rfl⟩
    · rw [isLazyArgument_of_notMem closed] at is_argument
      cases is_argument
  · rintro ⟨argument, rest, ends, rfl⟩
    exact (isLazyArgument_append ends.unclosed rest).mpr ends

theorem hasLazyLoad_iff_call {t : Text} :
    hasLazyLoad t = true ↔ ∃ call, call <:+: t ∧ IsLazyCall call := by
  simp only [hasLazyLoad_iff, isLazyArgument_iff]
  constructor
  · rintro ⟨before, _, rfl, argument, rest, ends, rfl⟩
    exact ⟨_, ⟨before, rest, by simp⟩, argument, ends, rfl⟩
  · rintro ⟨_, ⟨before, rest, rfl⟩, argument, ends, rfl⟩
    exact ⟨before, argument ++ ')' :: rest, by simp, argument, rest, ends, rfl⟩

theorem hasLazyLoad_congr {t s : Text}
    (same : ∀ call, IsLazyCall call → (call <:+: t ↔ call <:+: s)) :
    hasLazyLoad t = hasLazyLoad s := by
  rw [Bool.eq_iff_iff, hasLazyLoad_iff_call, hasLazyLoad_iff_call]
  apply exists_congr
  intro call
  exact and_congr_left (same call)

theorem hasLazyLoad_of_infix {t whole : Text} (inside : t <:+: whole)
    (shown : hasLazyLoad t = true) : hasLazyLoad whole = true := by
  obtain ⟨call, within, is_call⟩ := hasLazyLoad_iff_call.mp shown
  exact hasLazyLoad_iff_call.mpr ⟨call, within.trans inside, is_call⟩

/-- The quote is the last character, and what stands before it is a run of its own. -/
theorem endsInQuote_iff {argument : Text} :
    EndsInQuote argument ↔
      ∃ run, IsRun (· ≠ ')') run ∧ ∃ quote ∈ importQuotes, argument = run ++ [quote] := by
  have apart : ∀ quote ∈ importQuotes, quote ≠ ')' := by simp [importQuotes]
  constructor
  · rintro ⟨unclosed, two_le, quote, known, last⟩
    obtain ⟨run, rfl⟩ := List.getLast?_eq_some_iff.mp last
    refine ⟨run, ⟨?_, ?_⟩, quote, known, rfl⟩
    · rintro rfl
      exact absurd two_le (by simp)
    · exact decide_ne_of_notMem fun member => unclosed (List.mem_append_left _ member)
  · rintro ⟨run, ⟨nonempty, inside⟩, quote, known, rfl⟩
    refine ⟨?_, ?_, quote, known, List.getLast?_concat⟩
    · intro closed
      rcases List.mem_append.mp closed with early | last
      · exact absurd (inside ')' early) (by decide)
      · exact apart quote known (List.mem_singleton.mp last).symm
    · have some_length := List.length_pos_iff.mpr nonempty
      rw [List.length_append, List.length_singleton]
      omega

theorem spells_lazyCall {call : Text} : lazyCall.Spells call ↔ IsLazyCall call := by
  have spelled : lazyCall.Spells call ↔ ∃ run, IsRun (· ≠ ')') run ∧ ∃ quote ∈ importQuotes,
      call = "dynamic(".toList ++ (run ++ [quote]) ++ [')'] := by
    simp [lazyCall, Pattern.Spells, Part.Spells, ← exists_and_left, ← exists_and_right, and_assoc]
  rw [spelled, IsLazyCall]
  simp only [endsInQuote_iff]
  constructor
  · rintro ⟨run, is_run, quote, known, rfl⟩
    exact ⟨run ++ [quote], ⟨run, is_run, quote, known, rfl⟩, rfl⟩
  · rintro ⟨_, ⟨run, is_run, quote, known, rfl⟩, rfl⟩
    exact ⟨run, is_run, quote, known, rfl⟩

/-- A text shows the sign if somewhere in it a call is opened, and the stretch from there to the
first parenthesis that closes has two characters or more and ends in a quote. This is what a
search for the spelling finds, and text around a text cannot take the sign away. -/
theorem hasLazyLoad_exact (t : Text) :
    (hasLazyLoad t = true ↔
      ∃ before argument after, t = before ++ "dynamic(".toList ++ argument ++ ')' :: after ∧
        ')' ∉ argument ∧ 2 ≤ argument.length ∧
          ∃ quote ∈ importQuotes, argument.getLast? = some quote) ∧
    hasLazyLoad t = lazyCall.isFound t ∧
    ∀ before after, hasLazyLoad t = true → hasLazyLoad (before ++ t ++ after) = true := by
  refine ⟨?_, ?_, fun before after => hasLazyLoad_of_infix (List.infix_append before t after)⟩
  · rw [hasLazyLoad_iff_call]
    constructor
    · rintro ⟨_, ⟨before, after, joined⟩, argument, ends, rfl⟩
      exact ⟨before, argument, after, by simp [← joined], ends.unclosed, ends.two_le, ends.quoted⟩
    · rintro ⟨before, argument, after, rfl, unclosed, two_le, quoted⟩
      exact ⟨_, ⟨before, after, by simp⟩, argument, ⟨unclosed, two_le, quoted⟩, rfl⟩
  · rw [Bool.eq_iff_iff, hasLazyLoad_iff_call, Pattern.isFound_iff]
    simp only [spells_lazyCall]

/-- The call that counts stands inside another one, whose argument is closed too early. -/
theorem nested_call_shows :
    hasLazyLoad "dynamic(() => dynamic(a, './b'))".toList = true ∧
      lazyCall.isFound "dynamic(() => dynamic(a, './b'))".toList = true ∧
        hasLazyLoad ("f(".toList ++ "dynamic(() => dynamic(a, './b'))".toList ++ ")".toList) =
          true := by
  obtain ⟨exact, searched, grows⟩ := hasLazyLoad_exact "dynamic(() => dynamic(a, './b'))".toList
  have shown := exact.mpr ⟨"dynamic(() => ".toList, "a, './b'".toList, ")".toList, by decide,
    by decide, by decide, '\'', by decide, by decide⟩
  exact ⟨shown, searched ▸ shown, grows _ _ shown⟩

/-! The calls as they are written. A closing parenthesis parts a text: each call stands in front
of it and ends there at the latest, or stands behind it. -/

/-- In a text with a given mark, another text ends in front of the mark or behind it. -/
theorem mark_cases {s r a b : Text} {mark : Char} (joined : s ++ mark :: r = a ++ b) :
    (∃ mid, a = s ++ mark :: mid ∧ r = mid ++ b) ∨ ∃ mid, s = a ++ mid ∧ b = mid ++ mark :: r := by
  rcases List.append_eq_append_iff.mp joined with ⟨mid, split, ends⟩ | later
  · cases mid with
    | nil => exact Or.inr ⟨[], by simp [split], ends.symm⟩
    | cons c mid =>
      obtain ⟨rfl, behind⟩ := List.cons.inj ends
      exact Or.inl ⟨mid, split, behind⟩
  · exact Or.inr later

theorem infix_append_mark {front a b : Text} {mark : Char} (free : mark ∉ front) :
    front ++ [mark] <:+: a ++ mark :: b ↔
      front ++ [mark] <:+: a ++ [mark] ∨ front ++ [mark] <:+: b := by
  constructor
  · rintro ⟨s, r, joined⟩
    have ends : (s ++ front) ++ mark :: r = (a ++ [mark]) ++ b := by simpa using joined
    rcases mark_cases ends with ⟨mid, early, _⟩ | ⟨mid, early, rfl⟩
    · exact Or.inl ⟨s, mid, by simp [early]⟩
    -- The given mark stands in front of the stretch, since it cannot stand inside.
    · have starts : a ++ mark :: mid = s ++ front := by simpa using early.symm
      rcases mark_cases starts with ⟨lead, _, rfl⟩ | ⟨lead, _, rfl⟩
      · exact Or.inr ⟨lead, r, by simp⟩
      · exact absurd (List.mem_append_right lead List.mem_cons_self) free
  · rintro (early | late)
    · exact early.trans ⟨[], b, by simp⟩
    · exact late.trans ⟨a ++ [mark], [], by simp⟩

theorem infix_append_of_notMem {front a more : Text} {mark : Char} (free : mark ∉ more) :
    front ++ [mark] <:+: a ++ more ↔ front ++ [mark] <:+: a := by
  constructor
  · rintro ⟨s, r, joined⟩
    have ends : (s ++ front) ++ mark :: r = a ++ more := by simpa using joined
    rcases mark_cases ends with ⟨mid, rfl, _⟩ | ⟨mid, _, rfl⟩
    · exact ⟨s, mid, by simp⟩
    · exact absurd (List.mem_append_right mid List.mem_cons_self) free
  · exact fun inside => inside.trans (List.prefix_append a more).isInfix

theorem IsLazyCall.closes {call : Text} (is_call : IsLazyCall call) :
    ∃ front, ')' ∉ front ∧ call = front ++ [')'] := by
  obtain ⟨argument, ends, rfl⟩ := is_call
  refine ⟨_, ?_, rfl⟩
  rw [List.mem_append, not_or]
  exact ⟨by decide, ends.unclosed⟩

theorem hasLazyLoad_append_close (a b : Text) :
    hasLazyLoad (a ++ ')' :: b) = (hasLazyLoad (a ++ [')']) || hasLazyLoad b) := by
  rw [Bool.eq_iff_iff, Bool.or_eq_true]
  simp only [hasLazyLoad_iff_call, ← exists_or]
  apply exists_congr
  intro call
  rw [← or_and_right]
  apply and_congr_left
  intro is_call
  obtain ⟨front, free, rfl⟩ := is_call.closes
  exact infix_append_mark free

theorem hasLazyLoad_append_open (a : Text) {more : Text} (free : ')' ∉ more) :
    hasLazyLoad (a ++ more) = hasLazyLoad a := by
  apply hasLazyLoad_congr
  intro call is_call
  obtain ⟨front, _, rfl⟩ := is_call.closes
  exact infix_append_of_notMem free

/-- A parenthesis closes nothing behind a character that is no quote. -/
theorem hasLazyLoad_concat_close (a : Text) {c : Char} (plain : c ∉ importQuotes) :
    hasLazyLoad (a ++ [c, ')']) = hasLazyLoad (a ++ [c]) := by
  apply hasLazyLoad_congr
  rintro _ ⟨argument, ends_in_quote, rfl⟩
  obtain ⟨run, _, quote, known, rfl⟩ := endsInQuote_iff.mp ends_in_quote
  have split : a ++ [c, ')'] = (a ++ [c]) ++ [')'] := by simp
  rw [split, List.infix_concat_iff]
  apply or_iff_right
  rintro ⟨s, joined⟩
  have ends : (s ++ "dynamic(".toList ++ run ++ [quote]) ++ [')'] = (a ++ [c]) ++ [')'] := by
    simpa using joined
  have same : quote = c := by
    have lasts := congrArg List.getLast? (List.append_cancel_right ends)
    simpa only [List.getLast?_concat, Option.some.injEq] using lasts
  exact plain (same ▸ known)

theorem hasLazyLoad_eq_false {t : Text} (absent : ¬ "dynamic(".toList <:+: t) :
    hasLazyLoad t = false := by
  rw [Bool.eq_false_iff, Ne, hasLazyLoad_iff_call]
  rintro ⟨_, inside, argument, _, rfl⟩
  exact absent (List.IsInfix.trans ⟨[], argument ++ [')'], by simp⟩ inside)

theorem IsQuoted.notMem {quoted origin : Text} {c : Char} (is_quoted : IsQuoted quoted origin)
    (plain : c ∉ importQuotes) (free : c ∉ origin) : c ∉ quoted := by
  obtain ⟨opening, opens, closing, closes, _, _, rfl⟩ := is_quoted
  rw [List.mem_cons, List.mem_append, List.mem_singleton]
  rintro (rfl | inside | rfl)
  · exact plain opens
  · exact free inside
  · exact plain closes

theorem IsQuoted.endsInQuote {head quoted origin : Text} (is_quoted : IsQuoted quoted origin)
    (unclosed : ')' ∉ head ++ quoted) : EndsInQuote (head ++ quoted) := by
  obtain ⟨opening, _, closing, closes, _, _, rfl⟩ := is_quoted
  have split : head ++ opening :: (origin ++ [closing]) =
      (head ++ opening :: origin) ++ [closing] := by simp
  refine ⟨unclosed, ?_, closing, closes, ?_⟩
  · simp only [List.length_append, List.length_cons]
    omega
  · rw [split, List.getLast?_concat]

/-- What follows the parameters of a function that imports opens no other call. -/
theorem hasLazyLoad_import_behind {quoted : Text} (free : '(' ∉ quoted) :
    hasLazyLoad (" => import(".toList ++ quoted ++ [')']) = false := by
  have open_free : '(' ∉ quoted ++ [')'] := by simpa using free
  have word : "dynamic(".toList = "dynamic".toList ++ ['('] := by decide
  apply hasLazyLoad_eq_false
  rw [List.append_assoc, word, infix_append_of_notMem open_free, ← Text.occursIn_iff]
  decide

/-- A call that gets an import as it is shows the sign, whatever text is around it. A call that
gets a function which imports adds nothing to what the text around it shows. -/
theorem lazy_load_of_import (before after : Text) {load origin : Text}
    (call : IsModuleCall "import(".toList load origin) (opened : '(' ∉ origin)
    (closed : ')' ∉ origin) :
    hasLazyLoad (before ++ "dynamic(".toList ++ load ++ ')' :: after) = true ∧
    hasLazyLoad (before ++ "dynamic(() => ".toList ++ load ++ ')' :: after) =
      (hasLazyLoad before || hasLazyLoad after) := by
  obtain ⟨quoted, is_quoted, rfl⟩ := call
  have open_free : '(' ∉ quoted := is_quoted.notMem (by decide) opened
  have close_free : ')' ∉ quoted := is_quoted.notMem (by decide) closed
  constructor
  · have unclosed : ')' ∉ "import(".toList ++ quoted := by simpa using close_free
    have is_call : IsLazyCall ("dynamic(".toList ++ ("import(".toList ++ quoted) ++ [')']) :=
      ⟨_, is_quoted.endsInQuote unclosed, rfl⟩
    exact hasLazyLoad_iff_call.mpr ⟨_, ⟨before, ')' :: after, by simp⟩, is_call⟩
  · have parameters : hasLazyLoad (before ++ "dynamic((".toList ++ [')']) = hasLazyLoad before := by
      calc hasLazyLoad (before ++ "dynamic((".toList ++ [')'])
          = hasLazyLoad (before ++ "dynamic(".toList ++ ['(', ')']) := by simp
        _ = hasLazyLoad (before ++ "dynamic(".toList ++ ['(']) :=
            hasLazyLoad_concat_close _ (by decide)
        _ = hasLazyLoad (before ++ ("dynamic(".toList ++ ['('])) := by rw [List.append_assoc]
        _ = hasLazyLoad before := hasLazyLoad_append_open before (by decide)
    have alone : hasLazyLoad [')'] = false := by decide
    have closing : hasLazyLoad (')' :: after) = (hasLazyLoad [')'] || hasLazyLoad after) :=
      hasLazyLoad_append_close [] after
    have parts : before ++ "dynamic(() => ".toList ++ ("import(".toList ++ quoted ++ [')']) ++
        ')' :: after = before ++ "dynamic((".toList ++ ')' ::
          (" => import(".toList ++ quoted ++ ')' :: (')' :: after)) := by simp
    rw [parts, hasLazyLoad_append_close (before ++ "dynamic((".toList), parameters,
      hasLazyLoad_append_close (" => import(".toList ++ quoted),
      hasLazyLoad_import_behind open_free, closing, alone, Bool.false_or, Bool.false_or]

def mapImport : Text := "import(\"./Map\")".toList

theorem isModuleCall_mapImport : IsModuleCall "import(".toList mapImport "./Map".toList :=
  ⟨"\"./Map\"".toList, ⟨'"', by decide, '"', by decide, by decide, by simp [importQuotes],
    by decide⟩, by decide⟩

theorem lazy_load_of_map_import :
    IsModuleCall "import(".toList mapImport "./Map".toList ∧
      '(' ∉ "./Map".toList ∧ ')' ∉ "./Map".toList ∧
      hasLazyLoad ("x = ".toList ++ "dynamic(".toList ++ mapImport ++ ')' :: ['\n']) = true ∧
      hasLazyLoad ("x = ".toList ++ "dynamic(() => ".toList ++ mapImport ++ ')' :: ['\n']) =
        (hasLazyLoad "x = ".toList || hasLazyLoad ['\n']) :=
  ⟨isModuleCall_mapImport, by decide, by decide,
    lazy_load_of_import _ _ isModuleCall_mapImport (by decide) (by decide)⟩

/-- A call is not seen if it gets a function which imports. -/
theorem load_by_function_unseen : ¬ ∀ (before after load origin : Text),
    IsModuleCall "import(".toList load origin → '(' ∉ origin → ')' ∉ origin →
      hasLazyLoad (before ++ "dynamic(() => ".toList ++ load ++ ')' :: after) = true := by
  intro seen
  have shown := seen [] [] _ _ isModuleCall_mapImport (by decide) (by decide)
  exact absurd shown (by decide)

end OrphanFiles.Source
