import Mathlib.Data.Set.Subsingleton
import OrphanFiles.Proofs.Source.QuotedCall
import OrphanFiles.Proofs.Source.Selection
import OrphanFiles.Proofs.Text.Ending
import OrphanFiles.Source.Imports

/-! The imports of a text by the way they are written. A call that imports a relative module
is found wherever it stands, since no such call starts inside another one. A static import
can hold the start of the next one in its quotes, so here it matters which are selected. -/
namespace OrphanFiles

namespace Unicode

/-- Blanks separate words: none is a part of one. -/
theorem isWord_of_isBlank {c : Char} (blank : isBlank c = true) : isWord c = false := by
  have apart : ∀ range ∈ blanks, ∀ code ∈ List.range' range.1 (range.2 + 1 - range.1),
      words.covers code = false := by decide +kernel
  obtain ⟨range, member, low, high⟩ := Ranges.exists_of_covers blank
  apply apart range member
  rw [List.mem_range'_1]
  omega

end Unicode

namespace Source

open Unicode

def IsRun (p : Char → Bool) (run : Text) : Prop :=
  run ≠ [] ∧ ∀ c ∈ run, p c = true

/-- The names that a static import binds: one word, or a list in braces. -/
def IsBinding (t : Text) : Prop :=
  IsRun isWord t ∨ ∃ names, IsRun isBindingChar names ∧ t = '\x7b' :: (names ++ ['\x7d'])

/-- A module as an import quotes it. -/
def IsQuoted (t origin : Text) : Prop :=
  ∃ opening ∈ importQuotes, ∃ closing ∈ importQuotes,
    origin ≠ [] ∧ (∀ c ∈ origin, c ∉ importQuotes) ∧ t = opening :: (origin ++ [closing])

/-- A static import as it is written, and the module that it quotes. -/
def IsStaticImport (written origin : Text) : Prop :=
  ∃ gap binding gap' gap'' quoted, IsRun isBlank gap ∧ IsBinding binding ∧ IsRun isBlank gap' ∧
    IsRun isBlank gap'' ∧ IsQuoted quoted origin ∧
    written = "import".toList ++ gap ++ binding ++ gap' ++ "from".toList ++ gap'' ++ quoted

/-- A call that imports a module, as it is written. -/
def IsModuleCall (head written origin : Text) : Prop :=
  ∃ quoted, IsQuoted quoted origin ∧ written = head ++ quoted ++ [')']

/-- A module that is given by its place beside the importing file. -/
def IsRelativeModule (origin : Text) : Prop :=
  origin ≠ [] ∧ (∀ c ∈ origin, c ∉ importQuotes) ∧ origin.head? = some '.'

/-! Reading a static import. Each part stops where it has to, because no character can
belong to a part and also start the next one. -/

theorem takeWhile_run {p q : Char → Bool} (apart : ∀ c, p c = true → q c = false) {run : Text}
    (is_run : IsRun p run) (rest : Text) : (run ++ rest).takeWhile q = [] := by
  obtain ⟨c, run, rfl⟩ := List.exists_cons_of_ne_nil is_run.1
  have other := apart c (is_run.2 c List.mem_cons_self)
  rw [List.cons_append, List.takeWhile_cons_of_neg (by simp [other])]

theorem skipSome?_run {p : Char → Bool} {run rest : Text} (is_run : IsRun p run)
    (ends : rest.takeWhile p = []) : skipSome? p (run ++ rest) = some rest :=
  skipSome?_eq_some.mpr ⟨run, is_run.1, is_run.2, ends, rfl⟩

theorem takeWhile_binding {binding : Text} (is_binding : IsBinding binding) (rest : Text) :
    (binding ++ rest).takeWhile isBlank = [] := by
  rcases is_binding with word | ⟨names, _, rfl⟩
  · refine takeWhile_run (fun c is_word => Bool.eq_false_iff.mpr fun blank => ?_) word rest
    rw [isWord_of_isBlank blank] at is_word
    cases is_word
  · exact List.takeWhile_cons_of_neg (by decide)

theorem takeWhile_quoted {quoted origin : Text} (is_quoted : IsQuoted quoted origin)
    (rest : Text) : (quoted ++ rest).takeWhile isBlank = [] := by
  obtain ⟨opening, opens, _, _, _, _, rfl⟩ := is_quoted
  have checked : importQuotes.all (fun c => !isBlank c) = true := by decide
  have visible := List.all_eq_true.mp checked opening opens
  exact List.takeWhile_cons_of_neg (by simpa using visible)

theorem isBinding_of_bindings? {t rest : Text} (read : bindings? t = some rest) :
    ∃ binding, IsBinding binding ∧ t = binding ++ rest := by
  unfold bindings? at read
  split at read
  · rename_i inner opened
    obtain ⟨behind, skipped, closed⟩ := Option.bind_eq_some_iff.mp read
    obtain ⟨names, nonempty, inside, _, same⟩ := skipSome?_eq_some.mp skipped
    refine ⟨_, Or.inr ⟨names, ⟨nonempty, inside⟩, rfl⟩, ?_⟩
    rw [Text.strip?_eq_some.mp opened, same, Text.strip?_eq_some.mp closed]
    simp
  · obtain ⟨word, nonempty, inside, _, same⟩ := skipSome?_eq_some.mp read
    exact ⟨word, Or.inl ⟨nonempty, inside⟩, same⟩

theorem bindings?_append {binding rest : Text} (is_binding : IsBinding binding)
    (ends : rest.takeWhile isWord = []) : bindings? (binding ++ rest) = some rest := by
  rcases is_binding with word | ⟨names, is_names, rfl⟩
  -- The braces are tried first, and no word starts with one.
  · have no_brace : Text.strip? ['\x7b'] (binding ++ rest) = none := by
      obtain ⟨c, more, rfl⟩ := List.exists_cons_of_ne_nil word.1
      have other : '\x7b' ≠ c := by
        rintro rfl
        exact absurd (word.2 _ List.mem_cons_self) (by decide +kernel)
      rw [List.cons_append, Text.strip?, if_neg other]
    rw [bindings?, no_brace]
    exact skipSome?_run word ends
  · have opened : Text.strip? ['\x7b'] ('\x7b' :: (names ++ ['\x7d']) ++ rest) =
        some (names ++ '\x7d' :: rest) := Text.strip?_eq_some.mpr (by simp)
    have closes : ('\x7d' :: rest).takeWhile isBindingChar = [] :=
      List.takeWhile_cons_of_neg (by decide +kernel)
    rw [bindings?, opened]
    exact Option.bind_eq_some_iff.mpr
      ⟨_, skipSome?_run is_names closes, Text.strip?_eq_some.mpr rfl⟩

theorem quoted?_eq_some_iff {t origin rest : Text} :
    quoted? importQuotes t = some (origin, rest) ↔
      ∃ quoted, IsQuoted quoted origin ∧ t = quoted ++ rest := by
  constructor
  · intro read
    obtain ⟨opening, opens, closing, closes, nonempty, plain, same⟩ := quoted?_eq_some read
    exact ⟨_, ⟨opening, opens, closing, closes, nonempty, plain, rfl⟩, by simp [same]⟩
  · rintro ⟨_, ⟨opening, opens, closing, closes, nonempty, plain, rfl⟩, rfl⟩
    rw [List.cons_append, List.append_assoc]
    exact quoted?_cons opens closes nonempty plain

theorem staticImport_reads : staticImport.Reads IsStaticImport := by
  intro t origin rest
  have spelled : staticImport.read? t = staticImport? t := rfl
  simp only [spelled, staticImport?, Option.bind_eq_some_iff, Text.strip?_eq_some,
    quoted?_eq_some_iff]
  constructor
  · rintro ⟨_, rfl, _, skipped, _, bound, _, skipped', _, rfl, _, skipped'', quoted, is_quoted, rfl⟩
    obtain ⟨gap, nonempty, inside, _, rfl⟩ := skipSome?_eq_some.mp skipped
    obtain ⟨binding, is_binding, rfl⟩ := isBinding_of_bindings? bound
    obtain ⟨gap', nonempty', inside', _, rfl⟩ := skipSome?_eq_some.mp skipped'
    obtain ⟨gap'', nonempty'', inside'', _, same⟩ := skipSome?_eq_some.mp skipped''
    exact ⟨_, ⟨gap, binding, gap', gap'', quoted, ⟨nonempty, inside⟩, is_binding,
      ⟨nonempty', inside'⟩, ⟨nonempty'', inside''⟩, is_quoted, rfl⟩, by simp [same]⟩
  · rintro ⟨_, ⟨gap, binding, gap', gap'', quoted, is_gap, is_binding, is_gap', is_gap'',
      is_quoted, rfl⟩, rfl⟩
    have apart : ∀ c, isBlank c = true → isWord c = false := fun _ => isWord_of_isBlank
    let clause := "from".toList ++ (gap'' ++ (quoted ++ rest))
    have keyword : clause.takeWhile isBlank = [] := List.takeWhile_cons_of_neg (by decide)
    have skipped := skipSome?_run is_gap (takeWhile_binding is_binding (gap' ++ clause))
    have bound := bindings?_append is_binding (takeWhile_run apart is_gap' clause)
    have skipped' := skipSome?_run is_gap' keyword
    have skipped'' := skipSome?_run is_gap'' (takeWhile_quoted is_quoted rest)
    exact ⟨_, by simp [clause], _, skipped, _, bound, _, skipped', _, rfl, _,
      skipped'', quoted, is_quoted, rfl⟩

/-! Reading a call. Two calls can overlap, but then the module of the second one starts with
the parenthesis that closes the first. -/

theorem moduleCall_reads (head : Text) : (moduleCall head).Reads (IsModuleCall head) := by
  intro t origin rest
  have spelled : (moduleCall head).read? t = (Text.strip? head t).bind (argument? importQuotes) :=
    rfl
  simp only [spelled, Option.bind_eq_some_iff, Text.strip?_eq_some, argument?_eq_some]
  constructor
  · rintro ⟨_, rfl, opening, opens, closing, closes, nonempty, plain, rfl⟩
    exact ⟨_, ⟨_, ⟨opening, opens, closing, closes, nonempty, plain, rfl⟩, rfl⟩, by simp⟩
  · rintro ⟨_, ⟨_, ⟨opening, opens, closing, closes, nonempty, plain, rfl⟩, rfl⟩, rfl⟩
    exact ⟨opening :: (origin ++ closing :: ')' :: rest), by simp, opening, opens, closing, closes,
      nonempty, plain, rfl⟩

/-- The functions that import a module when they are called. -/
def callHeads : List Text := ["import(".toList, "require(".toList]

theorem quotedCall_of_isModuleCall {head written origin rest : Text} (known : head ∈ callHeads)
    (call : IsModuleCall head written origin) :
    QuotedCall importQuotes head origin rest (written ++ rest) := by
  have plain : ∀ head ∈ callHeads, head ≠ [] ∧ ∀ c ∈ head, c ∉ ')' :: importQuotes := by
    simp [callHeads, importQuotes]
  obtain ⟨nonempty, open_plain⟩ := plain head known
  obtain ⟨_, ⟨opening, opens, closing, closes, named, inside, rfl⟩, rfl⟩ := call
  constructor
  case head_ne_nil => exact nonempty
  case head_open => exact fun member => open_plain ')' member List.mem_cons_self
  case head_plain => exact fun c member quote => open_plain c member (List.mem_cons_of_mem _ quote)
  case argument_ne_nil => exact named
  case argument_plain => exact inside
  case written => exact ⟨opening, opens, closing, closes, by simp⟩

theorem moduleCall_covers {head : Text} (known : head ∈ callHeads) :
    (moduleCall head).Covers fun b a => IsRelativeModule b → b = a := by
  intro t s a b behind rest outer inside overlaps inner relative
  obtain ⟨written, call, same⟩ := (moduleCall_reads head).mp outer
  obtain ⟨written', call', same'⟩ := (moduleCall_reads head).mp inner
  have around : QuotedCall importQuotes head a behind t :=
    same ▸ quotedCall_of_isModuleCall known call
  have within : QuotedCall importQuotes head b rest s :=
    same' ▸ quotedCall_of_isModuleCall known call'
  rcases around.overlap within inside overlaps with ⟨lead, split, start⟩ | ends
  · rw [List.append_left_eq_self.mp split, List.nil_append] at start
    rw [start, outer] at inner
    exact (congrArg Prod.fst (Option.some.inj inner)).symm
  · rw [relative.2.2] at ends
    exact absurd ends (by decide)

/-- A call for a relative module is found wherever it stands. -/
theorem mem_scan_moduleCall {head t origin : Text} (known : head ∈ callHeads)
    (relative : IsRelativeModule origin) :
    origin ∈ (moduleCall head).scan t ↔
      ∃ written, written <:+: t ∧ IsModuleCall head written origin := by
  constructor
  · exact Form.Reads.exists_of_mem_scan (moduleCall_reads head)
  · rintro ⟨written, ⟨before, after, joined⟩, call⟩
    have inside : written ++ after <:+ t := ⟨before, by rw [← joined, List.append_assoc]⟩
    have read : (moduleCall head).read? (written ++ after) = some (origin, after) :=
      (moduleCall_reads head).mpr ⟨written, call, rfl⟩
    have ⟨found, member, same⟩ :=
      Form.Covers.exists_mem_scan (moduleCall_covers known) inside read
    exact same relative ▸ member

theorem IsQuoted.plain {t origin : Text} (quoted : IsQuoted t origin) :
    origin ≠ [] ∧ ∀ c ∈ origin, c ∉ importQuotes := by
  obtain ⟨_, _, _, _, nonempty, inside, _⟩ := quoted
  exact ⟨nonempty, inside⟩

theorem importedModules_eq (t : Text) :
    importedModules t =
      staticImport.scan t ++ callHeads.flatMap fun head => (moduleCall head).scan t := by
  simp [importedModules, callHeads]

theorem isRelativeModule_iff {t origin : Text} (member : origin ∈ importedModules t) :
    IsRelativeModule origin ↔ isRelative origin = true := by
  have plain : origin ≠ [] ∧ ∀ c ∈ origin, c ∉ importQuotes := by
    rw [importedModules_eq, List.mem_append, List.mem_flatMap] at member
    rcases member with static | ⟨head, _, called⟩
    · have ⟨_, _, _, _, _, _, _, _, _, _, _, quoted, _⟩ :=
        staticImport_reads.exists_of_mem_scan static
      exact quoted.plain
    · have ⟨_, _, _, quoted, _⟩ := Form.Reads.exists_of_mem_scan (moduleCall_reads head) called
      exact quoted.plain
  rw [IsRelativeModule, isRelative, decide_eq_true_eq]
  exact ⟨fun relative => relative.2.2, fun dotted => ⟨plain.1, plain.2, dotted⟩⟩

/-- The import targets of a text are its relative modules, with their script ending and
without it: of the calls at any place, and of the static imports that are selected. There is
one selection, since no two static imports start at one place. -/
theorem mem_importTargets_iff_written (t : Text) :
    (∃ origins, (∀ selected, Selects IsStaticImport t selected ↔ selected = origins) ∧
      ∀ target, target ∈ importTargets t ↔
        ∃ origin, IsRelativeModule origin ∧
          (target = origin ∨ Text.Loses Convention.scriptEndings origin target) ∧
          ((∃ head ∈ callHeads, ∃ written, written <:+: t ∧ IsModuleCall head written origin) ∨
            origin ∈ origins)) ∧
    ∀ start : Text, {found : Text × Text | found.1 <+: start ∧
      IsStaticImport found.1 found.2}.Subsingleton := by
  refine ⟨⟨staticImport.scan t, fun _ => staticImport_reads.selects_iff, fun target => ?_⟩, ?_⟩
  · have found {origin : Text} (relative : IsRelativeModule origin) :
        origin ∈ importedModules t ↔
          (∃ head ∈ callHeads, ∃ written, written <:+: t ∧ IsModuleCall head written origin) ∨
            origin ∈ staticImport.scan t := by
      rw [importedModules_eq, List.mem_append, List.mem_flatMap, or_comm]
      apply or_congr_left
      apply exists_congr
      intro head
      exact and_congr_right fun known => mem_scan_moduleCall known relative
    have shape_iff (origin : Text) :
        (target = origin ∨ target = Text.cutEnding Convention.scriptEndings origin) ↔
          (target = origin ∨ Text.Loses Convention.scriptEndings origin target) :=
      Text.eq_or_cutEnding_iff Convention.isExtension_of_mem_scriptEndings
    simp only [mem_importTargets, ← shape_iff]
    constructor
    · rintro ⟨origin, member, is_relative, shape⟩
      have relative := (isRelativeModule_iff member).mpr is_relative
      exact ⟨origin, relative, shape, (found relative).mp member⟩
    · rintro ⟨origin, relative, shape, places⟩
      have member := (found relative).mpr places
      exact ⟨origin, member, (isRelativeModule_iff member).mp relative, shape⟩
  · rintro start ⟨written, origin⟩ ⟨⟨rest, joined⟩, is_import⟩ ⟨written', origin'⟩
      ⟨⟨rest', joined'⟩, is_import'⟩
    have same := staticImport_reads.unique is_import is_import' (joined.trans joined'.symm)
    exact Prod.ext same.1 same.2

/-- A quote that is left open takes in the import behind it. -/
example : importedModules "import a from \"x import b from './c'".toList =
    ["x import b from ".toList] := by
  decide +kernel

end Source
end OrphanFiles
