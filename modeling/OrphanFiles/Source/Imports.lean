import OrphanFiles.Convention
import OrphanFiles.Source.Form
import OrphanFiles.Source.Quoted
import OrphanFiles.Text.Order
import OrphanFiles.Unicode.Blank
import OrphanFiles.Unicode.Word

/-! Relative modules that a source text imports, statically or by a call. Only modules
that start with a dot are kept. -/
namespace OrphanFiles.Source

open Unicode

def importQuotes : Text := "'\"".toList

def isBindingChar (c : Char) : Bool :=
  isBlank c || isWord c || c = ','

/-- The names an import binds: a braced list, or one word. -/
def bindings? (t : Text) : Option Text :=
  match Text.strip? ['\x7b'] t with
  | some inner => (skipSome? isBindingChar inner).bind (Text.strip? ['\x7d'])
  | none => skipSome? isWord t

/-- A static import at the start of a text: its quoted module and the text behind it. -/
def staticImport? (t : Text) : Option (Text × Text) :=
  (Text.strip? "import".toList t).bind fun t =>
  (skipSome? isBlank t).bind fun t =>
  (bindings? t).bind fun t =>
  (skipSome? isBlank t).bind fun t =>
  (Text.strip? "from".toList t).bind fun t =>
  (skipSome? isBlank t).bind fun t =>
  quoted? importQuotes t

theorem suffix_of_bindings? {t rest : Text} (h : bindings? t = some rest) : rest <:+ t := by
  unfold bindings? at h
  split at h
  · rename_i inner opened
    obtain ⟨closing, skipped, closed⟩ := Option.bind_eq_some_iff.mp h
    exact ((Text.suffix_of_strip? closed).trans (suffix_of_skipSome? skipped)).trans
      (Text.suffix_of_strip? opened)
  · exact suffix_of_skipSome? h

theorem exists_quoted?_of_staticImport? {t target rest : Text}
    (h : staticImport? t = some (target, rest)) :
    ∃ middle, middle <:+ t ∧ quoted? importQuotes middle = some (target, rest) := by
  simp only [staticImport?, Option.bind_eq_some_iff] at h
  obtain ⟨a, keyword, b, gap, c, bound, d, gap', e, source, middle, gap'', quoted⟩ := h
  have names := (suffix_of_bindings? bound).trans
    ((suffix_of_skipSome? gap).trans (Text.suffix_of_strip? keyword))
  have origin := (suffix_of_skipSome? gap'').trans
    ((Text.suffix_of_strip? source).trans (suffix_of_skipSome? gap'))
  exact ⟨middle, origin.trans names, quoted⟩

def staticImport : Form Text where
  read? := staticImport?
  shrinks h := by
    obtain ⟨middle, tail, quoted⟩ := exists_quoted?_of_staticImport? h
    obtain ⟨behind, less⟩ := shrinks_of_quoted? quoted
    exact ⟨behind.trans tail, Nat.lt_of_lt_of_le less tail.length_le⟩

/-- A call with the given head and one quoted module. -/
def moduleCall (head : Text) : Form Text where
  read? t := (Text.strip? head t).bind (argument? importQuotes)
  shrinks h := by
    obtain ⟨middle, stripped, ended⟩ := Option.bind_eq_some_iff.mp h
    have behind := Text.suffix_of_strip? stripped
    obtain ⟨tail, less⟩ := shrinks_of_argument? ended
    exact ⟨tail.trans behind, Nat.lt_of_lt_of_le less behind.length_le⟩

/-- The modules of all imports, relative or not. -/
def importedModules (t : Text) : List Text :=
  staticImport.scan t ++ (moduleCall "import(".toList).scan t ++
    (moduleCall "require(".toList).scan t

def isRelative (target : Text) : Bool :=
  target.head? = some '.'

/-- Every relative module as it is written and without its script ending, since
other files may refer to it either way. -/
def importTargets (t : Text) : List Text :=
  sortedTexts (((importedModules t).filter isRelative).flatMap fun target =>
    [target, Text.cutEnding Convention.scriptEndings target])

theorem mem_importTargets {t target : Text} :
    target ∈ importTargets t ↔ ∃ written ∈ importedModules t, isRelative written = true ∧
      (target = written ∨ target = Text.cutEnding Convention.scriptEndings written) := by
  simp [importTargets, and_assoc]

end OrphanFiles.Source
