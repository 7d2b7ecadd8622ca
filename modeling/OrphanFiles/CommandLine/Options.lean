import OrphanFiles.Text.Quoted
import OrphanFiles.Unicode.Digit

/-! Reading the arguments of a command into options. Long options may be shortened as
long as one option remains, short ones may share a dash, and a value may follow its
option after an equals sign or as the next argument. -/
namespace OrphanFiles.CommandLine

inductive Flag
  | help
  | path
  | json
  | noColor
  | verbose
  | version
deriving DecidableEq

namespace Flag

/-- Every spelling and what it stands for, in the order in which messages list them. -/
def spellings : List (Text × Flag) := [
  ("-h".toList, help), ("--help".toList, help), ("--path".toList, path), ("--json".toList, json),
  ("--no-color".toList, noColor), ("-v".toList, verbose), ("--verbose".toList, verbose),
  ("--version".toList, version)]

def takesValue : Flag → Bool
  | path | json => true
  | help | noColor | verbose | version => false

def title : Flag → Text
  | help => "-h/--help".toList
  | path => "--path".toList
  | json => "--json".toList
  | noColor => "--no-color".toList
  | verbose => "-v/--verbose".toList
  | version => "--version".toList

end Flag

inductive UsageError
  | ambiguous (argument : Text) (candidates : List Text)
  | missingValue (flag : Flag)
  | unwantedValue (flag : Flag) (value : Text)
  | unrecognized (arguments : List Text)
deriving DecidableEq

def UsageError.message : UsageError → Text
  | ambiguous argument candidates =>
    "ambiguous option: ".toList ++ argument ++ " could match ".toList ++
      ", ".toList.intercalate candidates
  | missingValue flag => "argument ".toList ++ flag.title ++ ": expected one argument".toList
  | unwantedValue flag value =>
    "argument ".toList ++ flag.title ++ ": ignored explicit argument ".toList ++ value.quoted
  | unrecognized arguments => "unrecognized arguments: ".toList ++ [' '].intercalate arguments

/-- What an argument is, taken by itself. Text may be attached to an option, behind an
equals sign or, if the option is short, directly. -/
inductive Reading
  | value
  | separator
  | unknown
  | option (flag : Flag) (short : Bool) (attached : Option Text)

/-- The two sides of the first equals sign. -/
def splitEquals (argument : Text) : Text × Option Text :=
  match argument.dropWhile (· ≠ '=') with
  | [] => (argument, none)
  | _ :: value => (argument.takeWhile (· ≠ '='), some value)

/-- A minus sign and a number, which may have a decimal point; such an argument is a
value. One line break may follow. -/
def isNegativeNumber (argument : Text) : Bool :=
  match argument.withoutFinalNewline with
  | '-' :: number =>
    let rest := number.dropWhile Unicode.isDigit
    match rest with
    | [] => number ≠ []
    | '.' :: fraction => fraction ≠ [] && fraction.all Unicode.isDigit
    | _ => false
  | _ => false

/-- The options that an argument may abbreviate, each with its full spelling. -/
def candidates (argument : Text) : List (Text × Reading) :=
  if "--".toList.isPrefixOf argument then
    let (lead, attached) := splitEquals argument
    Flag.spellings.filterMap fun (spelling, flag) =>
      if lead.isPrefixOf spelling then some (spelling, .option flag false attached) else none
  else
    Flag.spellings.filterMap fun (spelling, flag) =>
      if spelling = argument.take 2 then
        some (spelling, .option flag true (some (argument.drop 2)))
      else none

def isShort (spelling : Text) : Bool :=
  !"--".toList.isPrefixOf spelling

def read (argument : Text) : Except UsageError Reading :=
  if argument.head? ≠ some '-' ∨ argument = ['-'] then .ok .value
  else
    match Flag.spellings.lookup argument with
    | some flag => .ok (.option flag (isShort argument) none)
    | none =>
      let (lead, attached) := splitEquals argument
      match attached, Flag.spellings.lookup lead with
      | some value, some flag => .ok (.option flag (isShort lead) (some value))
      | _, _ =>
        match candidates argument with
        | [(_, reading)] => .ok reading
        | [] =>
          if isNegativeNumber argument || argument.contains ' ' then .ok .value else .ok .unknown
        | several => .error (.ambiguous argument (several.map Prod.fst))

/-- Reads all arguments by themselves; behind a bare double dash they are values. -/
def readAll : List Text → Except UsageError (List (Text × Reading))
  | [] => .ok []
  | argument :: arguments =>
    if argument = "--".toList then
      .ok ((argument, .separator) :: arguments.map fun later => (later, .value))
    else do
      let reading ← read argument
      let readings ← readAll arguments
      return (argument, reading) :: readings

/-- What one argument asks for. -/
inductive Demand
  | set (flag : Flag)
  | give (flag : Flag) (value : Text)
  | need (flag : Flag)

/-- The demands of an option argument. Text attached to a short option without value
has to be further short options. -/
def demands (flag : Flag) (short : Bool) : Option Text → Except UsageError (List Demand)
  | none => .ok [if flag.takesValue then .need flag else .set flag]
  | some [] => if flag.takesValue then .ok [.give flag []] else .error (.unwantedValue flag [])
  | some (c :: rest) =>
    if flag.takesValue then .ok [.give flag (c :: rest)]
    else
      match if short then Flag.spellings.lookup ['-', c] else none with
      | none => .error (.unwantedValue flag (c :: rest))
      | some next => do
        return .set flag :: (← demands next true (if rest = [] then none else some rest))
termination_by attached => (attached.map fun text => text.length + 1).getD 0
decreasing_by
  split <;> simp

/-- The options of a run. An option for a path may have been left without one. -/
structure Options where
  path : Option Text
  json : Option Text
  noColor : Bool
  verbose : Bool
deriving DecidableEq

def Options.initial : Options := ⟨some ".".toList, none, false, false⟩

/-- What the arguments come to. Help and version are acted on as soon as they are met. -/
inductive Request
  | run (options : Options)
  | help
  | version
  | refuse (error : UsageError)

namespace Options

/-- A bare double dash given as the value stands for no value at all. -/
def give (options : Options) (value : Text) (flag : Flag) : Options :=
  let value? := if value = "--".toList then none else some value
  match flag with
  | .path => { options with path := value? }
  | .json => { options with json := value? }
  | _ => options

end Options

/-- Meets demands in their order, then the remaining arguments; `strays` are the
arguments so far that no option takes. -/
def meet (options : Options) (strays : List Text) : List Demand → List (Text × Reading) → Request
  | .set .help :: _, _ => .help
  | .set .version :: _, _ => .version
  | .set .noColor :: demands, rest => meet { options with noColor := true } strays demands rest
  | .set .verbose :: demands, rest => meet { options with verbose := true } strays demands rest
  | .set _ :: demands, rest => meet options strays demands rest
  | .give flag value :: demands, rest => meet (options.give value flag) strays demands rest
  | .need flag :: demands, (value, .value) :: rest =>
    meet (options.give value flag) strays demands rest
  | .need flag :: _, _ => .refuse (.missingValue flag)
  | [], [] => if strays = [] then .run options else .refuse (.unrecognized strays)
  | [], (_, .option flag short attached) :: rest =>
    match demands flag short attached with
    | .error error => .refuse error
    | .ok demands => meet options strays demands rest
  | [], (argument, _) :: rest => meet options (strays ++ [argument]) [] rest
termination_by demands rest => (rest.length, demands.length)

def parse (arguments : List Text) : Request :=
  match readAll arguments with
  | .error error => .refuse error
  | .ok readings => meet .initial [] [] readings

end OrphanFiles.CommandLine
