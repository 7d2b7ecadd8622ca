import OrphanFiles.Analysis
import OrphanFiles.CommandLine.Options
import OrphanFiles.FileSystem.Change
import OrphanFiles.Report.Document
import OrphanFiles.Report.Terminal

/-! One run of the command: read the arguments, check the project directory, scan it,
print the report, and write it as JSON if asked. Files change in the last step only,
so a run that fails before leaves all files as they were. -/
namespace OrphanFiles.CommandLine

def usage : Text :=
  ("usage: nextsweep [-h] [--path PATH] [--json JSON_PATH] [--no-color] [-v]\n" ++
    "                 [--version]\n").toList

def helpText : Text :=
  usage ++
    ("\nReport files in a Next.js project that nothing appears to reference. Results\n" ++
      "are heuristic: review every file before deleting it.\n" ++
      "\noptions:\n" ++
      "  -h, --help        show this help message and exit\n" ++
      "  --path PATH       Project directory (contains src/ and public/)\n" ++
      "  --json JSON_PATH  Also write the report as JSON to this file\n" ++
      "  --no-color        Disable colored output\n" ++
      "  -v, --verbose     Log per-file verdicts\n" ++
      "  --version         show program's version number and exit\n").toList

def versionText : Text := "nextsweep 0.1.0\n".toList

/-- How a run ends: with a status, or with a message in place of one. -/
inductive Exit
  | status (code : Nat)
  | message (text : Text)
deriving DecidableEq

structure Environment where
  files : FileSystem
  terminal : Terminal
  time : Text

/-- A file to be written: the location and all its bytes. -/
structure Writing where
  location : Location
  bytes : Bytes

/-- What a finished run leaves behind. At most one file is written. -/
structure Completion where
  exit : Exit
  output : Text
  errors : Text
  writing? : Option Writing

/-- The file system after the run. -/
def Completion.filesAfter (completion : Completion) (before : FileSystem) : FileSystem :=
  match completion.writing? with
  | none => before
  | some writing => before.set writing.location (some (.file writing.bytes))

/-- The lines of the events that a user gets to see. -/
def logText (verbose : Bool) (events : List Event) : Text :=
  (events.filter fun event => verbose || event.severity.isNotable).flatMap fun event =>
    event.line ++ ['\n']

/-- The file that the report is exported to, if there is to be one; an empty path asks
for none. -/
def exportWriting (files : FileSystem) (json : Option Text) (report : Report) :
    Except Fault (Option Writing) :=
  match json with
  | none | some [] => .ok none
  | some path =>
    (files.writeLocation (Path.ofText path)).map fun location =>
      some ⟨location, Utf8.encode report.document⟩

/-- Scans, prints and exports. Each step that fails ends the run with status 1, and
what was printed before stays printed. -/
def scan (environment : Environment) (options : Options) (root : Path) : Completion :=
  let outcome := environment.files.analyze root environment.time
  let log := logText options.verbose outcome.events
  let failed (printed : Text) : Completion :=
    ⟨.status 1, printed, log ++ logText options.verbose [.failed root], none⟩
  match outcome.result with
  | .error _ => failed []
  | .ok report =>
    match report.print? environment.terminal (if options.noColor then some false else none) with
    | none => failed []
    | some printed =>
      match exportWriting environment.files options.json report with
      | .error _ => failed printed
      | .ok writing? => ⟨.status 0, printed, log, writing?⟩

/-- Resolves the project directory and scans it. A path that leads to no directory is
rejected with a message; one that is missing or cannot even be resolved is the failure. -/
def perform (environment : Environment) (options : Options) : Except Failure Completion :=
  match options.path.map Path.ofText with
  | none => .error .noPath
  | some path =>
    match environment.files.resolve path with
    | .error reason => .error (.ofUnresolved path reason)
    | .ok root =>
      match environment.files.directory? root with
      | .error fault => .error (.access root.text fault)
      | .ok none =>
        .ok ⟨.message ("Path does not exist or is not a directory: ".toList ++ root.text), [], [],
          none⟩
      | .ok (some _) => .ok (scan environment options root)

def run (environment : Environment) (arguments : List Text) : Except Failure Completion :=
  match parse arguments with
  | .help => .ok ⟨.status 0, helpText, [], none⟩
  | .version => .ok ⟨.status 0, versionText, [], none⟩
  | .refuse error =>
    .ok ⟨.status 2, [], usage ++ "nextsweep: error: ".toList ++ error.message ++ ['\n'], none⟩
  | .run options => perform environment options

end OrphanFiles.CommandLine
