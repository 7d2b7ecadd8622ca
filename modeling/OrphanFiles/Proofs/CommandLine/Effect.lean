import Mathlib
import OrphanFiles.CommandLine.Run
import OrphanFiles.Proofs.FileSystem.Writing

/-! What a run of the command leaves behind. It writes at most one file, and that only when
everything before the writing went well; the file and the output then tell of the same report,
which is that of the files before the run. -/
namespace OrphanFiles.CommandLine

/-- The files after a run. A run that does not come to a completion has written none. -/
def filesAfter (environment : Environment) (arguments : List Text) : FileSystem :=
  match run environment arguments with
  | .ok completion => completion.filesAfter environment.files
  | .error _ => environment.files

/-- Whether a report is what a scan of the directory named by the options comes to. -/
def Finds (environment : Environment) (options : Options) (report : Report) : Prop :=
  ∃ path root, options.path = some path ∧
    environment.files.resolve (Path.ofText path) = .ok root ∧
    (environment.files.analyze root environment.time).result = .ok report

/-- A run that finds a report and prints it. -/
structure Reports (environment : Environment) (arguments : List Text) (completion : Completion)
    (options : Options) (report : Report) : Prop where
  completes : run environment arguments = .ok completion
  asked : parse arguments = .run options
  found : Finds environment options report
  exit : completion.exit = .status 0
  printed : ∃ text, report.render? (!options.noColor && environment.terminal.showsColor) =
    some text ∧ completion.output = text ++ ['\n']

/-- A run that also writes its report into the file that a path leads to. -/
structure Exports (environment : Environment) (arguments : List Text) (completion : Completion)
    (options : Options) (report : Report) (json : Text) (location : Location) : Prop
    extends Reports environment arguments completion options report where
  target : options.json = some json
  given : json ≠ []
  leads : environment.files.writeLocation (Path.ofText json) = .ok location
  wrote : environment.files.Wrote (filesAfter environment arguments) location
    (Utf8.encode report.document)
  read : (filesAfter environment arguments).read (Path.ofText json) =
    .ok (Utf8.encode report.document)

/-- An export is to the file of a path that is not empty, and holds the report's document. -/
theorem exportWriting_cases {files : FileSystem} {json : Option Text} {report : Report}
    {writing? : Option Writing} (exported : exportWriting files json report = .ok writing?) :
    ((json = none ∨ json = some []) ∧ writing? = none) ∨
      ∃ path location, json = some path ∧ path ≠ [] ∧
        files.writeLocation (Path.ofText path) = .ok location ∧
        writing? = some ⟨location, Utf8.encode report.document⟩ := by
  cases json with
  | none =>
    cases exported
    exact Or.inl ⟨Or.inl rfl, rfl⟩
  | some path =>
    cases path with
    | nil =>
      cases exported
      exact Or.inl ⟨Or.inr rfl, rfl⟩
    | cons c rest =>
      rw [exportWriting] at exported
      · cases leads : files.writeLocation (Path.ofText (c :: rest)) with
        | error fault =>
          rw [leads] at exported
          cases exported
        | ok location =>
          rw [leads] at exported
          cases exported
          exact Or.inr ⟨_, location, rfl, by simp, leads, rfl⟩
      · simp

theorem print?_noColor (report : Report) (terminal : Terminal) (noColor : Bool) :
    report.print? terminal (if noColor then some false else none) =
      (report.render? (!noColor && terminal.showsColor)).map (· ++ ['\n']) := by
  cases noColor <;> rfl

/-- A scan that fails anywhere ends with status 1 and writes nothing. -/
theorem scan_cases {environment : Environment} {options : Options} {root : Path}
    {completion : Completion} (scanned : scan environment options root = completion) :
    (completion.exit = .status 1 ∧ completion.writing? = none) ∨
      completion.exit = .status 0 ∧
        ∃ report text, (environment.files.analyze root environment.time).result = .ok report ∧
          report.render? (!options.noColor && environment.terminal.showsColor) = some text ∧
          completion.output = text ++ ['\n'] ∧
          exportWriting environment.files options.json report = .ok completion.writing? := by
  simp only [scan, print?_noColor] at scanned
  cases analyzed : (environment.files.analyze root environment.time).result with
  | error failure =>
    simp only [analyzed] at scanned
    subst scanned
    exact Or.inl ⟨rfl, rfl⟩
  | ok report =>
    cases rendered : report.render? (!options.noColor && environment.terminal.showsColor) with
    | none =>
      simp only [analyzed, rendered, Option.map_none] at scanned
      subst scanned
      exact Or.inl ⟨rfl, rfl⟩
    | some text =>
      cases exported : exportWriting environment.files options.json report with
      | error fault =>
        simp only [analyzed, rendered, Option.map_some, exported] at scanned
        subst scanned
        exact Or.inl ⟨rfl, rfl⟩
      | ok writing? =>
        simp only [analyzed, rendered, Option.map_some, exported] at scanned
        subst scanned
        exact Or.inr ⟨rfl, report, text, rfl, rendered, rfl, exported⟩

/-- What completes without a scan is the rejection of a path. -/
theorem perform_cases {environment : Environment} {options : Options} {completion : Completion}
    (performed : perform environment options = .ok completion) :
    (completion.exit ≠ .status 0 ∧ completion.writing? = none) ∨
      ∃ path root, options.path = some path ∧
        environment.files.resolve (Path.ofText path) = .ok root ∧
        scan environment options root = completion := by
  rw [perform] at performed
  cases named : options.path with
  | none =>
    rw [named] at performed
    cases performed
  | some path =>
    simp only [named, Option.map_some] at performed
    cases resolved : environment.files.resolve (Path.ofText path) with
    | error reason =>
      rw [resolved] at performed
      cases performed
    | ok root =>
      simp only [resolved] at performed
      cases looked : environment.files.directory? root with
      | error fault =>
        rw [looked] at performed
        cases performed
      | ok top? =>
        rw [looked] at performed
        cases top? with
        | none =>
          cases performed
          exact Or.inl ⟨by simp, rfl⟩
        | some top =>
          cases performed
          exact Or.inr ⟨path, root, rfl, resolved, rfl⟩

/-- A run writes nothing, or it is a scan that succeeded; and only such a scan, a call for help
and one for the version end with status 0. -/
theorem run_cases {environment : Environment} {arguments : List Text} {completion : Completion}
    (completes : run environment arguments = .ok completion) :
    (completion.writing? = none ∧ (completion.exit = .status 0 →
        parse arguments = .help ∨ parse arguments = .version)) ∨
      ∃ options report, Reports environment arguments completion options report ∧
        exportWriting environment.files options.json report = .ok completion.writing? := by
  have ends := completes
  rw [run] at ends
  cases asked : parse arguments with
  | help =>
    rw [asked] at ends
    cases ends
    exact Or.inl ⟨rfl, fun _ => Or.inl rfl⟩
  | version =>
    rw [asked] at ends
    cases ends
    exact Or.inl ⟨rfl, fun _ => Or.inr rfl⟩
  | refuse error =>
    rw [asked] at ends
    cases ends
    exact Or.inl ⟨rfl, fun zero => by cases zero⟩
  | run options =>
    rw [asked] at ends
    rcases perform_cases ends with ⟨failed, unwritten⟩ | ⟨path, root, named, resolved, scanned⟩
    · exact Or.inl ⟨unwritten, fun zero => absurd zero failed⟩
    rcases scan_cases scanned with ⟨failed, unwritten⟩ | ⟨zero, report, text, analyzed, rendered,
      output, exported⟩
    · refine Or.inl ⟨unwritten, fun zero => ?_⟩
      rw [failed] at zero
      cases zero
    · refine Or.inr ⟨options, report, ⟨completes, asked, ?_, zero, text, rendered, output⟩, exported⟩
      exact ⟨path, root, named, resolved, analyzed⟩

def emptyName : Name := ⟨"work".toList, by decide⟩

/-- A run from inside a project without any files. -/
def emptyProject : Environment where
  files := ⟨.directory [(emptyName, .directory [])], [emptyName], []⟩
  terminal := ⟨false, none⟩
  time := []

def exportArguments : List Text := ["--json".toList, "report".toList]

theorem parse_exportArguments :
    parse exportArguments = .run ⟨some ".".toList, some "report".toList, false, false⟩ := by
  cbv

set_option maxRecDepth 100000 in
theorem exit_emptyProject :
    (match run emptyProject exportArguments with
      | .ok completion => decide (completion.exit = .status 0)
      | .error _ => false) = true := by
  cbv

end OrphanFiles.CommandLine
