import OrphanFiles.Proofs.CommandLine.Effect
import OrphanFiles.Proofs.FileSystem.Arrival
import OrphanFiles.Proofs.Report.Characters

/-! How a run ends whose path leads to no directory. It leaves all files as they are. It ends
with a message, unless the path cannot be resolved for a circle of links or cannot be looked up
for its length: those two failures come before the scan, and nothing stops them. -/
namespace OrphanFiles

theorem Path.mem_of_mem_text_ofText {c : Char} {t : Text} (slashless : c ≠ '/')
    (undotted : c ≠ '.') (member : c ∈ (ofText t).text) : c ∈ t := by
  obtain ⟨name, known, inside⟩ := (mem_text_iff slashless undotted).mp member
  obtain ⟨piece, among, read⟩ := List.mem_filterMap.mp known
  rw [Name.ofText?_eq_some.mp read] at inside
  have joined : ['/'].intercalate (t.splitOn '/') = t := List.intercalate_splitOn '/'
  rw [← joined, mem_intercalate_iff slashless]
  exact ⟨piece, among, inside⟩

namespace FileSystem

variable {fs : FileSystem}

/-- A lookup that follows links fails on what is too long, or because there is nothing. -/
theorem fault_of_walk {links : Nat} {here : Location} {pieces : List Text} {fault : Fault}
    (refused : fs.walk .follow links here pieces = .error fault) :
    fault = .nameTooLong ∨ fault.meansAbsent = true := by
  fun_induction fs.walk .follow links here pieces with
  | case1 | case7 | case9 => cases refused
  | case4 => simp_all
  | case12 => simp_all
  | case5 =>
    cases refused
    exact Or.inl rfl
  | case6 | case8 | case10 | case13 =>
    cases refused
    exact Or.inr rfl
  | case2 _ _ _ _ _ ih => exact ih refused
  | case3 _ _ _ _ ih => exact ih refused
  | case11 _ _ _ _ _ _ _ _ _ _ _ _ _ ih => exact ih refused
  | case14 _ _ _ _ _ _ _ _ _ _ _ _ _ _ ih => exact ih refused

theorem fault_of_stat {path : Path} {fault : Fault} (refused : fs.stat path = .error fault) :
    fault = .nameTooLong ∨ fault.meansAbsent = true := by
  rw [stat] at refused
  cases arrives : fs.locate .follow path with
  | error met =>
    rw [arrives] at refused
    cases refused
    rw [locate] at arrives
    split at arrives
    · cases arrives
      exact Or.inr rfl
    split at arrives
    · cases arrives
      exact Or.inl rfl
    · exact fault_of_walk arrives
  | ok arrival =>
    obtain ⟨location, node?, closed⟩ := arrival
    rw [arrives] at refused
    cases node? with
    | none =>
      cases refused
      exact Or.inr rfl
    | some node =>
      simp only [bind, Except.bind] at refused
      split at refused <;> cases refused
      exact Or.inr rfl

/-- Looking for a directory fails on what is too long, and on nothing else. -/
theorem directory?_eq_error {path : Path} {fault : Fault} :
    fs.directory? path = .error fault ↔
      fault = .nameTooLong ∧ fs.stat path = .error .nameTooLong := by
  rw [directory?]
  cases found : fs.stat path with
  | ok node => simp
  | error met =>
    rcases fault_of_stat found with rfl | absent
    · simp [Fault.meansAbsent, eq_comm]
    · have short : met ≠ .nameTooLong := by
        rintro rfl
        cases absent
      simp [absent, short]

theorem resolve_ne_nullByte {path : Path} (whole : '\x00' ∉ path.text) :
    fs.resolve path ≠ .error .nullByte := by
  intro refused
  rw [resolve, if_neg (by simpa using whole)] at refused
  simp only at refused
  split at refused <;> cases refused

end FileSystem

namespace CommandLine

/-- The end of a run whose path leads to no directory: a message, and nothing else. -/
def rejection (root : Path) : Completion :=
  ⟨.message ("Path does not exist or is not a directory: ".toList ++ root.text), [], [], none⟩

/-- The ways in which a path can keep a run from its scan. -/
inductive KeptOut (files : FileSystem) (path : Path) : Except Failure Completion → Prop
  | rejected (root : Path) (resolved : files.resolve path = .ok root)
      (nowhere : files.directory? root = .ok none) : KeptOut files path (.ok (rejection root))
  | tooLong (root : Path) (resolved : files.resolve path = .ok root)
      (long : files.stat root = .error .nameTooLong) :
      KeptOut files path (.error (.access root.text .nameTooLong))
  | circle (circle : Path) (unresolved : files.resolve path = .error (.linkCircle circle)) :
      KeptOut files path (.error (.linkCircle circle))

theorem keptOut_perform {environment : Environment} {options : Options} {path : Text}
    (named : options.path = some path) (whole : '\x00' ∉ path)
    (astray : ∀ root, environment.files.resolve (Path.ofText path) = .ok root →
      environment.files.leadsToDirectory root = false) :
    KeptOut environment.files (Path.ofText path) (perform environment options) := by
  rw [perform, named]
  simp only [Option.map_some]
  cases resolved : environment.files.resolve (Path.ofText path) with
  | error reason =>
    cases reason with
    | nullByte =>
      refine absurd resolved (FileSystem.resolve_ne_nullByte ?_)
      exact fun member => whole (Path.mem_of_mem_text_ofText (by decide) (by decide) member)
    | linkCircle circle => exact .circle circle resolved
  | ok root =>
    simp only
    cases looked : environment.files.directory? root with
    | error fault =>
      obtain ⟨rfl, long⟩ := FileSystem.directory?_eq_error.mp looked
      exact .tooLong root resolved long
    | ok top? =>
      cases top? with
      | none => exact .rejected root resolved looked
      | some top =>
        have leads := FileSystem.leadsToDirectory_eq_true.mpr ⟨top, looked⟩
        rw [astray root resolved] at leads
        cases leads

/-- A run whose path leads to no directory leaves the files as they are. It is rejected with a
message unless the path is too long to be looked up or cannot be resolved for a circle of links;
these two end the run as failures. -/
theorem run_without_directory {environment : Environment} {arguments : List Text}
    {options : Options} {path : Text} (asked : parse arguments = .run options)
    (named : options.path = some path) (whole : '\x00' ∉ path)
    (astray : ∀ root, environment.files.resolve (Path.ofText path) = .ok root →
      environment.files.leadsToDirectory root = false) :
    filesAfter environment arguments = environment.files ∧
      KeptOut environment.files (Path.ofText path) (run environment arguments) := by
  have performed : run environment arguments = perform environment options := by
    rw [run, asked]
  have kept := keptOut_perform named whole astray
  rw [← performed] at kept
  refine ⟨?_, kept⟩
  rw [filesAfter]
  generalize run environment arguments = ended at kept
  cases kept <;> rfl

/-- A name of one byte more than fits. -/
def longName : Text := List.replicate 256 'a'

set_option maxRecDepth 10000 in
theorem parse_longName :
    parse ["--path".toList, longName] = .run ⟨some longName, none, false, false⟩ := by
  cbv

set_option maxRecDepth 10000 in
theorem longName_leads_nowhere :
    (match emptyProject.files.resolve (Path.ofText longName) with
      | .ok root => emptyProject.files.leadsToDirectory root
      | .error _ => false) = false := by
  cbv

theorem run_of_long_name :
    '\x00' ∉ longName ∧
      filesAfter emptyProject ["--path".toList, longName] = emptyProject.files ∧
      KeptOut emptyProject.files (Path.ofText longName)
        (run emptyProject ["--path".toList, longName]) := by
  refine ⟨by decide, run_without_directory parse_longName rfl (by decide) ?_⟩
  intro root resolved
  have nowhere := longName_leads_nowhere
  rwa [resolved] at nowhere

set_option maxRecDepth 10000 in
example : run emptyProject ["--path".toList, longName] =
    .error (.access ("/work/".toList ++ longName) .nameTooLong) := by
  cbv

def circleName : Name := ⟨"circle".toList, by decide⟩

/-- A run from inside a project in which a link leads to itself. -/
def circleProject : Environment where
  files :=
    ⟨.directory [(emptyName, .directory [(circleName, .link "circle".toList)])], [emptyName], []⟩
  terminal := ⟨false, none⟩
  time := []

def circleArguments : List Text := ["--path".toList, "circle".toList]

theorem parse_circleArguments :
    parse circleArguments = .run ⟨some "circle".toList, none, false, false⟩ := by
  cbv

set_option maxRecDepth 10000 in
theorem resolve_circleProject :
    circleProject.files.resolve (Path.ofText "circle".toList) =
      .error (.linkCircle (.ofText "/work/circle".toList)) := by
  cbv

/-- A path into a circle of links is not rejected with a message. -/
theorem circle_not_rejected : ¬ ∀ (environment : Environment) (arguments : List Text)
    (options : Options) (path : Text), parse arguments = .run options →
    options.path = some path → '\x00' ∉ path →
    (∀ root, environment.files.resolve (Path.ofText path) = .ok root →
      environment.files.leadsToDirectory root = false) →
    ∃ root, run environment arguments = .ok (rejection root) := by
  intro rejects
  obtain ⟨root, ends⟩ := rejects circleProject circleArguments _ _ parse_circleArguments rfl
    (by decide) (by rw [resolve_circleProject]; simp)
  rw [run, parse_circleArguments] at ends
  simp only [perform, Option.map_some, resolve_circleProject] at ends
  cases ends

end CommandLine
end OrphanFiles
