import OrphanFiles.Calendar
import OrphanFiles.CommandLine.Run
import Std.Time.DateTime.Timestamp

/-! The command itself. The part of the real file system that a run can look at is
copied into the model first, the run is computed, and its output and its one file
are written at the end. Links are copied by what they finally lead to. -/
namespace OrphanFiles

/-- No directory holds this name, so a link to it leads nowhere. -/
def nowhere : Text := ['\x00']

def textOfLocation (location : Location) : String :=
  String.ofList (Path.ofLocation location).text

def locationOfText (path : String) : Location :=
  (Path.ofText path.toList).names

/-- What a path finally leads to, if it leads anywhere. -/
def finalPath? (path : String) : IO (Option String) := do
  try return some (← IO.FS.realPath path).toString catch _ => return none

/-- What a link is copied with, and where it finally leads, if anywhere. A link that is
part of a circle is copied as a link to itself. -/
def linkTarget (directory name : String) : IO (Text × Option String) := do
  let link := (← IO.FS.realPath directory) / name
  try
    discard link.metadata
    let target := (← IO.FS.realPath link).toString
    return (target.toList, some target)
  catch
    | .invalidArgument .. => return (link.toString.toList, none)
    | _ => return (nowhere, none)

def bytesOf (path : String) : IO Bytes := do
  return (← IO.FS.readBinFile path).toList

/-- The kind of an entry, links not being followed. -/
def entryKind? (directory name : String) : IO (Option IO.FS.FileType) := do
  try return some (← ((← IO.FS.realPath directory) / name).symlinkMetadata).type
  catch _ => return none

/-- Copies what lies on the way to a path, starting from a location free of links. -/
partial def copyWay (fs : FileSystem) (here : Location) : List Name → IO FileSystem
  | [] => return fs
  | name :: rest => do
    if name = Name.parent then return ← copyWay fs here.dropLast rest
    let location := here ++ [name]
    match ← entryKind? (textOfLocation here) (String.ofList name.text) with
    | some .dir =>
      let known := (fs.at? location).isSome
      copyWay (if known then fs else fs.set location (some (.directory []))) location rest
    | some .symlink =>
      let (target, final?) ← linkTarget (textOfLocation here) (String.ofList name.text)
      let linked := fs.set location (some (.link target))
      match final? with
      | none => return linked
      | some final => copyWay linked [] (locationOfText final ++ rest)
    | some _ =>
      let known := (fs.at? location).isSome
      return if known then fs else fs.set location (some (.file []))
    | none => return fs

/-- A copied directory: its entries, the targets of the links in it, and the paths on
which directories could not be listed. -/
structure CopiedTree where
  entries : List (Name × Node)
  targets : List String
  unlisted : List Path

/-- Copies a whole directory, which a scan reaches on the path `reached`. -/
partial def copyTree (path : String) (reached : Path) : IO CopiedTree := do
  try
    let entries ← (← IO.FS.realPath path).readDir
    let mut copied : CopiedTree := ⟨[], [], []⟩
    for entry in entries do
      if let some name := Name.ofText? entry.fileName.toList then
        match (← entry.path.symlinkMetadata).type with
        | .dir =>
          let below ← copyTree entry.path.toString (reached.child name)
          copied := ⟨(name, .directory below.entries) :: copied.entries,
            below.targets ++ copied.targets, below.unlisted ++ copied.unlisted⟩
        | .symlink =>
          let (target, final?) ← linkTarget path entry.fileName
          copied := { copied with
            entries := (name, .link target) :: copied.entries
            targets := final?.toList ++ copied.targets }
        | _ =>
          let file := Node.file (← bytesOf entry.path.toString)
          copied := { copied with entries := (name, file) :: copied.entries }
    return copied
  catch _ => return ⟨[], [], [reached]⟩

/-- Copies the way to a link's target, and the bytes of a file that is not there yet. -/
def copyTarget (fs : FileSystem) (target : String) : IO FileSystem := do
  let location := locationOfText target
  match fs.at? location with
  | some _ => return fs
  | none =>
    let reached ← copyWay fs [] location
    match reached.at? location with
    | some (.file _) => return reached.set location (some (.file (← bytesOf target)))
    | _ => return reached

/-- Copies a directory of the project, if it is one. -/
def copyPart (fs : FileSystem) (project part : String) : IO FileSystem := do
  match ← finalPath? (project ++ "/" ++ part) with
  | none => copyWay fs (locationOfText project) (locationOfText part)
  | some real =>
    let reached ← copyWay fs (locationOfText project) (locationOfText part)
    match reached.at? (locationOfText real) with
    | some (.directory _) =>
      let copied ← copyTree real ((Path.ofText project.toList).join (Path.ofText part.toList))
      let filled := reached.set (locationOfText real) (some (.directory copied.entries))
      copied.targets.foldlM copyTarget
        { filled with unlisted := copied.unlisted ++ filled.unlisted }
    | _ => return reached

/-- Copies the working directory, the project and the way to the export. -/
def copyFor (options : CommandLine.Options) : IO FileSystem := do
  let working := locationOfText (← IO.FS.realPath ".").toString
  let start (path : Path) : Location := if path.anchor = .relative then working else []
  let project := Path.ofText (options.path.getD [])
  let fs ← copyWay ⟨.directory [], working, []⟩ [] working
  let fs ← copyWay fs (start project) project.names
  let fs ← match ← finalPath? (String.ofList project.text) with
    | none => pure fs
    | some real => do copyPart (← copyPart fs real "src") real "public"
  let target := Path.ofText (options.json.getD [])
  copyWay fs (start target) target.names

def currentMoment : IO Text := do
  let moment ← Std.Time.Timestamp.now
  return Calendar.momentText (moment.toNanosecondsSinceUnixEpoch.toInt.toNat / 1000)

/-- Writes what the run leaves behind and gives its status. The export goes to the path
as it was given, on which the system finds the same file. -/
def conclude (completion : CommandLine.Completion) (export? : Option Text) : IO UInt32 := do
  IO.print (String.ofList completion.output)
  IO.eprint (String.ofList completion.errors)
  if let (some writing, some path) := (completion.writing?, export?) then
    IO.FS.writeBinFile (String.ofList path) ⟨writing.bytes.toArray⟩
  match completion.exit with
  | .status code => return code.toUInt32
  | .message text => do
    IO.eprintln (String.ofList text)
    return 1

end OrphanFiles

open OrphanFiles

def main (arguments : List String) : IO UInt32 := do
  let given := arguments.map String.toList
  let (files, export?) ← match CommandLine.parse given with
    | .run options => do pure (← copyFor options, options.json)
    | _ => pure (⟨.directory [], [], []⟩, none)
  let noColor := (← IO.getEnv "NO_COLOR").map String.toList
  let terminal : Terminal := ⟨← (← IO.getStdout).isTty, noColor⟩
  match CommandLine.run ⟨files, terminal, ← currentMoment⟩ given with
  | .ok completion => conclude completion export?
  | .error failure =>
    IO.eprintln (String.ofList failure.message)
    return 1
