import OrphanFiles.FileSystem.Basic
import OrphanFiles.FileSystem.Fault

/-! Looking a path up, component by component. A link is replaced by the components
of its target, forty times at most. What is found is the node at a location, or a
vacant name in a directory. -/
namespace OrphanFiles

/-- Where a lookup ends. `closed` tells that slashes follow the last name, so that
only a directory will do. -/
structure Arrival where
  location : Location
  node? : Option Node
  closed : Bool

/-- What a lookup is for, as far as the last component goes: a link there is followed or
kept, and a name that a file is to be written under may not be closed by slashes. -/
inductive Purpose
  | follow
  | keep
  | write
deriving DecidableEq

namespace FileSystem

def linkLimit : Nat := 40

def nameLimit : Nat := 255

/-- Paths of this many bytes are refused. -/
def pathLimit : Nat := 4096

/-- Where a link leads from: its own directory, or the root if its target is absolute. -/
def linkBase (here : Location) (target : Text) : Location :=
  if target.head? = some '/' then [] else here

/-- Follows pieces of path text from a directory. Empty pieces and single dots stay
where they are. -/
def walk (fs : FileSystem) (purpose : Purpose) (links : Nat) (here : Location) :
    List Text → Except Fault Arrival
  | [] => .ok ⟨here, fs.at? here, false⟩
  | piece :: rest =>
    if piece = [] ∨ piece = ['.'] then walk fs purpose links here rest
    else if piece = Name.parent.text then walk fs purpose links here.dropLast rest
    else if purpose = .write ∧ rest ≠ [] ∧ rest.all List.isEmpty then .error .isDirectory
    else if nameLimit < Utf8.size piece then .error .nameTooLong
    else
      match Name.ofText? piece with
      | none => .error .noEntry
      | some name =>
        let location := here ++ [name]
        match fs.at? location with
        | none =>
          if rest.all List.isEmpty then .ok ⟨location, none, !rest.isEmpty⟩ else .error .noEntry
        | some (.file bytes) =>
          if rest.all List.isEmpty then .ok ⟨location, some (.file bytes), !rest.isEmpty⟩
          else .error .notDirectory
        | some (.directory _) => walk fs purpose links location rest
        | some (.link target) =>
          if rest = [] ∧ purpose = .keep then .ok ⟨location, some (.link target), false⟩
          else
            match links with
            | 0 => .error .tooManyLinks
            | links + 1 => walk fs purpose links (linkBase here target) (target.splitOn '/' ++ rest)
termination_by pieces => (links, pieces.length)

def locate (fs : FileSystem) (purpose : Purpose) (path : Path) : Except Fault Arrival :=
  if path.text.contains '\x00' then .error .nullByte
  else if pathLimit ≤ Utf8.size path.text then .error .nameTooLong
  else
    let start := if path.anchor = .relative then fs.workingDirectory else []
    fs.walk purpose linkLimit start (path.names.map Name.text)

/-- The node that a path leads to. -/
def stat (fs : FileSystem) (path : Path) : Except Fault Node := do
  let arrival ← fs.locate .follow path
  match arrival.node? with
  | none => .error .noEntry
  | some node =>
    if arrival.closed && !node.isDirectory then .error .notDirectory else .ok node

/-- The directory that a path leads to, if it leads to one. -/
def directory? (fs : FileSystem) (path : Path) : Except Fault (Option Node) :=
  match fs.stat path with
  | .ok node => .ok (if node.isDirectory then some node else none)
  | .error fault => if fault.meansAbsent then .ok none else .error fault

def read (fs : FileSystem) (path : Path) : Except Fault Bytes :=
  match fs.stat path with
  | .ok (.file bytes) => .ok bytes
  | .ok (.directory _) => .error .isDirectory
  | .ok (.link _) => .error .tooManyLinks
  | .error fault => .error fault

/-- What a directory itself occupies. -/
def directorySize : Nat := 4096

def size (fs : FileSystem) (path : Path) : Except Fault Nat :=
  match fs.stat path with
  | .ok (.file bytes) => .ok bytes.length
  | .ok (.directory _) => .ok directorySize
  | .ok (.link _) => .error .tooManyLinks
  | .error fault => .error fault

end FileSystem
end OrphanFiles
