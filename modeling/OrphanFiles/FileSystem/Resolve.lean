import OrphanFiles.FileSystem.Lookup

/-! The absolute path, free of links, that a path stands for. Components that do not
exist are kept, and a parent entry takes back the component before it. Where links
run in a circle, the rest of the path is kept as it stands, and looking up the
outcome then tells of the circle. -/
namespace OrphanFiles

namespace Node

mutual

/-- How many links a tree holds. -/
def linkCount : Node → Nat
  | file _ => 0
  | link _ => 1
  | directory entries => linkCountOf entries

def linkCountOf : List (Name × Node) → Nat
  | [] => 0
  | (_, node) :: entries => node.linkCount + linkCountOf entries

end

end Node

namespace FileSystem

/-- Pieces of path text taken from a location by their spelling alone. -/
def collapse (here : Location) : List Text → Location
  | [] => here
  | piece :: rest =>
    if piece = Name.parent.text then collapse here.dropLast rest
    else
      match Name.ofText? piece with
      | none => collapse here rest
      | some name => collapse (here ++ [name]) rest

/-- A rest of path text put behind a path by its spelling alone; one that starts with
slashes starts over from its own anchor. -/
def continueBy (here : Path) (rest : List Text) : Path :=
  let anchor := Anchor.ofText (['/'].intercalate rest)
  if anchor = .relative then ⟨here.anchor, collapse here.names rest⟩
  else ⟨anchor, collapse [] rest⟩

/-- The links met so far, by the paths on which they were met: with the path that each
stands for, or without while its target is being resolved. -/
abbrev MetLinks := List (Path × Option Path)

/-- What resolving pieces of path text comes to. -/
inductive Resolution
  | resolved (path : Path) (met : MetLinks)
  | circular (path : Path)

/-- The location of a path by its spelling alone. -/
def locationOf (fs : FileSystem) (path : Path) : Location :=
  collapse (if path.anchor = .relative then fs.workingDirectory else [])
    (path.names.map Name.text)

/-- The directory above a path. Above the working directory parent entries pile up. -/
def ascend (path : Path) : Path :=
  match path.names.getLast? with
  | none => if path.anchor = .relative then ⟨.relative, [Name.parent]⟩ else path
  | some last =>
    if path.anchor = .relative ∧ last = Name.parent then path.child Name.parent
    else ⟨path.anchor, path.names.dropLast⟩

/-- The target of the link on a path, if there is one. A path too long to be looked up
has none. -/
def linkTarget? (fs : FileSystem) (path : Path) : Option Text :=
  if pathLimit ≤ Utf8.size path.text then none
  else
    match fs.at? (fs.locationOf path) with
    | some (.link target) => some target
    | _ => none

/-- Resolves pieces of path text from a path free of links. Each link is resolved once;
meeting one whose target is still being resolved closes a circle. `links` bounds how
many can be so at a time. -/
def resolveFrom (fs : FileSystem) (links : Nat) (met : MetLinks) (here : Path) :
    List Text → Resolution
  | [] => .resolved here met
  | piece :: rest =>
    if piece = Name.parent.text then resolveFrom fs links met (ascend here) rest
    else
      match Name.ofText? piece with
      | none => resolveFrom fs links met here rest
      | some name =>
        let next := here.child name
        let stuck := continueBy (Path.ofLocation (fs.locationOf next)) rest
        match fs.linkTarget? next with
        | none => resolveFrom fs links met next rest
        | some target =>
          match met.lookup next with
          | some (some found) => resolveFrom fs links met found rest
          | some none => .circular stuck
          | none =>
            match links with
            | 0 => .circular stuck
            | links + 1 =>
              let base := if target.head? = some '/' then Path.ofLocation [] else here
              match resolveFrom fs links ((next, none) :: met) base (target.splitOn '/') with
              | .circular inner => .circular (continueBy inner rest)
              | .resolved found met =>
                resolveFrom fs (links + 1) ((next, some found) :: met) found rest
termination_by pieces => (links, pieces.length)

/-- How many links can be pending at once: each is met on one absolute path and, for
every directory above the working directory, on one relative path. -/
def pendingLimit (fs : FileSystem) : Nat :=
  fs.root.linkCount * (fs.workingDirectory.length + 2)

/-- Why a path has no resolved form. -/
inductive Unresolved
  | nullByte
  | linkCircle (path : Path)

/-- The resolved form of a path. A path that cannot be looked up for another reason
than a circle of links has one all the same. -/
def resolve (fs : FileSystem) (path : Path) : Except Unresolved Path :=
  if path.text.contains '\x00' then .error .nullByte
  else
    let start : Path := if path.anchor = .relative then ⟨.relative, []⟩ else Path.ofLocation []
    let resolved :=
      match fs.resolveFrom fs.pendingLimit [] start (path.names.map Name.text) with
      | .resolved found _ => Path.ofLocation (fs.locationOf found)
      | .circular stuck => stuck
    match fs.stat resolved with
    | .error .tooManyLinks => .error (.linkCircle resolved)
    | _ => .ok resolved

end FileSystem
end OrphanFiles
