import OrphanFiles.FileSystem.Lookup

/-! Changes to a file system: files written, directories and links made, entries
removed. Each changes one location, or none if the path is refused; making
directories on the way is the exception. -/
namespace OrphanFiles.FileSystem

/-- Where a file is written: at the end of all links, on a file or a vacant name. -/
def writeLocation (fs : FileSystem) (path : Path) : Except Fault Location := do
  let arrival ← fs.locate .write path
  match arrival.node? with
  | some (.directory _) => .error .isDirectory
  | some (.link _) => .error .tooManyLinks
  | _ => .ok arrival.location

def write (fs : FileSystem) (path : Path) (bytes : Bytes) : Except Fault FileSystem :=
  (fs.writeLocation path).map fun location => fs.set location (some (.file bytes))

/-- Makes the directories of a path that are missing, from the first to the last. -/
def makeDirectories (fs : FileSystem) (path : Path) : Except Fault FileSystem :=
  go fs [] path.names
where
  go (fs : FileSystem) (above : List Name) : List Name → Except Fault FileSystem
    | [] => .ok fs
    | name :: below => do
      let here := above ++ [name]
      let arrival ← fs.locate .follow ⟨path.anchor, here⟩
      match arrival.node? with
      | none => go (fs.set arrival.location (some (.directory []))) here below
      | some (.directory _) => go fs here below
      | some _ => .error .notDirectory

/-- Places a node at a path whose last component is not followed, whatever stood there. -/
def place (fs : FileSystem) (path : Path) (node : Node) : Except Fault FileSystem :=
  (fs.locate .keep path).map fun arrival => fs.set arrival.location (some node)

/-- Removes a file or a link. -/
def remove (fs : FileSystem) (path : Path) : Except Fault FileSystem := do
  let arrival ← fs.locate .keep path
  match arrival.node? with
  | none => .error .noEntry
  | some (.directory _) => .error .isDirectory
  | some _ => .ok (fs.set arrival.location none)

end OrphanFiles.FileSystem
