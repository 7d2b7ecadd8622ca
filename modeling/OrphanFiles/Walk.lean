import OrphanFiles.Convention
import OrphanFiles.Event
import OrphanFiles.FileSystem.Lookup
import OrphanFiles.Text.Order

/-! The files below a directory. Ignored directories are not entered, and links to
directories are neither entered nor listed; all other links are listed as files.
A directory that cannot be listed is reported and passed over. -/
namespace OrphanFiles

structure Listing where
  files : List Path
  events : List Event

namespace Listing

def empty : Listing := ⟨[], []⟩

def append (a b : Listing) : Listing :=
  ⟨a.files ++ b.files, a.events ++ b.events⟩

end Listing

/-- The entry of a directory on the path by which the directory was reached. -/
def entryText (directory name : Text) : Text :=
  if directory.getLast? = some '/' then directory ++ name else directory ++ '/' :: name

/-- Whether a directory is left out: by its name anywhere, or by its place below the base. -/
def isPruned (base path : Path) : Bool :=
  Convention.ignoredDirectories.contains path.name ||
    (path.relativeTo? base).any fun rest => Convention.ignoredSubpaths.contains rest.text

namespace FileSystem

/-- Whether a path leads to a directory; a path that leads nowhere does not. -/
def leadsToDirectory (fs : FileSystem) (path : Path) : Bool :=
  match fs.stat path with
  | .ok node => node.isDirectory
  | .error _ => false

mutual

/-- Lists a node; `reached` is the path of the walk, which `path` normalises. A link on a
path too long to be looked up counts as a file. -/
def listNode (fs : FileSystem) (base : Path) (reached : Text) (path : Path) : Node → Listing
  | .file _ => ⟨[path], []⟩
  | .link _ =>
    if Utf8.size reached < pathLimit && fs.leadsToDirectory path then .empty else ⟨[path], []⟩
  | .directory entries =>
    if fs.unlisted.contains path then ⟨[], [.unlistable reached .accessDenied]⟩
    else if pathLimit ≤ Utf8.size reached then ⟨[], [.unlistable reached .nameTooLong]⟩
    else listEntries fs base reached path entries

def listEntries (fs : FileSystem) (base : Path) (reached : Text) (path : Path) :
    List (Name × Node) → Listing
  | [] => .empty
  | (name, node) :: entries =>
    let here : Listing :=
      if node.isDirectory && isPruned base (path.child name) then .empty
      else listNode fs base (entryText reached name.text) (path.child name) node
    here.append (listEntries fs base reached path entries)

end

/-- All files below a path in the order of their texts. A path that leads to no
directory has none. -/
def listFiles (fs : FileSystem) (path base : Path) : Except Fault Listing := do
  match ← fs.directory? path with
  | none => return .empty
  | some node =>
    let listing := fs.listNode base path.text path node
    return ⟨sortedBy Path.text listing.files, listing.events⟩

end FileSystem
end OrphanFiles
