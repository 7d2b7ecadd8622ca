import OrphanFiles.Path.Basic
import OrphanFiles.Text.Utf8

/-! A file system as a tree of nodes, and the places in it. A location lists the
names from the root down and passes through no link; it says where a node stands,
while a path says how to look for one. Permissions play no part, except that a
listing may be refused, and that by the path on which it is asked for. -/
namespace OrphanFiles

abbrev Location := List Name

inductive Node
  | file (bytes : Bytes)
  | link (target : Text)
  | directory (entries : List (Name × Node))

namespace Node

def isDirectory : Node → Bool
  | directory _ => true
  | _ => false

def entries : Node → List (Name × Node)
  | directory entries => entries
  | _ => []

def child? (node : Node) (name : Name) : Option Node :=
  node.entries.lookup name

def at? (node : Node) : Location → Option Node
  | [] => some node
  | name :: below => (node.child? name).bind (at? · below)

@[simp] theorem at?_nil (node : Node) : node.at? [] = some node := rfl

theorem at?_append (node : Node) (above below : Location) :
    node.at? (above ++ below) = (node.at? above).bind (·.at? below) := by
  induction above generalizing node with
  | nil => rfl
  | cons name above ih =>
    simp only [List.cons_append, at?]
    cases node.child? name with
    | none => rfl
    | some found => exact ih found

/-- Puts a node under a name, or takes the name away. A name that is there keeps its place. -/
def setEntry (name : Name) (node? : Option Node) : List (Name × Node) → List (Name × Node)
  | [] => (node?.map fun node => (name, node)).toList
  | (other, old) :: entries =>
    if other = name then (node?.map fun node => (name, node)).toList ++ entries
    else (other, old) :: setEntry name node? entries

theorem lookup_setEntry (name other : Name) (node? : Option Node) (entries : List (Name × Node))
    (apart : other ≠ name) :
    (setEntry name node? entries).lookup other = entries.lookup other := by
  induction entries with
  | nil => cases node? <;> simp [setEntry, List.lookup_cons, beq_false_of_ne apart]
  | cons entry entries ih =>
    obtain ⟨first, old⟩ := entry
    by_cases same : first = name
    · subst same
      cases node? <;> simp [setEntry, List.lookup_cons, beq_false_of_ne apart]
    · simp only [setEntry, if_neg same, List.lookup_cons]
      split
      · rfl
      · exact ih

/-- Replaces what stands at a location below directories; elsewhere nothing changes. -/
def alter (change : Option Node → Option Node) : Location → Option Node → Option Node
  | [], node? => change node?
  | name :: below, some (directory entries) =>
    some (directory (setEntry name (alter change below (entries.lookup name)) entries))
  | _ :: _, node? => node?

end Node

/-- The tree, the location from which relative paths are looked up, and the paths on
which a directory is not listed. -/
structure FileSystem where
  root : Node
  workingDirectory : Location
  unlisted : List Path

namespace FileSystem

def at? (fs : FileSystem) (location : Location) : Option Node :=
  fs.root.at? location

def set (fs : FileSystem) (location : Location) (node? : Option Node) : FileSystem :=
  { fs with root := (Node.alter (fun _ => node?) location (some fs.root)).getD fs.root }

end FileSystem

namespace Path

/-- The absolute path of a location. -/
def ofLocation (location : Location) : Path :=
  ⟨.root, location⟩

end Path
end OrphanFiles
