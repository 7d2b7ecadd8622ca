import OrphanFiles.Proofs.FileSystem.Linkless

/-! File systems of directories and readable files, as a whole or from one directory down.
Whether one is plain can be checked by looking at each node of its tree once. -/
namespace OrphanFiles

namespace Node

mutual

/-- The nodes of a tree, each with the names that lead to it. -/
def contents : Node → List (Location × Node)
  | file bytes => [([], file bytes)]
  | link target => [([], link target)]
  | directory entries => ([], directory entries) :: contentsOf entries

def contentsOf : List (Name × Node) → List (Location × Node)
  | [] => []
  | (name, node) :: entries =>
    (node.contents.map fun (below, found) => (name :: below, found)) ++ contentsOf entries

end

theorem mem_contentsOf {entries : List (Name × Node)} {name : Name} {node found : Node}
    {below : Location} (member : (name, node) ∈ entries) (inside : (below, found) ∈ node.contents) :
    (name :: below, found) ∈ contentsOf entries := by
  induction entries with
  | nil => cases member
  | cons entry entries ih =>
    obtain ⟨first, child⟩ := entry
    rw [contentsOf]
    rcases List.mem_cons.mp member with same | later
    · cases same
      exact List.mem_append_left _ (List.mem_map.mpr ⟨(below, found), inside, rfl⟩)
    · exact List.mem_append_right _ (ih later)

theorem mem_of_lookup {entries : List (Name × Node)} {name : Name} {node : Node}
    (found : entries.lookup name = some node) : (name, node) ∈ entries := by
  obtain ⟨before, after, split, _⟩ := List.lookup_eq_some_iff.mp found
  rw [split]
  exact List.mem_append_right _ List.mem_cons_self

theorem mem_contents {node found : Node} {location : Location}
    (there : node.at? location = some found) : (location, found) ∈ node.contents := by
  induction location generalizing node with
  | nil =>
    rw [at?_nil, Option.some.injEq] at there
    subst there
    cases node <;> simp [contents]
  | cons name below ih =>
    rw [at?] at there
    obtain ⟨child, here, inside⟩ := Option.bind_eq_some_iff.mp there
    cases node with
    | file bytes => cases here
    | link target => cases here
    | directory entries =>
      rw [contents]
      exact List.mem_cons_of_mem _ (mem_contentsOf (mem_of_lookup here) (ih inside))

end Node

namespace FileSystem

/-- Holds directories and readable files, and no links. -/
structure Plain (fs : FileSystem) : Prop extends fs.Linkless where
  distinct {location : Location} {entries : List (Name × Node)}
    (found : fs.at? location = some (.directory entries)) : (entries.map Prod.fst).Nodup
  listable : fs.unlisted = []
  readable {location : Location} {bytes : Bytes} (found : fs.at? location = some (.file bytes)) :
    fs.read (.ofLocation location) = .ok bytes

/-- Holds directories and readable files, and no links, at a directory and below. What stands
elsewhere is left open. -/
structure PlainBelow (fs : FileSystem) (top : Location) : Prop where
  directory : ∃ entries, fs.at? top = some (.directory entries)
  unlinked {location : Location} (inside : top <+: location) (target : Text) :
    fs.at? location ≠ some (.link target)
  storable {location : Location} (inside : top <+: location) {node : Node}
    (found : fs.at? location = some node) : ∀ name ∈ location, name.Storable
  distinct {location : Location} (inside : top <+: location) {entries : List (Name × Node)}
    (found : fs.at? location = some (.directory entries)) : (entries.map Prod.fst).Nodup
  listable {location : Location} (inside : top <+: location) : .ofLocation location ∉ fs.unlisted
  readable {location : Location} (inside : top <+: location) {bytes : Bytes}
    (found : fs.at? location = some (.file bytes)) : fs.read (.ofLocation location) = .ok bytes

theorem Plain.below {fs : FileSystem} (plain : fs.Plain) {top : Location}
    {entries : List (Name × Node)} (found : fs.at? top = some (.directory entries)) :
    fs.PlainBelow top where
  directory := ⟨entries, found⟩
  unlinked _ target := plain.unlinked _ target
  storable _ _ there := plain.storable there
  distinct _ _ there := plain.distinct there
  listable _ := by simp [plain.listable]
  readable _ _ there := plain.readable there

instance (name : Name) : Decidable name.Storable :=
  decidable_of_iff (name ≠ Name.parent ∧ '\x00' ∉ name.text ∧ Utf8.size name.text ≤ nameLimit)
    ⟨fun ⟨own, whole, fits⟩ => ⟨own, whole, fits⟩, fun ⟨own, whole, fits⟩ => ⟨own, whole, fits⟩⟩

/-- Whether a node can stand at a location of a plain file system. -/
def isPlainNode (location : Location) : Node → Bool
  | .link _ => false
  | .directory entries => (entries.map Prod.fst).Nodup
  | .file _ => Utf8.size (Path.ofLocation location).text < pathLimit

def isPlain (fs : FileSystem) : Bool :=
  fs.unlisted.isEmpty && fs.root.contents.all fun (location, node) =>
    location.all (fun name => decide name.Storable) && isPlainNode location node

theorem plain_of_isPlain {fs : FileSystem} (checked : fs.isPlain = true) : fs.Plain := by
  rw [isPlain, Bool.and_eq_true, List.isEmpty_iff, List.all_eq_true] at checked
  have each {location : Location} {node : Node} (found : fs.at? location = some node) :
      (∀ name ∈ location, name.Storable) ∧ isPlainNode location node = true := by
    simpa using checked.2 (location, node) (Node.mem_contents found)
  have linkless : fs.Linkless := by
    refine ⟨?_, fun found => (each found).1⟩
    intro location target found
    cases (each found).2
  refine ⟨linkless, ?_, checked.1, ?_⟩
  · intro location entries found
    exact of_decide_eq_true (each found).2
  · intro location bytes found
    exact read_file (linkless.storable found) found (of_decide_eq_true (each found).2)

end FileSystem
end OrphanFiles
