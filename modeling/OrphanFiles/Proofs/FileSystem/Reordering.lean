import OrphanFiles.Proofs.FileSystem.Arrival
import OrphanFiles.Proofs.FileSystem.Plain
import OrphanFiles.Proofs.Walk.Listing

/-! Trees that differ in the order in which their directories hold their entries, and in
nothing else. Lookups go by name, so on such trees they end at the same locations. -/
namespace OrphanFiles

namespace Node

/-- Whether no directory of a tree holds two entries under one name. -/
def Distinct (node : Node) : Prop :=
  ∀ location entries, node.at? location = some (.directory entries) →
    (entries.map Prod.fst).Nodup

/-- Another order of the entries, in any directories of a tree. -/
inductive Reordered : Node → Node → Prop
  | refl (node : Node) : Reordered node node
  | trans {a b c : Node} (first : Reordered a b) (next : Reordered b c) : Reordered a c
  | around {entries entries' : List (Name × Node)} (perm : entries.Perm entries') :
    Reordered (directory entries) (directory entries')
  | inside {node node' : Node} (inner : Reordered node node') (before after : List (Name × Node))
    (name : Name) :
    Reordered (directory (before ++ (name, node) :: after))
      (directory (before ++ (name, node') :: after))

/-- Whether two trees have files, links and directories at the same locations, the files with
the same bytes and the links with the same targets. -/
def Alike (a b : Node) : Prop :=
  ∀ location, (a.at? location).map outline = (b.at? location).map outline

namespace Alike

variable {a b : Node} (alike : a.Alike b) {location : Location}
include alike

theorem below {node node' : Node} {above : Location} (found : a.at? above = some node)
    (found' : b.at? above = some node') : node.Alike node' := by
  intro location
  have deeper := alike (above ++ location)
  rw [at?_append, at?_append, found, found'] at deeper
  exact deeper

theorem symm : b.Alike a :=
  fun location => (alike location).symm

theorem at?_none (vacant : a.at? location = none) : b.at? location = none := by
  have same := alike location
  rw [vacant] at same
  exact Option.map_eq_none_iff.mp same.symm

theorem at?_file {bytes : Bytes} (found : a.at? location = some (.file bytes)) :
    b.at? location = some (.file bytes) := by
  have same := alike location
  rw [found] at same
  exact file_of_outline same.symm

theorem at?_link {target : Text} (found : a.at? location = some (.link target)) :
    b.at? location = some (.link target) := by
  have same := alike location
  rw [found] at same
  exact link_of_outline same.symm

theorem at?_directory {entries : List (Name × Node)}
    (found : a.at? location = some (.directory entries)) :
    ∃ entries', b.at? location = some (.directory entries') := by
  have same := alike location
  rw [found] at same
  exact directory_of_outline same.symm

end Alike

theorem Distinct.below {node inner : Node} (distinct : node.Distinct) {above : Location}
    (found : node.at? above = some inner) : inner.Distinct := by
  intro location entries there
  apply distinct (above ++ location) entries
  rw [at?_append, found]
  exact there

theorem Distinct.of_entry {entries : List (Name × Node)} {name : Name} {node : Node}
    (distinct : (directory entries).Distinct) (found : entries.lookup name = some node) :
    node.Distinct := by
  have here : (directory entries).at? [name] = some node := by
    simp [at?, child?, Node.entries, found]
  exact distinct.below here

theorem distinct_directory {entries : List (Name × Node)} (names : (entries.map Prod.fst).Nodup)
    (each : ∀ name node, entries.lookup name = some node → node.Distinct) :
    (directory entries).Distinct := by
  intro location inner found
  cases location with
  | nil =>
    cases found
    exact names
  | cons name below =>
    obtain ⟨node, entry, there⟩ := Option.bind_eq_some_iff.mp found
    exact each name node entry below inner there

/-- Looking at each node once tells whether names are distinct. -/
theorem distinct_of_contents {node : Node}
    (checked : ∀ found ∈ node.contents, (found.2.entries.map Prod.fst).Nodup) :
    node.Distinct :=
  fun _ _ found => checked _ (mem_contents found)

theorem lookup_perm {entries entries' : List (Name × Node)} (perm : entries.Perm entries')
    (names : (entries.map Prod.fst).Nodup) (name : Name) :
    entries.lookup name = entries'.lookup name := by
  have names' : (entries'.map Prod.fst).Nodup := (perm.map Prod.fst).nodup_iff.mp names
  ext node
  rw [lookup_eq_some names, lookup_eq_some names', perm.mem_iff]

/-- An entry that is replaced is found under its name, unless an earlier one hides it. -/
theorem lookup_replaced (node node' : Node) (before after : List (Name × Node))
    (name other : Name) :
    (before ++ (name, node) :: after).lookup other =
        (before ++ (name, node') :: after).lookup other ∨
      (before ++ (name, node) :: after).lookup other = some node ∧
        (before ++ (name, node') :: after).lookup other = some node' := by
  induction before with
  | nil =>
    by_cases same : other = name
    · right
      simp [same]
    · left
      simp [List.lookup_cons, beq_false_of_ne same]
  | cons entry before ih =>
    obtain ⟨first, child⟩ := entry
    by_cases same : other = first
    · left
      simp [same]
    · simpa [List.lookup_cons, beq_false_of_ne same] using ih

/-- Reordering moves nothing to another location. -/
theorem Reordered.alike {a b : Node} (reordered : a.Reordered b) (distinct : a.Distinct) :
    a.Alike b ∧ b.Distinct := by
  induction reordered with
  | refl node => exact ⟨fun _ => rfl, distinct⟩
  | trans _ _ first next =>
    have middle := first distinct
    have last := next middle.2
    exact ⟨fun location => (middle.1 location).trans (last.1 location), last.2⟩
  | @around entries entries' perm =>
    have names := distinct [] entries rfl
    have same := lookup_perm perm names
    constructor
    · intro location
      cases location with
      | nil => rfl
      | cons name below => simp only [at?, child?, Node.entries, same]
    · apply distinct_directory ((perm.map Prod.fst).nodup_iff.mp names)
      intro name node found
      rw [← same] at found
      exact distinct.of_entry found
  | @inside node node' _ before after name ih =>
    have names := distinct [] _ rfl
    rw [List.map_append, List.map_cons] at names
    have replaced := lookup_replaced node node' before after name
    constructor
    · intro location
      cases location with
      | nil => rfl
      | cons other below =>
        simp only [at?, child?, Node.entries]
        rcases replaced other with same | ⟨found, found'⟩
        · rw [same]
        · rw [found, found']
          exact (ih (distinct.of_entry found)).1 below
    · apply distinct_directory
      · rw [List.map_append, List.map_cons]
        exact names
      · intro other inner entry
        rcases replaced other with same | ⟨found, found'⟩
        · rw [← same] at entry
          exact distinct.of_entry entry
        · rw [found', Option.some.injEq] at entry
          rw [← entry]
          exact (ih (distinct.of_entry found)).2

end Node

namespace FileSystem

/-- Whether two file systems have the same at all locations and refuse the same listings. -/
structure Alike (fs fs' : FileSystem) : Prop where
  tree : fs.root.Alike fs'.root
  directory : fs'.workingDirectory = fs.workingDirectory
  unlisted : fs'.unlisted = fs.unlisted

namespace Alike

theorem refl (fs : FileSystem) : fs.Alike fs :=
  ⟨fun _ => rfl, rfl, rfl⟩

theorem symm {fs fs' : FileSystem} (alike : fs.Alike fs') : fs'.Alike fs :=
  ⟨alike.tree.symm, alike.directory.symm, alike.unlisted.symm⟩

variable {fs fs' : FileSystem} (alike : fs.Alike fs')
include alike

/-- A lookup ends at the same location, with what stands there. -/
theorem walk (purpose : Purpose) (links : Nat) (here : Location) (pieces : List Text) :
    fs'.walk purpose links here pieces = (fs.walk purpose links here pieces).map
      fun arrival => { arrival with node? := fs'.at? arrival.location } := by
  fun_induction fs.walk purpose links here pieces with
  | case1 => rw [FileSystem.walk]; rfl
  | case2 _ _ _ _ blank ih => rw [FileSystem.walk, if_pos blank, ih]
  | case3 _ _ _ blank ih => rw [FileSystem.walk, if_neg blank, if_pos rfl, ih]
  | case4 _ _ _ _ blank up closed =>
    rw [FileSystem.walk, if_neg blank, if_neg up, if_pos closed]
    rfl
  | case5 _ _ _ _ blank up closed long =>
    rw [FileSystem.walk, if_neg blank, if_neg up, if_neg closed, if_pos long]
    rfl
  | case6 _ _ _ _ blank up closed long unread =>
    rw [FileSystem.walk, if_neg blank, if_neg up, if_neg closed, if_neg long, unread]
    rfl
  | case7 _ here _ _ blank up closed long name read location vacant empties =>
    have vacant' : fs'.at? (here ++ [name]) = none := alike.tree.at?_none vacant
    simp [fs'.walk_entry blank up closed long read, Except.map, location, vacant', empties]
  | case8 _ here _ _ blank up closed long name read _ vacant more =>
    have vacant' : fs'.at? (here ++ [name]) = none := alike.tree.at?_none vacant
    simp [fs'.walk_entry blank up closed long read, Except.map, vacant', more]
  | case9 _ here _ _ blank up closed long name read location bytes file empties =>
    have file' : fs'.at? (here ++ [name]) = some (.file bytes) := alike.tree.at?_file file
    simp [fs'.walk_entry blank up closed long read, Except.map, location, file', empties]
  | case10 _ here _ _ blank up closed long name read _ bytes file more =>
    have file' : fs'.at? (here ++ [name]) = some (.file bytes) := alike.tree.at?_file file
    simp [fs'.walk_entry blank up closed long read, Except.map, file', more]
  | case11 _ here _ _ blank up closed long name read location entries folder ih =>
    have folder' : ∃ entries', fs'.at? (here ++ [name]) = some (.directory entries') :=
      alike.tree.at?_directory folder
    obtain ⟨entries', folder'⟩ := folder'
    simp only [fs'.walk_entry blank up closed long read, folder', location] at ih ⊢
    exact ih
  | case12 _ here _ _ blank up closed long name read location target link kept =>
    have link' : fs'.at? (here ++ [name]) = some (.link target) := alike.tree.at?_link link
    simp only [fs'.walk_entry blank up closed long read, Except.map, location, link', if_pos kept]
  | case13 here _ _ blank up closed long name read _ target link followed =>
    have link' : fs'.at? (here ++ [name]) = some (.link target) := alike.tree.at?_link link
    simp [fs'.walk_entry blank up closed long read, Except.map, link', followed]
  | case14 here _ _ blank up closed long name read _ target link followed links ih =>
    have link' : fs'.at? (here ++ [name]) = some (.link target) := alike.tree.at?_link link
    simp only [fs'.walk_entry blank up closed long read, link', if_neg followed, ih]

theorem locate (purpose : Purpose) (path : Path) :
    fs'.locate purpose path = (fs.locate purpose path).map
      fun arrival => { arrival with node? := fs'.at? arrival.location } := by
  rw [FileSystem.locate, FileSystem.locate]
  split
  · rfl
  split
  · rfl
  rw [alike.directory]
  exact alike.walk _ _ _ _

end Alike

theorem alike_of_reordered (fs : FileSystem) {root : Node} (distinct : fs.root.Distinct)
    (reordered : fs.root.Reordered root) : fs.Alike { fs with root } :=
  ⟨(reordered.alike distinct).1, rfl, rfl⟩

namespace Alike

variable {fs fs' : FileSystem} (alike : fs.Alike fs')
include alike

theorem stat {path : Path} {node : Node} (found : fs.stat path = .ok node) :
    ∃ location node', fs.at? location = some node ∧ fs'.at? location = some node' ∧
      fs'.stat path = .ok node' := by
  obtain ⟨location, closed, arrives, fits⟩ := stat_eq_ok.mp found
  have stands : fs.at? location = some node := (at?_of_locate arrives).symm
  have same : (fs.at? location).map Node.outline = (fs'.at? location).map Node.outline :=
    alike.tree location
  rw [stands] at same
  obtain ⟨node', there, outline⟩ := Option.map_eq_some_iff.mp same.symm
  have folder : node'.isDirectory = node.isDirectory := by
    rw [← Node.isDirectory_outline, outline, Node.isDirectory_outline]
  refine ⟨location, node', stands, there, stat_eq_ok.mpr ⟨location, closed, ?_, ?_⟩⟩
  · rw [alike.locate, arrives]
    simp only [Except.map, there]
  · rw [folder]
    exact fits

/-- A path leads to the same directory, up to order. -/
theorem directory? {path : Path} {top : Node} (found : fs.directory? path = .ok (some top)) :
    ∃ location top', fs.at? location = some top ∧ fs'.at? location = some top' ∧
      fs'.directory? path = .ok (some top') := by
  obtain ⟨stands, folder⟩ := directory?_eq_some.mp found
  obtain ⟨location, top', here, there, stands'⟩ := alike.stat stands
  have alike_top : top.Alike top' := alike.tree.below here there
  have folder' : top'.isDirectory = true := by
    have same := alike_top []
    simp only [Node.at?_nil, Option.map_some, Option.some.injEq] at same
    rw [← Node.isDirectory_outline, ← same, Node.isDirectory_outline, folder]
  exact ⟨location, top', here, there, directory?_eq_some.mpr ⟨stands', folder'⟩⟩

theorem leadsToDirectory (path : Path) :
    fs'.leadsToDirectory path = fs.leadsToDirectory path := by
  rw [Bool.eq_iff_iff, leadsToDirectory_eq_true, leadsToDirectory_eq_true]
  constructor
  · rintro ⟨_, found⟩
    obtain ⟨_, top, _, _, found'⟩ := alike.symm.directory? found
    exact ⟨top, found'⟩
  · rintro ⟨_, found⟩
    obtain ⟨_, top, _, _, found'⟩ := alike.directory? found
    exact ⟨top, found'⟩

end Alike
end FileSystem
end OrphanFiles
