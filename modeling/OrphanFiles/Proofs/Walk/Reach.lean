import OrphanFiles.Proofs.FileSystem.Reordering
import OrphanFiles.Proofs.Path.Spelling
import OrphanFiles.Proofs.Text.Arrangement

/-! What the walk reaches below a directory. It lists an entry just when it takes it for a
file and passes through every directory on the way, so the answer depends on what stands
where, and not on the order in which directories hold their entries. -/
namespace OrphanFiles

namespace Path

/-- The path of what stands under names below a directory. -/
def descend (path : Path) (names : Location) : Path :=
  ⟨path.anchor, path.names ++ names⟩

theorem descend_nil (path : Path) : path.descend [] = path := by
  simp [descend]

theorem descend_cons (path : Path) (name : Name) (below : Location) :
    path.descend (name :: below) = (path.child name).descend below := by
  simp [descend, child]

theorem name_descend {path : Path} {way : Location} {name : Name}
    (last : way.getLast? = some name) : (path.descend way).name = name.text := by
  rw [Path.name, descend, List.getLast?_append, last]
  rfl

end Path

theorem isPruned_eq_false {base path : Path} :
    isPruned base path = false ↔ path.name ∉ Convention.ignoredDirectories ∧
      ∀ rest, path.relativeTo? base = some rest → rest.text ∉ Convention.ignoredSubpaths := by
  rw [isPruned, Bool.or_eq_false_iff]
  cases path.relativeTo? base <;> simp

/-- The path on which the walk comes to what stands under names below a directory. -/
def reachedText (start : Text) (names : Location) : Text :=
  names.foldl (fun reached name => entryText reached name.text) start

namespace FileSystem

/-- Whether the walk takes an entry for a file: anything but a directory, and any link but one
that is seen to lead to a directory. -/
def CountsAsFile (fs : FileSystem) (reached : Text) (path : Path) : Node → Prop
  | .file _ => True
  | .link _ => ¬ (Utf8.size reached < pathLimit ∧ fs.leadsToDirectory path = true)
  | .directory _ => False

/-- Whether a directory's entries can be had: its listing is not denied, and the path of the
walk is not too long to ask for it. -/
def Listable (fs : FileSystem) (reached : Text) (path : Path) : Prop :=
  path ∉ fs.unlisted ∧ Utf8.size reached < pathLimit

/-- Whether the walk, started from a node on a path, passes through what stands under names
below it. The start itself is never left out for its name or its place. -/
structure Passes (fs : FileSystem) (base start : Path) (reached : Text) (top : Node)
    (way : Location) : Prop where
  directory : ∃ entries, top.at? way = some (.directory entries)
  listable : fs.Listable (reachedText reached way) (start.descend way)
  named (name : Name) (last : way.getLast? = some name) :
    name.text ∉ Convention.ignoredDirectories
  placed (below : way ≠ []) (rest : Path) (within : (start.descend way).relativeTo? base = some rest) :
    rest.text ∉ Convention.ignoredSubpaths

/-- Whether the walk, started from a node on a path, lists what stands under names below it. -/
structure Lists (fs : FileSystem) (base start : Path) (reached : Text) (top : Node)
    (names : Location) : Prop where
  entry : ∃ node, top.at? names = some node ∧
    fs.CountsAsFile (reachedText reached names) (start.descend names) node
  passes (way rest : Location) (split : names = way ++ rest) (inner : rest ≠ []) :
    fs.Passes base start reached top way

variable {fs : FileSystem} {base start : Path} {reached : Text}

theorem passes_iff {top : Node} {way : Location} :
    fs.Passes base start reached top way ↔
      (∃ entries, top.at? way = some (.directory entries)) ∧
        fs.Listable (reachedText reached way) (start.descend way) ∧
          (way ≠ [] → isPruned base (start.descend way) = false) := by
  constructor
  · intro passes
    refine ⟨passes.directory, passes.listable, ?_⟩
    intro below
    have last := List.getLast?_eq_some_getLast below
    rw [isPruned_eq_false, Path.name_descend last]
    exact ⟨passes.named _ last, passes.placed below⟩
  · rintro ⟨directory, listable, kept⟩
    refine ⟨directory, listable, ?_, ?_⟩
    · intro name last
      have below : way ≠ [] := by
        intro empty
        rw [empty] at last
        cases last
      rw [← Path.name_descend last]
      exact (isPruned_eq_false.mp (kept below)).1
    · intro below
      exact (isPruned_eq_false.mp (kept below)).2

/-- Passing through what stands below an entry, seen from the entry. -/
theorem passes_cons {entries : List (Name × Node)} {name : Name} {node : Node} {way : Location}
    (found : entries.lookup name = some node) :
    fs.Passes base start reached (.directory entries) (name :: way) ↔
      (way = [] → isPruned base (start.child name) = false) ∧
        fs.Passes base (start.child name) (entryText reached name.text) node way := by
  have below : (Node.directory entries).at? (name :: way) = node.at? way := by
    simp [Node.at?, Node.child?, Node.entries, found]
  have text : reachedText reached (name :: way) =
      reachedText (entryText reached name.text) way := rfl
  rw [passes_iff, passes_iff, below, text, Path.descend_cons]
  cases way with
  | nil =>
    simp only [Path.descend_nil, ne_eq, reduceCtorEq, not_false_eq_true, forall_const,
      not_true_eq_false, false_implies, and_true]
    constructor
    · rintro ⟨directory, listable, kept⟩
      exact ⟨kept, directory, listable⟩
    · rintro ⟨kept, directory, listable⟩
      exact ⟨directory, listable, kept⟩
  | cons next way => simp

theorem passes_nil {entries : List (Name × Node)} :
    fs.Passes base start reached (.directory entries) [] ↔ fs.Listable reached start := by
  rw [passes_iff, Path.descend_nil]
  constructor
  · intro passes
    exact passes.2.1
  · intro listable
    exact ⟨⟨entries, rfl⟩, listable, fun below => absurd rfl below⟩

theorem lists_nil {node : Node} :
    fs.Lists base start reached node [] ↔ fs.CountsAsFile reached start node := by
  constructor
  · intro lists
    obtain ⟨node', here, counts⟩ := lists.entry
    cases here
    rwa [Path.descend_nil] at counts
  · intro counts
    refine ⟨⟨node, rfl, by rwa [Path.descend_nil]⟩, ?_⟩
    intro way rest split inner
    exact absurd (List.append_eq_nil_iff.mp split.symm).2 inner

theorem lists_cons {entries : List (Name × Node)} {name : Name} {below : Location} :
    fs.Lists base start reached (.directory entries) (name :: below) ↔
      fs.Listable reached start ∧ ∃ node, entries.lookup name = some node ∧
        (below ≠ [] → isPruned base (start.child name) = false) ∧
          fs.Lists base (start.child name) (entryText reached name.text) node below := by
  have path := start.descend_cons name below
  constructor
  · intro lists
    obtain ⟨last, there, counts⟩ := lists.entry
    obtain ⟨node, found, there⟩ := Option.bind_eq_some_iff.mp there
    have first := lists.passes [] (name :: below) rfl (by simp)
    have deeper (way rest : Location) (split : below = way ++ rest) (inner : rest ≠ []) :=
      (passes_cons found).mp (lists.passes (name :: way) rest (by rw [split]; rfl) inner)
    refine ⟨passes_nil.mp first, node, found, ?_, ⟨last, there, path ▸ counts⟩, ?_⟩
    · intro more
      exact (deeper [] below rfl more).1 rfl
    · intro way rest split inner
      exact (deeper way rest split inner).2
  · rintro ⟨listable, node, found, kept, lists⟩
    obtain ⟨last, there, counts⟩ := lists.entry
    refine ⟨⟨last, ?_, by rw [path]; exact counts⟩, ?_⟩
    · rw [Node.at?]
      exact Option.bind_eq_some_iff.mpr ⟨node, found, there⟩
    · intro way rest split inner
      cases way with
      | nil => exact passes_nil.mpr listable
      | cons first way =>
        rw [List.cons_append, List.cons.injEq] at split
        obtain ⟨same, split⟩ := split
        subst same
        refine (passes_cons found).mpr ⟨?_, lists.passes way rest split inner⟩
        intro empty
        apply kept
        rw [split, empty]
        exact inner

/-- Below a directory the walk lists what it lists below the entries that are not left out. -/
theorem mem_listNode_directory {entries : List (Name × Node)} {p : Path} :
    p ∈ (fs.listNode base reached start (.directory entries)).files ↔
      fs.Listable reached start ∧ ∃ name node, (name, node) ∈ entries ∧
        (node.isDirectory && isPruned base (start.child name)) = false ∧
        p ∈ (fs.listNode base (entryText reached name.text) (start.child name) node).files := by
  rw [listNode, ← mem_listEntries]
  by_cases denied : start ∈ fs.unlisted
  · simp [Listable, denied]
  by_cases long : pathLimit ≤ Utf8.size reached
  · simp [Listable, denied, long, Nat.not_lt_of_le long]
  · simp [Listable, denied, long, Nat.lt_of_not_le long]

theorem CountsAsFile.isDirectory {path : Path} {node : Node}
    (counts : fs.CountsAsFile reached path node) : node.isDirectory = false := by
  cases node with
  | file bytes => rfl
  | link target => rfl
  | directory entries => exact counts.elim

/-- Off a directory the walk goes no further. -/
theorem exists_lists_iff {node : Node} (other : node.isDirectory = false) {p : Path} :
    (∃ names, p = start.descend names ∧ fs.Lists base start reached node names) ↔
      p = start ∧ fs.CountsAsFile reached start node := by
  constructor
  · rintro ⟨names, same, lists⟩
    cases names with
    | nil =>
      rw [Path.descend_nil] at same
      exact ⟨same, lists_nil.mp lists⟩
    | cons name below =>
      obtain ⟨entries, folder⟩ := (lists.passes [] (name :: below) rfl (by simp)).directory
      cases folder
      cases other
  · rintro ⟨same, counts⟩
    exact ⟨[], by rw [same, Path.descend_nil], lists_nil.mpr counts⟩

/-- The walk from a node lists an entry below it just when it passes all directories on the way
and takes the entry for a file. -/
theorem mem_listNode_iff {node : Node} (distinct : node.Distinct) {p : Path} :
    p ∈ (fs.listNode base reached start node).files ↔
      ∃ names, p = start.descend names ∧ fs.Lists base start reached node names := by
  induction node using Node.entryInduction generalizing reached start with
  | file bytes =>
    rw [exists_lists_iff rfl, listNode, List.mem_singleton]
    simp [CountsAsFile]
  | link target =>
    rw [exists_lists_iff rfl, listNode, CountsAsFile]
    by_cases entered : Utf8.size reached < pathLimit ∧ fs.leadsToDirectory start = true
    · simp [entered, Listing.empty]
    · rw [if_neg (by simpa using entered), List.mem_singleton]
      simp [entered]
  | directory entries ih =>
    have keys := distinct [] entries rfl
    rw [mem_listNode_directory]
    constructor
    · rintro ⟨listable, name, node, member, kept, listed⟩
      have found := (Node.lookup_eq_some keys).mpr member
      obtain ⟨below, same, lists⟩ := (ih name node member (distinct.of_entry found)).mp listed
      refine ⟨name :: below, by rw [same, Path.descend_cons], ?_⟩
      refine lists_cons.mpr ⟨listable, node, found, ?_, lists⟩
      intro more
      obtain ⟨entries', folder⟩ := (lists.passes [] below rfl more).directory
      cases folder
      exact kept
    · rintro ⟨names, same, lists⟩
      cases names with
      | nil => exact (lists_nil.mp lists).elim
      | cons name below =>
        obtain ⟨listable, node, found, kept, lists⟩ := lists_cons.mp lists
        have member := (Node.lookup_eq_some keys).mp found
        have listed := (ih name node member (distinct.of_entry found)).mpr
          ⟨below, by rw [same, Path.descend_cons], lists⟩
        refine ⟨listable, name, node, member, ?_, listed⟩
        -- Only directories are left out, and the entry that is listed is none.
        cases below with
        | nil => rw [(lists_nil.mp lists).isDirectory, Bool.false_and]
        | cons next below => rw [kept (by simp), Bool.and_false]

theorem Lists.of_alike {fs' : FileSystem} (alike : fs.Alike fs') {top top' : Node}
    (tops : top.Alike top') {names : Location}
    (lists : fs.Lists base start reached top names) :
    fs'.Lists base start reached top' names where
  entry := by
    obtain ⟨node, there, counts⟩ := lists.entry
    cases node with
    | file bytes => exact ⟨_, tops.at?_file there, trivial⟩
    | link target =>
      refine ⟨_, tops.at?_link there, ?_⟩
      rw [CountsAsFile, alike.leadsToDirectory]
      exact counts
    | directory entries => exact counts.elim
  passes way rest split inner := by
    have passes := lists.passes way rest split inner
    obtain ⟨entries, folder⟩ := passes.directory
    refine ⟨tops.at?_directory folder, ?_, passes.named, passes.placed⟩
    rw [Listable, alike.unlisted]
    exact passes.listable

theorem listFiles_directory {path top} (distinct : top.Distinct)
    (found : fs.directory? path = .ok (some top)) (base : Path) :
    ∃ listing, fs.listFiles path base = .ok listing ∧ InOrder Path.text listing.files ∧
      ∀ p, p ∈ listing.files ↔
        ∃ names, p = path.descend names ∧ fs.Lists base path path.text top names := by
  have nodup : (fs.listNode base path.text path top).files.Nodup := nodup_listNode distinct
  refine ⟨_, by rw [listFiles, found]; rfl, ?_, ?_⟩
  · exact sortedBy_inOrder nodup fun _ _ _ _ => Path.text_injective
  · intro p
    rw [mem_sortedBy]
    exact mem_listNode_iff distinct

/-- The files of a directory are listed in the order of their texts, each once: all entries at
any depth that the walk takes for files and to which it comes by directories that it passes.
In which order directories hold their entries makes no difference. -/
theorem listFiles_exact (distinct : fs.root.Distinct) {path : Path} {top : Node}
    (found : fs.directory? path = .ok (some top)) (base? : Option Path) :
    ∃ listing, fs.listFiles path (base?.getD path) = .ok listing ∧
      InOrder Path.text listing.files ∧
      (∀ p, p ∈ listing.files ↔ ∃ names, names ≠ [] ∧ p = path.descend names ∧
        fs.Lists (base?.getD path) path path.text top names) ∧
      ∀ root, fs.root.Reordered root → ∃ listing',
        { fs with root }.listFiles path (base?.getD path) = .ok listing' ∧
          listing'.files = listing.files := by
  obtain ⟨location, _, here, _⟩ := (Alike.refl fs).directory? found
  obtain ⟨listing, listed, order, members⟩ :=
    fs.listFiles_directory (distinct.below here) found (base?.getD path)
  refine ⟨listing, listed, order, ?_, ?_⟩
  · intro p
    rw [members]
    constructor
    · rintro ⟨names, same, lists⟩
      refine ⟨names, ?_, same, lists⟩
      intro empty
      subst empty
      have other := (lists_nil.mp lists).isDirectory
      rw [(directory?_eq_some.mp found).2] at other
      cases other
    · rintro ⟨names, _, same, lists⟩
      exact ⟨names, same, lists⟩
  · -- Both lists are in order and have the same members, so they are one list.
    intro root reordered
    have alike := fs.alike_of_reordered distinct reordered
    obtain ⟨location', top', here, here', found'⟩ := alike.directory? found
    have tops : top.Alike top' := alike.tree.below here here'
    have distinct' : top'.Distinct := (reordered.alike distinct).2.below here'
    obtain ⟨listing', listed', order', members'⟩ :=
      FileSystem.listFiles_directory distinct' found' (base?.getD path)
    refine ⟨listing', listed', order'.eq_of_mem_iff order ?_⟩
    intro p
    rw [members, members']
    constructor
    · rintro ⟨names, same, lists⟩
      exact ⟨names, same, lists.of_alike alike.symm tops.symm⟩
    · rintro ⟨names, same, lists⟩
      exact ⟨names, same, lists.of_alike alike tops⟩

def galleryName : Name := ⟨"gallery".toList, by decide⟩

/-- A picture, a directory that is not entered, a directory with another picture, a link that
leads to it, and a link that leads nowhere. -/
def galleryEntries : List (Name × Node) := [
  (⟨"wall.png".toList, by decide⟩, .file [0x89]),
  (⟨".next".toList, by decide⟩, .directory [(⟨"chunk.js".toList, by decide⟩, .file [])]),
  (⟨"frames".toList, by decide⟩, .directory [(⟨"gilt.png".toList, by decide⟩, .file [])]),
  (⟨"copy".toList, by decide⟩, .link "frames".toList),
  (⟨"loop".toList, by decide⟩, .link "loop".toList)]

def gallerySystem : FileSystem := ⟨.directory [(galleryName, .directory galleryEntries)], [], []⟩

theorem listFiles_exact_gallery :
    gallerySystem.root.Distinct ∧
    gallerySystem.directory? (.ofLocation [galleryName]) = .ok (some (.directory galleryEntries)) ∧
    ∃ listing, gallerySystem.listFiles (.ofLocation [galleryName]) (.ofLocation [galleryName]) =
        .ok listing ∧
      InOrder Path.text listing.files ∧
      (∀ p, p ∈ listing.files ↔
        ∃ names, names ≠ [] ∧ p = (Path.ofLocation [galleryName]).descend names ∧
          gallerySystem.Lists (.ofLocation [galleryName]) (.ofLocation [galleryName]) "/gallery".toList
            (.directory galleryEntries) names) ∧
      ∀ root, gallerySystem.root.Reordered root → ∃ listing',
        { gallerySystem with root }.listFiles (.ofLocation [galleryName]) (.ofLocation [galleryName]) =
            .ok listing' ∧
          listing'.files = listing.files := by
  have distinct : gallerySystem.root.Distinct := Node.distinct_of_contents (by decide +kernel)
  have storable : ∀ name ∈ [galleryName], name.Storable := by decide
  have found : gallerySystem.directory? (.ofLocation [galleryName]) =
      .ok (some (.directory galleryEntries)) := by
    rw [directory?, stat_directory storable rfl]
    rfl
  exact ⟨distinct, found, listFiles_exact distinct found none⟩

/-- Going into a directory and back, any number of times, leads nowhere else. -/
theorem walk_detour (fs : FileSystem) {name : Name} (storable : name.Storable) {here : Location}
    (folder : fs.IsFolder (here ++ [name])) (links count : Nat) (rest : List Text) :
    fs.walk .follow links here
        ((List.replicate count [name, Name.parent]).flatten.map Name.text ++ rest) =
      fs.walk .follow links here rest := by
  obtain ⟨entries, found⟩ := folder
  induction count with
  | zero => rfl
  | succ count ih =>
    have back : fs.walk .follow links (here ++ [name]) (Name.parent.text ::
        ((List.replicate count [name, Name.parent]).flatten.map Name.text ++ rest)) =
        fs.walk .follow links here
          ((List.replicate count [name, Name.parent]).flatten.map Name.text ++ rest) := by
      rw [walk, if_neg (by decide), if_pos rfl, List.dropLast_concat]
    rw [List.replicate_succ, List.flatten_cons, List.map_append, List.append_assoc]
    simp only [List.map_cons, List.map_nil, List.cons_append, List.nil_append]
    rw [fs.walk_name storable.own storable.fits, found]
    simp only
    rw [back, ih]

/-- A name of one letter, repeated. -/
def longName (letter : Char) (plain : letter ≠ '.' ∧ letter ≠ '/') (more : Nat) : Name where
  text := letter :: List.replicate more letter
  proper := by
    refine ⟨by simp, ?_, ?_⟩
    · intro dot
      exact plain.1 (List.cons.inj dot).1
    · simp [List.mem_replicate, plain.2.symm]

def sidingName : Name := longName 'a' (by decide) 199
def loopName : Name := longName 'b' (by decide) 249
def innerName : Name := longName 'c' (by decide) 249
def leafName : Name := longName 'f' (by decide) 0

/-- A directory with a link to the directory itself and a directory with a file. -/
def sidingEntries : List (Name × Node) :=
  [(loopName, .link ['.']), (innerName, .directory [(leafName, .file [])])]

def sidingSystem : FileSystem := ⟨.directory [(sidingName, .directory sidingEntries)], [], []⟩

/-- A way to the directory that goes in and out of it, until no entry of it has a path short
enough to be looked up. -/
def detour : Path :=
  .ofLocation ((List.replicate 18 [sidingName, Name.parent]).flatten ++ [sidingName])

theorem at?_siding : sidingSystem.at? [sidingName] = some (.directory sidingEntries) := by
  simp [FileSystem.at?, Node.at?, Node.child?, Node.entries, sidingSystem]

theorem at?_loop : sidingSystem.at? [sidingName, loopName] = some (.link ['.']) := by
  simp [FileSystem.at?, Node.at?, Node.child?, Node.entries, sidingSystem, sidingEntries]

theorem directory?_detour :
    sidingSystem.directory? detour = .ok (some (.directory sidingEntries)) := by
  have storable : sidingName.Storable := by decide +kernel
  have folder : sidingSystem.IsFolder ([] ++ [sidingName]) := ⟨sidingEntries, at?_siding⟩
  have whole : detour.text.contains '\x00' = false := by decide +kernel
  have short : ¬ pathLimit ≤ Utf8.size detour.text := by decide +kernel
  have arrives : sidingSystem.walk .follow linkLimit [] (detour.names.map Name.text) =
      .ok ⟨[sidingName], some (.directory sidingEntries), false⟩ := by
    rw [detour, Path.ofLocation, List.map_append, sidingSystem.walk_detour storable folder,
      List.map_singleton, sidingSystem.walk_name storable.own storable.fits, List.nil_append,
      at?_siding]
    simp only [walk, at?_siding]
  have found : sidingSystem.locate .follow detour =
      .ok ⟨[sidingName], some (.directory sidingEntries), false⟩ := by
    rw [locate, whole, if_neg (by decide), if_neg short]
    exact arrives
  exact directory?_eq_some.mpr ⟨stat_eq_ok.mpr ⟨_, _, found, rfl⟩, rfl⟩

/-- On a short path the link is seen to lead to a directory. -/
theorem leadsToDirectory_loop :
    sidingSystem.leadsToDirectory (.ofLocation [sidingName, loopName]) = true := by
  have storable : ∀ name ∈ [sidingName, loopName], name.Storable := by decide +kernel
  have whole : (Path.ofLocation [sidingName, loopName]).text.contains '\x00' = false := by
    decide +kernel
  have short : ¬ pathLimit ≤ Utf8.size (Path.ofLocation [sidingName, loopName]).text := by
    decide +kernel
  have first := storable sidingName (by simp)
  have second := storable loopName (by simp)
  have found : sidingSystem.locate .follow (.ofLocation [sidingName, loopName]) =
      .ok ⟨[sidingName], some (.directory sidingEntries), false⟩ := by
    rw [locate_ofLocation, whole, if_neg (by decide), if_neg short, List.map_cons,
      sidingSystem.walk_name first.own first.fits, List.nil_append, at?_siding, List.map_singleton]
    simp only
    rw [sidingSystem.walk_name second.own second.fits, List.singleton_append, at?_loop]
    change sidingSystem.walk .follow 39 [sidingName] [['.']] = _
    rw [walk, if_pos (Or.inr rfl), walk, at?_siding]
  exact leadsToDirectory_eq_true.mpr
    ⟨_, directory?_eq_some.mpr ⟨stat_eq_ok.mpr ⟨_, _, found, rfl⟩, rfl⟩⟩

/-- A link that leads to a directory is listed, and a file in a directory is not, where the
path of the walk is too long to be looked up. -/
theorem listFiles_detour :
    sidingSystem.directory? detour = .ok (some (.directory sidingEntries)) ∧
    sidingSystem.unlisted = [] ∧
    sidingSystem.leadsToDirectory (.ofLocation [sidingName, loopName]) = true ∧
    (Node.directory sidingEntries).at? [innerName, leafName] = some (.file []) ∧
    isPruned detour (detour.child innerName) = false ∧
    sidingSystem.listFiles detour detour = .ok
      ⟨[detour.child loopName], [.unlistable (detour.child innerName).text .nameTooLong]⟩ := by
  have short : ¬ pathLimit ≤ Utf8.size detour.text := by decide +kernel
  have long : pathLimit ≤ Utf8.size (entryText detour.text loopName.text) ∧
      pathLimit ≤ Utf8.size (entryText detour.text innerName.text) := by decide +kernel
  have kept : isPruned detour (detour.child innerName) = false := by decide +kernel
  have apart : innerName ≠ loopName := by decide +kernel
  have leaf : (Node.directory sidingEntries).at? [innerName, leafName] = some (.file []) := by
    simp [Node.at?, Node.child?, Node.entries, sidingEntries, beq_false_of_ne apart,
      List.lookup_cons]
  have link : sidingSystem.listNode detour (entryText detour.text loopName.text)
      (detour.child loopName) (.link ['.']) = ⟨[detour.child loopName], []⟩ := by
    rw [listNode, if_neg (by simp [Nat.not_lt_of_le long.1])]
  have inner : sidingSystem.listNode detour (entryText detour.text innerName.text)
      (detour.child innerName) (.directory [(leafName, .file [])]) =
        ⟨[], [.unlistable (detour.child innerName).text .nameTooLong]⟩ := by
    have spelled : entryText detour.text innerName.text = (detour.child innerName).text :=
      Path.entryText_ofLocation _ innerName
    rw [listNode, if_neg (by simp [sidingSystem]), if_pos long.2, spelled]
  have listed : sidingSystem.listNode detour detour.text detour (.directory sidingEntries) =
      ⟨[detour.child loopName], [.unlistable (detour.child innerName).text .nameTooLong]⟩ := by
    rw [listNode, if_neg (by simp [sidingSystem]), if_neg short]
    simp [listEntries, sidingEntries, link, inner, kept, Listing.append, Listing.empty,
      Node.isDirectory]
  refine ⟨directory?_detour, rfl, leadsToDirectory_loop, leaf, kept, ?_⟩
  rw [listFiles, directory?_detour]
  simp [bind, Except.bind, pure, Except.pure, listed, sortedBy]

end FileSystem
end OrphanFiles
