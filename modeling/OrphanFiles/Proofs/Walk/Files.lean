import OrphanFiles.Proofs.FileSystem.Plain
import OrphanFiles.Proofs.Path.Anchored
import OrphanFiles.Proofs.Text.Arrangement
import OrphanFiles.Proofs.Walk.Listing

/-! The walk below a plain directory. What it lists is every file there that can be reached
without entering an ignored directory. -/
namespace OrphanFiles

namespace Path

/-- Whether a path names something below a directory. -/
def IsBelow (path directory : Path) : Prop :=
  ∃ below, below ≠ [] ∧ path = ⟨directory.anchor, directory.names ++ below⟩

/-- Whether a path names something below the directory from which it is read. -/
def IsInner (rest : Path) : Prop :=
  rest.anchor = .relative ∧ rest.names ≠ []

theorem IsBelow.exists_join {base sub path : Path} (relative : sub.anchor = .relative)
    (below : path.IsBelow (base.join sub)) :
    ∃ rest, rest.IsInner ∧ path = base.join rest := by
  obtain ⟨names, nonempty, same⟩ := below
  refine ⟨⟨.relative, sub.names ++ names⟩, ⟨rfl, by simp [nonempty]⟩, ?_⟩
  rw [same, join_relative relative, join_relative rfl, List.append_assoc]

theorem isBelow_join_join {base a b : Path} (relative : a.anchor = .relative)
    (relative' : b.anchor = .relative) :
    (base.join a).IsBelow (base.join b) ↔ a.IsBelow b := by
  obtain ⟨anchor, names⟩ := a
  obtain ⟨anchor', names'⟩ := b
  subst relative relative'
  simp [IsBelow, join]

theorem relativeTo?_ofLocation (root below : Location) :
    (ofLocation (root ++ below)).relativeTo? (ofLocation root) = some ⟨.relative, below⟩ :=
  relativeTo?_eq_some.mpr ⟨rfl, rfl⟩

theorem name_ofLocation_concat (location : Location) (name : Name) :
    (ofLocation (location ++ [name])).name = name.text := by
  simp [Path.name, ofLocation]

theorem isBelow_join {root above way : Location} {name : Name} {sub : Path}
    (relative : sub.anchor = .relative) (deeper : ¬ sub.names <+: above) :
    (ofLocation (root ++ (above ++ (way ++ [name])))).IsBelow ((ofLocation root).join sub) ↔
      ∃ front rest, front ≠ [] ∧ way = front ++ rest ∧ ⟨.relative, above ++ front⟩ = sub := by
  obtain ⟨anchor, names⟩ := sub
  subst relative
  simp only [IsBelow, join, if_true, ofLocation, Path.mk.injEq, true_and, List.append_assoc,
    List.append_cancel_left_eq]
  constructor
  · intro below_join
    obtain ⟨below, nonempty, same⟩ := below_join
    rcases List.append_eq_append_iff.mp same with ⟨front, longer, rest⟩ | ⟨rest, shorter, _⟩
    · obtain ⟨rest', last, shape⟩ := (List.eq_nil_or_concat below).resolve_left nonempty
      rw [shape, List.concat_eq_append, ← List.append_assoc] at rest
      refine ⟨front, rest', ?_, List.append_inj_left' rest rfl, longer.symm⟩
      intro empty
      rw [empty, List.append_nil] at longer
      exact deeper (longer ▸ List.prefix_refl _)
    · exact absurd ⟨rest, shorter.symm⟩ deeper
  · intro through
    obtain ⟨front, rest, _, split, same⟩ := through
    exact ⟨rest ++ [name], by simp, by rw [split, ← same]; simp⟩

end Path

theorem isPruned_ofLocation (root below : Location) (name : Name) :
    isPruned (.ofLocation root) (.ofLocation (root ++ (below ++ [name]))) = true ↔
      name.text ∈ Convention.ignoredDirectories ∨
        ∃ subpath ∈ Convention.ignoredSubpaths, ⟨.relative, below ++ [name]⟩ = Path.ofText subpath := by
  have canonical : ∀ subpath ∈ Convention.ignoredSubpaths, (Path.ofText subpath).text = subpath := by
    decide
  have same : (⟨.relative, below ++ [name]⟩ : Path).text ∈ Convention.ignoredSubpaths ↔
      ∃ subpath ∈ Convention.ignoredSubpaths, ⟨.relative, below ++ [name]⟩ = Path.ofText subpath := by
    constructor
    · intro member
      exact ⟨_, member, (Path.ofText_text _).symm⟩
    · intro ⟨subpath, member, same⟩
      rw [same, canonical subpath member]
      exact member
  rw [isPruned, Path.relativeTo?_ofLocation, ← List.append_assoc, Path.name_ofLocation_concat,
    Bool.or_eq_true, ← same]
  simp

/-- Whether the walk enters all directories between a location and what stands below it. -/
def OpenWay (base : Path) : Location → Location → Prop
  | _, [] => True
  | location, name :: below =>
    (below = [] ∨ isPruned base (.ofLocation (location ++ [name])) = false) ∧
      OpenWay base (location ++ [name]) below

theorem openWay_concat {root above way : Location} {name : Name} :
    OpenWay (.ofLocation root) (root ++ above) (way ++ [name]) ↔
      (∀ directory ∈ way, directory.text ∉ Convention.ignoredDirectories) ∧
        ∀ subpath ∈ Convention.ignoredSubpaths, ∀ front rest, front ≠ [] → way = front ++ rest →
          (⟨.relative, above ++ front⟩ : Path) ≠ Path.ofText subpath := by
  induction way generalizing above with
  | nil =>
    constructor
    · intro _
      refine ⟨by simp, ?_⟩
      intro _ _ front rest nonempty same
      exact absurd (List.append_eq_nil_iff.mp same.symm).1 nonempty
    · intro _
      exact ⟨Or.inl rfl, trivial⟩
  | cons directory way ih =>
    have pruned := isPruned_ofLocation root above directory
    rw [List.cons_append, OpenWay, List.append_assoc, ih, ← Bool.not_eq_true, pruned, not_or]
    constructor
    · intro ⟨here, names, subpaths⟩
      have kept := here.resolve_left (by simp)
      refine ⟨List.forall_mem_cons.mpr ⟨kept.1, names⟩, ?_⟩
      intro subpath member front rest nonempty split same
      obtain ⟨first, front, shape⟩ := List.exists_cons_of_ne_nil nonempty
      subst shape
      rw [List.cons_append, List.cons.injEq] at split
      obtain ⟨same_first, split⟩ := split
      subst same_first
      cases front with
      | nil => exact kept.2 ⟨subpath, member, same⟩
      | cons next front =>
        apply subpaths subpath member (next :: front) rest (by simp) split
        rw [← same, List.append_assoc]
        rfl
    · intro ⟨names, subpaths⟩
      rw [List.forall_mem_cons] at names
      refine ⟨Or.inr ⟨names.1, ?_⟩, names.2, ?_⟩
      · intro ⟨subpath, member, same⟩
        exact subpaths subpath member [directory] way (by simp) rfl same
      · intro subpath member front rest nonempty split same
        apply subpaths subpath member (directory :: front) rest (by simp) (by rw [split]; rfl)
        rw [← same, List.append_assoc]
        rfl

namespace FileSystem

/-- Whether a file stands on a path below a directory, and no directory in between is ignored. -/
def Holds (fs : FileSystem) (top path : Path) : Prop :=
  ∃ way name bytes, path = ⟨top.anchor, top.names ++ (way ++ [name])⟩ ∧
    fs.at? path.names = some (.file bytes) ∧
    ∀ directory ∈ way, directory.text ∉ Convention.ignoredDirectories

theorem not_holds_of_not_directory {fs : FileSystem} {top : Location} {p : Path}
    (other : ∀ entries, fs.at? top ≠ some (.directory entries)) :
    ¬ fs.Holds (.ofLocation top) p := by
  intro ⟨way, name, bytes, same, there, _⟩
  subst same
  obtain ⟨first, rest, shape⟩ := List.exists_cons_of_ne_nil
    (List.append_ne_nil_of_right_ne_nil way (List.cons_ne_nil name []))
  rw [shape] at there
  obtain ⟨entries, directory⟩ := directory_of_at?_cons there
  exact other entries directory

namespace PlainBelow

variable {fs : FileSystem} {top : Location} (plain : fs.PlainBelow top)
include plain

theorem at?_entry {location : Location} (inside : top <+: location)
    {entries : List (Name × Node)} (found : fs.at? location = some (.directory entries))
    {name : Name} {node : Node} :
    (name, node) ∈ entries ↔ fs.at? (location ++ [name]) = some node := by
  rw [at?_concat, found, ← Node.lookup_eq_some (plain.distinct inside found)]
  rfl

theorem short_of_file {location : Location} (inside : top <+: location) {bytes : Bytes}
    (found : fs.at? location = some (.file bytes)) :
    Utf8.size (Path.ofLocation location).text < pathLimit := by
  have read := plain.readable inside found
  have whole := noNull_of_storable (plain.storable inside found)
  rw [FileSystem.read, stat, locate_ofLocation, whole, if_neg (by decide)] at read
  by_cases long : pathLimit ≤ Utf8.size (Path.ofLocation location).text
  · rw [if_pos long] at read
    cases read
  · exact Nat.lt_of_not_le long

/-- A directory lists the files of its entries, less the directories that are left out. -/
theorem mem_listNode_directory {base : Path} {location : Location} (inside : top <+: location)
    {entries : List (Name × Node)} (found : fs.at? location = some (.directory entries))
    (short : Utf8.size (Path.ofLocation location).text < pathLimit) {p : Path} :
    p ∈ (fs.listNode base (Path.ofLocation location).text (.ofLocation location)
        (.directory entries)).files ↔
      ∃ name child, (name, child) ∈ entries ∧ fs.at? (location ++ [name]) = some child ∧
        (child.isDirectory && isPruned base (.ofLocation (location ++ [name]))) = false ∧
        p ∈ (fs.listNode base (Path.ofLocation (location ++ [name])).text
          (.ofLocation (location ++ [name])) child).files := by
  have listable : fs.unlisted.contains (Path.ofLocation location) = false := by
    simpa using plain.listable inside
  rw [listNode, listable, if_neg (by decide), if_neg (Nat.not_le_of_lt short), mem_listEntries]
  simp only [Path.entryText_ofLocation, Path.child_ofLocation]
  constructor
  · intro entry
    obtain ⟨name, child, member, kept, listed⟩ := entry
    exact ⟨name, child, member, (plain.at?_entry inside found).mp member, kept, listed⟩
  · intro entry
    obtain ⟨name, child, member, _, kept, listed⟩ := entry
    exact ⟨name, child, member, kept, listed⟩

/-- The files below a node are listed where the way to them is open. -/
theorem mem_listNode {base : Path} {location : Location} (inside : top <+: location)
    {node : Node} {p : Path} (found : fs.at? location = some node) :
    p ∈ (fs.listNode base (Path.ofLocation location).text (.ofLocation location) node).files ↔
      ∃ below bytes, p = .ofLocation (location ++ below) ∧
        fs.at? (location ++ below) = some (.file bytes) ∧ OpenWay base location below := by
  induction node using Node.entryInduction generalizing location with
  | file bytes =>
    rw [listNode, List.mem_singleton]
    constructor
    · intro same
      exact ⟨[], bytes, by rw [same, List.append_nil], by rw [List.append_nil, found], trivial⟩
    · intro reached
      obtain ⟨below, bytes', same, there, _⟩ := reached
      cases below with
      | nil => rw [same, List.append_nil]
      | cons name below =>
        obtain ⟨entries, directory⟩ := directory_of_at?_cons there
        rw [found] at directory
        cases directory
  | link target => exact absurd found (plain.unlinked inside target)
  | directory entries ih =>
    by_cases short : Utf8.size (Path.ofLocation location).text < pathLimit
    · rw [plain.mem_listNode_directory inside found short]
      have deeper (name : Name) : top <+: location ++ [name] :=
        inside.trans (List.prefix_append _ _)
      constructor
      · intro entry
        obtain ⟨name, child, member, here, kept, listed⟩ := entry
        obtain ⟨below, bytes, same, there, rest⟩ :=
          (ih name child member (deeper name) here).mp listed
        refine ⟨name :: below, bytes, by simp [same], by simpa using there, ?_, rest⟩
        cases below with
        | nil => exact Or.inl rfl
        | cons next below =>
          obtain ⟨entries', directory⟩ := directory_of_at?_cons there
          rw [here] at directory
          cases directory
          exact Or.inr kept
      · intro reached
        obtain ⟨below, bytes, same, there, way⟩ := reached
        cases below with
        | nil =>
          rw [List.append_nil, found] at there
          cases there
        | cons name below =>
          have split : location ++ name :: below = (location ++ [name]) ++ below := by simp
          rw [split, at?_append] at there
          obtain ⟨child, here, file⟩ := Option.bind_eq_some_iff.mp there
          have member := (plain.at?_entry inside found).mpr here
          have listed := (ih name child member (deeper name) here).mpr
            ⟨below, bytes, same.trans (by rw [split]), by rw [at?_append, here]; exact file, way.2⟩
          refine ⟨name, child, member, here, ?_, listed⟩
          rcases way.1 with last | kept
          · rw [last] at file
            cases file
            rfl
          · rw [kept, Bool.and_false]
    · -- A directory too deep to be listed holds no readable file, so none is missed.
      have listable : fs.unlisted.contains (Path.ofLocation location) = false := by
        simpa using plain.listable inside
      rw [listNode, listable, if_neg (by decide), if_pos (Nat.le_of_not_lt short)]
      constructor
      · intro none
        cases none
      · intro reached
        obtain ⟨below, bytes, _, there, _⟩ := reached
        have front := Utf8.size_le_of_prefix (Path.text_prefix location below)
        have fits := plain.short_of_file (inside.trans (List.prefix_append _ _)) there
        exact absurd (Nat.lt_of_le_of_lt front fits) short

/-- What the walk from a part of a project lists. -/
theorem mem_listNode_part {part : Name} {entries : List (Name × Node)}
    (found : fs.at? (top ++ [part]) = some (.directory entries)) {p : Path} :
    p ∈ (fs.listNode (.ofLocation top) (Path.ofLocation (top ++ [part])).text
        (.ofLocation (top ++ [part])) (.directory entries)).files ↔
      fs.Holds (.ofLocation (top ++ [part])) p ∧ ∀ subpath ∈ Convention.ignoredSubpaths,
        ¬ p.IsBelow ((Path.ofLocation top).join (Path.ofText subpath)) := by
  have subpaths : ∀ subpath ∈ Convention.ignoredSubpaths,
      (Path.ofText subpath).anchor = .relative ∧ (Path.ofText subpath).names.length = 2 := by
    decide
  have deeper : ∀ subpath ∈ Convention.ignoredSubpaths,
      ¬ (Path.ofText subpath).names <+: [part] := by
    intro subpath member shorter
    have length := shorter.length_le
    rw [(subpaths subpath member).2, List.length_singleton] at length
    omega
  rw [plain.mem_listNode (List.prefix_append _ _) found]
  constructor
  · intro ⟨below, bytes, same, there, way⟩
    subst same
    have nonempty : below ≠ [] := by
      intro empty
      rw [empty, List.append_nil, found] at there
      cases there
    obtain ⟨names, name, shape⟩ := (List.eq_nil_or_concat below).resolve_left nonempty
    rw [List.concat_eq_append] at shape
    subst shape
    rw [openWay_concat] at way
    refine ⟨⟨names, name, bytes, rfl, there, way.1⟩, ?_⟩
    intro subpath member below
    rw [List.append_assoc,
      Path.isBelow_join (subpaths subpath member).1 (deeper subpath member)] at below
    obtain ⟨front, rest, nonempty, split, same⟩ := below
    exact way.2 subpath member front rest nonempty split same
  · intro ⟨⟨names, name, bytes, same, there, way⟩, outside⟩
    subst same
    refine ⟨names ++ [name], bytes, rfl, there, openWay_concat.mpr ⟨way, ?_⟩⟩
    intro subpath member front rest nonempty split same
    apply outside subpath member
    change (Path.ofLocation ((top ++ [part]) ++ (names ++ [name]))).IsBelow _
    rw [List.append_assoc,
      Path.isBelow_join (subpaths subpath member).1 (deeper subpath member)]
    exact ⟨front, rest, nonempty, split, same⟩

/-- A part of a project is listed in the order of path texts, each file once. -/
theorem listFiles_part {part : Name} (storable : part.Storable)
    (short : Utf8.size (Path.ofLocation (top ++ [part])).text < pathLimit) :
    ∃ listing, fs.listFiles (.ofLocation (top ++ [part])) (.ofLocation top) = .ok listing ∧
      InOrder Path.text listing.files ∧
      ∀ p, p ∈ listing.files ↔
        fs.Holds (.ofLocation (top ++ [part])) p ∧ ∀ subpath ∈ Convention.ignoredSubpaths,
          ¬ p.IsBelow ((Path.ofLocation top).join (Path.ofText subpath)) := by
  obtain ⟨entries, found⟩ := plain.directory
  have inside : top <+: top ++ [part] := List.prefix_append _ _
  have looked := directory?_entry found
    (storable_concat (plain.storable (List.prefix_refl _) found) storable)
    (plain.unlinked inside) short
  by_cases directory : ∃ entries, fs.at? (top ++ [part]) = some (.directory entries)
  · obtain ⟨entries', here⟩ := directory
    have distinct : (fs.listNode (.ofLocation top) (Path.ofLocation (top ++ [part])).text
        (.ofLocation (top ++ [part])) (.directory entries')).files.Nodup := by
      apply nodup_listNode
      intro below inner there
      have deeper : fs.at? ((top ++ [part]) ++ below) = some (.directory inner) := by
        rw [at?_append, here]
        exact there
      exact plain.distinct (inside.trans (List.prefix_append _ _)) deeper
    rw [here] at looked
    refine ⟨_, by rw [listFiles, looked]; rfl, ?_, ?_⟩
    · exact sortedBy_inOrder distinct fun _ _ _ _ => Path.text_injective
    · intro p
      rw [mem_sortedBy]
      exact plain.mem_listNode_part here
  · have none : (fs.at? (top ++ [part])).filter Node.isDirectory = none := by
      apply Option.filter_eq_none_iff.mpr
      intro node here folder
      cases node with
      | directory entries' => exact directory ⟨entries', here⟩
      | file bytes => cases folder
      | link target => cases folder
    rw [none] at looked
    refine ⟨.empty, by rw [listFiles, looked]; rfl, List.Pairwise.nil, ?_⟩
    intro p
    have absent : ¬ fs.Holds (.ofLocation (top ++ [part])) p :=
      not_holds_of_not_directory fun entries' here => directory ⟨entries', here⟩
    simp [Listing.empty, absent]

end PlainBelow
end FileSystem
end OrphanFiles
