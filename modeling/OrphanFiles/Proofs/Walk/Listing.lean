import OrphanFiles.Walk

/-! What the walk lists below a node. The files of a directory are those of its entries,
less the entries that are left out, and no file is listed twice. -/
namespace OrphanFiles

namespace Node

theorem lookup_eq_some {name : Name} {node : Node} {entries : List (Name × Node)}
    (distinct : (entries.map Prod.fst).Nodup) :
    entries.lookup name = some node ↔ (name, node) ∈ entries := by
  induction entries with
  | nil => simp
  | cons entry entries ih =>
    obtain ⟨first, child⟩ := entry
    rw [List.map_cons, List.nodup_cons] at distinct
    rw [List.lookup_cons, List.mem_cons, Prod.mk.injEq]
    by_cases same : name = first
    · subst same
      have absent : (name, node) ∉ entries := fun member =>
        distinct.1 (List.mem_map.mpr ⟨(name, node), member, rfl⟩)
      simp [absent, eq_comm]
    · rw [beq_false_of_ne same]
      simp [same, ih distinct.2]

/-- Induction over the entries of directories. -/
theorem entryInduction {motive : Node → Prop} (file : ∀ bytes, motive (.file bytes))
    (link : ∀ target, motive (.link target))
    (directory : ∀ entries, (∀ name node, (name, node) ∈ entries → motive node) →
      motive (.directory entries)) : ∀ node, motive node
  | .file bytes => file bytes
  | .link target => link target
  | .directory entries =>
    directory entries fun _ node _member => entryInduction file link directory node
termination_by node => sizeOf node
decreasing_by
  have smaller := List.sizeOf_lt_of_mem _member
  simp at smaller ⊢
  omega

end Node

namespace FileSystem

theorem mem_listEntries {fs : FileSystem} {base path p : Path} {reached : Text}
    {entries : List (Name × Node)} :
    p ∈ (fs.listEntries base reached path entries).files ↔
      ∃ name node, (name, node) ∈ entries ∧
        (node.isDirectory && isPruned base (path.child name)) = false ∧
        p ∈ (fs.listNode base (entryText reached name.text) (path.child name) node).files := by
  induction entries with
  | nil => simp [listEntries, Listing.empty]
  | cons entry entries ih =>
    obtain ⟨name, node⟩ := entry
    simp only [listEntries, Listing.append, List.mem_append, ih, List.mem_cons]
    constructor
    · intro listed
      rcases listed with here | ⟨other, child, member, kept, inside⟩
      · split at here
        · cases here
        · rename_i kept
          exact ⟨name, node, Or.inl rfl, Bool.eq_false_iff.mpr kept, here⟩
      · exact ⟨other, child, Or.inr member, kept, inside⟩
    · intro ⟨other, child, member, kept, inside⟩
      rcases member with same | later
      · left
        cases same
        rw [kept]
        exact inside
      · exact Or.inr ⟨other, child, later, kept, inside⟩

/-- Every listed path continues the path of the walk. -/
theorem below_of_mem_listNode {fs : FileSystem} {base path p : Path} {reached : Text} {node : Node}
    (listed : p ∈ (fs.listNode base reached path node).files) :
    ∃ below, p = ⟨path.anchor, path.names ++ below⟩ := by
  induction node using Node.entryInduction generalizing reached path with
  | file bytes =>
    rw [listNode] at listed
    exact ⟨[], by rw [List.mem_singleton.mp listed, List.append_nil]⟩
  | link target =>
    rw [listNode] at listed
    split at listed
    · cases listed
    · exact ⟨[], by rw [List.mem_singleton.mp listed, List.append_nil]⟩
  | directory entries ih =>
    rw [listNode] at listed
    split at listed
    · cases listed
    split at listed
    · cases listed
    obtain ⟨name, node, member, _, inside⟩ := mem_listEntries.mp listed
    obtain ⟨below, same⟩ := ih name node member inside
    exact ⟨name :: below, by simp [same, Path.child]⟩

theorem nodup_listEntries {fs : FileSystem} {base path : Path} {reached : Text}
    {entries : List (Name × Node)} (distinct : (entries.map Prod.fst).Nodup)
    (each : ∀ name node, (name, node) ∈ entries → ∀ text,
      (fs.listNode base text (path.child name) node).files.Nodup) :
    (fs.listEntries base reached path entries).files.Nodup := by
  induction entries with
  | nil => simp [listEntries, Listing.empty]
  | cons entry entries ih =>
    obtain ⟨name, node⟩ := entry
    rw [List.map_cons, List.nodup_cons] at distinct
    have rest := ih distinct.2 fun other child member =>
      each other child (List.mem_cons_of_mem _ member)
    simp only [listEntries, Listing.append]
    apply List.nodup_append.mpr
    refine ⟨?_, rest, ?_⟩
    · split
      · exact List.nodup_nil
      · exact each name node List.mem_cons_self _
    · intro p early q late same
      split at early
      · cases early
      obtain ⟨below, here⟩ := below_of_mem_listNode early
      obtain ⟨other, child, member, _, inside⟩ := mem_listEntries.mp late
      obtain ⟨below', there⟩ := below_of_mem_listNode inside
      rw [← same, here] at there
      simp only [Path.child, Path.mk.injEq, List.append_assoc, List.append_cancel_left_eq,
        List.singleton_append, List.cons.injEq] at there
      apply distinct.1
      exact List.mem_map.mpr ⟨(other, child), member, there.2.1.symm⟩

theorem nodup_listNode {fs : FileSystem} {base path : Path} {reached : Text} {node : Node}
    (distinct : ∀ below entries, node.at? below = some (.directory entries) →
      (entries.map Prod.fst).Nodup) :
    (fs.listNode base reached path node).files.Nodup := by
  induction node using Node.entryInduction generalizing reached path with
  | file bytes => simp [listNode]
  | link target =>
    rw [listNode]
    split <;> simp [Listing.empty]
  | directory entries ih =>
    have keys := distinct [] entries rfl
    rw [listNode]
    split
    · exact List.nodup_nil
    split
    · exact List.nodup_nil
    apply nodup_listEntries keys
    intro name node member text
    apply ih name node member
    intro below inner found
    apply distinct (name :: below)
    have child : (Node.directory entries).child? name = some node :=
      (Node.lookup_eq_some keys).mpr member
    rw [Node.at?, child]
    exact found

end FileSystem
end OrphanFiles
