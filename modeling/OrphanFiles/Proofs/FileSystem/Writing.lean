import OrphanFiles.FileSystem.Change
import OrphanFiles.Proofs.FileSystem.Arrival

/-! Writing a file. The file comes to stand at one location, everything else stays as it was,
and the path on which it was written leads to it. -/
namespace OrphanFiles

namespace Node

theorem lookup_setEntry_self (name : Name) (node : Node) (entries : List (Name × Node)) :
    (setEntry name (some node) entries).lookup name = some node := by
  induction entries with
  | nil => simp [setEntry]
  | cons entry entries ih =>
    obtain ⟨first, old⟩ := entry
    by_cases same : first = name
    · simp [setEntry, same]
    · simpa [setEntry, same, List.lookup_cons, beq_false_of_ne (Ne.symm same)] using ih

/-- Whether two trees have the same at all locations but one. -/
def AgreeOff (a b : Node) (location : Location) : Prop :=
  ∀ other, other ≠ location → (a.at? other).map outline = (b.at? other).map outline

theorem at?_eq_none_of_not_directory {node? : Option Node}
    (other : ∀ entries, node? ≠ some (directory entries)) (name : Name) (below : Location) :
    node?.bind (·.at? (name :: below)) = none := by
  cases node? with
  | none => rfl
  | some node =>
    cases node with
    | file bytes => rfl
    | link target => rfl
    | directory entries => exact absurd rfl (other entries)

/-- An entry that is set changes what is found below its name, and nothing else. -/
theorem agreeOff_setEntry {entries : List (Name × Node)} {name : Name} {node : Node}
    {location : Location}
    (inside : ∀ below, below ≠ location →
      ((entries.lookup name).bind (·.at? below)).map outline = (node.at? below).map outline) :
    (directory entries).AgreeOff (directory (setEntry name (some node) entries))
      (name :: location) := by
  intro other apart
  cases other with
  | nil => rfl
  | cons first below =>
    simp only [at?, child?, Node.entries]
    by_cases same : first = name
    · subst same
      rw [lookup_setEntry_self]
      apply inside
      intro same
      exact apart (by rw [same])
    · rw [lookup_setEntry _ _ _ _ same]

/-- A file put into a directory, under a name that is vacant or a file's or a link's. -/
theorem alter_file {node : Node} {above : Location} {name : Name} {entries : List (Name × Node)}
    (folder : node.at? above = some (directory entries))
    (bare : ∀ inner, node.at? (above ++ [name]) ≠ some (directory inner)) (bytes : Bytes) :
    ∃ node', alter (fun _ => some (file bytes)) (above ++ [name]) (some node) = some node' ∧
      node'.at? (above ++ [name]) = some (file bytes) ∧ node.AgreeOff node' (above ++ [name]) := by
  induction above generalizing node with
  | nil =>
    cases folder
    -- Nothing stood below the name, and nothing stands below a file.
    refine ⟨directory (setEntry name (some (file bytes)) entries), rfl, ?_, ?_⟩
    · simp [at?, child?, Node.entries, lookup_setEntry_self]
    · apply agreeOff_setEntry
      intro below apart
      obtain ⟨first, rest, shape⟩ := List.exists_cons_of_ne_nil apart
      have vacant : ∀ inner, entries.lookup name ≠ some (directory inner) := by
        intro inner found
        apply bare inner
        simp [at?, child?, Node.entries, found]
      rw [shape, at?_eq_none_of_not_directory vacant]
      rfl
  | cons first above ih =>
    obtain ⟨child, here, there⟩ := Option.bind_eq_some_iff.mp folder
    cases node with
    | file bytes => cases here
    | link target => cases here
    | directory outer =>
      have here' : outer.lookup first = some child := here
      have bare' : ∀ inner, child.at? (above ++ [name]) ≠ some (directory inner) := by
        intro inner found
        apply bare inner
        simp only [List.cons_append, at?, here, Option.bind_some, found]
      obtain ⟨child', altered, stands, agree⟩ := ih there bare'
      refine ⟨directory (setEntry first (some child') outer), ?_, ?_, ?_⟩
      · rw [List.cons_append, alter, here', altered]
      · simp only [List.cons_append, at?, child?, Node.entries, lookup_setEntry_self,
          Option.bind_some, stands]
      · apply agreeOff_setEntry
        intro below apart
        rw [here']
        exact agree below apart

end Node

namespace FileSystem

/-- What it means that a file was written at a location, and nothing else was done. -/
structure Wrote (before after : FileSystem) (location : Location) (bytes : Bytes) : Prop where
  written : after.at? location = some (.file bytes)
  elsewhere (other : Location) (apart : other ≠ location) :
    (before.at? other).map Node.outline = (after.at? other).map Node.outline
  directory : after.workingDirectory = before.workingDirectory
  unlisted : after.unlisted = before.unlisted

/-- Whether a file can be written at a location: in a directory, where nothing or a file stands. -/
structure Writable (fs : FileSystem) (location : Location) : Prop where
  folder : ∃ above name, location = above ++ [name] ∧ fs.IsFolder above
  bare (entries : List (Name × Node)) : fs.at? location ≠ some (.directory entries)
  unlinked (target : Text) : fs.at? location ≠ some (.link target)

theorem Writable.wrote_set {fs : FileSystem} {location : Location} (writable : fs.Writable location)
    (bytes : Bytes) : fs.Wrote (fs.set location (some (.file bytes))) location bytes := by
  obtain ⟨above, name, shape, entries, found⟩ := writable.folder
  subst shape
  obtain ⟨root, altered, stands, agree⟩ := Node.alter_file found writable.bare bytes
  have result : fs.set (above ++ [name]) (some (.file bytes)) = { fs with root } := by
    rw [set, altered]
    rfl
  rw [result]
  exact ⟨stands, agree, rfl, rfl⟩

theorem arrival_of_writeLocation {fs : FileSystem} {path : Path} {location : Location}
    (leads : fs.writeLocation path = .ok location) :
    ∃ node? closed, fs.locate .write path = .ok ⟨location, node?, closed⟩ ∧
      (∀ entries, fs.at? location ≠ some (.directory entries)) ∧
      ∀ target, fs.at? location ≠ some (.link target) := by
  rw [writeLocation] at leads
  cases arrives : fs.locate .write path with
  | error fault =>
    rw [arrives] at leads
    cases leads
  | ok arrival =>
    have stands : arrival.node? = fs.at? arrival.location := at?_of_locate arrives
    rw [arrives] at leads
    cases found : arrival.node? with
    | none =>
      simp only [bind, Except.bind, found, Except.ok.injEq] at leads
      subst leads
      exact ⟨_, _, rfl, by simp [← stands, found], by simp [← stands, found]⟩
    | some node =>
      cases node with
      | file bytes =>
        simp only [bind, Except.bind, found, Except.ok.injEq] at leads
        subst leads
        exact ⟨_, _, rfl, by simp [← stands, found], by simp [← stands, found]⟩
      | link target => simp [bind, Except.bind, found] at leads
      | directory entries => simp [bind, Except.bind, found] at leads

theorem writable_of_writeLocation {fs : FileSystem} (home : fs.IsFolder fs.workingDirectory)
    {path : Path} {location : Location} (leads : fs.writeLocation path = .ok location) :
    fs.Writable location := by
  obtain ⟨_, _, arrives, bare, unlinked⟩ := arrival_of_writeLocation leads
  refine ⟨?_, bare, unlinked⟩
  rcases folder_of_locate home arrives with ⟨entries, folder⟩ | inside
  · exact absurd folder (bare entries)
  · exact inside

namespace Wrote

variable {before after : FileSystem} {location : Location} {bytes : Bytes}
  (wrote : before.Wrote after location bytes)
  (bare : ∀ entries, before.at? location ≠ some (.directory entries))
  (unlinked : ∀ target, before.at? location ≠ some (.link target))
include wrote bare unlinked

/-- The lookup that led to the place of a file leads to the file, once it is written. On the
way are only directories and links, and they are still there. -/
theorem walk {links : Nat} {here : Location} {pieces : List Text} {node? : Option Node}
    {closed : Bool}
    (arrives : before.walk .write links here pieces = .ok ⟨location, node?, closed⟩) :
    after.walk .follow links here pieces = .ok ⟨location, some (.file bytes), false⟩ := by
  fun_induction before.walk .write links here pieces with
  | case1 =>
    cases arrives
    rw [FileSystem.walk, wrote.written]
  | case2 _ _ _ _ blank ih =>
    rw [FileSystem.walk, if_pos blank]
    exact ih arrives
  | case3 _ _ _ blank ih =>
    rw [FileSystem.walk, if_neg blank, if_pos rfl]
    exact ih arrives
  | case7 _ here _ rest blank up closed long name read _ vacant empties =>
    have same : here ++ [name] = location := congrArg Arrival.location (Except.ok.inj arrives)
    have last : rest = [] := by simpa [empties] using closed
    subst same last
    rw [after.walk_entry blank up (by simp) long read, wrote.written]
    rfl
  | case9 _ here _ rest blank up closed long name read _ old file empties =>
    have same : here ++ [name] = location := congrArg Arrival.location (Except.ok.inj arrives)
    have last : rest = [] := by simpa [empties] using closed
    subst same last
    rw [after.walk_entry blank up (by simp) long read, wrote.written]
    rfl
  | case11 _ here _ _ blank up closed long name read _ entries folder ih =>
    have apart : here ++ [name] ≠ location := fun same => bare entries (same ▸ folder)
    have same := wrote.elsewhere _ apart
    rw [folder] at same
    obtain ⟨entries', folder'⟩ := Node.directory_of_outline same.symm
    rw [after.walk_entry blank up (by simp) long read, folder']
    exact ih arrives
  | case12 _ _ _ _ _ _ _ _ _ _ _ _ _ kept => cases kept.2
  | case14 here _ _ blank up closed long name read _ target link followed links ih =>
    have apart : here ++ [name] ≠ location := fun same => unlinked target (same ▸ link)
    have same := wrote.elsewhere _ apart
    rw [link] at same
    have link' := Node.link_of_outline same.symm
    rw [after.walk_entry blank up (by simp) long read, link']
    simp only [reduceCtorEq, and_false, if_false]
    exact ih arrives
  | case4 | case5 | case6 | case8 | case10 | case13 => cases arrives

theorem read {path : Path} {node? : Option Node} {closed : Bool}
    (arrives : before.locate .write path = .ok ⟨location, node?, closed⟩) :
    after.read path = .ok bytes := by
  have found : after.locate .follow path = .ok ⟨location, some (.file bytes), false⟩ := by
    rw [locate] at arrives ⊢
    split at arrives
    · cases arrives
    split at arrives
    · cases arrives
    rename_i whole short
    rw [if_neg whole, if_neg short, wrote.directory]
    exact wrote.walk bare unlinked arrives
  have stands : after.stat path = .ok (.file bytes) := stat_eq_ok.mpr ⟨_, _, found, rfl⟩
  rw [FileSystem.read, stands]

end Wrote
end FileSystem
end OrphanFiles
