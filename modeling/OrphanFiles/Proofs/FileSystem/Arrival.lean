import OrphanFiles.Proofs.FileSystem.Linkless
import OrphanFiles.Walk

/-! Where lookups end, whatever links they follow: on a directory, or under a name in one. -/
namespace OrphanFiles

namespace Node

/-- A node apart from what it holds, which is all that a lookup sees of it on the way. -/
def outline : Node → Node
  | directory _ => directory []
  | node => node

theorem isDirectory_outline (node : Node) : node.outline.isDirectory = node.isDirectory := by
  cases node <;> rfl

theorem file_of_outline {node? : Option Node} {bytes : Bytes}
    (same : node?.map outline = some (file bytes)) : node? = some (file bytes) := by
  obtain ⟨node, there, outlined⟩ := Option.map_eq_some_iff.mp same
  cases node <;> cases outlined
  exact there

theorem link_of_outline {node? : Option Node} {target : Text}
    (same : node?.map outline = some (link target)) : node? = some (link target) := by
  obtain ⟨node, there, outlined⟩ := Option.map_eq_some_iff.mp same
  cases node <;> cases outlined
  exact there

theorem directory_of_outline {node? : Option Node}
    (same : node?.map outline = some (directory [])) :
    ∃ entries, node? = some (directory entries) := by
  obtain ⟨node, there, outlined⟩ := Option.map_eq_some_iff.mp same
  cases node with
  | file bytes => cases outlined
  | link target => cases outlined
  | directory entries => exact ⟨entries, there⟩

end Node

namespace FileSystem

/-- Whether a directory stands at a location. -/
def IsFolder (fs : FileSystem) (location : Location) : Prop :=
  ∃ entries, fs.at? location = some (.directory entries)

theorem IsFolder.above {fs : FileSystem} {above below : Location}
    (folder : fs.IsFolder (above ++ below)) : fs.IsFolder above := by
  obtain ⟨entries, found⟩ := folder
  cases below with
  | nil => exact ⟨entries, by rwa [List.append_nil] at found⟩
  | cons name below => exact directory_of_at?_cons found

theorem IsFolder.dropLast {fs : FileSystem} {location : Location} (folder : fs.IsFolder location) :
    fs.IsFolder location.dropLast := by
  obtain ⟨rest, split⟩ := location.dropLast_prefix
  rw [← split] at folder
  exact folder.above

theorem IsFolder.linkBase {fs : FileSystem} {here : Location} (folder : fs.IsFolder here)
    (target : Text) : fs.IsFolder (linkBase here target) := by
  rw [FileSystem.linkBase]
  split
  · exact IsFolder.above folder
  · exact folder

/-- What a lookup finds is what stands where it ends. From a directory it does not leave the
directories before its last name. -/
theorem walk_arrives {fs : FileSystem} {purpose : Purpose} {links : Nat} {here : Location}
    {pieces : List Text} {arrival : Arrival}
    (arrives : fs.walk purpose links here pieces = .ok arrival) :
    arrival.node? = fs.at? arrival.location ∧
      (fs.IsFolder here → fs.IsFolder arrival.location ∨
        ∃ above name, arrival.location = above ++ [name] ∧ fs.IsFolder above) := by
  fun_induction fs.walk purpose links here pieces with
  | case1 =>
    cases arrives
    exact ⟨rfl, Or.inl⟩
  | case2 _ _ _ _ _ ih => exact ih arrives
  | case3 _ _ _ _ ih =>
    have ends := ih arrives
    exact ⟨ends.1, fun folder => ends.2 folder.dropLast⟩
  | case7 _ here _ _ _ _ _ _ name _ _ vacant =>
    cases arrives
    exact ⟨vacant.symm, fun folder => Or.inr ⟨here, name, rfl, folder⟩⟩
  | case9 _ here _ _ _ _ _ _ name _ _ _ file =>
    cases arrives
    exact ⟨file.symm, fun folder => Or.inr ⟨here, name, rfl, folder⟩⟩
  | case11 _ _ _ _ _ _ _ _ _ _ _ entries folder ih =>
    have ends := ih arrives
    exact ⟨ends.1, fun _ => ends.2 ⟨entries, folder⟩⟩
  | case12 _ here _ _ _ _ _ _ name _ _ _ link =>
    cases arrives
    exact ⟨link.symm, fun folder => Or.inr ⟨here, name, rfl, folder⟩⟩
  | case4 | case5 | case6 | case8 | case10 | case13 => cases arrives
  | case14 _ _ _ _ _ _ _ _ _ _ target _ _ _ ih =>
    have ends := ih arrives
    exact ⟨ends.1, fun folder => ends.2 (folder.linkBase target)⟩

theorem at?_of_locate {fs : FileSystem} {purpose : Purpose} {path : Path} {arrival : Arrival}
    (arrives : fs.locate purpose path = .ok arrival) :
    arrival.node? = fs.at? arrival.location := by
  rw [locate] at arrives
  split at arrives
  · cases arrives
  split at arrives
  · cases arrives
  exact (walk_arrives arrives).1

theorem folder_of_locate {fs : FileSystem} (home : fs.IsFolder fs.workingDirectory)
    {purpose : Purpose} {path : Path} {arrival : Arrival}
    (arrives : fs.locate purpose path = .ok arrival) :
    fs.IsFolder arrival.location ∨
      ∃ above name, arrival.location = above ++ [name] ∧ fs.IsFolder above := by
  rw [locate] at arrives
  split at arrives
  · cases arrives
  split at arrives
  · cases arrives
  apply (walk_arrives arrives).2
  split
  · exact home
  · exact IsFolder.above home

theorem stat_eq_ok {fs : FileSystem} {path : Path} {node : Node} :
    fs.stat path = .ok node ↔ ∃ location closed,
      fs.locate .follow path = .ok ⟨location, some node, closed⟩ ∧
        (closed && !node.isDirectory) = false := by
  rw [stat]
  cases arrives : fs.locate .follow path with
  | error fault => simp [bind, Except.bind]
  | ok arrival =>
    obtain ⟨location, node?, closed⟩ := arrival
    cases node? with
    | none => simp [bind, Except.bind]
    | some there =>
      simp only [bind, Except.bind, Except.ok.injEq, Arrival.mk.injEq, Option.some.injEq]
      by_cases refused : (closed && !there.isDirectory) = true
      · rw [if_pos refused]
        constructor
        · intro found
          cases found
        · rintro ⟨_, _, ⟨_, same, found'⟩, fits⟩
          rw [← same, ← found', refused] at fits
          cases fits
      · rw [if_neg refused, Except.ok.injEq]
        constructor
        · intro same
          exact ⟨location, closed, ⟨rfl, same, rfl⟩, by simpa [same] using refused⟩
        · rintro ⟨_, _, ⟨_, same, _⟩, _⟩
          exact same

theorem directory?_eq_some {fs : FileSystem} {path : Path} {top : Node} :
    fs.directory? path = .ok (some top) ↔ fs.stat path = .ok top ∧ top.isDirectory = true := by
  rw [directory?]
  cases fs.stat path with
  | error fault => cases fault <;> simp [Fault.meansAbsent]
  | ok node =>
    by_cases folder : node.isDirectory = true
    · simp only [if_pos folder, Except.ok.injEq, Option.some.injEq]
      constructor
      · intro same
        exact ⟨same, same ▸ folder⟩
      · exact And.left
    · simp only [if_neg folder, Except.ok.injEq, reduceCtorEq, false_iff, not_and]
      intro same
      exact same ▸ folder

theorem leadsToDirectory_eq_true {fs : FileSystem} {path : Path} :
    fs.leadsToDirectory path = true ↔ ∃ top, fs.directory? path = .ok (some top) := by
  simp only [directory?_eq_some, leadsToDirectory]
  cases fs.stat path <;> simp

end FileSystem
end OrphanFiles
