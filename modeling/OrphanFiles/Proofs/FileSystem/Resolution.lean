import OrphanFiles.FileSystem.Resolve
import OrphanFiles.Proofs.FileSystem.Linkless

/-! The resolved form of a path where there are no links. It is the absolute path of the
location that the lookup arrives at, whatever the spelling of the path. -/
namespace OrphanFiles.FileSystem

theorem collapse_append (here : Location) (front rest : List Text) :
    collapse here (front ++ rest) = collapse (collapse here front) rest := by
  induction front generalizing here with
  | nil => rfl
  | cons piece front ih =>
    rw [List.cons_append, collapse, collapse]
    split
    · exact ih _
    · split <;> exact ih _

theorem collapse_name {name : Name} (own : name ≠ Name.parent) (here : Location)
    (rest : List Text) : collapse here (name.text :: rest) = collapse (here ++ [name]) rest := by
  have descends : name.text ≠ Name.parent.text := fun same => own (Name.text_injective same)
  rw [collapse, if_neg descends, Name.ofText?_eq_some.mpr rfl]

theorem collapse_of_ofText?_none {piece : Text} (blank : Name.ofText? piece = none)
    (here : Location) (rest : List Text) : collapse here (piece :: rest) = collapse here rest := by
  have descends : piece ≠ Name.parent.text := by
    intro same
    rw [same, Name.ofText?_eq_some.mpr rfl] at blank
    cases blank
  rw [collapse, if_neg descends, blank]

theorem collapse_empties (here : Location) {rest : List Text}
    (empties : rest.all List.isEmpty = true) : collapse here rest = here := by
  induction rest with
  | nil => rfl
  | cons piece rest ih =>
    rw [List.all_cons, Bool.and_eq_true] at empties
    rw [List.isEmpty_iff.mp empties.1, collapse_of_ofText?_none (by decide)]
    exact ih empties.2

/-- Without links a lookup ends where the spelling alone leads. -/
theorem Linkless.walk_location {fs : FileSystem} (linkless : fs.Linkless) {links : Nat} {here : Location}
    {pieces : List Text} {arrival : Arrival}
    (found : fs.walk .follow links here pieces = .ok arrival) :
    arrival.location = collapse here pieces ∧ arrival.node? = fs.at? arrival.location := by
  induction pieces generalizing here with
  | nil =>
    rw [walk] at found
    cases found
    exact ⟨rfl, rfl⟩
  | cons piece rest ih =>
    by_cases blank : piece = [] ∨ piece = ['.']
    · have unread : Name.ofText? piece = none := by
        rcases blank with same | same <;> subst same <;> decide
      rw [walk, if_pos blank] at found
      rw [collapse_of_ofText?_none unread]
      exact ih found
    by_cases up : piece = Name.parent.text
    · rw [walk, if_neg blank, if_pos up] at found
      rw [collapse, if_pos up]
      exact ih found
    by_cases fits : nameLimit < Utf8.size piece
    · rw [walk, if_neg blank, if_neg up, if_neg (by simp), if_pos fits] at found
      cases found
    cases read : Name.ofText? piece with
    | none =>
      rw [walk, if_neg blank, if_neg up, if_neg (by simp), if_neg fits, read] at found
      cases found
    | some name =>
      have spelled := Name.ofText?_eq_some.mp read
      subst spelled
      have own : name ≠ Name.parent := fun same => up (by rw [same])
      rw [fs.walk_name own (Nat.le_of_not_lt fits)] at found
      rw [collapse_name own]
      cases there : fs.at? (here ++ [name]) with
      | none =>
        rw [there] at found
        simp only at found
        split at found
        · rename_i empties
          cases found
          exact ⟨(collapse_empties _ empties).symm, there.symm⟩
        · cases found
      | some node =>
        rw [there] at found
        cases node with
        | file bytes =>
          simp only at found
          split at found
          · rename_i empties
            cases found
            exact ⟨(collapse_empties _ empties).symm, there.symm⟩
          · cases found
        | directory entries => exact ih found
        | link target => exact absurd there (linkless.unlinked _ target)

/-- Whether parent entries in a path can only stand above a working directory. -/
def Resolved (path : Path) : Prop :=
  path.anchor = .relative ∨ Name.parent ∉ path.names

theorem locationOf_child (fs : FileSystem) (path : Path) {name : Name} (own : name ≠ Name.parent) :
    fs.locationOf (path.child name) = fs.locationOf path ++ [name] := by
  simp only [locationOf, Path.child, List.map_append, List.map_singleton, collapse_append]
  rw [collapse_name own, collapse]
  rfl

theorem locationOf_ofLocation (fs : FileSystem) {location : Location}
    (own : Name.parent ∉ location) : fs.locationOf (.ofLocation location) = location := by
  have collapsed (here : Location) : collapse here (location.map Name.text) = here ++ location := by
    induction location generalizing here with
    | nil => rw [List.map_nil, collapse, List.append_nil]
    | cons name location ih =>
      rw [List.mem_cons, not_or] at own
      rw [List.map_cons, collapse_name (Ne.symm own.1), ih own.2]
      simp
  exact collapsed []

theorem locationOf_child_parent (fs : FileSystem) (path : Path) :
    fs.locationOf (path.child Name.parent) = (fs.locationOf path).dropLast := by
  simp only [locationOf, Path.child, List.map_append, List.map_singleton, collapse_append]
  rw [collapse, if_pos rfl, collapse]
  rfl

theorem locationOf_ascend (fs : FileSystem) {path : Path} (resolved : Resolved path) :
    fs.locationOf (ascend path) = (fs.locationOf path).dropLast ∧ Resolved (ascend path) := by
  obtain ⟨anchor, names⟩ := path
  rcases List.eq_nil_or_concat names with empty | ⟨above, last, same⟩
  · subst empty
    by_cases relative : anchor = .relative
    · subst relative
      exact ⟨fs.locationOf_child_parent ⟨.relative, []⟩, Or.inl rfl⟩
    · simp [ascend, relative, locationOf, collapse, Resolved]
  · rw [List.concat_eq_append] at same
    subst same
    have split : (⟨anchor, above ++ [last]⟩ : Path) = Path.child ⟨anchor, above⟩ last := rfl
    by_cases up : anchor = .relative ∧ last = Name.parent
    · have same : ascend ⟨anchor, above ++ [last]⟩ =
          Path.child ⟨anchor, above ++ [last]⟩ Name.parent := by
        simp [ascend, up]
      rw [same]
      exact ⟨fs.locationOf_child_parent _, Or.inl up.1⟩
    · have same : ascend ⟨anchor, above ++ [last]⟩ = ⟨anchor, above⟩ := by
        simp [ascend, up]
      -- A parent entry at the end would stand above a working directory.
      have own : last ≠ Name.parent := by
        intro parent
        rcases resolved with relative | absent
        · exact up ⟨relative, parent⟩
        · exact absent (by simp [parent])
      rw [same, split, fs.locationOf_child _ own]
      refine ⟨by simp, resolved.imp_right ?_⟩
      intro absent inside
      exact absent (List.mem_append_left _ inside)

theorem Linkless.linkTarget?_eq_none {fs : FileSystem} (linkless : fs.Linkless) (path : Path) :
    fs.linkTarget? path = none := by
  rw [linkTarget?]
  split
  · rfl
  · split
    · rename_i target found
      exact absurd found (linkless.unlinked _ target)
    · rfl

theorem Linkless.resolveFrom {fs : FileSystem} (linkless : fs.Linkless) (links : Nat) (met : MetLinks)
    {here : Path} (resolved : Resolved here) (pieces : List Text) :
    ∃ found, fs.resolveFrom links met here pieces = .resolved found met ∧
      fs.locationOf found = collapse (fs.locationOf here) pieces := by
  induction pieces generalizing here with
  | nil => exact ⟨here, by rw [FileSystem.resolveFrom], rfl⟩
  | cons piece rest ih =>
    by_cases up : piece = Name.parent.text
    · have above := fs.locationOf_ascend resolved
      rw [FileSystem.resolveFrom, if_pos up, collapse, if_pos up, ← above.1]
      exact ih above.2
    cases read : Name.ofText? piece with
    | none =>
      rw [FileSystem.resolveFrom, if_neg up, read, collapse_of_ofText?_none read]
      exact ih resolved
    | some name =>
      have spelled := Name.ofText?_eq_some.mp read
      subst spelled
      have own : name ≠ Name.parent := fun same => up (by rw [same])
      rw [FileSystem.resolveFrom, if_neg up, read]
      simp only [linkless.linkTarget?_eq_none]
      rw [collapse_name own, ← fs.locationOf_child here own]
      apply ih
      apply resolved.imp_right
      intro absent inside
      rcases List.mem_append.mp inside with above | last
      · exact absent above
      · exact own (List.mem_singleton.mp last).symm

/-- Whatever path leads to a directory, its resolved form spells the location. -/
theorem Linkless.resolve {fs : FileSystem} (linkless : fs.Linkless) {path : Path} {arrival : Arrival}
    (found : fs.locate .follow path = .ok arrival) {entries : List (Name × Node)}
    (directory : arrival.node? = some (.directory entries)) :
    fs.resolve path = .ok (.ofLocation arrival.location) := by
  rw [locate] at found
  split at found
  · cases found
  rename_i whole
  split at found
  · cases found
  obtain ⟨ends, stands⟩ := linkless.walk_location found
  rw [stands] at directory
  have start : ∃ here : Path, (if path.anchor = .relative then (⟨.relative, []⟩ : Path)
      else Path.ofLocation []) = here ∧ Resolved here ∧
      fs.locationOf here = if path.anchor = .relative then fs.workingDirectory else [] := by
    by_cases relative : path.anchor = .relative
    · simp [relative, Resolved, locationOf, collapse]
    · simp [relative, Resolved, locationOf, collapse, Path.ofLocation]
  obtain ⟨here, begins, resolved, same⟩ := start
  obtain ⟨target, reached, location⟩ :=
    linkless.resolveFrom fs.pendingLimit [] resolved (path.names.map Name.text)
  rw [same, ← ends] at location
  simp only [FileSystem.resolve, if_neg whole, begins, reached, location]
  split
  · rename_i circle
    rw [stat_directory (linkless.storable directory) directory] at circle
    split at circle <;> cases circle
  · rfl

/-- Resolving the names of a directory that stands below another one meets no link. -/
theorem resolveFrom_below {fs : FileSystem} (links : Nat) (met : MetLinks) (here : Location)
    {below : Location} (storable : ∀ name ∈ here ++ below, name.Storable)
    {entries : List (Name × Node)} (found : fs.at? (here ++ below) = some (.directory entries)) :
    fs.resolveFrom links met (.ofLocation here) (below.map Name.text) =
      .resolved (.ofLocation (here ++ below)) met := by
  induction below generalizing here with
  | nil => rw [List.append_nil, List.map_nil, resolveFrom]
  | cons name below ih =>
    have split : here ++ name :: below = (here ++ [name]) ++ below := by simp
    rw [split] at storable found
    have own := (storable name (by simp)).own
    have descends : name.text ≠ Name.parent.text := fun same => own (Name.text_injective same)
    have spelled : fs.locationOf (.ofLocation (here ++ [name])) = here ++ [name] :=
      locationOf_ofLocation fs fun parent =>
        (storable Name.parent (List.mem_append_left _ parent)).own rfl
    have unlinked : fs.linkTarget? (.ofLocation (here ++ [name])) = none := by
      rw [linkTarget?, spelled]
      have folder : ∃ entries', fs.at? (here ++ [name]) = some (.directory entries') := by
        cases below with
        | nil => exact ⟨entries, by simpa using found⟩
        | cons _ _ => exact directory_of_at?_cons found
      obtain ⟨entries', there⟩ := folder
      simp [there]
    rw [split, List.map_cons, resolveFrom, if_neg descends, Name.ofText?_eq_some.mpr rfl]
    simp only [Path.child_ofLocation, unlinked]
    exact ih _ storable found

/-- The path of a directory that is reached through no link stands for itself. -/
theorem resolve_ofLocation {fs : FileSystem} {location : Location}
    (storable : ∀ name ∈ location, name.Storable) {entries : List (Name × Node)}
    (found : fs.at? location = some (.directory entries)) :
    fs.resolve (.ofLocation location) = .ok (.ofLocation location) := by
  have start : fs.resolveFrom fs.pendingLimit []
      (if (Path.ofLocation location).anchor = .relative then ⟨.relative, []⟩ else .ofLocation [])
      ((Path.ofLocation location).names.map Name.text) = .resolved (.ofLocation location) [] :=
    resolveFrom_below fs.pendingLimit [] [] storable found
  have spelled : fs.locationOf (.ofLocation location) = location :=
    locationOf_ofLocation fs fun parent => (storable Name.parent parent).own rfl
  rw [FileSystem.resolve, noNull_of_storable storable, if_neg (by decide)]
  simp only [start, spelled]
  split
  · rename_i circle
    rw [stat_directory storable found] at circle
    split at circle <;> cases circle
  · rfl

end OrphanFiles.FileSystem
