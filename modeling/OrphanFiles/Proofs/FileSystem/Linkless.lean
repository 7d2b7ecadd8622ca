import OrphanFiles.Proofs.Path.Location

/-! Lookups that meet no link. Such a lookup goes down the names of a path, so what it finds
is what stands at the location. -/
namespace OrphanFiles

namespace Name

theorem text_injective {a b : Name} (same : a.text = b.text) : a = b := by
  obtain ⟨_, _⟩ := a
  obtain ⟨_, _⟩ := b
  cases same
  rfl

/-- Names under which a system can store an entry. -/
structure Storable (name : Name) : Prop where
  own : name ≠ Name.parent
  whole : '\x00' ∉ name.text
  fits : Utf8.size name.text ≤ FileSystem.nameLimit

end Name

namespace FileSystem

theorem at?_append (fs : FileSystem) (above below : Location) :
    fs.at? (above ++ below) = (fs.at? above).bind (·.at? below) :=
  Node.at?_append fs.root above below

theorem at?_concat (fs : FileSystem) (above : Location) (name : Name) :
    fs.at? (above ++ [name]) = (fs.at? above).bind (·.child? name) := by
  rw [at?_append]
  congr 1
  funext node
  cases found : node.child? name <;> simp [Node.at?, found]

/-- Only directories have something below them. -/
theorem directory_of_at?_cons {fs : FileSystem} {above below : Location} {name : Name}
    {node : Node} (found : fs.at? (above ++ name :: below) = some node) :
    ∃ entries, fs.at? above = some (.directory entries) := by
  rw [at?_append] at found
  obtain ⟨top, here, there⟩ := Option.bind_eq_some_iff.mp found
  cases top with
  | file bytes => cases there
  | link target => cases there
  | directory entries => exact ⟨entries, here⟩

/-- What a lookup does with a piece that is a name. -/
theorem walk_entry (fs : FileSystem) {purpose : Purpose} {links : Nat} {here : Location}
    {piece : Text} {rest : List Text} {name : Name} (stays : ¬ (piece = [] ∨ piece = ['.']))
    (up : piece ≠ Name.parent.text)
    (closed : ¬ (purpose = .write ∧ rest ≠ [] ∧ rest.all List.isEmpty))
    (long : ¬ nameLimit < Utf8.size piece) (read : Name.ofText? piece = some name) :
    fs.walk purpose links here (piece :: rest) =
      match fs.at? (here ++ [name]) with
      | none =>
        if rest.all List.isEmpty then .ok ⟨here ++ [name], none, !rest.isEmpty⟩
        else .error .noEntry
      | some (.file bytes) =>
        if rest.all List.isEmpty then .ok ⟨here ++ [name], some (.file bytes), !rest.isEmpty⟩
        else .error .notDirectory
      | some (.directory _) => fs.walk purpose links (here ++ [name]) rest
      | some (.link target) =>
        if rest = [] ∧ purpose = .keep then .ok ⟨here ++ [name], some (.link target), false⟩
        else
          match links with
          | 0 => .error .tooManyLinks
          | links + 1 =>
            fs.walk purpose links (linkBase here target) (target.splitOn '/' ++ rest) := by
  rw [walk, if_neg stays, if_neg up, if_neg closed, if_neg long]
  generalize Name.ofText? piece = found at read
  subst read
  rfl

/-- What a lookup does with a name, links being followed. -/
theorem walk_name (fs : FileSystem) {name : Name} (own : name ≠ Name.parent)
    (fits : Utf8.size name.text ≤ nameLimit) (links : Nat) (here : Location)
    (rest : List Text) :
    fs.walk .follow links here (name.text :: rest) =
      match fs.at? (here ++ [name]) with
      | none =>
        if rest.all List.isEmpty then .ok ⟨here ++ [name], none, !rest.isEmpty⟩
        else .error .noEntry
      | some (.file bytes) =>
        if rest.all List.isEmpty then .ok ⟨here ++ [name], some (.file bytes), !rest.isEmpty⟩
        else .error .notDirectory
      | some (.directory _) => fs.walk .follow links (here ++ [name]) rest
      | some (.link target) =>
        match links with
        | 0 => .error .tooManyLinks
        | links + 1 =>
          fs.walk .follow links (linkBase here target) (target.splitOn '/' ++ rest) := by
  have stays : ¬ (name.text = [] ∨ name.text = ['.']) := by
    simp [name.proper.1, name.proper.2.1]
  have descends : name.text ≠ Name.parent.text := fun same => own (Name.text_injective same)
  have read : Name.ofText? name.text = some name := Name.ofText?_eq_some.mpr rfl
  rw [fs.walk_entry stays descends (by simp) (Nat.not_lt_of_le fits) read]
  cases fs.at? (here ++ [name]) with
  | none => rfl
  | some node =>
    cases node with
    | file bytes => rfl
    | directory entries => rfl
    | link target => cases links <;> simp

theorem noNull_of_storable {location : Location} (storable : ∀ name ∈ location, name.Storable) :
    (Path.ofLocation location).text.contains '\x00' = false := by
  apply Bool.eq_false_iff.mpr
  intro null
  rcases Path.mem_text_ofLocation (List.contains_iff_mem.mp null) with slash | ⟨name, inside, letter⟩
  · exact absurd slash (by decide)
  · exact (storable name inside).whole letter

theorem locate_ofLocation (fs : FileSystem) (purpose : Purpose) (location : Location) :
    fs.locate purpose (.ofLocation location) =
      if (Path.ofLocation location).text.contains '\x00' then .error .nullByte
      else if pathLimit ≤ Utf8.size (Path.ofLocation location).text then .error .nameTooLong
      else fs.walk purpose linkLimit [] (location.map Name.text) := rfl

theorem storable_concat {location : Location} (storable : ∀ name ∈ location, name.Storable)
    {name : Name} (last : name.Storable) : ∀ other ∈ location ++ [name], other.Storable := by
  intro other member
  rcases List.mem_append.mp member with above | here
  · exact storable other above
  · exact List.mem_singleton.mp here ▸ last

section Lookup

variable {fs : FileSystem} {location : Location} {entries : List (Name × Node)} {name : Name}

/-- A lookup comes through all directories on the way. -/
theorem walk_below (here : Location) {below : Location} (storable : ∀ name ∈ below, name.Storable)
    (found : fs.at? (here ++ below) = some (.directory entries)) (links : Nat)
    (rest : List Text) :
    fs.walk .follow links here (below.map Name.text ++ rest) =
      fs.walk .follow links (here ++ below) rest := by
  induction below generalizing here with
  | nil => simp
  | cons name below ih =>
    rw [List.forall_mem_cons] at storable
    have split : here ++ name :: below = (here ++ [name]) ++ below := by simp
    rw [split] at found
    obtain ⟨entries', next⟩ : ∃ entries', fs.at? (here ++ [name]) = some (.directory entries') := by
      cases below with
      | nil => exact ⟨entries, by simpa using found⟩
      | cons _ _ => exact directory_of_at?_cons found
    rw [List.map_cons, List.cons_append, fs.walk_name storable.1.own storable.1.fits, next, split]
    exact ih _ storable.2 found

theorem locate_directory (storable : ∀ name ∈ location, name.Storable)
    (found : fs.at? location = some (.directory entries)) :
    fs.locate .follow (.ofLocation location) =
      if pathLimit ≤ Utf8.size (Path.ofLocation location).text then .error .nameTooLong
      else .ok ⟨location, some (.directory entries), false⟩ := by
  have way := walk_below [] storable found linkLimit []
  simp only [List.append_nil, List.nil_append, walk, found] at way
  rw [locate_ofLocation, noNull_of_storable storable, if_neg (by decide), way]

theorem stat_directory (storable : ∀ name ∈ location, name.Storable)
    (found : fs.at? location = some (.directory entries)) :
    fs.stat (.ofLocation location) =
      if pathLimit ≤ Utf8.size (Path.ofLocation location).text then .error .nameTooLong
      else .ok (.directory entries) := by
  rw [stat, locate_directory storable found]
  by_cases long : pathLimit ≤ Utf8.size (Path.ofLocation location).text
  · rw [if_pos long, if_pos long]
    rfl
  · rw [if_neg long, if_neg long]
    rfl

variable (found : fs.at? location = some (.directory entries))
  (storable : ∀ other ∈ location ++ [name], other.Storable)
  (unlinked : ∀ target, fs.at? (location ++ [name]) ≠ some (.link target))
  (short : Utf8.size (Path.ofLocation (location ++ [name])).text < pathLimit)
include found storable unlinked short

/-- The lookup of an entry ends at its location, also where there is none yet. -/
theorem locate_entry :
    fs.locate .follow (.ofLocation (location ++ [name])) =
      .ok ⟨location ++ [name], fs.at? (location ++ [name]), false⟩ := by
  have last := storable name (by simp)
  have way := walk_below [] (fun other member => storable other (List.mem_append_left _ member))
    found linkLimit [name.text]
  rw [locate_ofLocation, noNull_of_storable storable, if_neg (by decide),
    if_neg (Nat.not_le_of_lt short), List.map_append, List.map_singleton, way, List.nil_append,
    fs.walk_name last.own last.fits]
  cases there : fs.at? (location ++ [name]) with
  | none => rfl
  | some node =>
    cases node with
    | file bytes => rfl
    | directory entries => simp only [walk, there]
    | link target => exact absurd there (unlinked target)

theorem stat_entry :
    fs.stat (.ofLocation (location ++ [name])) =
      match fs.at? (location ++ [name]) with
      | none => .error .noEntry
      | some node => .ok node := by
  have arrival := locate_entry found storable unlinked short
  simp only [stat, arrival, bind, Except.bind]
  cases fs.at? (location ++ [name]) <;> simp

theorem directory?_entry :
    fs.directory? (.ofLocation (location ++ [name])) =
      .ok ((fs.at? (location ++ [name])).filter Node.isDirectory) := by
  rw [directory?, stat_entry found storable unlinked short]
  cases fs.at? (location ++ [name]) with
  | none => rfl
  | some node => simp [Option.filter_some]

end Lookup

theorem read_file {fs : FileSystem} {location : Location} {bytes : Bytes}
    (storable : ∀ name ∈ location, name.Storable)
    (found : fs.at? location = some (.file bytes))
    (short : Utf8.size (Path.ofLocation location).text < pathLimit) :
    fs.read (.ofLocation location) = .ok bytes := by
  have arrival : fs.stat (.ofLocation location) = .ok (.file bytes) := by
    rcases List.eq_nil_or_concat location with top | ⟨above, name, same⟩
    · subst top
      rw [stat, locate_ofLocation, noNull_of_storable storable, if_neg (by decide),
        if_neg (Nat.not_le_of_lt short), List.map_nil, walk, found]
      rfl
    · rw [List.concat_eq_append] at same
      subst same
      obtain ⟨entries, directory⟩ := directory_of_at?_cons found
      have unlinked (target : Text) : fs.at? (above ++ [name]) ≠ some (.link target) := by
        rw [found]
        simp
      rw [stat_entry directory storable unlinked short, found]
  rw [FileSystem.read, arrival]

theorem directory?_overlong (fs : FileSystem) {location : Location}
    (storable : ∀ name ∈ location, name.Storable)
    (long : pathLimit ≤ Utf8.size (Path.ofLocation location).text) :
    fs.directory? (.ofLocation location) = .error .nameTooLong := by
  have whole := noNull_of_storable storable
  have refused : fs.stat (.ofLocation location) = .error .nameTooLong := by
    rw [stat, locate_ofLocation, whole, if_neg (by decide), if_pos long]
    rfl
  rw [directory?, refused]
  rfl

/-- Holds no links, and only names that can be stored. -/
structure Linkless (fs : FileSystem) : Prop where
  unlinked (location : Location) (target : Text) : fs.at? location ≠ some (.link target)
  storable {location : Location} {node : Node} (found : fs.at? location = some node) :
    ∀ name ∈ location, name.Storable

theorem Linkless.locate_directory {fs : FileSystem} (linkless : fs.Linkless) {location : Location}
    {entries : List (Name × Node)} (found : fs.at? location = some (.directory entries)) :
    fs.locate .follow (.ofLocation location) =
      if pathLimit ≤ Utf8.size (Path.ofLocation location).text then .error .nameTooLong
      else .ok ⟨location, some (.directory entries), false⟩ :=
  FileSystem.locate_directory (linkless.storable found) found

end FileSystem
end OrphanFiles
