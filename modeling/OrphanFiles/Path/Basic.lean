import OrphanFiles.Path.Name

/-! Paths as an anchor and a list of components, read from and written as text.
Reading forgets repeated slashes, single dots and a closing slash, so two
spellings of one path are equal. Two leading slashes, and only two, are an
anchor of their own. Links play no part: that is the file system's matter. -/
namespace OrphanFiles

inductive Anchor
  | relative
  | root
  | doubleRoot
deriving DecidableEq

namespace Anchor

def ofText (t : Text) : Anchor :=
  match (t.takeWhile (· = '/')).length with
  | 0 => relative
  | 2 => doubleRoot
  | _ => root

def text : Anchor → Text
  | relative => []
  | root => ['/']
  | doubleRoot => ['/', '/']

end Anchor

structure Path where
  anchor : Anchor
  names : List Name
deriving DecidableEq

namespace Path

def ofText (t : Text) : Path :=
  ⟨Anchor.ofText t, (t.splitOn '/').filterMap Name.ofText?⟩

/-- The canonical spelling; the empty relative path is a single dot. -/
def text (p : Path) : Text :=
  if p.anchor = .relative ∧ p.names = [] then ['.']
  else p.anchor.text ++ ['/'].intercalate (p.names.map Name.text)

/-- The last component, empty if there is none. -/
def name (p : Path) : Text :=
  (p.names.getLast?.map Name.text).getD []

/-- The last component but one, empty if there is none. -/
def parentName (p : Path) : Text :=
  (p.names.dropLast.getLast?.map Name.text).getD []

def stem (p : Path) : Text :=
  p.name.stem

def suffix (p : Path) : Text :=
  p.name.suffix

/-- The second path read from the first; an anchored one stands for itself. -/
def join (p q : Path) : Path :=
  if q.anchor = .relative then ⟨p.anchor, p.names ++ q.names⟩ else q

def child (p : Path) (name : Name) : Path :=
  ⟨p.anchor, p.names ++ [name]⟩

/-- What remains of a path below a base of the same anchor whose components it
starts with. -/
def relativeTo? (p base : Path) : Option Path :=
  if p.anchor = base.anchor ∧ base.names.isPrefixOf p.names then
    some ⟨.relative, p.names.drop base.names.length⟩
  else none

theorem relativeTo?_eq_some {p base rest : Path} :
    p.relativeTo? base = some rest ↔
      rest.anchor = .relative ∧ p = ⟨base.anchor, base.names ++ rest.names⟩ := by
  unfold relativeTo?
  split
  · rename_i below
    obtain ⟨tail, joined⟩ := List.isPrefixOf_iff_prefix.mp below.2
    cases p
    cases rest
    simp only at below joined
    subst joined
    simp [below.1, eq_comm]
  · rename_i apart
    constructor
    · intro h
      cases h
    · rintro ⟨_, rfl⟩
      simp at apart

/-- The path below the base where there is one, else the path itself. -/
def below (p : Path) (base? : Option Path) : Path :=
  ((base?.bind p.relativeTo?).getD p)

/-- The spelling below a base with exactly one slash in front, so that a rule about
`/segment/` holds of the first component as it does of the others. -/
def anchoredText (p : Path) (base? : Option Path) : Text :=
  '/' :: (p.below base?).text.dropWhile (· = '/')

end Path
end OrphanFiles
