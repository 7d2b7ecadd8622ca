import OrphanFiles.Convention
import OrphanFiles.Path.Basic

/-! Report categories of files and the framework's entry points, both decided by
the name of a file and the directories above it, never by its content. A base
keeps the directories of the checkout itself out of these rules. -/
namespace OrphanFiles

inductive Category
  | media
  | component
  | util
  | typing
  | hook
  | context
  | style
  | api
  | page
deriving DecidableEq

namespace Category

def label : Category → Text
  | media => "media".toList
  | component => "component".toList
  | util => "util".toList
  | typing => "type".toList
  | hook => "hook".toList
  | context => "context".toList
  | style => "style".toList
  | api => "api".toList
  | page => "page".toList

theorem label_injective {a b : Category} (h : a.label = b.label) : a = b := by
  cases a <;> cases b <;> first | rfl | exact absurd h (by decide)

def all : List Category := [media, component, util, typing, hook, context, style, api, page]

def ofLabel? (label : Text) : Option Category :=
  all.find? fun category => category.label = label

def startsWithCapital : Text → Bool
  | [] => false
  | c :: _ => c.isUpper

/-- A capital first, all on one line, and a markup script suffix last. -/
def isComponentName (name : Text) : Bool :=
  let line := name.withoutFinalNewline
  startsWithCapital line && !line.contains '\n' &&
    name.endsWithAny [".tsx".toList, ".jsx".toList]

def isHookName (name : Text) : Bool :=
  let line := name.withoutFinalNewline
  match Text.strip? "use".toList line with
  | none => false
  | some rest =>
    startsWithCapital rest && !line.contains '\n' && name.endsWithAny [".ts".toList, ".tsx".toList]

def isContextName (name : Text) : Bool :=
  name.endsWithAny ["Context.ts".toList, "Context.tsx".toList, "Provider.ts".toList,
    "Provider.tsx".toList]

def isTypingName (name : Text) : Bool :=
  name.endsWithAny [".d.ts".toList]

def isStyleName (name : Text) : Bool :=
  name.endsWithAny [".css".toList, ".scss".toList, ".sass".toList, ".less".toList]

/-- The category by name alone, once no directory has decided it. -/
def ofName (name : Text) : Category :=
  if Convention.isMediaSuffix name.suffix then media
  else if isComponentName name then component
  else if isHookName name then hook
  else if isContextName name then context
  else if isTypingName name then typing
  else if isStyleName name then style
  else util

end Category

namespace Path

def isApiRoute (p : Path) (base? : Option Path) : Bool :=
  Text.occursIn Convention.apiSegment (p.anchoredText base?)

/-- The name that the rules see: the last component of the anchored text. -/
def anchoredName (p : Path) (base? : Option Path) : Text :=
  (ofText (p.anchoredText base?)).name

def isPageName (name : Text) : Bool :=
  "page.".toList.isPrefixOf name

/-- Files the framework finds by itself, so that no other file needs to name them. -/
def isEntryPoint (p : Path) (base? : Option Path) : Bool :=
  let anchored := ofText (p.anchoredText base?)
  Convention.entryPoints.contains anchored.name || p.isApiRoute base? ||
    (anchored.parentName = "app".toList && isPageName anchored.name)

/-- The first rule that applies decides. -/
def category (p : Path) (base? : Option Path) : Category :=
  let name := p.anchoredName base?
  if p.isApiRoute base? then .api
  else if Text.occursIn "/app/".toList (p.anchoredText base?) && isPageName name then .page
  else Category.ofName name

/-- The part of the server interface that a route file answers for: what follows the
first `/api/`, less a script ending. Empty for other files. -/
def apiRoute (p : Path) (base? : Option Path) : Text :=
  match Text.after? Convention.apiSegment (p.anchoredText base?) with
  | none => []
  | some route => Text.cutEnding Convention.routeEndings route

theorem apiRoute_eq_nil_of_not_isApiRoute {p : Path} {base? : Option Path}
    (h : p.isApiRoute base? = false) : p.apiRoute base? = [] := by
  have absent : Text.after? Convention.apiSegment (p.anchoredText base?) = none := by
    rw [← Option.not_isSome_iff_eq_none, Text.after?_isSome]
    simpa [isApiRoute] using h
  simp [apiRoute, absent]

end Path
end OrphanFiles
