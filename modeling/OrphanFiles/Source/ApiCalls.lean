import OrphanFiles.Convention
import OrphanFiles.Source.Form
import OrphanFiles.Source.Quoted

/-! Calls of the server interface in a source text: a quoted route in a `fetch` or
client call, or a bare route. The three forms are scanned for one by one, so a call
of one form hides none of another. -/
namespace OrphanFiles.Source

def routeQuotes : Text := "'\"`".toList

def isRouteChar (c : Char) : Bool :=
  c.isAlphanum || c = '-' || c = '_' || c = '/'

/-- Whether a quoted argument is a place in the server interface. -/
def isRoute (argument : Text) : Bool :=
  (Text.strip? Convention.apiSegment argument).any (· ≠ [])

theorem isRoute_iff {argument : Text} :
    isRoute argument = true ↔ ∃ route, route ≠ [] ∧ argument = Convention.apiSegment ++ route := by
  simp only [isRoute, Option.any_eq_true, Text.strip?_eq_some, decide_eq_true_eq]
  constructor
  · rintro ⟨route, rfl, nonempty⟩
    exact ⟨route, nonempty, rfl⟩
  · rintro ⟨route, nonempty, rfl⟩
    exact ⟨route, rfl, nonempty⟩

/-- What follows a quoted route that ends a call. -/
def afterRoute? (t : Text) : Option Text :=
  (argument? routeQuotes t).bind fun (argument, rest) =>
  if isRoute argument then some rest else none

theorem afterRoute?_eq_some {t rest : Text} :
    afterRoute? t = some rest ↔
      ∃ argument, argument? routeQuotes t = some (argument, rest) ∧ isRoute argument = true := by
  simp only [afterRoute?, Option.bind_eq_some_iff, Prod.exists]
  constructor
  · rintro ⟨argument, behind, found, is_route⟩
    split at is_route
    · rename_i route
      cases is_route
      exact ⟨argument, found, route⟩
    · cases is_route
  · rintro ⟨argument, found, route⟩
    exact ⟨argument, rest, found, if_pos route⟩

def afterFetchHead? (t : Text) : Option Text :=
  Text.strip? "fetch(".toList t

/-- The head of a call of any method of the client, such as `axios.get`. -/
def afterClientHead? (t : Text) : Option Text :=
  (Text.strip? "axios.".toList t).bind fun t =>
  (skipSome? Char.isLower t).bind fun t =>
  Text.strip? ['('] t

theorem afterClientHead?_eq_some {t rest : Text} :
    afterClientHead? t = some rest ↔
      ∃ method, method ≠ [] ∧ (∀ c ∈ method, c.isLower = true) ∧
        t = "axios.".toList ++ (method ++ '(' :: rest) := by
  simp only [afterClientHead?, Option.bind_eq_some_iff, Text.strip?_eq_some, skipSome?_eq_some]
  constructor
  · rintro ⟨_, rfl, _, ⟨method, nonempty, small, _, rfl⟩, rfl⟩
    exact ⟨method, nonempty, small, rfl⟩
  · rintro ⟨method, nonempty, small, rfl⟩
    have stops : ('(' :: rest).takeWhile Char.isLower = [] :=
      List.takeWhile_cons_of_neg (by decide)
    exact ⟨_, rfl, '(' :: rest, ⟨method, nonempty, small, stops, rfl⟩, rfl⟩

/-- A call with the given head and one quoted route. -/
def routeCall (afterHead? : Text → Option Text)
    (shrinks : ∀ t rest, afterHead? t = some rest → rest <:+ t) : Form Text :=
  .stretch (fun t => (afterHead? t).bind afterRoute?) fun _ _ found => by
    obtain ⟨middle, head, tail⟩ := Option.bind_eq_some_iff.mp found
    obtain ⟨argument, ended, _⟩ := afterRoute?_eq_some.mp tail
    obtain ⟨behind, less⟩ := shrinks_of_argument? ended
    exact ⟨behind.trans (shrinks _ _ head), Nat.lt_of_lt_of_le less (shrinks _ _ head).length_le⟩

def fetchCall : Form Text :=
  routeCall afterFetchHead? fun _ _ => Text.suffix_of_strip?

def clientCall : Form Text :=
  routeCall afterClientHead? fun _ _ found => by
    obtain ⟨method, _, _, rfl⟩ := afterClientHead?_eq_some.mp found
    exact ⟨"axios.".toList ++ (method ++ ['(']), by simp⟩

def afterBareRoute? (t : Text) : Option Text :=
  (Text.strip? Convention.apiSegment t).bind (skipSome? isRouteChar)

theorem afterBareRoute?_eq_some {t rest : Text} :
    afterBareRoute? t = some rest ↔
      ∃ route, route ≠ [] ∧ (∀ c ∈ route, isRouteChar c = true) ∧
        rest.takeWhile isRouteChar = [] ∧ t = Convention.apiSegment ++ (route ++ rest) := by
  simp only [afterBareRoute?, Option.bind_eq_some_iff, Text.strip?_eq_some, skipSome?_eq_some]
  constructor
  · rintro ⟨_, rfl, route, nonempty, inside, stops, rfl⟩
    exact ⟨route, nonempty, inside, stops, rfl⟩
  · rintro ⟨route, nonempty, inside, stops, rfl⟩
    exact ⟨_, rfl, route, nonempty, inside, stops, rfl⟩

def bareRoute : Form Text :=
  .stretch afterBareRoute? fun _ _ found => by
    obtain ⟨route, nonempty, _, _, rfl⟩ := afterBareRoute?_eq_some.mp found
    refine ⟨⟨Convention.apiSegment ++ route, by simp⟩, ?_⟩
    have some_length := List.length_pos_iff.mpr nonempty
    simp only [List.length_append]
    omega

def callForms : List (Form Text) :=
  [fetchCall, clientCall, bareRoute]

/-- Whether some call in the text contains the route. -/
def callsRoute (t route : Text) : Bool :=
  callForms.any fun form => (form.scan t).any (Text.occursIn route)

end OrphanFiles.Source
