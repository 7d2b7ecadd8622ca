import Mathlib.Data.List.Basic
import OrphanFiles.Proofs.Source.QuotedCall
import OrphanFiles.Proofs.Source.Scan
import OrphanFiles.Source.ApiCalls

/-! Calls in a text that grows. No call with a quoted route starts inside another one,
and a bare route that does is the end of the other. So whatever text is put in front
of a call or behind it, the scan still finds a call that contains it. -/
namespace OrphanFiles.Source

/-- The heads that a reader of calls accepts. A head holds no character that ends a
call, and no other head starts inside it. -/
structure ReadsHeads (afterHead? : Text → Option Text) (IsHead : Text → Prop) : Prop where
  spec : ∀ {t rest}, afterHead? t = some rest ↔ ∃ head, IsHead head ∧ t = head ++ rest
  ne_nil : ∀ {head}, IsHead head → head ≠ []
  open_plain : ∀ {head}, IsHead head → ∀ c ∈ head, c ∉ ')' :: routeQuotes
  apart : ∀ {head lead}, IsHead head → IsHead (lead ++ head) → lead = []

theorem fetch_heads : ReadsHeads afterFetchHead? (· = "fetch(".toList) where
  spec := by
    intro t rest
    rw [afterFetchHead?, Text.strip?_eq_some]
    simp
  ne_nil := by
    intro head same
    rw [same]
    decide
  open_plain := by
    intro head same c member closing
    have apart : ("fetch(".toList.all fun c => !(')' :: routeQuotes).contains c) = true := by decide
    rw [same] at member
    have other := List.all_eq_true.mp apart c member
    rw [List.contains_iff_mem.mpr closing] at other
    exact absurd other (by decide)
  apart := by
    intro head lead same whole
    rw [same] at whole
    exact List.append_left_eq_self.mp whole

def IsClientHead (head : Text) : Prop :=
  ∃ method, method ≠ [] ∧ (∀ c ∈ method, c.isLower = true) ∧
    head = "axios".toList ++ '.' :: (method ++ ['('])

theorem client_heads : ReadsHeads afterClientHead? IsClientHead where
  spec := by
    intro t rest
    rw [afterClientHead?_eq_some]
    constructor
    · intro ⟨method, nonempty, small, same⟩
      exact ⟨_, ⟨method, nonempty, small, rfl⟩, by rw [same]; simp⟩
    · intro ⟨head, ⟨method, nonempty, small, same⟩, joined⟩
      exact ⟨method, nonempty, small, by rw [joined, same]; simp⟩
  ne_nil := by
    intro head ⟨method, _, _, same⟩
    rw [same]
    simp
  open_plain := by
    intro head ⟨method, _, small, same⟩ c member closing
    have apart : ((')' :: routeQuotes).all fun c => !c.isLower && !"axios.(".toList.contains c) =
        true := by decide
    have other := List.all_eq_true.mp apart c closing
    rw [Bool.and_eq_true, Bool.not_eq_true', Bool.not_eq_true'] at other
    by_cases inside : c ∈ method
    · exact Bool.false_ne_true (other.1.symm.trans (small c inside))
    · have fixed : c ∈ "axios.(".toList := by
        rw [same] at member
        simpa [inside] using member
      exact Bool.false_ne_true (other.2.symm.trans (List.contains_iff_mem.mpr fixed))
  apart := by
    intro head lead ⟨method, _, small, same⟩ ⟨other, _, otherSmall, otherSame⟩
    have no_dot : '.' ∉ other ++ ['('] := by
      intro member
      rcases List.mem_append.mp member with inside | last
      · exact absurd (otherSmall '.' inside) (by decide)
      · exact absurd last (by decide)
    rw [same, ← List.append_assoc] at otherSame
    have starts := ((List.append_cons_inj_of_notMem (by decide) no_dot).mp otherSame.symm).1
    exact List.self_eq_append_left.mp starts

theorem read?_routeCall {afterHead? : Text → Option Text} {IsHead : Text → Prop}
    (heads : ReadsHeads afterHead? IsHead)
    {shrinks : ∀ t rest, afterHead? t = some rest → rest <:+ t} {t call rest : Text} :
    (routeCall afterHead? shrinks).read? t = some (call, rest) ↔
      t = call ++ rest ∧ ∃ head argument, IsHead head ∧ isRoute argument = true ∧
        QuotedCall routeQuotes head argument rest t := by
  rw [routeCall, Form.read?_stretch, Option.bind_eq_some_iff]
  constructor
  · intro ⟨⟨middle, headed, tailed⟩, joined⟩
    obtain ⟨argument, ended, route⟩ := afterRoute?_eq_some.mp tailed
    obtain ⟨head, is_head, same⟩ := heads.spec.mp headed
    obtain ⟨opening, opens, closing, closes, nonempty, plain, ends⟩ := argument?_eq_some.mp ended
    have free := heads.open_plain is_head
    refine ⟨joined, head, argument, is_head, route, heads.ne_nil is_head, ?_, ?_, nonempty, plain, ?_⟩
    · intro member
      exact free ')' member List.mem_cons_self
    · intro c member quote
      exact free c member (List.mem_cons_of_mem _ quote)
    · exact ⟨opening, opens, closing, closes, by rw [same, ends]⟩
  · intro ⟨joined, head, argument, is_head, route, call⟩
    obtain ⟨opening, opens, closing, closes, written⟩ := call.written
    have ended : argument? routeQuotes (opening :: (argument ++ closing :: ')' :: rest)) =
        some (argument, rest) :=
      argument?_eq_some.mpr ⟨opening, opens, closing, closes, call.argument_ne_nil,
        call.argument_plain, rfl⟩
    exact ⟨⟨_, heads.spec.mpr ⟨head, is_head, written⟩,
      afterRoute?_eq_some.mpr ⟨argument, ended, route⟩⟩, joined⟩

theorem routeCall_covers {afterHead? : Text → Option Text} {IsHead : Text → Prop}
    (heads : ReadsHeads afterHead? IsHead)
    {shrinks : ∀ t rest, afterHead? t = some rest → rest <:+ t} :
    (routeCall afterHead? shrinks).Covers (· <:+: ·) := by
  intro t s a b behind rest outer inside overlaps inner
  have ⟨_, head, argument, is_head, _, call⟩ := (read?_routeCall heads).mp outer
  have ⟨_, head', argument', is_head', route, call'⟩ := (read?_routeCall heads).mp inner
  rcases call.overlap call' inside overlaps with ⟨lead, split, start⟩ | ends
  · have none_before : lead = [] := heads.apart is_head' (split ▸ is_head)
    rw [none_before, List.nil_append] at start
    rw [start, outer] at inner
    have same : a = b := congrArg Prod.fst (Option.some.inj inner)
    exact same ▸ List.infix_refl a
  · obtain ⟨place, _, same⟩ := isRoute_iff.mp route
    rw [same] at ends
    exact absurd ends (by simp [Convention.apiSegment])

theorem routeCall_grows {afterHead? : Text → Option Text} {IsHead : Text → Prop}
    (heads : ReadsHeads afterHead? IsHead)
    {shrinks : ∀ t rest, afterHead? t = some rest → rest <:+ t} :
    (routeCall afterHead? shrinks).Grows (· <:+: ·) := by
  intro t a rest more read
  have ⟨joined, head, argument, is_head, route, call⟩ := (read?_routeCall heads).mp read
  obtain ⟨opening, opens, closing, closes, written⟩ := call.written
  have longer : QuotedCall routeQuotes head argument (rest ++ more) (t ++ more) :=
    { call with written := ⟨opening, opens, closing, closes, by rw [written]; simp⟩ }
  refine ⟨a, rest ++ more, (read?_routeCall heads).mpr ?_, List.infix_refl a⟩
  exact ⟨by rw [joined, List.append_assoc], head, argument, is_head, route, longer⟩

/-- A bare route as it is written reaches as far as its characters do. -/
theorem read?_bareRoute {t call rest : Text} :
    bareRoute.read? t = some (call, rest) ↔
      t = call ++ rest ∧ (∀ c ∈ call, isRouteChar c = true) ∧ rest.takeWhile isRouteChar = [] ∧
        ∃ route, route ≠ [] ∧ call = Convention.apiSegment ++ route := by
  have segment : ∀ c ∈ Convention.apiSegment, isRouteChar c = true :=
    List.all_eq_true.mp (by decide)
  rw [bareRoute, Form.read?_stretch, afterBareRoute?_eq_some]
  constructor
  · intro ⟨⟨route, nonempty, inside, stops, split⟩, joined⟩
    have same : call = Convention.apiSegment ++ route := by
      rw [joined, ← List.append_assoc] at split
      exact List.append_cancel_right split
    refine ⟨joined, ?_, stops, route, nonempty, same⟩
    intro c member
    rw [same] at member
    rcases List.mem_append.mp member with early | late
    · exact segment c early
    · exact inside c late
  · intro ⟨joined, inside, stops, route, nonempty, same⟩
    have all : ∀ c ∈ route, isRouteChar c = true := fun c member =>
      inside c (same ▸ List.mem_append_right _ member)
    exact ⟨⟨route, nonempty, all, stops, by rw [joined, same, List.append_assoc]⟩, joined⟩

theorem bareRoute_covers : bareRoute.Covers (· <:+: ·) := by
  intro t s a b behind rest outer inside overlaps inner
  have ⟨joined, chars, stops, _⟩ := read?_bareRoute.mp outer
  have ⟨joined', chars', stops', _⟩ := read?_bareRoute.mp inner
  rw [joined] at inside
  rcases suffix_append_cases inside with later | ⟨mid, behind_mid, split⟩
  · exact absurd later.length_le (Nat.not_le_of_lt overlaps)
  · -- Both runs of route characters are followed by the same rest.
    have small : ∀ c ∈ mid, isRouteChar c = true := fun c member => chars c (behind_mid.subset member)
    have run := congrArg (List.takeWhile isRouteChar) (joined'.symm.trans split)
    rw [List.takeWhile_append_of_pos chars', List.takeWhile_append_of_pos small, stops, stops',
      List.append_nil, List.append_nil] at run
    exact run ▸ behind_mid.isInfix

theorem bareRoute_grows : bareRoute.Grows (· <:+: ·) := by
  intro t a rest more read
  have ⟨joined, chars, _, route, nonempty, same⟩ := read?_bareRoute.mp read
  have run_chars : ∀ c ∈ (rest ++ more).takeWhile isRouteChar, isRouteChar c = true := by
    intro c member
    exact List.all_eq_true.mp List.all_takeWhile c member
  refine ⟨a ++ (rest ++ more).takeWhile isRouteChar, (rest ++ more).dropWhile isRouteChar,
    read?_bareRoute.mpr ⟨?_, ?_, ?_, ?_⟩, List.infix_append' [] _ _⟩
  · rw [joined, List.append_assoc, List.append_assoc, List.takeWhile_append_dropWhile]
  · intro c member
    rcases List.mem_append.mp member with early | late
    · exact chars c early
    · exact run_chars c late
  · exact takeWhile_dropWhile_self isRouteChar _
  · exact ⟨route ++ (rest ++ more).takeWhile isRouteChar, by simp [nonempty], by rw [same]; simp⟩

/-- Each form loses nothing to a longer text. -/
theorem covers_and_grows_of_mem_callForms {form : Form Text} (member : form ∈ callForms) :
    form.Covers (· <:+: ·) ∧ form.Grows (· <:+: ·) := by
  rw [callForms, List.mem_cons, List.mem_cons, List.mem_singleton] at member
  rcases member with rfl | rfl | rfl
  · exact ⟨routeCall_covers fetch_heads, routeCall_grows fetch_heads⟩
  · exact ⟨routeCall_covers client_heads, routeCall_grows client_heads⟩
  · exact ⟨bareRoute_covers, bareRoute_grows⟩

theorem callsRoute_iff {t route : Text} :
    callsRoute t route = true ↔ ∃ form ∈ callForms, ∃ call ∈ form.scan t, route <:+: call := by
  simp only [callsRoute, List.any_eq_true, Text.occursIn_iff]

theorem callsRoute_of_infix {t whole route : Text} (inside : t <:+: whole)
    (calls : callsRoute t route = true) : callsRoute whole route = true := by
  obtain ⟨form, known, call, found, contains⟩ := callsRoute_iff.mp calls
  obtain ⟨covers, grows⟩ := covers_and_grows_of_mem_callForms known
  obtain ⟨larger, found', small⟩ := Form.exists_mem_scan_of_infix covers grows inside found
  exact callsRoute_iff.mpr ⟨form, known, larger, found', contains.trans small⟩

end OrphanFiles.Source
