import OrphanFiles.Proofs.Source.Calls

/-! Calls at any place of a text. A scan picks matches that do not overlap, yet a route is
in one of them exactly if it is in some stretch of the text that has the form of a call,
wherever that stretch starts and however long it is. -/
namespace OrphanFiles.Source

namespace Form

/-- Whether a stretch is read as one match and nothing is left over. -/
def Accepts (form : Form Text) (written : Text) : Prop :=
  form.read? written = some (written, [])

theorem mem_scan_of_accepts {form : Form Text} {written : Text} (accepts : form.Accepts written) :
    written ∈ form.scan written := by
  rw [Accepts] at accepts
  rw [scan]
  split
  · rename_i found
    rw [accepts] at found
    cases found
    exact List.mem_cons_self
  · rename_i missed
    rw [accepts] at missed
    cases missed

/-- Whether every match of a form is a stretch that the form accepts. -/
def ReadsStretches (form : Form Text) : Prop :=
  ∀ {t written rest}, form.read? t = some (written, rest) →
    t = written ++ rest ∧ form.Accepts written

/-- What a scan finds is what stands in the text in the form, up to being part of more. -/
theorem exists_mem_scan_iff {form : Form Text} (covers : form.Covers (· <:+: ·))
    (grows : form.Grows (· <:+: ·)) (stretches : form.ReadsStretches) {t piece : Text} :
    (∃ found ∈ form.scan t, piece <:+: found) ↔
      ∃ written, written <:+: t ∧ piece <:+: written ∧ form.Accepts written := by
  constructor
  · rintro ⟨found, member, inside⟩
    obtain ⟨s, rest, behind, read⟩ := exists_read?_of_mem_scan member
    have ⟨split, accepts⟩ := stretches read
    have front : found <+: s := ⟨rest, split.symm⟩
    exact ⟨found, front.isInfix.trans behind.isInfix, inside, accepts⟩
  · rintro ⟨written, inside, contains, accepts⟩
    have ⟨found, member, larger⟩ :=
      exists_mem_scan_of_infix covers grows inside (mem_scan_of_accepts accepts)
    exact ⟨found, member, contains.trans larger⟩

end Form

/-- A route of the server interface as a call quotes it, up to the end of the call. -/
def IsQuotedRoute (t : Text) : Prop :=
  ∃ opening ∈ routeQuotes, ∃ closing ∈ routeQuotes, ∃ route, route ≠ [] ∧
    (∀ c ∈ route, c ∉ routeQuotes) ∧
      t = opening :: (Convention.apiSegment ++ route ++ [closing, ')'])

def IsRouteLetter (c : Char) : Prop :=
  ('a' ≤ c ∧ c ≤ 'z') ∨ ('A' ≤ c ∧ c ≤ 'Z') ∨ ('0' ≤ c ∧ c ≤ '9') ∨ c = '-' ∨ c = '_' ∨ c = '/'

theorem isLower_iff {c : Char} : c.isLower = true ↔ 'a' ≤ c ∧ c ≤ 'z' := by
  have spelled : c.isLower = (decide ('a'.val ≤ c.val) && decide (c.val ≤ 'z'.val)) := rfl
  rw [spelled]
  simp [Char.le_def]

theorem isUpper_iff {c : Char} : c.isUpper = true ↔ 'A' ≤ c ∧ c ≤ 'Z' := by
  have spelled : c.isUpper = decide ('A'.val ≤ c.val ∧ c.val ≤ 'Z'.val) := rfl
  rw [spelled]
  simp [Char.le_def]

theorem isRouteChar_iff {c : Char} : isRouteChar c = true ↔ IsRouteLetter c := by
  have alphanumeric : c.isAlphanum = (c.isUpper || c.isLower || c.isDigit) := rfl
  simp [isRouteChar, IsRouteLetter, alphanumeric, isUpper_iff, isLower_iff, Char.isDigit,
    Char.le_def]
  tauto

/-- The ways to write a call of the server interface. -/
inductive IsCall : Text → Prop
  | fetch {argument : Text} (quoted : IsQuotedRoute argument) :
    IsCall ("fetch(".toList ++ argument)
  | client {method argument : Text} (named : method ≠ [])
    (small : ∀ c ∈ method, 'a' ≤ c ∧ c ≤ 'z') (quoted : IsQuotedRoute argument) :
    IsCall ("axios.".toList ++ method ++ '(' :: argument)
  | bare {route : Text} (named : route ≠ []) (letters : ∀ c ∈ route, IsRouteLetter c) :
    IsCall (Convention.apiSegment ++ route)

/-- A call with a quoted route, as it is written, is a head and the route. -/
theorem exists_quotedCall_iff {head t rest : Text} {IsHead : Text → Prop}
    {afterHead? : Text → Option Text} (heads : ReadsHeads afterHead? IsHead)
    (is_head : IsHead head) :
    (∃ argument, isRoute argument = true ∧ QuotedCall routeQuotes head argument rest t) ↔
      ∃ argument, IsQuotedRoute argument ∧ t = head ++ argument ++ rest := by
  have segment : ∀ c ∈ Convention.apiSegment, c ∉ routeQuotes := by
    simp [Convention.apiSegment, routeQuotes]
  constructor
  · rintro ⟨argument, is_route, call⟩
    obtain ⟨route, nonempty, same⟩ := isRoute_iff.mp is_route
    obtain ⟨opening, opens, closing, closes, written⟩ := call.written
    have plain : ∀ c ∈ route, c ∉ routeQuotes := fun c member =>
      call.argument_plain c (same ▸ List.mem_append_right _ member)
    exact ⟨_, ⟨opening, opens, closing, closes, route, nonempty, plain, rfl⟩,
      by rw [written, same]; simp⟩
  · rintro ⟨argument, ⟨opening, opens, closing, closes, route, nonempty, plain, same⟩, written⟩
    have free := heads.open_plain is_head
    have inside : ∀ c ∈ Convention.apiSegment ++ route, c ∉ routeQuotes := by
      intro c member
      rcases List.mem_append.mp member with early | late
      · exact segment c early
      · exact plain c late
    refine ⟨Convention.apiSegment ++ route, isRoute_iff.mpr ⟨route, nonempty, rfl⟩, ?_⟩
    constructor
    case head_ne_nil => exact heads.ne_nil is_head
    case head_open => exact fun member => free ')' member List.mem_cons_self
    case head_plain => exact fun c member quote => free c member (List.mem_cons_of_mem _ quote)
    case argument_ne_nil => simp [nonempty]
    case argument_plain => exact inside
    case written => exact ⟨opening, opens, closing, closes, by rw [written, same]; simp⟩

section RouteCall

variable {afterHead? : Text → Option Text} {IsHead : Text → Prop}
  (heads : ReadsHeads afterHead? IsHead)
  {shrinks : ∀ t rest, afterHead? t = some rest → rest <:+ t}
include heads

theorem read?_routeCall_iff {t call rest : Text} :
    (routeCall afterHead? shrinks).read? t = some (call, rest) ↔
      t = call ++ rest ∧
        ∃ head argument, IsHead head ∧ IsQuotedRoute argument ∧ call = head ++ argument := by
  rw [read?_routeCall heads]
  constructor
  · rintro ⟨joined, head, argument, is_head, is_route, written⟩
    have ⟨quoted, is_quoted, same⟩ :=
      (exists_quotedCall_iff heads is_head).mp ⟨argument, is_route, written⟩
    exact ⟨joined, head, quoted, is_head, is_quoted,
      List.append_cancel_right (joined.symm.trans same)⟩
  · rintro ⟨joined, head, quoted, is_head, is_quoted, same⟩
    have ⟨argument, is_route, written⟩ :=
      (exists_quotedCall_iff heads is_head).mpr ⟨quoted, is_quoted, same ▸ joined⟩
    exact ⟨joined, head, argument, is_head, is_route, written⟩

theorem routeCall_readsStretches : (routeCall afterHead? shrinks).ReadsStretches := by
  intro t written rest read
  have ⟨joined, call⟩ := (read?_routeCall_iff heads).mp read
  exact ⟨joined, (read?_routeCall_iff heads).mpr ⟨by simp, call⟩⟩

theorem accepts_routeCall {call : Text} :
    (routeCall afterHead? shrinks).Accepts call ↔
      ∃ head argument, IsHead head ∧ IsQuotedRoute argument ∧ call = head ++ argument := by
  simp [Form.Accepts, read?_routeCall_iff heads]

end RouteCall

theorem bareRoute_readsStretches : bareRoute.ReadsStretches := by
  intro t written rest read
  have ⟨joined, plain, _, route⟩ := read?_bareRoute.mp read
  exact ⟨joined, read?_bareRoute.mpr ⟨by simp, plain, rfl, route⟩⟩

theorem accepts_bareRoute {call : Text} :
    bareRoute.Accepts call ↔ ∃ route, route ≠ [] ∧ (∀ c ∈ route, IsRouteLetter c) ∧
      call = Convention.apiSegment ++ route := by
  have segment : ∀ c ∈ Convention.apiSegment, isRouteChar c = true :=
    List.all_eq_true.mp (by decide)
  rw [Form.Accepts, read?_bareRoute]
  simp only [← isRouteChar_iff]
  constructor
  · rintro ⟨_, plain, _, route, nonempty, same⟩
    exact ⟨route, nonempty, fun c member => plain c (same ▸ List.mem_append_right _ member), same⟩
  · rintro ⟨route, nonempty, plain, same⟩
    refine ⟨by simp, ?_, rfl, route, nonempty, same⟩
    intro c member
    rw [same] at member
    rcases List.mem_append.mp member with early | late
    · exact segment c early
    · exact plain c late

theorem accepts_fetchCall {call : Text} :
    fetchCall.Accepts call ↔
      ∃ argument, IsQuotedRoute argument ∧ call = "fetch(".toList ++ argument := by
  have accepts : fetchCall.Accepts call ↔ _ := accepts_routeCall fetch_heads
  rw [accepts]
  simp only [exists_and_left, exists_eq_left]

theorem accepts_clientCall {call : Text} :
    clientCall.Accepts call ↔ ∃ method argument, method ≠ [] ∧ (∀ c ∈ method, 'a' ≤ c ∧ c ≤ 'z') ∧
      IsQuotedRoute argument ∧ call = "axios.".toList ++ method ++ '(' :: argument := by
  rw [clientCall, accepts_routeCall client_heads]
  simp only [IsClientHead, isLower_iff]
  constructor
  · rintro ⟨head, argument, ⟨method, named, letters, same⟩, quoted, written⟩
    exact ⟨method, argument, named, letters, quoted, by rw [written, same]; simp⟩
  · rintro ⟨method, argument, named, letters, quoted, written⟩
    exact ⟨_, argument, ⟨method, named, letters, rfl⟩, quoted, by rw [written]; simp⟩

/-- The forms accept the calls and nothing else. -/
theorem exists_accepts_iff {call : Text} :
    (∃ form ∈ callForms, form.Accepts call) ↔ IsCall call := by
  simp only [callForms, List.exists_mem_cons_iff, List.not_mem_nil, false_and, exists_false,
    or_false, accepts_fetchCall, accepts_clientCall, accepts_bareRoute]
  constructor
  · intro accepts
    rcases accepts with ⟨argument, quoted, same⟩ |
      ⟨method, argument, named, small, quoted, same⟩ | ⟨route, named, letters, same⟩
    · exact same ▸ .fetch quoted
    · exact same ▸ .client named small quoted
    · exact same ▸ .bare named letters
  · intro call
    cases call with
    | fetch quoted => exact Or.inl ⟨_, quoted, rfl⟩
    | client named small quoted => exact Or.inr (Or.inl ⟨_, _, named, small, quoted, rfl⟩)
    | bare named letters => exact Or.inr (Or.inr ⟨_, named, letters, rfl⟩)

theorem readsStretches_of_mem_callForms {form : Form Text} (member : form ∈ callForms) :
    form.ReadsStretches := by
  rw [callForms, List.mem_cons, List.mem_cons, List.mem_singleton] at member
  rcases member with rfl | rfl | rfl
  · exact routeCall_readsStretches fetch_heads
  · exact routeCall_readsStretches client_heads
  · exact bareRoute_readsStretches

/-- A route is called exactly where some stretch of the text is a call that contains it. In
particular, a plain route behind the segment of the interface is always called. -/
theorem callsRoute_iff_exists_call (t route : Text) :
    (callsRoute t route = true ↔ ∃ call, call <:+: t ∧ route <:+: call ∧ IsCall call) ∧
    (route ≠ [] → (∀ c ∈ route, IsRouteLetter c) → Convention.apiSegment ++ route <:+: t →
      callsRoute t route = true) := by
  have calls : callsRoute t route = true ↔
      ∃ call, call <:+: t ∧ route <:+: call ∧ IsCall call := by
    calc callsRoute t route = true
        ↔ ∃ form ∈ callForms, ∃ call ∈ form.scan t, route <:+: call := callsRoute_iff
      _ ↔ ∃ form ∈ callForms, ∃ call, call <:+: t ∧ route <:+: call ∧ form.Accepts call := by
          apply exists_congr
          intro form
          apply and_congr_right
          intro member
          have ⟨covers, grows⟩ := covers_and_grows_of_mem_callForms member
          exact Form.exists_mem_scan_iff covers grows (readsStretches_of_mem_callForms member)
      _ ↔ ∃ call, call <:+: t ∧ route <:+: call ∧ IsCall call := by
          simp only [← exists_accepts_iff]
          constructor
          · rintro ⟨form, member, call, inside, named, accepted⟩
            exact ⟨call, inside, named, form, member, accepted⟩
          · rintro ⟨call, inside, named, form, member, accepted⟩
            exact ⟨form, member, call, inside, named, accepted⟩
  refine ⟨calls, ?_⟩
  intro named letters inside
  exact calls.mpr ⟨_, inside, (List.suffix_append _ _).isInfix, .bare named letters⟩

end OrphanFiles.Source
