import OrphanFiles.Text.Basic

/-! Forms of expression that source text is searched for. A form is read at the start
of a text. A scan goes from left to right and takes up its search where the last
match ended, so no two matches overlap. -/
namespace OrphanFiles.Source

/-- Reads an expression at the start of a text: what it yields, and the text behind it. -/
structure Form (α : Type) where
  read? : Text → Option (α × Text)
  shrinks : ∀ {t rest a}, read? t = some (a, rest) → rest <:+ t ∧ rest.length < t.length

namespace Form

/-- What the matches in a text yield, from left to right. -/
def scan (form : Form α) (t : Text) : List α :=
  match _found : form.read? t with
  | some (a, rest) => a :: form.scan rest
  | none =>
    match t with
    | [] => []
    | _ :: rest => form.scan rest
termination_by t.length
decreasing_by
  · exact (form.shrinks _found).2
  · exact Nat.lt_succ_self _

/-- The form of a stretch that is read by finding what stands behind it. It yields the
stretch as it is written. -/
def stretch (after? : Text → Option Text)
    (shrinks : ∀ t rest, after? t = some rest → rest <:+ t ∧ rest.length < t.length) :
    Form Text where
  read? t := (after? t).map fun rest => (t.take (t.length - rest.length), rest)
  shrinks read := by
    obtain ⟨_, found, same⟩ := Option.map_eq_some_iff.mp read
    exact (Prod.mk.inj same).2 ▸ shrinks _ _ found

theorem read?_stretch {after? : Text → Option Text}
    {shrinks : ∀ t rest, after? t = some rest → rest <:+ t ∧ rest.length < t.length}
    {t written rest : Text} :
    (stretch after? shrinks).read? t = some (written, rest) ↔
      after? t = some rest ∧ t = written ++ rest := by
  simp only [stretch, Option.map_eq_some_iff, Prod.mk.injEq]
  constructor
  · rintro ⟨_, found, rfl, rfl⟩
    obtain ⟨before, rfl⟩ := (shrinks _ _ found).1
    exact ⟨found, by simp⟩
  · rintro ⟨found, rfl⟩
    exact ⟨rest, found, by simp, rfl⟩

end Form
end OrphanFiles.Source
