import OrphanFiles.Event

/-! Activities that report events on the way and may fail. Events reported before a
failure are kept. -/
namespace OrphanFiles

/-- What ends an activity without a result. -/
inductive Failure
  | access (path : Text) (fault : Fault)
  | linkCircle (path : Path)
  /-- There is no path to start from. -/
  | noPath
deriving DecidableEq

namespace Failure

def message : Failure → Text
  | access path fault => fault.message path
  | linkCircle path => "Symlink loop from ".toList ++ path.text.quoted
  | noPath => "expected str, bytes or os.PathLike object, not list".toList

end Failure

/-- The events of an activity and what it came to. -/
structure Outcome (α : Type) where
  events : List Event
  result : Except Failure α

namespace Outcome

def done (value : α) : Outcome α := ⟨[], .ok value⟩

def fail (failure : Failure) : Outcome α := ⟨[], .error failure⟩

def report (events : List Event) : Outcome Unit := ⟨events, .ok ()⟩

/-- Goes on after the first activity, unless that failed. -/
def andThen (first : Outcome α) (next : α → Outcome β) : Outcome β :=
  match first.result with
  | .error failure => ⟨first.events, .error failure⟩
  | .ok value => ⟨first.events ++ (next value).events, (next value).result⟩

@[simp] theorem done_andThen (value : α) (next : α → Outcome β) :
    (done value).andThen next = next value := rfl

/-- An activity that comes to a result has passed through a result of its first part. -/
theorem result_andThen_eq_ok {first : Outcome α} {next : α → Outcome β} {value : β} :
    (first.andThen next).result = .ok value ↔
      ∃ middle, first.result = .ok middle ∧ (next middle).result = .ok value := by
  rw [andThen]
  cases first.result with
  | error failure => simp
  | ok middle => simp

end Outcome
end OrphanFiles
