import OrphanFiles.Path.Basic

/-! What is decided about a file, and why: a verdict names the rule that spared
the file, or the first file that refers to it and how. -/
namespace OrphanFiles

/-- How one file refers to another. -/
inductive Evidence
  | stemOccurs
  | routeCalled
  | mediaNameOccurs
deriving DecidableEq

inductive Finding
  | entryPoint
  | keptAsset
  | referenced (evidence : Evidence) (source : Path)
  | unreferenced
deriving DecidableEq

structure Verdict where
  path : Path
  finding : Finding
deriving DecidableEq

def Evidence.reason : Evidence → Text
  | stemOccurs => "name_referenced".toList
  | routeCalled => "api_route_called".toList
  | mediaNameOccurs => "media_referenced".toList

namespace Finding

def reason : Finding → Text
  | entryPoint => "critical_file".toList
  | keptAsset => "always_kept_asset".toList
  | referenced evidence _ => evidence.reason
  | unreferenced => "no_reference".toList

def used (finding : Finding) : Bool :=
  finding ≠ unreferenced

def referencedBy? : Finding → Option Path
  | referenced _ source => some source
  | _ => none

theorem used_eq_false {finding : Finding} : finding.used = false ↔ finding = unreferenced := by
  simp [used]

theorem reason_eq_reason_unreferenced {finding : Finding} :
    finding.reason = unreferenced.reason ↔ finding = unreferenced := by
  constructor
  · intro same
    cases finding with
    | entryPoint => exact absurd same (by decide)
    | keptAsset => exact absurd same (by decide)
    | referenced evidence source =>
      have differs : evidence.reason ≠ unreferenced.reason := by cases evidence <;> decide
      exact absurd same differs
    | unreferenced => rfl
  · rintro rfl
    rfl

end Finding

namespace Verdict

def used (verdict : Verdict) : Bool :=
  verdict.finding.used

def reason (verdict : Verdict) : Text :=
  verdict.finding.reason

def referencedBy? (verdict : Verdict) : Option Path :=
  verdict.finding.referencedBy?

end Verdict
end OrphanFiles
