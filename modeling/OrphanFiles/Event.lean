import OrphanFiles.FileSystem.Fault
import OrphanFiles.Verdict.Basic

/-! What a scan reports besides its result: directories and files it could not use,
the extent of the scan, and each verdict. An event is data; its line is made last. -/
namespace OrphanFiles

inductive Event
  /-- A directory whose listing failed, by the path on which the walk reached it. -/
  | unlistable (directory : Text) (fault : Fault)
  | unreadable (path : Path) (fault : Fault)
  | scanning (sources assets : Nat) (root : Path)
  | judged (verdict : Verdict)
  | unmeasured (path : Path) (fault : Fault)
  | failed (root : Path)

inductive Severity
  | debug
  | info
  | warning
  | error
deriving DecidableEq

namespace Severity

def label : Severity → Text
  | debug => "DEBUG".toList
  | info => "INFO".toList
  | warning => "WARNING".toList
  | error => "ERROR".toList

/-- Whether events of this severity are shown to a user who asked for no detail. -/
def isNotable : Severity → Bool
  | debug | info => false
  | warning | error => true

end Severity

namespace Event

def severity : Event → Severity
  | unlistable _ _ => .warning
  | unreadable _ _ => .warning
  | scanning _ _ _ => .info
  | judged _ => .debug
  | unmeasured _ _ => .warning
  | failed _ => .error

/-- The part of the program that the event comes from. -/
def origin : Event → Text
  | unlistable _ _ => "nextsweep.walk".toList
  | unreadable _ _ => "nextsweep.index".toList
  | scanning _ _ _ => "nextsweep.analyzer".toList
  | judged _ => "nextsweep.resolver".toList
  | unmeasured _ _ => "nextsweep.analyzer".toList
  | failed _ => "nextsweep.cli".toList

def message : Event → Text
  | unlistable directory fault =>
    "Error reading directory ".toList ++ directory ++ ": ".toList ++ fault.message directory
  | unreadable path fault =>
    "Error analyzing ".toList ++ path.text ++ ": ".toList ++ fault.message path.text
  | scanning sources assets root =>
    "Scanning ".toList ++ Text.ofInt sources ++ " source files and ".toList ++
      Text.ofInt assets ++ " public files under ".toList ++ root.text
  | judged verdict =>
    verdict.path.text ++ ": used=".toList ++
      (if verdict.used then "True" else "False").toList ++ " (".toList ++ verdict.reason ++ [')']
  | unmeasured path fault =>
    "Error getting stats for ".toList ++ path.text ++ ": ".toList ++ fault.message path.text
  | failed root => "Scan of ".toList ++ root.text ++ " failed".toList

def line (event : Event) : Text :=
  event.severity.label ++ ' ' :: event.origin ++ ": ".toList ++ event.message

end Event
end OrphanFiles
