import OrphanFiles.Text.Quoted

/-! The ways in which a path can fail to lead to what is asked for. All but the null
byte are answers of the system and carry its number. -/
namespace OrphanFiles

inductive Fault
  | noEntry
  | accessDenied
  | notDirectory
  | isDirectory
  | nameTooLong
  | tooManyLinks
  | nullByte
deriving DecidableEq

namespace Fault

/-- A null byte is refused before the system is asked. -/
def isSystem (fault : Fault) : Bool :=
  fault ≠ nullByte

/-- Faults that only mean that there is nothing to be found. -/
def meansAbsent : Fault → Bool
  | noEntry | notDirectory | tooManyLinks | nullByte => true
  | accessDenied | isDirectory | nameTooLong => false

def numbered (number : Nat) (wording : String) (path : Text) : Text :=
  "[Errno ".toList ++ Nat.toDigits 10 number ++ "] ".toList ++ wording.toList ++ ": ".toList ++
    path.quoted

/-- The message about a path, which is shown as it was given. -/
def message (fault : Fault) (path : Text) : Text :=
  match fault with
  | noEntry => numbered 2 "No such file or directory" path
  | accessDenied => numbered 13 "Permission denied" path
  | notDirectory => numbered 20 "Not a directory" path
  | isDirectory => numbered 21 "Is a directory" path
  | nameTooLong => numbered 36 "File name too long" path
  | tooManyLinks => numbered 40 "Too many levels of symbolic links" path
  | nullByte => "embedded null byte".toList

end Fault
end OrphanFiles
