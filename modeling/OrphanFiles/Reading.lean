import OrphanFiles.FileSystem.Lookup
import OrphanFiles.Index
import OrphanFiles.Outcome
import OrphanFiles.Text.Newlines

/-! Source files as text, and the index of those that can be read. Bytes are read as
UTF-8 with all line breaks alike, so a damaged file is still searched. -/
namespace OrphanFiles

def contentOf (bytes : Bytes) : Text :=
  (Utf8.decode bytes).unifyNewlines

namespace FileSystem

def readRecord (fs : FileSystem) (path : Path) : Except Fault FileRecord :=
  (fs.read path).map fun bytes => FileRecord.scan path (contentOf bytes)

/-- Reads the files one after the other. A file that the system refuses is reported
and left out. -/
def readRecords (fs : FileSystem) : List Path → Outcome (List FileRecord)
  | [] => .done []
  | path :: paths =>
    match fs.readRecord path with
    | .ok record => (readRecords fs paths).andThen fun records => .done (record :: records)
    | .error fault =>
      if fault.isSystem then
        (Outcome.report [.unreadable path fault]).andThen fun _ => readRecords fs paths
      else .fail (.access path.text fault)

/-- The index of the files that can be read, each path once and in order. -/
def buildIndex (fs : FileSystem) (paths : List Path) : Outcome Index :=
  (fs.readRecords (sortedBy Path.text paths.eraseDups)).andThen fun records =>
  .done (Index.ofRecords records)

end FileSystem
end OrphanFiles
