import OrphanFiles.FileSystem.Lookup

/-! Every path without a null byte is put to the system. So whatever is the matter with it,
the answer is one of the system's, which a scan reports and passes over. -/
namespace OrphanFiles.FileSystem

variable (fs : FileSystem)

theorem walk_ne_nullByte (purpose : Purpose) (links : Nat) (here : Location) (pieces : List Text) :
    fs.walk purpose links here pieces ≠ .error .nullByte := by
  fun_induction fs.walk purpose links here pieces <;> simp_all

theorem locate_ne_nullByte (purpose : Purpose) {path : Path} (whole : '\x00' ∉ path.text) :
    fs.locate purpose path ≠ .error .nullByte := by
  rw [locate, if_neg (by simpa using whole)]
  split
  · simp
  · exact fs.walk_ne_nullByte _ _ _ _

theorem stat_ne_nullByte {path : Path} (whole : '\x00' ∉ path.text) :
    fs.stat path ≠ .error .nullByte := by
  have arrives := fs.locate_ne_nullByte .follow whole
  rw [stat]
  cases found : fs.locate .follow path with
  | error fault =>
    simpa [bind, Except.bind, found] using arrives
  | ok arrival =>
    obtain ⟨location, node?, closed⟩ := arrival
    cases node? with
    | none => simp [bind, Except.bind]
    | some node =>
      simp only [bind, Except.bind]
      split <;> simp

theorem isSystem_of_read {path : Path} (whole : '\x00' ∉ path.text) {fault : Fault}
    (refused : fs.read path = .error fault) : fault.isSystem = true := by
  have answered := fs.stat_ne_nullByte whole
  rw [FileSystem.read] at refused
  split at refused <;> cases refused
  · rfl
  · rfl
  · rename_i failed
    rw [failed] at answered
    simpa [Fault.isSystem] using answered

theorem isSystem_of_size {path : Path} (whole : '\x00' ∉ path.text) {fault : Fault}
    (refused : fs.size path = .error fault) : fault.isSystem = true := by
  have answered := fs.stat_ne_nullByte whole
  rw [FileSystem.size] at refused
  split at refused <;> cases refused
  · rfl
  · rename_i failed
    rw [failed] at answered
    simpa [Fault.isSystem] using answered

end OrphanFiles.FileSystem
