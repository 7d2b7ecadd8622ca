import OrphanFiles.Proofs.Analysis.Agreement

/-! A project checked out at two places. No component of the place, whatever its name, has a
part in any rule: both scans report the same files, and the texts of both reports are equal. -/
namespace OrphanFiles.FileSystem

/-- Scans of one project at two roots give one report, put under the one root and under the
other, and one text. The text exists unless the files count 2^1023 bytes. -/
theorem analyze_relocated {fs fs' : FileSystem} {root root' : Location}
    (plain : fs.PlainBelow root) (plain' : fs'.PlainBelow root')
    (same : SameFiles fs root fs' root')
    (short : Utf8.size ((Path.ofLocation root).join Project.assetDirectory).text < pathLimit)
    (short' : Utf8.size ((Path.ofLocation root').join Project.assetDirectory).text < pathLimit)
    (time time' : Text) :
    ∃ report : Report, report.Relative ∧
      (fs.analyze (.ofLocation root) time).result = .ok (report.placed (.ofLocation root) time) ∧
      (fs'.analyze (.ofLocation root') time').result =
        .ok (report.placed (.ofLocation root') time') ∧
      (∀ color, (report.placed (.ofLocation root) time).render? color =
        (report.placed (.ofLocation root') time').render? color) ∧
      (report.totalSize < 2 ^ 1023 → ∀ color, ∃ text,
        (report.placed (.ofLocation root) time).render? color = some text) := by
  have agree : Agrees fs (.ofLocation root) fs' (.ofLocation root') :=
    Agrees.of_sameFiles (same.deeper [Project.sourceName]) (same.deeper [Project.assetName])
  obtain ⟨report, relative, measured, scanned, scanned'⟩ :=
    plain.analyze_agree plain' agree plain.resolve plain'.resolve short short' time time'
  have text (top : Location) (time : Text) (color : Bool) :
      (report.placed (.ofLocation top) time).render? color = report.render? color :=
    Report.render?_placed relative _ time color
  refine ⟨report, relative, scanned, scanned', ?_, ?_⟩
  · intro color
    rw [text, text]
  · intro small color
    rw [text]
    exact (measured.printable small).exists_text color

/-- The sample project as all that a system holds. -/
def bareSystem : FileSystem := ⟨.directory sampleProject, [], []⟩

def oddLocation : Location := [⟨"api".toList, by decide⟩, ⟨"app".toList, by decide⟩]

/-- The sample project below directories whose names mean something inside a project. -/
def oddSystem : FileSystem where
  root := .directory [(⟨"api".toList, by decide⟩, .directory [
    (⟨"app".toList, by decide⟩, .directory sampleProject)])]
  workingDirectory := []
  unlisted := []

/-- A scan of the whole system and one below odd names agree. -/
theorem sample_relocated :
    bareSystem.PlainBelow [] ∧ oddSystem.PlainBelow oddLocation ∧
    SameFiles bareSystem [] oddSystem oddLocation ∧
    ∃ report : Report, report.Relative ∧
      (bareSystem.analyze (.ofText "/".toList) "now".toList).result =
        .ok (report.placed (.ofText "/".toList) "now".toList) ∧
      (oddSystem.analyze (.ofText "/api/app".toList) "later".toList).result =
        .ok (report.placed (.ofText "/api/app".toList) "later".toList) ∧
      (∀ color, (report.placed (.ofText "/".toList) "now".toList).render? color =
        (report.placed (.ofText "/api/app".toList) "later".toList).render? color) ∧
      (report.totalSize < 2 ^ 1023 → ∀ color, ∃ text,
        (report.placed (.ofText "/".toList) "now".toList).render? color = some text) := by
  have plain : bareSystem.Plain := plain_of_isPlain (by decide +kernel)
  have plain' : oddSystem.Plain := plain_of_isPlain (by decide +kernel)
  have found : bareSystem.at? [] = some (.directory sampleProject) := rfl
  have found' : oddSystem.at? oddLocation = some (.directory sampleProject) := rfl
  have same : SameFiles bareSystem [] oddSystem oddLocation := .of_at? (found.trans found'.symm)
  exact ⟨plain.below found, plain'.below found', same,
    analyze_relocated (plain.below found) (plain'.below found') same (by decide) (by decide) _ _⟩

end OrphanFiles.FileSystem
