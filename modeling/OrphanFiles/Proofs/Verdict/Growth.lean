import OrphanFiles.Proofs.Source.Calls
import OrphanFiles.Proofs.Verdict.Asset

/-! Verdicts over an index that grows. More files, or more text before or behind what a
file holds, never take a reference away, so a used file stays used. -/
namespace OrphanFiles

theorem Refers.mono {target : Path} {base? : Option Path} {content grown : Text}
    (inside : content <:+: grown) (refers : Refers target base? content) :
    Refers target base? grown := by
  rcases refers with stem | ⟨route, calls⟩
  · exact Or.inl (stem.trans inside)
  · exact Or.inr ⟨route, Source.callsRoute_of_infix inside calls⟩

namespace Index

/-- Whether all paths of an index stay, each with at least its text. -/
def Within (index grown : Index) : Prop :=
  ∀ path content, index.content? path = some content →
    ∃ text, grown.content? path = some text ∧ content <:+: text

theorem Within.hits {index grown : Index} (within : index.Within grown) {path : Path}
    {base? : Option Path} {other : Path} (hits : index.Hits path base? other) :
    grown.Hits path base? other := by
  obtain ⟨apart, content, here, refers⟩ := hits
  obtain ⟨text, there, inside⟩ := within other content here
  exact ⟨apart, text, there, refers.mono inside⟩

/-- Growth of an index turns no used file or asset into an unused one. -/
theorem Within.used_mono {index grown : Index} (within : index.Within grown) (path asset : Path)
    (base? : Option Path) :
    ((index.reference path base?).used = true → (grown.reference path base?).used = true) ∧
    ((index.judge path base?).used = true → (grown.judge path base?).used = true) ∧
    ((index.judgeAsset asset).used = true → (grown.judgeAsset asset).used = true) := by
  have reference : (index.reference path base?).used = true →
      (grown.reference path base?).used = true := by
    intro used
    obtain ⟨other, hits⟩ := reference_used.mp used
    exact reference_used.mpr ⟨other, within.hits hits⟩
  refine ⟨reference, ?_, ?_⟩
  · intro used
    exact judge_used.mpr ((judge_used.mp used).imp_right reference)
  · intro used
    rcases judgeAsset_used.mp used with kept | ⟨other, content, here, named⟩
    · exact judgeAsset_used.mpr (Or.inl kept)
    · obtain ⟨text, there, inside⟩ := within other content here
      exact judgeAsset_used.mpr (Or.inr ⟨other, text, there, named.trans inside⟩)

/-- An index of one file. -/
def ofFile (path : Path) (content : Text) : Index :=
  ofRecords [FileRecord.scan path content]

theorem content?_ofFile {path other : Path} {content text : Text} :
    (ofFile path content).content? other = some text ↔ path = other ∧ content = text := by
  have records : (ofFile path content).records = [FileRecord.scan path content] :=
    records_ofRecords (by simp)
  simp [content?_eq_some, records, FileRecord.scan]

theorem hits_ofFile {path other : Path} {base? : Option Path} {content : Text} :
    (ofFile other content).Hits path base? other ↔ other ≠ path ∧ Refers path base? content := by
  simp [Hits, content?_ofFile]

theorem ofFile_within {path : Path} {content text : Text} (inside : content <:+: text) :
    (ofFile path content).Within (ofFile path text) := by
  intro other old here
  obtain ⟨same, same'⟩ := content?_ofFile.mp here
  exact ⟨text, content?_ofFile.mpr ⟨same, rfl⟩, same' ▸ inside⟩

/-- A bare route stays a reference when a quoted call comes to stand around it. -/
theorem used_mono_surrounding_call :
    (ofFile (.ofText "/p/m.js".toList) "/api/a/b".toList).Within
      (ofFile (.ofText "/p/m.js".toList) "fetch('/api/a/api/a/b')".toList) ∧
    ((ofFile (.ofText "/p/m.js".toList) "/api/a/b".toList).reference
      (.ofText "/p/api/a/.ts".toList) none).used = true ∧
    ((ofFile (.ofText "/p/m.js".toList) "fetch('/api/a/api/a/b')".toList).reference
      (.ofText "/p/api/a/.ts".toList) none).used = true := by
  have inside : "/api/a/b".toList <:+: "fetch('/api/a/api/a/b')".toList :=
    List.infix_append "fetch('/api/a".toList "/api/a/b".toList "')".toList
  have within : (ofFile (.ofText "/p/m.js".toList) "/api/a/b".toList).Within
      (ofFile (.ofText "/p/m.js".toList) "fetch('/api/a/api/a/b')".toList) :=
    ofFile_within inside
  have calls : Source.callsRoute "/api/a/b".toList
      ((Path.ofText "/p/api/a/.ts".toList).apiRoute none) = true := by decide +kernel
  have refers : Refers (.ofText "/p/api/a/.ts".toList) none "/api/a/b".toList :=
    Or.inr ⟨by decide, calls⟩
  have apart : Path.ofText "/p/m.js".toList ≠ .ofText "/p/api/a/.ts".toList := by decide
  have used : ((ofFile (.ofText "/p/m.js".toList) "/api/a/b".toList).reference
      (.ofText "/p/api/a/.ts".toList) none).used = true :=
    reference_used.mpr ⟨_, hits_ofFile.mpr ⟨apart, refers⟩⟩
  have kept := within.used_mono (.ofText "/p/api/a/.ts".toList) (.ofText "/p/a.png".toList) none
  exact ⟨within, used, kept.1 used⟩

end Index
end OrphanFiles
