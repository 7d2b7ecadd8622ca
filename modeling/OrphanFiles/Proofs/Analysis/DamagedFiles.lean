import OrphanFiles.Proofs.Analysis.Coherence
import OrphanFiles.Proofs.Text.Decoding

/-! Damaged files. A file whose bytes are not all well formed is searched all the same, and
nothing that it says in ASCII is lost. So no damage makes a file look unused that is named in
another one. -/
namespace OrphanFiles

theorem infix_contentOf {s : Text} {bytes : Bytes} (ascii : s.IsAscii) (free : '\r' ∉ s)
    (held : Utf8.encode s <:+: bytes) : s <:+: contentOf bytes :=
  Text.infix_unifyNewlines free (Utf8.infix_decode ascii held)

namespace FileSystem

section Stages

variable {fs : FileSystem} {root : Path} {listed listed' : List Path} {index : Index}
  {unused : List UnusedFile}
  (listing : (fs.list (root.join Project.sourceDirectory) root).result = .ok listed)
  (listing' : (fs.list (root.join Project.assetDirectory) root).result = .ok listed')
  (built : (fs.buildIndex (listed.filter Project.isSource)).result = .ok index)
  (judged : (fs.orphans root index listed').result = .ok unused)

include listing' judged in
/-- A source that is reported was judged unused; it is not among the assets. -/
theorem judge_of_mem_unused {file : UnusedFile} (member : file ∈ unused)
    (source : file.path.IsBelow (root.join Project.sourceDirectory)) :
    (index.judge file.path (some root)).used = false := by
  obtain ⟨sources, media, rfl, _, kept', entries, _⟩ := judged_of_orphans judged
  rcases List.mem_append.mp member with reported | asset
  · exact (entries file reported).2
  · have known := List.mem_eraseDups.mp (kept'.subset (List.mem_map_of_mem asset))
    have below := (isBelow_of_mem_list listing').1 _ known
    exact absurd below (Path.not_isBelow_assets source)

include listing listing' built judged in
/-- A source is not reported where another one that can be read holds its stem. -/
theorem not_mem_unused_of_held {source other : Path} {bytes : Bytes}
    (known : source ∈ listed.filter Project.isSource)
    (known' : other ∈ listed.filter Project.isSource) (apart : other ≠ source)
    (read : fs.read other = .ok bytes) (held : source.stem <:+: contentOf bytes) :
    ∀ file ∈ unused, file.path ≠ source := by
  have hits : index.Hits source (some root) other :=
    ⟨apart, contentOf bytes, content?_of_buildIndex built known' read, Or.inl held⟩
  have used : (index.judge source (some root)).used = true :=
    Index.judge_used.mpr (Or.inr (Index.reference_used.mpr ⟨other, hits⟩))
  have below := (isBelow_of_mem_list listing).1 source (List.mem_filter.mp known).1
  rintro file member rfl
  rw [judge_of_mem_unused listing' judged member below] at used
  cases used

end Stages

/-- ASCII bytes of a file are found in its content, whatever stands around them. So a scan
reports no source whose stem another source holds in its bytes. -/
theorem damage_hides_no_reference :
    (∀ (fs : FileSystem) (path : Path) (bytes : Bytes), fs.read path = .ok bytes →
      ∃ record, fs.readRecord path = .ok record ∧
        ∀ s : Text, s.IsAscii → '\r' ∉ s → Utf8.encode s <:+: bytes → s <:+: record.content) ∧
    ∀ (fs : FileSystem) (path : Path) (time : Text) (report : Report),
      (fs.analyze path time).result = .ok report →
        ∃ root listed, fs.resolve path = .ok root ∧
          (fs.list (root.join Project.sourceDirectory) root).result = .ok listed ∧
          ∀ source ∈ listed.filter Project.isSource, ∀ other ∈ listed.filter Project.isSource,
            other ≠ source → source.stem.IsAscii → '\r' ∉ source.stem →
            ∀ bytes, fs.read other = .ok bytes → Utf8.encode source.stem <:+: bytes →
              ∀ file ∈ report.unused, file.path ≠ source := by
  constructor
  · intro fs path bytes read
    exact ⟨_, readRecord_of_read read, fun s => infix_contentOf⟩
  · intro fs path time report reported
    obtain ⟨root, listed, listed', index, resolved, listing, listing', built, judged⟩ :=
      stages_of_analyze reported
    refine ⟨root, listed, resolved, listing, ?_⟩
    intro source known other known' apart ascii free bytes read held
    exact not_mem_unused_of_held listing listing' built judged known known' apart read
      (infix_contentOf ascii free held)

/-- A project of two sources, one of which names the other one between broken sequences. -/
def damagedProject : List (Name × Node) := [
  (Project.sourceName, .directory [
    (⟨"log.ts".toList, by decide⟩,
      .file ([0xe2, 0x82] ++ Utf8.encode "wheel".toList ++ [0xf0, 0x9f, 0xff])),
    (⟨"wheel.ts".toList, by decide⟩, .file [])])]

def damagedSystem : FileSystem where
  root := .directory [(⟨"mill".toList, by decide⟩, .directory damagedProject)]
  workingDirectory := []
  unlisted := []

/-- The scan reports, and what is named between the broken sequences is not in the report. -/
theorem damage_hides_no_wheel :
    (∃ record, damagedSystem.readRecord (.ofText "/mill/src/log.ts".toList) = .ok record ∧
      "wheel".toList <:+: record.content) ∧
    ∃ report, (damagedSystem.analyze (.ofText "/mill".toList) []).result = .ok report ∧
      ∀ file ∈ report.unused, file.path ≠ .ofText "/mill/src/wheel.ts".toList := by
  have resolved :
      damagedSystem.resolve (.ofText "/mill".toList) = .ok (.ofText "/mill".toList) := by
    cbv
  have parts :
      (Path.ofText "/mill".toList).join Project.sourceDirectory = .ofText "/mill/src".toList ∧
      (Path.ofText "/mill".toList).join Project.assetDirectory = .ofText "/mill/public".toList := by
    decide
  have listing : (damagedSystem.list ((Path.ofText "/mill".toList).join Project.sourceDirectory)
      (.ofText "/mill".toList)).result =
        .ok [.ofText "/mill/src/log.ts".toList, .ofText "/mill/src/wheel.ts".toList] := by
    rw [parts.1]
    cbv
  have listing' : (damagedSystem.list ((Path.ofText "/mill".toList).join Project.assetDirectory)
      (.ofText "/mill".toList)).result = .ok [] := by
    rw [parts.2]
    cbv
  have read : damagedSystem.read (.ofText "/mill/src/log.ts".toList) =
      .ok ([0xe2, 0x82] ++ Utf8.encode "wheel".toList ++ [0xf0, 0x9f, 0xff]) := by
    cbv
  have held : Utf8.encode "wheel".toList <:+:
      [0xe2, 0x82] ++ Utf8.encode "wheel".toList ++ [0xf0, 0x9f, 0xff] := List.infix_append _ _ _
  constructor
  · obtain ⟨record, recorded, kept⟩ := damage_hides_no_reference.1 _ _ _ read
    exact ⟨record, recorded, kept _ (by decide) (by decide) held⟩
  · obtain ⟨report, reported⟩ :=
      analyze_complete resolved listing listing' (by decide +kernel) (by decide) []
    refine ⟨report, reported, ?_⟩
    obtain ⟨root, listed, resolved', listing'', spared⟩ :=
      damage_hides_no_reference.2 _ _ _ _ reported
    rw [resolved] at resolved'
    cases resolved'
    rw [listing] at listing''
    cases listing''
    exact spared (.ofText "/mill/src/wheel.ts".toList) (by decide +kernel)
      (.ofText "/mill/src/log.ts".toList) (by decide +kernel) (by decide +kernel)
      (by decide +kernel) (by decide +kernel) _ read held

end FileSystem
end OrphanFiles
