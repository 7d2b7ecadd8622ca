import OrphanFiles.Proofs.FileSystem.Plain
import OrphanFiles.Proofs.Index.Building
import OrphanFiles.Proofs.Text.Decoding

/-! Reading once is reading for good. The content of a file has line feeds only and is read
back from its own bytes, so what the scans find in it is found again. Of a well-formed text
nothing but its line breaks is changed. -/
namespace OrphanFiles

namespace Text

/-- The break of two characters, read as one. -/
def pairedBreak : Text := ['\r', '\n']

/-- A line in which each carriage return has become a line feed. -/
def withLineFeeds (line : Text) : Text :=
  line.map fun c => if c = '\r' then '\n' else c

theorem unifyNewlines_of_notMem {t : Text} (free : '\r' ∉ t) : unifyNewlines t = t := by
  have kept := unifyNewlines_append free []
  rwa [List.append_nil, unifyNewlines, List.append_nil] at kept

theorem unifyNewlines_idem (t : Text) : unifyNewlines (unifyNewlines t) = unifyNewlines t :=
  unifyNewlines_of_notMem (not_mem_unifyNewlines t)

theorem intercalate_cons_cons_head (mark : Text) (c : Char) (line : Text) (lines : List Text) :
    mark.intercalate ((c :: line) :: lines) = c :: mark.intercalate (line :: lines) := by
  cases lines <;> simp [List.intercalate_cons_cons]

/-- Paired breaks become line feeds, and between them each carriage return does. -/
theorem exists_lines (t : Text) :
    ∃ line lines, t = pairedBreak.intercalate (line :: lines) ∧
      (∀ each ∈ line :: lines, ¬ pairedBreak <:+: each) ∧
      unifyNewlines t = ['\n'].intercalate ((line :: lines).map withLineFeeds) := by
  fun_induction unifyNewlines t with
  | case1 => exact ⟨[], [], rfl, by simp [pairedBreak], rfl⟩
  | case2 rest ih =>
    obtain ⟨line, lines, split, whole, unified⟩ := ih
    refine ⟨[], line :: lines, ?_, ?_, ?_⟩
    · rw [List.intercalate_cons_cons, ← split]
      rfl
    · rw [List.forall_mem_cons]
      exact ⟨by simp [pairedBreak], whole⟩
    · rw [List.map_cons, List.map_cons, List.intercalate_cons_cons, ← List.map_cons, ← unified]
      rfl
  | case3 c rest unpaired ih =>
    obtain ⟨line, lines, split, whole, unified⟩ := ih
    refine ⟨c :: line, lines, ?_, ?_, ?_⟩
    · rw [intercalate_cons_cons_head, ← split]
    · rw [List.forall_mem_cons] at whole ⊢
      refine ⟨?_, whole.2⟩
      -- A pair in the longer line is one in the line, or the character opens it.
      intro pair
      rcases List.infix_cons_iff.mp pair with opening | inside
      · obtain ⟨paired, feed⟩ := List.cons_prefix_cons.mp opening
        obtain ⟨behind, same⟩ := feed
        rw [← same, List.cons_append, intercalate_cons_cons_head] at split
        exact unpaired _ paired.symm split
      · exact whole.1 inside
    · rw [List.map_cons, withLineFeeds, List.map_cons, intercalate_cons_cons_head,
        ← withLineFeeds, ← List.map_cons, ← unified]

end Text

theorem Utf8.eq_encode_of_toByteArray {bytes : Bytes} {t : Text}
    (same : bytes.toByteArray = t.utf8Encode) : bytes = encode t := by
  rwa [← toByteArray_encode, List.toByteArray_inj] at same

theorem contentOf_encode (t : Text) : contentOf (Utf8.encode t) = t.unifyNewlines := by
  rw [contentOf, Utf8.decode_encode]

theorem contentOf_encode_contentOf (bytes : Bytes) :
    contentOf (Utf8.encode (contentOf bytes)) = contentOf bytes := by
  rw [contentOf_encode, contentOf, Text.unifyNewlines_idem]

theorem Text.head?_unifyNewlines {t : Text} {c : Char} (other : c ≠ '\r')
    (opens : t.head? = some c) : (unifyNewlines t).head? = some c := by
  obtain ⟨rest, rfl⟩ := List.head?_eq_some_iff.mp opens
  have free : '\r' ∉ [c] := by simpa using other.symm
  exact congrArg List.head? (unifyNewlines_append free rest)

namespace FileSystem

/-- Whatever a file holds, its content has no carriage return, and a file that holds the
standard bytes of that content has the same content, so that the scans find the same in it. The
content of well-formed bytes is their text with a line feed for each pair of carriage return and
line feed and for each other carriage return. A byte order mark stays. -/
theorem reading_settles {fs : FileSystem} {path : Path} {bytes : Bytes}
    (read : fs.read path = .ok bytes) :
    ∃ record, fs.readRecord path = .ok record ∧ '\r' ∉ record.content ∧
      (∀ (later : FileSystem) (place : Path) (kept : Bytes), later.read place = .ok kept →
        kept.toByteArray = record.content.utf8Encode →
          ∃ again, later.readRecord place = .ok again ∧ again.content = record.content ∧
            again.importTargets = record.importTargets ∧ again.lazyLoad = record.lazyLoad) ∧
      ∀ t : Text, bytes.toByteArray = t.utf8Encode →
        (∃ lines, t = Text.pairedBreak.intercalate lines ∧
          (∀ line ∈ lines, ¬ Text.pairedBreak <:+: line) ∧
          record.content = ['\n'].intercalate (lines.map Text.withLineFeeds)) ∧
        (t.head? = some '\ufeff' → record.content.head? = some '\ufeff') := by
  refine ⟨_, readRecord_of_read read, Text.not_mem_unifyNewlines _, ?_, ?_⟩
  · intro later place kept read' same
    have content : contentOf kept = contentOf bytes := by
      rw [Utf8.eq_encode_of_toByteArray same]
      exact contentOf_encode_contentOf bytes
    refine ⟨_, readRecord_of_read read', ?_⟩
    rw [content]
    exact ⟨rfl, rfl, rfl⟩
  · intro t same
    have content : (FileRecord.scan path (contentOf bytes)).content = t.unifyNewlines := by
      rw [Utf8.eq_encode_of_toByteArray same]
      exact contentOf_encode t
    rw [content]
    obtain ⟨line, lines, split, whole, unified⟩ := Text.exists_lines t
    exact ⟨⟨line :: lines, split, whole, unified⟩, Text.head?_unifyNewlines (by decide)⟩

/-- A byte order mark, two carriage returns and a line feed. -/
def markedText : Text := ['\ufeff', '\r', '\r', '\n']

def markedName : Name := ⟨"marked.ts".toList, by decide⟩

def markedPath : Path := .ofLocation [markedName]

/-- A file system with one file, which holds a text. -/
def holding (t : Text) : FileSystem where
  root := .directory [(markedName, .file (Utf8.encode t))]
  workingDirectory := []
  unlisted := []

/-- The first return stays a break of its own, and the second one is a break with the feed. -/
theorem marked_text_settles :
    ∃ record, (holding markedText).readRecord markedPath = .ok record ∧
      record.content = ['\ufeff', '\n', '\n'] ∧ '\r' ∉ record.content ∧
      record.content.head? = some '\ufeff' ∧
      ∃ again, (holding record.content).readRecord markedPath = .ok again ∧
        again.content = record.content := by
  have storable : ∀ name ∈ [markedName], name.Storable := by decide
  have read (t : Text) : (holding t).read markedPath = .ok (Utf8.encode t) :=
    read_file storable rfl (by decide +kernel)
  obtain ⟨record, recorded, free, settled, unified⟩ := reading_settles (read markedText)
  refine ⟨record, recorded, ?_, free, ?_, ?_⟩
  · rw [readRecord_of_read (read markedText)] at recorded
    cases recorded
    decide +kernel
  · exact (unified markedText (Utf8.toByteArray_encode _)).2 rfl
  · obtain ⟨again, reread, same, _, _⟩ := settled (holding record.content) markedPath _
      (read record.content) (Utf8.toByteArray_encode _)
    exact ⟨again, reread, same⟩

end FileSystem
end OrphanFiles
