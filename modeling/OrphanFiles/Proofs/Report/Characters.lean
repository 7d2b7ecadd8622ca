import OrphanFiles.Proofs.Report.Shape

/-! Which characters a readable report has. Its own wording, its numbers and the capitals in
its titles have none of the control characters with which ASCII starts. So a line break or an
escape in the text of a line is one in a path or in a label. -/
namespace OrphanFiles

/-- Whether a text has none of the control characters with which ASCII starts. -/
def Text.IsVisible (t : Text) : Prop :=
  ∀ c ∈ t, 0x20 ≤ c.toNat

instance (t : Text) : Decidable t.IsVisible :=
  List.decidableBAll _ t

namespace Text

theorem IsVisible.notMem {c : Char} {t : Text} (visible : t.IsVisible) (control : c.toNat < 0x20) :
    c ∉ t := by
  intro member
  exact absurd (visible c member) (Nat.not_le_of_lt control)

theorem isVisible_toList {chars : Text} (visible : chars.IsVisible) :
    IsVisible (String.ofList chars).toList := by
  rwa [String.toList_ofList]

theorem isVisible_replicate {c : Char} (visible : 0x20 ≤ c.toNat) (count : Nat) :
    IsVisible (List.replicate count c) := by
  intro d member
  rwa [List.eq_of_mem_replicate member]

theorem isVisible_toDigits (n : Nat) : IsVisible (Nat.toDigits 10 n) := by
  intro c member
  have digit := Nat.isDigit_of_mem_toDigits (by decide) (by decide) member
  simp only [Char.isDigit, Bool.and_eq_true, decide_eq_true_eq] at digit
  exact Nat.le_trans (by decide) (UInt32.le_iff_toNat_le.mp digit.1)

theorem isVisible_ofInt (value : Int) : IsVisible (ofInt value) := by
  cases value with
  | ofNat n => exact isVisible_toDigits n
  | negSucc n => exact List.forall_mem_cons.mpr ⟨by decide, isVisible_toDigits _⟩

end Text

namespace ByteSize

theorem isVisible_decimals (hundredths : Nat) : (decimals hundredths).IsVisible := by
  have digit : ∀ digit < 10, 0x20 ≤ (Nat.digitChar digit).toNat := by decide
  have tenth := digit (hundredths / 10 % 10) (Nat.mod_lt _ (by decide))
  have rest := digit (hundredths % 10) (Nat.mod_lt _ (by decide))
  simp only [decimals]
  split
  · simp [Text.IsVisible, tenth, rest]
  split
  · simp [Text.IsVisible, tenth]
  · decide

theorem isVisible_of_format? {size : Int} {t : Text} (written : format? size = some t) :
    t.IsVisible := by
  have units : ∀ unit < 4, Text.IsVisible (' ' :: unitNames.getD unit []) := by decide
  have known : unitOf size < 4 := by
    unfold unitOf
    repeat' split
    all_goals decide
  unfold format? at written
  split at written
  · cases written
    decide
  · obtain ⟨hundredths, _, rfl⟩ := Option.map_eq_some_iff.mp written
    have sign : Text.IsVisible (if size < 0 then ['-'] else []) := by split <;> decide
    have number : (numeral hundredths).IsVisible :=
      List.forall_mem_append.mpr ⟨Text.isVisible_toDigits _, isVisible_decimals _⟩
    exact List.forall_mem_append.mpr
      ⟨List.forall_mem_append.mpr ⟨sign, number⟩, units _ known⟩

end ByteSize

namespace Unicode

theorem isVisible_capital {run : CapitalRun} (known : run ∈ capitalRuns) {code : Nat}
    (covered : run.covers code = true) :
    Text.IsVisible [Char.ofNat (code + run.offset).toNat] := by
  -- A number that is no character would give the null character.
  have bounds : ∀ run ∈ capitalRuns, 0x20 ≤ run.low + run.offset ∧
      (run.high + run.offset < 0xd800 ∨
        0xdfff < run.low + run.offset ∧ run.high + run.offset < 0x110000) := by
    decide +kernel
  simp only [CapitalRun.covers, Bool.and_eq_true, decide_eq_true_eq] at covered
  have bound := bounds run known
  have valid : (code + run.offset).toNat.isValidChar := by
    unfold Nat.isValidChar
    omega
  rw [Text.IsVisible, List.forall_mem_singleton, Char.ofNat, dif_pos valid]
  change 0x20 ≤ (code + run.offset).toNat
  omega

theorem upperChar_cases (c : Char) : upperChar c = [c] ∨ (upperChar c).IsVisible := by
  have long : ∀ entry ∈ longCapitals, Text.IsVisible (entry.2.map Char.ofNat) := by
    decide +kernel
  unfold upperChar
  split
  · rename_i codes found
    obtain ⟨before, after, split, _⟩ := List.lookup_eq_some_iff.mp found
    exact Or.inr (long (c.toNat, codes) (by simp [split]))
  split
  · rename_i run found
    have covered : run.covers c.toNat = true := by simpa using List.find?_some found
    exact Or.inr (isVisible_capital (List.mem_of_find?_eq_some found) covered)
  · exact Or.inl rfl

/-- A control character in the upper case of a text is there in the text. -/
theorem mem_of_mem_upper {c : Char} {t : Text} (control : c.toNat < 0x20)
    (member : c ∈ upper t) : c ∈ t := by
  obtain ⟨d, inside, raised⟩ := List.mem_flatMap.mp member
  rcases upperChar_cases d with same | visible
  · rw [same, List.mem_singleton] at raised
    rwa [raised]
  · exact absurd raised (visible.notMem control)

end Unicode

namespace Path

variable {c : Char} {p : Path}

theorem mem_intercalate_iff {mark : Char} {pieces : List Text} (other : c ≠ mark) :
    c ∈ [mark].intercalate pieces ↔ ∃ piece ∈ pieces, c ∈ piece := by
  induction pieces with
  | nil => simp
  | cons piece pieces ih =>
    cases pieces with
    | nil => simp
    | cons next pieces =>
      rw [List.intercalate_cons_cons, List.mem_append, List.mem_append, ih]
      simp [other]

/-- All but slashes and the dot of the empty path comes from the components. -/
theorem mem_text_iff (slashless : c ≠ '/') (undotted : c ≠ '.') :
    c ∈ p.text ↔ ∃ name ∈ p.names, c ∈ name.text := by
  have anchor : c ∉ p.anchor.text := by
    cases p.anchor <;> simp [Anchor.text, slashless]
  unfold text
  split
  · rename_i empty
    simp [empty.2, undotted]
  · rw [List.mem_append, mem_intercalate_iff slashless]
    simp [anchor]

theorem mem_of_mem_text_below {base? : Option Path} (slashless : c ≠ '/') (undotted : c ≠ '.')
    (member : c ∈ (p.below base?).text) : c ∈ p.text := by
  rw [mem_text_iff slashless undotted] at member ⊢
  obtain ⟨name, known, inside⟩ := member
  refine ⟨name, ?_, inside⟩
  unfold below at known
  cases rest : base?.bind p.relativeTo? with
  | none => rwa [rest] at known
  | some rest' =>
    rw [rest] at known
    obtain ⟨base, _, stripped⟩ := Option.bind_eq_some_iff.mp rest
    obtain ⟨_, same⟩ := relativeTo?_eq_some.mp stripped
    rw [same]
    exact List.mem_append_right _ known

end Path

/-- Whether a character is in none of the spans of a line. -/
def Line.Lacks (line : Line) (c : Char) : Prop :=
  ∀ span ∈ line, c ∉ span.text

/-- Whether a character is in no path and in no label that a report shows. -/
structure Report.Lacks (report : Report) (c : Char) : Prop where
  labels : ∀ summary ∈ report.byCategory, c ∉ summary.category
  paths : ∀ summary ∈ report.byCategory, ∀ file ∈ summary.files, c ∉ file.path.text

namespace Layout

theorem blank_lacks (c : Char) : Line.Lacks blank c := by
  simp [Line.Lacks, blank]

section

variable {c : Char} (control : c.toNat < 0x20)
include control

theorem ne_of_visible {mark : Char} (visible : 0x20 ≤ mark.toNat) : c ≠ mark := by
  rintro rfl
  exact absurd control (Nat.not_lt_of_le visible)

theorem span_lacks {style : Style} {text : Text} (visible : text.IsVisible) :
    Line.Lacks [⟨style, text⟩] c := by
  rw [Line.Lacks, List.forall_mem_singleton]
  exact visible.notMem control

theorem line_lacks {style : Style} {chars : Text} (visible : chars.IsVisible) :
    (line style (String.ofList chars)).Lacks c :=
  span_lacks control (Text.isVisible_toList visible)

theorem item_lacks {branch text : Text} (branching : branch.IsVisible) (visible : text.IsVisible) :
    (item branch text).Lacks c := by
  have shown : Text.IsVisible (' ' :: text) := List.forall_mem_cons.mpr ⟨by decide, visible⟩
  simp [Line.Lacks, item, branching.notMem control, shown.notMem control]

set_option maxRecDepth 1000 in
theorem banner_lacks : ∀ line ∈ banner, line.Lacks c := by
  simp only [banner, List.forall_mem_cons]
  exact ⟨blank_lacks c, span_lacks control (Text.isVisible_replicate (by decide) _),
    line_lacks control (by decide +kernel), line_lacks control (by decide +kernel),
    line_lacks control (by decide +kernel), List.forall_mem_nil _⟩

theorem notes_lacks : ∀ line ∈ notes, line.Lacks c := by
  simp only [notes, List.forall_mem_cons]
  exact ⟨blank_lacks c, line_lacks control (by decide), line_lacks control (by decide),
    line_lacks control (by decide), line_lacks control (by decide), line_lacks control (by decide),
    blank_lacks c, List.forall_mem_nil _⟩

theorem counts_lacks (report : Report) : ∀ line ∈ counts report, line.Lacks c := by
  have sources : Text.IsVisible " source files".toList := Text.isVisible_toList (by decide)
  have assets : Text.IsVisible " public files".toList := Text.isVisible_toList (by decide)
  have number := Text.isVisible_ofInt
  simp only [counts, List.forall_mem_cons]
  exact ⟨blank_lacks c, line_lacks control (by decide),
    item_lacks control (by decide) (List.forall_mem_append.mpr ⟨number _, sources⟩),
    item_lacks control (by decide) (List.forall_mem_append.mpr ⟨number _, assets⟩),
    List.forall_mem_nil _⟩

theorem overview_lacks (report : Report) {savings : Text} (visible : savings.IsVisible) :
    ∀ line ∈ overview report savings, line.Lacks c := by
  have found : Text.IsVisible "Unused files found: ".toList := Text.isVisible_toList (by decide)
  have types : Text.IsVisible "Types of unused files: ".toList := Text.isVisible_toList (by decide)
  have potential : Text.IsVisible "Potential savings: ".toList := Text.isVisible_toList (by decide)
  have number := Text.isVisible_ofInt
  simp only [overview, List.forall_mem_cons]
  exact ⟨blank_lacks c, line_lacks control (by decide),
    item_lacks control (by decide) (List.forall_mem_append.mpr ⟨found, number _⟩),
    item_lacks control (by decide) (List.forall_mem_append.mpr ⟨types, number _⟩),
    item_lacks control (by decide) (List.forall_mem_append.mpr ⟨potential, visible⟩),
    List.forall_mem_nil _⟩

theorem title_lacks {summary : CategorySummary} (labelled : c ∉ summary.category) :
    c ∉ title summary := by
  have icon : (iconOf summary.category).IsVisible := by
    have known (category : Category) : (icon category).IsVisible := by
      cases category <;> exact Text.isVisible_toList (by decide)
    unfold iconOf
    cases Category.ofLabel? summary.category with
    | none => exact Text.isVisible_toList (by decide)
    | some category => exact known category
  have label := mt (Unicode.mem_of_mem_upper control) labelled
  have space : c ≠ ' ' := ne_of_visible control (by decide)
  have opening : Text.IsVisible " (".toList := by decide
  have closing : Text.IsVisible " files)".toList := by decide
  have number := Text.isVisible_ofInt summary.count
  simp only [title, List.mem_append, List.mem_cons, not_or]
  exact ⟨⟨⟨⟨icon.notMem control, space, label⟩, opening.notMem control⟩, number.notMem control⟩,
    closing.notMem control⟩

theorem box_lacks {title : Text} (titled : c ∉ title) : ∀ line ∈ box title, line.Lacks c := by
  have rule {left right : Char} (ends : Text.IsVisible [left, '─', right]) :
      Text.IsVisible (ruled left '─' right) := by
    simp only [Text.IsVisible, List.forall_mem_cons] at ends
    refine List.forall_mem_append.mpr ⟨List.forall_mem_cons.mpr ⟨ends.1, ?_⟩, ?_⟩
    · exact Text.isVisible_replicate ends.2.1 _
    · exact List.forall_mem_singleton.mpr ends.2.2.1
  have space : c ≠ ' ' := ne_of_visible control (by decide)
  have left : Text.IsVisible ['│'] := by decide
  simp only [box, List.forall_mem_cons]
  refine ⟨blank_lacks c, span_lacks control (rule (by decide)), ?_,
    span_lacks control (rule (by decide)), blank_lacks c, List.forall_mem_nil _⟩
  simp [Line.Lacks, padRight, titled, space, left.notMem control]

theorem row_lacks {root : Path} {branch : Text} {file : UnusedFile} {row : Line}
    (branching : branch.IsVisible) (pathed : c ∉ file.path.text)
    (written : row? root branch file = some row) : row.Lacks c := by
  obtain ⟨size, sized, rfl⟩ := row?_eq_some.mp written
  have number := (ByteSize.isVisible_of_format? sized).notMem control
  have space : c ≠ ' ' := ne_of_visible control (by decide)
  have opening : c ≠ '(' := ne_of_visible control (by decide)
  have closing : c ≠ ')' := ne_of_visible control (by decide)
  have slashless : c ≠ '/' := ne_of_visible control (by decide)
  have undotted : c ≠ '.' := ne_of_visible control (by decide)
  have shown : c ∉ (file.path.below root).text :=
    mt (Path.mem_of_mem_text_below slashless undotted) pathed
  simp [Line.Lacks, branching.notMem control, shown, number, space, opening, closing]

theorem rows_lack {root : Path} {branch : Text} {files : List UnusedFile} {rows : List Line}
    (branching : branch.IsVisible) (pathed : ∀ file ∈ files, c ∉ file.path.text)
    (written : RowsOn root branch files rows) : ∀ row ∈ rows, row.Lacks c := by
  induction written with
  | nil => exact List.forall_mem_nil _
  | cons here _ ih =>
    rw [List.forall_mem_cons] at pathed ⊢
    exact ⟨row_lacks control branching pathed.1 here, ih pathed.2⟩

theorem section_lacks {root : Path} {summary : CategorySummary} {lines : List Line}
    (labelled : c ∉ summary.category) (pathed : ∀ file ∈ summary.files, c ∉ file.path.text)
    (written : section? root summary = some lines) : ∀ line ∈ lines, line.Lacks c := by
  obtain ⟨size, listing, sized, listed, rfl⟩ := section?_eq_some.mp written
  have total : Text.IsVisible ("Total size: ".toList ++ size) :=
    List.forall_mem_append.mpr ⟨Text.isVisible_toList (by decide),
      ByteSize.isVisible_of_format? sized⟩
  have rows : ∀ row ∈ listing, row.Lacks c := by
    rcases List.eq_nil_or_concat summary.files with none | ⟨earlier, last, split⟩
    · rw [none] at listed
      cases listed
      exact List.forall_mem_nil _
    · rw [List.concat_eq_append] at split
      rw [split] at listed pathed
      obtain ⟨rows, row, above, final, rfl⟩ := rows?_concat_eq_some.mp listed
      rw [List.forall_mem_append, List.forall_mem_singleton] at pathed ⊢
      exact ⟨rows_lack control (by decide) pathed.1 above,
        row_lacks control (by decide) pathed.2 final⟩
  rw [List.forall_mem_append, List.forall_mem_cons]
  exact ⟨box_lacks control (title_lacks control labelled), span_lacks control total, rows⟩

theorem sections_lack {root : Path} {summaries : List CategorySummary}
    {sections : List (List Line)}
    (labelled : ∀ summary ∈ summaries, c ∉ summary.category)
    (pathed : ∀ summary ∈ summaries, ∀ file ∈ summary.files, c ∉ file.path.text)
    (written : List.Forall₂ (fun summary part => section? root summary = some part)
      summaries sections) : ∀ line ∈ sections.flatten, line.Lacks c := by
  induction written with
  | nil => exact List.forall_mem_nil _
  | cons here _ ih =>
    rw [List.forall_mem_cons] at labelled pathed
    rw [List.flatten_cons, List.forall_mem_append]
    exact ⟨section_lacks control labelled.1 pathed.1 here, ih labelled.2 pathed.2⟩

end

end Layout

/-- A control character that no path and no label has is nowhere in the report. -/
theorem Report.Lacks.layout {report : Report} {c : Char} (lacks : report.Lacks c)
    (control : c.toNat < 0x20) {lines : List Line} (laid : report.layout? = some lines) :
    ∀ line ∈ lines, line.Lacks c := by
  have front := List.forall_mem_append.mpr
    ⟨Layout.banner_lacks control, Layout.counts_lacks control report⟩
  by_cases none_unused : report.unused = []
  · rw [layout?, if_pos none_unused] at laid
    cases laid
    refine List.forall_mem_append.mpr ⟨front, ?_⟩
    simp only [List.forall_mem_cons]
    exact ⟨Layout.blank_lacks c, Layout.line_lacks control (by decide), Layout.blank_lacks c,
      List.forall_mem_nil _⟩
  · obtain ⟨savings, sections, total, parts, rfl⟩ := (layout?_eq_some none_unused).mp laid
    have size := ByteSize.isVisible_of_format? total
    simp only [List.forall_mem_append] at front ⊢
    exact ⟨⟨⟨front, Layout.overview_lacks control report size⟩,
      Layout.sections_lack control lacks.labels lacks.paths parts⟩, Layout.notes_lacks control⟩

end OrphanFiles
