import Mathlib.Data.List.Basic
import OrphanFiles.Proofs.Json.Reading

/-! Reading a printed document. Each part of the printed form is read back as what it was
printed for, and what follows it is left as it stands; the document is put together from
these parts. -/
namespace OrphanFiles

namespace Text

/-- The last digit of a padded numeral, and the numeral in front of it. -/
theorem hex_succ {width : Nat} (wide : 0 < width) (n : Nat) :
    hex (width + 1) n = hex width (n / 16) ++ [Nat.digitChar (n % 16)] := by
  by_cases small : n < 16
  · have zero : n / 16 = 0 := by omega
    have same : n % 16 = n := by omega
    obtain ⟨less, rfl⟩ : ∃ less, width = less + 1 := ⟨width - 1, by omega⟩
    rw [hex, hex, zero, same, Nat.toDigits_of_lt_base small, Nat.toDigits_zero]
    simp [List.replicate_succ']
  · have digits := Nat.toDigits_of_base_le (b := 16) (by decide) (Nat.le_of_not_lt small)
    simp [hex, digits]

theorem hex_four {n : Nat} (fits : n < 0x10000) :
    hex 4 n = [Nat.digitChar (n / 0x1000), Nat.digitChar (n / 0x100 % 16),
      Nat.digitChar (n / 0x10 % 16), Nat.digitChar (n % 16)] := by
  have last : n / 16 / 16 / 16 < 16 := by omega
  have one : hex 1 (n / 16 / 16 / 16) = [Nat.digitChar (n / 16 / 16 / 16)] := by
    rw [hex, Nat.toDigits_of_lt_base last]
    rfl
  rw [hex_succ (by decide), hex_succ (by decide), hex_succ (by decide), one]
  simp [Nat.div_div_eq_div_mul]

end Text

namespace Json

theorem hexValue?_digitChar {digit : Nat} (fits : digit < 16) :
    hexValue? (Nat.digitChar digit) = some digit := by
  have all : ∀ digit < 16, hexValue? (Nat.digitChar digit) = some digit := by decide
  exact all digit fits

theorem unit?_hex {unit : Nat} (fits : unit < 0x10000) (rest : Text) :
    unit? (Text.hex 4 unit ++ rest) = some (unit, rest) := by
  rw [Text.hex_four fits]
  simp only [List.cons_append, List.nil_append, unit?, hexValue?_digitChar (Nat.mod_lt _ (by decide : 16 > 0)),
    hexValue?_digitChar (show unit / 0x1000 < 16 by omega), Option.bind_some, Option.map_some,
    Option.some.injEq, Prod.mk.injEq, and_true]
  omega

/-- Scalar values leave out the surrogates and stay below the end of the last plane. -/
theorem toNat_scalar (c : Char) : c.toNat < 0xd800 ∨ 0xe000 ≤ c.toNat ∧ c.toNat < 0x110000 := by
  have valid := c.valid
  simp only [UInt32.isValidChar, Nat.isValidChar] at valid
  change c.val.toNat < 0xd800 ∨ 0xe000 ≤ c.val.toNat ∧ c.val.toNat < 0x110000
  omega

/-- Two surrogates are read as the character above the basic plane that they split. -/
theorem numbered?_surrogates {c : Char} {high low : Nat} (above : ¬ c.toNat < 0x10000)
    (first : high = 0xd800 + (c.toNat - 0x10000) / 0x400)
    (second : low = 0xdc00 + (c.toNat - 0x10000) % 0x400) (rest : Text) :
    numbered? (Text.hex 4 high ++ ("\\u".toList ++ (Text.hex 4 low ++ rest))) = some (c, rest) := by
  have scalar := toNat_scalar c
  have no_scalar : ¬ (high < 0xd800 ∨ 0xe000 ≤ high) := by omega
  have no_low : ¬ 0xdc00 ≤ high := by omega
  have is_low : 0xdc00 ≤ low ∧ low < 0xe000 := by omega
  have joined : 0x10000 + (high - 0xd800) * 0x400 + (low - 0xdc00) = c.toNat := by omega
  have read_high (behind : Text) : unit? (Text.hex 4 high ++ behind) = some (high, behind) :=
    unit?_hex (by omega) behind
  have read_low : unit? (Text.hex 4 low ++ rest) = some (low, rest) := unit?_hex (by omega) rest
  have marked : Text.strip? "\\u".toList ("\\u".toList ++ (Text.hex 4 low ++ rest)) =
      some (Text.hex 4 low ++ rest) := Text.strip?_eq_some.mpr rfl
  simp only [numbered?, read_high, Option.bind_some, if_neg no_scalar, if_neg no_low, marked,
    read_low, if_pos is_low, joined, Char.ofNat_toNat]

theorem escapeUnit_eq (unit : Nat) : escapeUnit unit = '\\' :: 'u' :: Text.hex 4 unit := rfl

theorem numbered?_escapeUnits (c : Char) (rest : Text) :
    ∃ digits, escapeUnits c.toNat = '\\' :: 'u' :: digits ∧
      numbered? (digits ++ rest) = some (c, rest) := by
  have scalar := toNat_scalar c
  by_cases basic : c.toNat < 0x10000
  · have whole : c.toNat < 0xd800 ∨ 0xe000 ≤ c.toNat := by omega
    refine ⟨Text.hex 4 c.toNat, ?_, ?_⟩
    · rw [escapeUnits, if_pos basic, escapeUnit_eq]
    · simp only [numbered?, unit?_hex basic, Option.bind_some, if_pos whole, Char.ofNat_toNat]
  · refine ⟨Text.hex 4 (0xd800 + (c.toNat - 0x10000) / 0x400) ++
      escapeUnit (0xdc00 + (c.toNat - 0x10000) % 0x400), ?_, ?_⟩
    · rw [escapeUnits, if_neg basic, escapeUnit_eq, List.cons_append, List.cons_append]
    · rw [List.append_assoc, escapeUnit, List.append_assoc]
      exact numbered?_surrogates basic rfl rfl rest

/-- The printed form of a character is read as that character. -/
theorem character?_escape (c : Char) (rest : Text) :
    character? (escape c ++ rest) = some (c, rest) := by
  have numeric (digits : Text) (read : numbered? (digits ++ rest) = some (c, rest)) :
      character? ('\\' :: 'u' :: digits ++ rest) = some (c, rest) := by
    simp [character?, read]
  unfold escape
  split
  · subst_vars; rfl
  split
  · subst_vars; rfl
  split
  · subst_vars; rfl
  split
  · subst_vars; rfl
  split
  · subst_vars; rfl
  split
  · subst_vars; rfl
  split
  · subst_vars; rfl
  split
  · rename_i quote backslash _ _ _ _ _ printable
    have shown : ¬ (c = '"' ∨ c.toNat < 0x20) := by
      intro other
      rcases other with same | control
      · exact quote same
      · omega
    simp only [List.singleton_append, character?, if_neg backslash, if_neg shown]
  · obtain ⟨digits, same, read⟩ := numbered?_escapeUnits c rest
    rw [same]
    exact numeric digits read

theorem escape_open (c : Char) : ∃ first more, escape c = first :: more ∧ first ≠ '"' := by
  unfold escape
  repeat' split
  all_goals first
    | exact ⟨'\\', _, rfl, by decide⟩
    | skip
  · exact ⟨c, [], rfl, by assumption⟩
  · obtain ⟨digits, same, _⟩ := numbered?_escapeUnits c []
    exact ⟨'\\', _, same, by decide⟩

theorem characters?_flatMap_escape (t rest : Text) :
    characters? (t.flatMap escape ++ '"' :: rest) = some (t, rest) := by
  induction t with
  | nil =>
    rw [characters?]
    rfl
  | cons c t ih =>
    obtain ⟨first, more, same, other⟩ := escape_open c
    have open_ : Text.strip? ['"'] (escape c ++ (t.flatMap escape ++ '"' :: rest)) = none := by
      simp [same, Text.strip?, Ne.symm other]
    have shorter : (t.flatMap escape ++ '"' :: rest).length <
        (escape c ++ (t.flatMap escape ++ '"' :: rest)).length := by
      simp only [same, List.cons_append, List.length_cons, List.length_append]
      omega
    rw [List.flatMap_cons, List.append_assoc, characters?, open_]
    simp only [character?_escape, Option.bind_some, if_pos shorter, ih, Option.map_some]

theorem writeText_eq (t : Text) : writeText t = '"' :: (t.flatMap escape ++ ['"']) := rfl

/-- Whether a text does not go on with a digit, so that a numeral in front of it ends there. -/
def EndsNumeral (rest : Text) : Prop :=
  rest.takeWhile Char.isDigit = []

theorem head?_toDigits {n : Nat} (leading : (Nat.toDigits 10 n).head? = some '0') : n = 0 := by
  induction n using Nat.strongRecOn with
  | ind n ih =>
    by_cases small : n < 10
    · rw [Nat.toDigits_of_lt_base small] at leading
      exact Nat.digitChar_eq_zero.mp (Option.some.inj leading)
    · have large : 10 ≤ n := Nat.le_of_not_lt small
      obtain ⟨first, more, same⟩ := List.exists_cons_of_ne_nil (Nat.toDigits_ne_nil (n := n / 10) (b := 10))
      rw [Nat.toDigits_of_base_le (by decide) large, same] at leading
      have zero : n / 10 = 0 := ih (n / 10) (by omega) (by rw [same]; exact leading)
      omega

theorem natural?_toDigits (n : Nat) {rest : Text} (ends : EndsNumeral rest) :
    natural? (Nat.toDigits 10 n ++ rest) = some (n, rest) := by
  have digits : ∀ c ∈ Nat.toDigits 10 n, c.isDigit = true := fun c member =>
    Nat.isDigit_of_mem_toDigits (by decide) (by decide) member
  have taken : (Nat.toDigits 10 n ++ rest).takeWhile Char.isDigit = Nat.toDigits 10 n := by
    rw [List.takeWhile_append_of_pos digits, ends, List.append_nil]
  have dropped : (Nat.toDigits 10 n ++ rest).dropWhile Char.isDigit = rest := by
    have joined := List.takeWhile_append_dropWhile (p := Char.isDigit) (l := Nat.toDigits 10 n ++ rest)
    rw [taken] at joined
    exact List.append_cancel_left joined
  have numeral : ¬ (Nat.toDigits 10 n = [] ∨
      ((Nat.toDigits 10 n).head? = some '0' ∧ Nat.toDigits 10 n ≠ ['0'])) := by
    intro refused
    rcases refused with empty | ⟨leading, longer⟩
    · exact Nat.toDigits_ne_nil empty
    · exact longer (by rw [head?_toDigits leading]; rfl)
  simp only [natural?, taken, dropped, if_neg numeral, Nat.ofDigitChars_ten_toDigits]

theorem toDigits_open (n : Nat) :
    ∃ first more, Nat.toDigits 10 n = first :: more ∧ first.isDigit = true := by
  obtain ⟨first, more, same⟩ :=
    List.exists_cons_of_ne_nil (Nat.toDigits_ne_nil (n := n) (b := 10))
  have member : first ∈ Nat.toDigits 10 n := same ▸ List.mem_cons_self
  exact ⟨first, more, same, Nat.isDigit_of_mem_toDigits (by decide) (by decide) member⟩

theorem number?_ofInt (value : Int) {rest : Text} (ends : EndsNumeral rest) :
    number? (Text.ofInt value ++ rest) = some (value, rest) := by
  cases value with
  | ofNat n =>
    obtain ⟨first, more, same, digit⟩ := toDigits_open n
    have positive : first ≠ '-' := by
      intro sign
      rw [sign] at digit
      exact absurd digit (by decide)
    have unsigned : Text.strip? ['-'] (Text.ofInt (.ofNat n) ++ rest) = none := by
      simp [Text.ofInt, same, Text.strip?, Ne.symm positive]
    rw [number?, unsigned]
    simp only [Text.ofInt, natural?_toDigits n ends, Option.map_some]
    rfl
  | negSucc n =>
    have signed : Text.strip? ['-'] (Text.ofInt (.negSucc n) ++ rest) =
        some (Nat.toDigits 10 (n + 1) ++ rest) := Text.strip?_eq_some.mpr rfl
    rw [number?, signed]
    simp only [natural?_toDigits (n + 1) ends, Option.map_some]
    rfl

theorem skipBlanks_append {blanks : Text} (blank : ∀ c ∈ blanks, isBlank c = true) (t : Text) :
    skipBlanks (blanks ++ t) = skipBlanks t :=
  List.dropWhile_append_of_pos blank

theorem skipBlanks_cons {c : Char} (shown : isBlank c = false) (t : Text) :
    skipBlanks (c :: t) = c :: t :=
  List.dropWhile_cons_of_neg (by simp [shown])

theorem blank_of_mem_lineAt {depth : Nat} : ∀ c ∈ lineAt depth, isBlank c = true := by
  intro c member
  simp only [lineAt, List.mem_cons, List.mem_replicate] at member
  rcases member with same | ⟨_, same⟩ <;> subst same <;> rfl

theorem value?_blanks {blanks : Text} (blank : ∀ c ∈ blanks, isBlank c = true) (limit : Nat)
    (t : Text) : value? limit (blanks ++ t) = value? limit t := by
  cases limit with
  | zero => rfl
  | succ limit => rw [value?, value?, skipBlanks_append blank]

/-- Members printed one a line, each but the first behind a comma. -/
def joined (line : Text) (print : α → Text) (first : α) (later : List α) : Text :=
  line ++ print first ++ later.flatMap fun member => ',' :: line ++ print member

theorem joined_cons (line : Text) (print : α → Text) (first next : α) (later : List α) :
    joined line print first (next :: later) =
      line ++ print first ++ ',' :: joined line print next later := by
  simp [joined]

section Members

variable {closing : Char} {member? : Text → Option (α × Text)} {line : Text} {print : α → Text}

theorem members?_joined (bracket : closing ≠ ',') (shown : isBlank closing = false) {depth : Nat}
    {first : α} {later : List α}
    (read : ∀ member ∈ first :: later, ∀ rest, EndsNumeral rest →
      member? (line ++ print member ++ rest) = some (member, rest)) (rest : Text) :
    members? closing member? (joined line print first later ++ lineAt depth ++ closing :: rest) =
      some (first :: later, rest) := by
  induction later generalizing first with
  | nil =>
    have ends : EndsNumeral (lineAt depth ++ closing :: rest) := rfl
    have here := read first List.mem_cons_self _ ends
    rw [members?]
    simp only [joined, List.flatMap_nil, List.append_nil, List.append_assoc] at here ⊢
    simp only [here, Option.bind_some, skipBlanks_append blank_of_mem_lineAt,
      skipBlanks_cons shown, if_true]
  | cons next later ih =>
    have tail := ih fun member later => read member (List.mem_cons_of_mem _ later)
    have ends : EndsNumeral (',' :: (joined line print next later ++ lineAt depth ++
        closing :: rest)) := rfl
    have here := read first List.mem_cons_self _ ends
    have comma : skipBlanks (',' :: (joined line print next later ++ lineAt depth ++
        closing :: rest)) = _ := skipBlanks_cons rfl _
    have split : joined line print first (next :: later) ++ lineAt depth ++ closing :: rest =
        line ++ print first ++ ',' :: (joined line print next later ++ lineAt depth ++
          closing :: rest) := by
      rw [joined_cons]
      simp
    have shorter : (joined line print next later ++ lineAt depth ++ closing :: rest).length <
        (line ++ print first ++ ',' :: (joined line print next later ++ lineAt depth ++
          closing :: rest)).length := by
      simp only [List.length_append, List.length_cons]
      omega
    rw [split, members?, here, Option.bind_some]
    simp only [comma, if_neg bracket.symm, shorter, and_self, if_true, tail, Option.map_some]

theorem enclosed?_joined (depth : Nat) (bracket : closing ≠ ',') (shown : isBlank closing = false)
    {first : α} {later : List α} (blank : ∀ c ∈ line, isBlank c = true)
    (opens : ∃ c t, print first = c :: t ∧ isBlank c = false ∧ c ≠ closing)
    (read : ∀ member ∈ first :: later, ∀ rest, EndsNumeral rest →
      member? (line ++ print member ++ rest) = some (member, rest)) (rest : Text) :
    enclosed? closing member? (joined line print first later ++ lineAt depth ++ closing :: rest) =
      some (first :: later, rest) := by
  obtain ⟨c, t, same, visible, other⟩ := opens
  have some_member : Text.strip? [closing] (skipBlanks
      (joined line print first later ++ lineAt depth ++ closing :: rest)) = none := by
    simp only [joined, same, List.append_assoc, skipBlanks_append blank, List.cons_append,
      skipBlanks_cons visible, Text.strip?, if_neg other.symm]
  rw [enclosed?, some_member]
  exact members?_joined bracket shown read rest

theorem length_le_joined (line : Text) (print : α → Text) {first member : α} {later : List α}
    (inside : member ∈ first :: later) :
    (print member).length ≤ (joined line print first later).length := by
  induction later generalizing first with
  | nil =>
    rw [List.mem_singleton.mp inside]
    simp [joined]
  | cons next later ih =>
    rw [joined_cons]
    rcases List.mem_cons.mp inside with same | deeper
    · rw [same]
      simp only [List.length_append]
      omega
    · have bound := ih deeper
      simp only [List.length_append, List.length_cons]
      omega

end Members

def writeField (depth : Nat) (field : Text × Json) : Text :=
  writeText field.1 ++ ": ".toList ++ write depth field.2

theorem writeItems_eq (depth : Nat) (items : List Json) :
    writeItems depth items = items.flatMap fun item => ',' :: lineAt depth ++ write depth item := by
  induction items with
  | nil => rfl
  | cons item items ih => rw [writeItems, ih, List.flatMap_cons]

theorem writeFields_eq (depth : Nat) (fields : List (Text × Json)) :
    writeFields depth fields =
      fields.flatMap fun field => ',' :: lineAt depth ++ writeField depth field := by
  induction fields with
  | nil => rfl
  | cons field fields ih =>
    rw [writeFields, ih, List.flatMap_cons, writeField]
    simp only [List.append_assoc]

theorem write_list_cons (depth : Nat) (item : Json) (items : List Json) :
    write depth (list (item :: items)) =
      '[' :: (joined (lineAt (depth + 1)) (write (depth + 1)) item items ++ lineAt depth ++ [']']) := by
  rw [write, writeItems_eq, joined]
  simp only [List.cons_append]

theorem write_object_cons (depth : Nat) (field : Text × Json) (fields : List (Text × Json)) :
    write depth (object (field :: fields)) =
      '\x7b' :: (joined (lineAt (depth + 1)) (writeField (depth + 1)) field fields ++ lineAt depth ++
        ['\x7d']) := by
  rw [write, writeFields_eq, joined, writeField]
  simp only [List.cons_append, List.append_assoc]

/-- The characters that start a value of another kind, and those that cannot start one. -/
def notNumeral : Text :=
  [' ', '\t', '\n', '\r', ']', '"', '[', '\x7b', 'n']

theorem ofInt_open (value : Int) :
    ∃ c t, Text.ofInt value = c :: t ∧ c ∉ notNumeral := by
  have apart : notNumeral.all (fun c => !c.isDigit) = true := by decide
  cases value with
  | ofNat n =>
    obtain ⟨first, more, same, digit⟩ := toDigits_open n
    refine ⟨first, more, same, ?_⟩
    intro member
    have other := List.all_eq_true.mp apart first member
    rw [digit] at other
    cases other
  | negSucc n => exact ⟨'-', _, rfl, by decide⟩

theorem write_open (depth : Nat) (json : Json) :
    ∃ c t, write depth json = c :: t ∧ isBlank c = false ∧ c ≠ ']' := by
  cases json with
  | null => exact ⟨'n', _, by rw [write]; rfl, rfl, by decide⟩
  | number value =>
    obtain ⟨c, t, same, numeral⟩ := ofInt_open value
    simp only [notNumeral, List.mem_cons, not_or] at numeral
    exact ⟨c, t, by rw [write, same], by simp [isBlank, numeral], numeral.2.2.2.2.1⟩
  | text value => exact ⟨'"', _, by rw [write]; rfl, rfl, by decide⟩
  | list items =>
    cases items with
    | nil => exact ⟨'[', _, by rw [write]; rfl, rfl, by decide⟩
    | cons item items => exact ⟨'[', _, write_list_cons depth item items, rfl, by decide⟩
  | object fields =>
    cases fields with
    | nil => exact ⟨'\x7b', _, by rw [write], rfl, by decide⟩
    | cons field fields => exact ⟨'\x7b', _, write_object_cons depth field fields, rfl, by decide⟩

theorem value?_ofInt (limit : Nat) (value : Int) {rest : Text} (ends : EndsNumeral rest) :
    value? (limit + 1) (Text.ofInt value ++ rest) = some (.number value, rest) := by
  obtain ⟨c, t, same, numeral⟩ := ofInt_open value
  have read := number?_ofInt value ends
  simp only [notNumeral, List.mem_cons, not_or] at numeral
  obtain ⟨space, tab, line, back, _, quote, bracket, brace, null, _⟩ := numeral
  have shown : isBlank c = false := by simp [isBlank, space, tab, line, back]
  rw [same, List.cons_append] at read ⊢
  rw [value?, skipBlanks_cons shown]
  simp only [if_neg quote, if_neg bracket, if_neg brace, if_neg null, read, Option.map_some]

theorem field?_writeField {read? : Text → Option (Json × Text)} {depth : Nat}
    {field : Text × Json} {rest : Text}
    (read : read? (' ' :: write depth field.2 ++ rest) = some (field.2, rest)) (line : Nat) :
    field? read? (lineAt line ++ writeField depth field ++ rest) = some (field, rest) := by
  have split : lineAt line ++ writeField depth field ++ rest =
      lineAt line ++ '"' :: (field.1.flatMap escape ++
        '"' :: ':' :: (' ' :: write depth field.2 ++ rest)) := by
    simp [writeField, writeText_eq]
  have opened (t : Text) : Text.strip? ['"'] ('"' :: t) = some t := Text.strip?_eq_some.mpr rfl
  have marked (t : Text) : Text.strip? [':'] (':' :: t) = some t := Text.strip?_eq_some.mpr rfl
  rw [split, field?, skipBlanks_append blank_of_mem_lineAt, skipBlanks_cons rfl, opened,
    Option.bind_some, characters?_flatMap_escape, Option.bind_some]
  simp only [skipBlanks_cons (show isBlank ':' = false from rfl), marked, Option.bind_some, read,
    Option.map_some]

/-- Induction over the members of lists and objects. -/
theorem memberInduction {motive : Json → Prop} (null : motive .null)
    (number : ∀ value, motive (.number value)) (text : ∀ value, motive (.text value))
    (list : ∀ items, (∀ item ∈ items, motive item) → motive (.list items))
    (object : ∀ fields, (∀ field ∈ fields, motive field.2) → motive (.object fields)) :
    ∀ json, motive json
  | .null => null
  | .number value => number value
  | .text value => text value
  | .list items => list items fun item _member => memberInduction null number text list object item
  | .object fields =>
    object fields fun field _member => memberInduction null number text list object field.2
termination_by json => sizeOf json
decreasing_by
  · have smaller := List.sizeOf_lt_of_mem _member
    simp at smaller ⊢
    omega
  · obtain ⟨key, value⟩ := field
    have smaller := List.sizeOf_lt_of_mem _member
    simp at smaller ⊢
    omega

/-- A limit that is no less than a printed value is long leaves room for one level. -/
theorem exists_level {depth limit : Nat} {json : Json}
    (fits : (write depth json).length ≤ limit) : ∃ level, limit = level + 1 := by
  obtain ⟨c, t, same, _⟩ := write_open depth json
  rw [same, List.length_cons] at fits
  exact ⟨limit - 1, by omega⟩

theorem value?_list (level : Nat) (t : Text) :
    value? (level + 1) ('[' :: t) =
      (enclosed? ']' (value? level) t).map fun (items, rest) => (.list items, rest) := rfl

theorem value?_object (level : Nat) (t : Text) :
    value? (level + 1) ('\x7b' :: t) =
      (enclosed? '\x7d' (field? (value? level)) t).map fun (fields, rest) =>
        (.object fields, rest) := rfl

/-- A printed value is read back, and what follows it is left over. -/
theorem value?_write (json : Json) : ∀ {depth limit : Nat} {rest : Text},
    (write depth json).length ≤ limit → EndsNumeral rest →
      value? limit (write depth json ++ rest) = some (json, rest) := by
  induction json using memberInduction with
  | null =>
    intro depth limit rest fits _
    obtain ⟨level, rfl⟩ := exists_level fits
    rw [write]
    rfl
  | number value =>
    intro depth limit rest fits ends
    obtain ⟨level, rfl⟩ := exists_level fits
    rw [write]
    exact value?_ofInt level value ends
  | text value =>
    intro depth limit rest fits _
    obtain ⟨level, rfl⟩ := exists_level fits
    have read := characters?_flatMap_escape value rest
    rw [write, writeText_eq, List.cons_append, List.append_assoc, value?, skipBlanks_cons rfl]
    simp only [if_true, List.singleton_append, read, Option.map_some]
  | list items each =>
    intro depth limit rest fits _
    obtain ⟨level, rfl⟩ := exists_level fits
    cases items with
    | nil =>
      rw [write]
      rfl
    | cons first later =>
      rw [write_list_cons] at fits ⊢
      have read : ∀ item ∈ first :: later, ∀ rest, EndsNumeral rest →
          value? level (lineAt (depth + 1) ++ write (depth + 1) item ++ rest) =
            some (item, rest) := by
        intro item member rest ends
        have short := length_le_joined (lineAt (depth + 1)) (write (depth + 1)) member
        rw [List.append_assoc, value?_blanks blank_of_mem_lineAt]
        apply each item member _ ends
        simp only [List.length_cons, List.length_append] at fits
        omega
      have enclosed := enclosed?_joined depth (by decide) rfl blank_of_mem_lineAt
        (write_open (depth + 1) first) read rest
      rw [List.cons_append, List.append_assoc, List.singleton_append, value?_list, enclosed]
      rfl
  | object fields each =>
    intro depth limit rest fits _
    obtain ⟨level, rfl⟩ := exists_level fits
    cases fields with
    | nil =>
      rw [write]
      rfl
    | cons first later =>
      rw [write_object_cons] at fits ⊢
      have read : ∀ field ∈ first :: later, ∀ rest, EndsNumeral rest →
          field? (value? level) (lineAt (depth + 1) ++ writeField (depth + 1) field ++ rest) =
            some (field, rest) := by
        intro field member rest ends
        have short := length_le_joined (lineAt (depth + 1)) (writeField (depth + 1)) member
        apply field?_writeField
        rw [List.cons_append, ← List.singleton_append,
          value?_blanks (List.all_eq_true.mp (by decide))]
        apply each field member _ ends
        simp only [List.length_cons, List.length_append] at fits
        simp only [writeField, List.length_append] at short
        omega
      have opens : ∃ c t, writeField (depth + 1) first = c :: t ∧ isBlank c = false ∧
          c ≠ '\x7d' := ⟨'"', _, rfl, rfl, by decide⟩
      have enclosed := enclosed?_joined depth (by decide) rfl blank_of_mem_lineAt
        opens read rest
      rw [List.cons_append, List.append_assoc, List.singleton_append, value?_object, enclosed]
      rfl

/-- A printed document is read as what was printed. -/
theorem read?_document (json : Json) : read? json.document = some json := by
  have read : value? json.document.length (json.document ++ []) = some (json, []) :=
    value?_write json (Nat.le_refl _) rfl
  rw [List.append_nil] at read
  rw [read?, read]
  rfl

end Json
end OrphanFiles
