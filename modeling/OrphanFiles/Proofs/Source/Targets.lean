import OrphanFiles.Proofs.Source.ImportForms

/-! Import targets as parts of the text. A module is found as it stands between its
quotes. Taking a script ending off leaves a front part of it, except that a newline
behind the ending is kept and then closes the gap. So a target is a relative module,
unless the module it comes from is nothing but the ending that is taken off. -/
namespace OrphanFiles
namespace Text

theorem cutEnding_prefix {endings : List Text} {t : Text} (line : '\n' ∉ cutEnding endings t) :
    cutEnding endings t <+: t := by
  unfold cutEnding at line ⊢
  split
  · exact List.prefix_refl t
  · rename_i ending found
    rw [found] at line
    by_cases broken : t.getLast? = some '\n'
    · have kept : t.drop t.dropLast.length = ['\n'] := by
        obtain ⟨body, same⟩ := List.getLast?_eq_some_iff.mp broken
        rw [same]
        simp
      apply absurd _ line
      simp only [withoutFinalNewline, if_pos broken, kept]
      exact List.mem_append_right _ List.mem_cons_self
    · simp only [withoutFinalNewline, if_neg broken, List.drop_length, List.append_nil]
      exact List.take_prefix _ t

end Text

namespace Source

/-- Whether what a form yields stands in the text as it is. -/
def Form.Quotes (form : Form Text) : Prop :=
  ∀ {t a rest}, form.read? t = some (a, rest) → a <:+: t

theorem Form.Quotes.infix_of_mem_scan {form : Form Text} (quotes : form.Quotes) {t a : Text}
    (member : a ∈ form.scan t) : a <:+: t := by
  obtain ⟨s, rest, inside, read⟩ := Form.exists_read?_of_mem_scan member
  exact (quotes read).trans inside.isInfix

theorem infix_of_quoted? {quotes t inner rest : Text}
    (h : quoted? quotes t = some (inner, rest)) : inner <:+: t := by
  obtain ⟨opening, _, closing, _, _, _, same⟩ := quoted?_eq_some h
  exact ⟨[opening], closing :: rest, by rw [same]; simp⟩

theorem staticImport_quotes : staticImport.Quotes := by
  intro t a rest read
  obtain ⟨middle, tail, quoted⟩ := exists_quoted?_of_staticImport? read
  exact (infix_of_quoted? quoted).trans tail.isInfix

theorem moduleCall_quotes (head : Text) : (moduleCall head).Quotes := by
  intro t a rest read
  obtain ⟨middle, stripped, ended⟩ := Option.bind_eq_some_iff.mp read
  obtain ⟨_, found, closed⟩ := Option.bind_eq_some_iff.mp ended
  obtain ⟨_, _, same⟩ := Option.map_eq_some_iff.mp closed
  have inner := infix_of_quoted? found
  rw [congrArg Prod.fst same] at inner
  exact inner.trans (Text.suffix_of_strip? stripped).isInfix

theorem infix_of_mem_importedModules {t written : Text} (member : written ∈ importedModules t) :
    written <:+: t := by
  rw [importedModules, List.mem_append, List.mem_append] at member
  rcases member with (static | dynamic) | required
  · exact Form.Quotes.infix_of_mem_scan staticImport_quotes static
  · exact Form.Quotes.infix_of_mem_scan (moduleCall_quotes _) dynamic
  · exact Form.Quotes.infix_of_mem_scan (moduleCall_quotes _) required

/-- A target without a newline stands in the text, cut or not. -/
theorem infix_of_mem_importTargets {t target : Text} (member : target ∈ importTargets t)
    (line : '\n' ∉ target) : target <:+: t := by
  obtain ⟨written, found, _, same | cut⟩ := mem_importTargets.mp member
  · exact same ▸ infix_of_mem_importedModules found
  · rw [cut] at line ⊢
    exact (Text.cutEnding_prefix line).isInfix.trans (infix_of_mem_importedModules found)

/-- What is left of a module that is nothing but a script ending. -/
def IsBareRest (t target : Text) : Prop :=
  (target = [] ∨ target = ['\n']) ∧
    ∃ ending ∈ Convention.scriptEndings, ending ++ target ∈ importedModules t

theorem not_isRelativeModule_of_line {line : Text} (ends : line = [] ∨ line = ['\n']) :
    ¬ IsRelativeModule line := by
  rintro ⟨_, _, dotted⟩
  rcases ends with rfl | rfl
  · exact absurd dotted (by decide)
  · exact absurd dotted (by decide)

/-- The dot in front of a module stays, unless it is the dot of the ending. -/
theorem IsRelativeModule.of_loses {endings : List Text} {origin cut : Text}
    (relative : IsRelativeModule origin) (loses : Text.Loses endings origin cut) :
    (∀ c ∈ cut, c ∉ importQuotes) ∧
      (IsRelativeModule cut ∨
        (cut = [] ∨ cut = ['\n']) ∧ ∃ ending ∈ endings, ending ++ cut = origin) := by
  obtain ⟨body, ending, known, line, ends, rfl, rfl⟩ := loses
  have plain : ∀ c ∈ body ++ line, c ∉ importQuotes := by
    intro c member
    apply relative.2.1 c
    rcases List.mem_append.mp member with early | late
    · exact List.mem_append_left _ (List.mem_append_left _ early)
    · exact List.mem_append_right _ late
  refine ⟨plain, ?_⟩
  cases body with
  | nil => exact Or.inr ⟨ends, ending, known, rfl⟩
  | cons c body => exact Or.inl ⟨List.cons_ne_nil _ _, plain, relative.2.2⟩

theorem plain_of_mem_importTargets {t target : Text} (member : target ∈ importTargets t) :
    (∀ c ∈ target, c ∉ importQuotes) ∧ (IsRelativeModule target ∨ IsBareRest t target) := by
  obtain ⟨origin, found, dotted, shape⟩ := mem_importTargets.mp member
  have relative := (isRelativeModule_iff found).mpr dotted
  rcases (Text.eq_or_cutEnding_iff Convention.isExtension_of_mem_scriptEndings).mp shape with
    rfl | loses
  · exact ⟨relative.2.1, Or.inl relative⟩
  · obtain ⟨plain, still | ⟨ends, ending, known, rfl⟩⟩ := relative.of_loses loses
    · exact ⟨plain, Or.inl still⟩
    · exact ⟨plain, Or.inr ⟨ends, ending, known, found⟩⟩

theorem IsBareRest.mem {t target : Text} (rest : IsBareRest t target) :
    target ∈ importTargets t := by
  obtain ⟨ends, ending, known, found⟩ := rest
  have dots : ∀ ending ∈ Convention.scriptEndings, ending.head? = some '.' := by decide
  have dotted : isRelative (ending ++ target) = true := by
    rw [isRelative, decide_eq_true_eq, List.head?_append, dots ending known, Option.some_or]
  have loses : Text.Loses Convention.scriptEndings (ending ++ target) target :=
    ⟨[], ending, known, target, ends, rfl, rfl⟩
  have cut := Text.cutEnding_of_loses Convention.isExtension_of_mem_scriptEndings loses
  exact mem_importTargets.mpr ⟨_, found, dotted, Or.inr cut.symm⟩

/-- The modules that count are relative, and no target holds a quote. The targets that are not
relative are what is left of a bare ending. -/
theorem importTargets_relative (t : Text) :
    (∀ origin ∈ importedModules t, isRelative origin = true → IsRelativeModule origin) ∧
    (∀ target ∈ importTargets t, ∀ c ∈ target, c ∉ importQuotes) ∧
    ∀ target, target ∈ importTargets t ∧ ¬ IsRelativeModule target ↔ IsBareRest t target := by
  refine ⟨?_, ?_, fun target => ⟨?_, ?_⟩⟩
  · intro origin found
    exact (isRelativeModule_iff found).mpr
  · intro target member
    exact (plain_of_mem_importTargets member).1
  · rintro ⟨member, other⟩
    exact (plain_of_mem_importTargets member).2.resolve_left other
  · intro rest
    exact ⟨rest.mem, not_isRelativeModule_of_line rest.1⟩

def newlineImport : Text := "require('.ts\n')".toList

/-- The newline behind a bare ending is a target. -/
theorem newline_is_target :
    ".ts\n".toList ∈ importedModules newlineImport ∧ IsRelativeModule ".ts\n".toList ∧
      ['\n'] ∈ importTargets newlineImport ∧ (∀ c ∈ ['\n'], c ∉ importQuotes) ∧
        ¬ IsRelativeModule ['\n'] := by
  have found : ".ts\n".toList ∈ importedModules newlineImport := by decide +kernel
  obtain ⟨relative, plain, bare⟩ := importTargets_relative newlineImport
  obtain ⟨member, other⟩ := (bare ['\n']).mpr ⟨Or.inr rfl, ".ts".toList, by decide, found⟩
  exact ⟨found, relative _ found (by decide), member, plain _ member, other⟩

/-- A bare ending leaves nothing, and that is a target as well. -/
theorem empty_is_target : ¬ ∀ t, ∀ target ∈ importTargets t, IsRelativeModule target := by
  intro relative
  have found : ".js".toList ∈ importedModules "import('.js')".toList := by decide +kernel
  have member : [] ∈ importTargets "import('.js')".toList :=
    mem_importTargets.mpr ⟨".js".toList, found, by decide, Or.inr (by decide)⟩
  exact (relative _ _ member).1 rfl

end Source
end OrphanFiles
