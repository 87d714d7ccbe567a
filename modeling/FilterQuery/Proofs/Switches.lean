import FilterQuery.Invocation.Parse
import FilterQuery.Proofs.Results

/-!
# Switches that ask for nothing

Four switches say how an outcome is to be presented. A command line that is accepted asks
for the same without them (`parse_bareWords`). The two readings go in step, but for one
thing: a switch has what stands before it judged, and where the switch is missing that is
judged later, by whatever comes next or by the end of the scope (`Level.Lags`).
-/

namespace FilterQuery

/-- The word is a switch, or some of them in one word, for the presentation only. -/
def Word.isPresentation : Word → Bool
  | .long name none => name = "verbose" || name = "quiet" || name = "json" || name = "no-color"
  | .short letters => letters.all fun letter => letter = 'v' || letter = 'q'
  | _ => false

/-- A command line without its switches for the presentation. Where the options have ended
a word that looks like one is an operand. -/
def bareWords : List String → List String
  | [] => []
  | word :: words =>
    if Word.ofString word = .separator then word :: words
    else if (Word.ofString word).isPresentation then bareWords words
    else word :: bareWords words

/-- What is asked for, but for the presentation. -/
def Invocation.bare (inv : Invocation) : Invocation :=
  { inv with verbose := false, quiet := false, json := false, noColor := false }

namespace Level

variable {level level' late m : Level}

/-- What has been read, but for the presentation. -/
def bare (level : Level) : Level :=
  { level with flags := level.flags.filter (· = .force) }

@[simp] theorem has_force_bare (level : Level) : level.bare.has .force = level.has .force := by
  simp [has, bare]

theorem has_bare_of_ne {flag : Flag} (h : flag ≠ .force) (level : Level) :
    level.bare.has flag = false := by
  simp [has, bare, h]

/-- Judging puts what was pending in its place. -/
theorem exists_of_resolve (h : level.resolve = .ok m) :
    ∃ settings operand, m = { level with settings, operand, pending := none } := by
  unfold resolve at h
  split at h
  next hpending =>
    cases h
    exact ⟨level.settings, level.operand, by rw [← hpending]⟩
  · cases h
  · split at h
    · cases h
    split at h
    · cases h
    · cases h
      exact ⟨_, _, rfl⟩
  · split at h
    · cases h
      exact ⟨_, _, rfl⟩
    · cases h

theorem awaitsValue_of_resolve (h : level.resolve = .ok m) : level.awaitsValue = false := by
  cases hawaits : level.awaitsValue with
  | false => rfl
  | true =>
    have hpending : level.pending = some (.settings none) := by simpa [awaitsValue] using hawaits
    simp [resolve, hpending] at h

/-- Judging looks neither at the flags nor at whether options have ended. -/
theorem resolve_with (h : level.resolve = .ok m) (flags : List Flag) (trailing : Bool) :
    { level with flags, trailing }.resolve = .ok { m with flags, trailing } := by
  unfold resolve at h ⊢
  split at h
  next hpending =>
    cases h
    simp [hpending]
  · cases h
  next path hpending =>
    split at h
    · cases h
    next hsettings =>
    split at h
    · cases h
    next hpath =>
    cases h
    simp [hpending, hsettings, hpath]
  next word hpending =>
    split at h
    next haccepts =>
      cases h
      simp [hpending, haccepts]
    · cases h

theorem resolve_bare (h : level.resolve = .ok m) : level.bare.resolve = .ok m.bare := by
  obtain ⟨settings, operand, rfl⟩ := exists_of_resolve h
  exact resolve_with h _ level.trailing

/-! ## Flags -/

/-- A switch for the help or the version ends the reading. -/
theorem exists_flag_of_switch {s : Switch} (h : level.switch s = .ok level') :
    ∃ flag, s = .flag flag := by
  obtain ⟨m, -, h⟩ := Except.exists_of_bind_eq_ok h
  cases s with
  | flag flag => exact ⟨flag, rfl⟩
  | help => cases h
  | version => cases h

theorem flag_of_letter {letter : Char} {flag : Flag}
    (h : Scope.switchByLetter? letter = some (.flag flag)) :
    (letter = 'v' || letter = 'q') ∧ flag ≠ .force := by
  unfold Scope.switchByLetter? at h
  split at h <;> cases h
  · exact ⟨rfl, by decide⟩
  · exact ⟨rfl, by decide⟩

theorem isPresentation_long {scope : Scope} {name : String} {flag : Flag}
    (h : scope.switchByName? name = some (.flag flag)) :
    (Word.long name none).isPresentation = decide (flag ≠ .force) := by
  unfold Scope.switchByName? at h
  split at h
  case h_5 =>
    split at h
    case isTrue => cases h; rfl
    case isFalse => cases h
  all_goals cases h <;> rfl

/-! ## The end of the options -/

theorem trailing_of_resolve (h : level.resolve = .ok m) : m.trailing = level.trailing := by
  obtain ⟨settings, operand, rfl⟩ := exists_of_resolve h
  rfl

theorem trailing_of_switch {s : Switch} (h : level.switch s = .ok level') :
    level'.trailing = level.trailing := by
  obtain ⟨m, hm, h⟩ := Except.exists_of_bind_eq_ok h
  cases s with
  | help => cases h
  | version => cases h
  | flag flag =>
    dsimp only at h
    split at h <;> cases h
    exact (trailing_of_resolve hm :)

theorem trailing_of_short {letters : List Char} (h : level.short letters = .ok level') :
    level'.trailing = level.trailing := by
  induction letters generalizing level with
  | nil =>
    cases h
    rfl
  | cons letter letters ih =>
    unfold short at h
    split at h
    · obtain ⟨m, hm, h⟩ := Except.exists_of_bind_eq_ok h
      exact (ih h).trans (trailing_of_switch hm)
    · cases h

theorem trailing_of_long {name : String} {value : Option String}
    (h : level.long name value = .ok level') : level'.trailing = level.trailing := by
  unfold long at h
  split at h
  · obtain ⟨m, hm, h⟩ := Except.exists_of_bind_eq_ok h
    cases value with
    | none =>
      cases h
      exact (trailing_of_resolve hm :)
    | some path =>
      have hvalue : { m with pending := some (.settings (some path)) }.resolve = .ok level' := h
      exact (trailing_of_resolve hvalue).trans (trailing_of_resolve hm :)
  · split at h
    · cases h
    · cases h
    · exact trailing_of_switch h

theorem trailing_of_plain {word : String} (h : level.plain word = .ok level') :
    level'.trailing = level.trailing := by
  unfold plain at h
  split at h
  · cases h
    rfl
  split at h
  · obtain ⟨m, hm, h⟩ := Except.exists_of_bind_eq_ok h
    cases h
    exact (trailing_of_resolve hm :)
  · split at h <;> cases h

/-- Only two dashes alone end the options. -/
theorem trailing_of_take {word : String} (h : level.take word = .ok level')
    (hword : Word.ofString word ≠ .separator) : level'.trailing = level.trailing := by
  unfold take at h
  split at h
  · exact trailing_of_plain h
  split at h
  next hform => exact absurd hform hword
  · exact trailing_of_long h
  · exact trailing_of_short h
  · exact trailing_of_plain h

theorem trailing_of_separator {word : String} (h : level.take word = .ok level')
    (hword : Word.ofString word = .separator) : level'.trailing = true := by
  unfold take at h
  split at h
  next htrailing => rw [trailing_of_plain h, htrailing]
  · rw [hword] at h
    cases h
    rfl

/-! ## Two readings -/

/-- Without the switches the same has been read, and what is pending may be judged later. -/
def Lags (late level : Level) : Prop :=
  late = level.bare ∨ late.resolve = .ok level.bare

theorem lags_initial (scope : Scope) : (initial scope).Lags (initial scope) :=
  .inl rfl

namespace Lags

theorem resolve (h : late.Lags level) (hm : level.resolve = .ok m) :
    late.resolve = .ok m.bare := by
  rcases h with rfl | hlate
  · exact resolve_bare hm
  · obtain ⟨settings, operand, heq⟩ := exists_of_resolve hlate
    have hpending : level.pending = none := congrArg pending heq
    obtain rfl : level = m := by simpa [Level.resolve, hpending] using hm
    exact hlate

theorem exists_eq (h : late.Lags level) :
    ∃ settings operand pending, late = { level.bare with settings, operand, pending } := by
  rcases h with rfl | hlate
  · exact ⟨_, _, _, rfl⟩
  · obtain ⟨settings, operand, heq⟩ := exists_of_resolve hlate
    rw [heq]
    exact ⟨late.settings, late.operand, late.pending, rfl⟩

theorem scope_eq (h : late.Lags level) : late.scope = level.scope := by
  obtain ⟨settings, operand, pending, rfl⟩ := h.exists_eq
  rfl

theorem hasOperand_eq (h : late.Lags level) : late.hasOperand = level.hasOperand := by
  obtain ⟨settings, operand, pending, rfl⟩ := h.exists_eq
  rfl

theorem trailing_eq (h : late.Lags level) : late.trailing = level.trailing := by
  obtain ⟨settings, operand, pending, rfl⟩ := h.exists_eq
  rfl

/-- What waits for its value cannot be judged. -/
theorem awaitsValue_eq (h : late.Lags level) : late.awaitsValue = level.awaitsValue := by
  rcases h with rfl | hlate
  · rfl
  · obtain ⟨settings, operand, heq⟩ := exists_of_resolve hlate
    have hpending : level.pending = none := congrArg pending heq
    rw [awaitsValue_of_resolve hlate, awaitsValue, hpending]
    rfl

/-! ### Words that stay -/

theorem plain {word : String} (h : late.Lags level) (hok : level.plain word = .ok level') :
    ∃ late', late.plain word = .ok late' ∧ late'.Lags level' := by
  unfold Level.plain at hok ⊢
  rw [h.awaitsValue_eq, h.trailing_eq, h.scope_eq, h.hasOperand_eq]
  split at hok
  next hvalue =>
    cases hok
    rcases h with rfl | hlate
    · exact ⟨_, if_pos hvalue, .inl rfl⟩
    · have := awaitsValue_of_resolve hlate
      rw [Lags.awaitsValue_eq (.inr hlate), hvalue.1] at this
      cases this
  next hvalue =>
  rw [if_neg hvalue]
  split at hok
  next hoperand =>
    obtain ⟨m, hm, hok⟩ := Except.exists_of_bind_eq_ok hok
    cases hok
    rw [if_pos hoperand, h.resolve hm]
    exact ⟨_, rfl, .inl rfl⟩
  · split at hok <;> cases hok

theorem switch_force (h : late.Lags level) (hok : level.switch (.flag .force) = .ok level') :
    late.switch (.flag .force) = .ok level'.bare := by
  unfold switch at hok ⊢
  obtain ⟨m, hm, hok⟩ := Except.exists_of_bind_eq_ok hok
  rw [h.resolve hm]
  dsimp only at hok
  split at hok
  · cases hok
  next hflag =>
    cases hok
    show (if m.bare.has .force then _ else _) = _
    rw [has_force_bare, if_neg hflag]
    rfl

/-- The path of the settings is given; it is judged at once if it is given in one word. -/
theorem long_settings {value : Option String} (h : late.Lags level)
    (hok : level.long Scope.settingsOption value = .ok level') :
    late.long Scope.settingsOption value = .ok level'.bare := by
  unfold Level.long at hok ⊢
  rw [if_pos rfl] at hok ⊢
  obtain ⟨m, hm, hok⟩ := Except.exists_of_bind_eq_ok hok
  rw [h.resolve hm]
  cases value with
  | none =>
    cases hok
    rfl
  | some path =>
    have hresolve : { m with pending := some (.settings (some path)) }.resolve = .ok level' := hok
    exact resolve_bare hresolve

theorem trailing (h : late.Lags level) :
    { late with trailing := true }.Lags { level with trailing := true } := by
  rcases h with rfl | hlate
  · exact .inl rfl
  · have hflags : late.flags = level.bare.flags := by
      obtain ⟨settings, operand, pending, heq⟩ := Lags.exists_eq (.inr hlate)
      rw [heq]
    refine .inr ((resolve_with hlate late.flags true).trans ?_)
    rw [hflags]
    rfl

/-! ### Switches -/

theorem of_switch {flag : Flag} (hflag : flag ≠ .force) (h : late.Lags level)
    (hok : level.switch (.flag flag) = .ok level') : late.Lags level' := by
  unfold switch at hok
  obtain ⟨m, hm, hok⟩ := Except.exists_of_bind_eq_ok hok
  dsimp only at hok
  split at hok
  · cases hok
  · cases hok
    have hbare : { m with flags := flag :: m.flags }.bare = m.bare := by simp [bare, hflag]
    exact .inr (hbare ▸ h.resolve hm)

theorem of_short {letters : List Char} (h : late.Lags level)
    (hok : level.short letters = .ok level') :
    (Word.short letters).isPresentation ∧ late.Lags level' := by
  induction letters generalizing level with
  | nil =>
    cases hok
    exact ⟨rfl, h⟩
  | cons letter letters ih =>
    unfold Level.short at hok
    split at hok
    next s hs =>
      obtain ⟨m, hm, hrest⟩ := Except.exists_of_bind_eq_ok hok
      obtain ⟨flag, rfl⟩ := exists_flag_of_switch hm
      obtain ⟨hletter, hflag⟩ := flag_of_letter hs
      obtain ⟨hletters, hlags⟩ := ih (h.of_switch hflag hm) hrest
      refine ⟨?_, hlags⟩
      rw [Word.isPresentation, List.all_cons, Bool.and_eq_true]
      exact ⟨hletter, hletters⟩
    · cases hok

/-- An option by name is a switch for the presentation, or is there in both readings. -/
theorem of_long {name : String} {value : Option String} (h : late.Lags level)
    (hok : level.long name value = .ok level') :
    (Word.long name value).isPresentation ∧ late.Lags level' ∨
      (Word.long name value).isPresentation = false ∧
        late.long name value = .ok level'.bare := by
  by_cases hname : name = Scope.settingsOption
  · subst hname
    refine .inr ⟨?_, h.long_settings hok⟩
    cases value <;> rfl
  unfold Level.long at hok ⊢
  rw [if_neg hname] at hok ⊢
  rw [h.scope_eq]
  split at hok
  · cases hok
  · cases hok
  next s hs =>
    obtain ⟨flag, rfl⟩ := exists_flag_of_switch hok
    rw [isPresentation_long hs]
    by_cases hflag : flag = .force
    · subst hflag
      exact .inr ⟨rfl, h.switch_force hok⟩
    · exact .inl ⟨by simpa using hflag, h.of_switch hflag hok⟩

end Lags

/-! ## Scopes -/

/-- What one word does to the two readings. -/
theorem Lags.take {word : String} (h : late.Lags level) (htrailing : level.trailing = false)
    (hok : level.take word = .ok level') :
    (Word.ofString word).isPresentation ∧ late.Lags level' ∨
      (Word.ofString word).isPresentation = false ∧
        ∃ late', late.take word = .ok late' ∧ late'.Lags level' := by
  unfold Level.take at hok ⊢
  rw [h.trailing_eq]
  rw [if_neg (by simp [htrailing])] at hok ⊢
  cases hform : Word.ofString word with
  | separator =>
    rw [hform] at hok
    cases hok
    exact .inr ⟨rfl, _, rfl, h.trailing⟩
  | long name value =>
    rw [hform] at hok
    rcases h.of_long hok with ⟨hswitch, hlags⟩ | ⟨hkept, hlong⟩
    · exact .inl ⟨hswitch, hlags⟩
    · exact .inr ⟨hkept, _, hlong, .inl rfl⟩
  | short letters =>
    rw [hform] at hok
    exact .inl (h.of_short hok)
  | plain =>
    rw [hform] at hok
    exact .inr ⟨rfl, h.plain hok⟩

/-- A scope is judged alike in both readings. -/
theorem Lags.check {environmentPath : Option String} (h : late.Lags level)
    (hok : level.check environmentPath = .ok m) : late.check environmentPath = .ok m.bare := by
  unfold Level.check at hok ⊢
  obtain ⟨m', hm, hok⟩ := Except.exists_of_bind_eq_ok hok
  rw [h.resolve hm]
  split at hok
  · cases hok
  next hpath =>
  split at hok
  · cases hok
  · cases hok
    have hconflict : ¬(m.bare.has .quiet = true ∧ m.bare.has .verbose = true) := by
      simp [has_bare_of_ne]
    exact (if_neg hpath).trans (if_neg hconflict)

theorem command_bare (level : Level) : level.bare.command = level.command := by
  unfold command
  rw [has_force_bare]
  rfl

theorem around_bare (level : Level) (inner : Invocation) :
    level.bare.around inner.bare = (level.around inner).bare := by
  simp only [around, has_bare_of_ne, ne_eq, reduceCtorEq, not_false_eq_true]
  rfl

variable {environmentPath : Option String} {words : List String} {inv : Invocation}

theorem Lags.read_nil (h : late.Lags level) (hok : level.read environmentPath [] = .ok inv) :
    late.read environmentPath [] = .ok inv.bare := by
  unfold Level.read at hok ⊢
  obtain ⟨m, hm, hok⟩ := Except.exists_of_bind_eq_ok hok
  obtain ⟨command, hcommand, hok⟩ := Except.exists_of_bind_eq_ok hok
  cases hok
  rw [h.check hm]
  show m.bare.command >>= _ = _
  rw [command_bare, hcommand]
  exact congrArg Except.ok (around_bare m (Invocation.plain command))

/-- Behind the end of the options every word stays. -/
theorem Lags.read_of_trailing (h : late.Lags level) (htrailing : level.trailing = true)
    (hok : level.read environmentPath words = .ok inv) :
    late.read environmentPath words = .ok inv.bare := by
  induction words generalizing level late with
  | nil => exact h.read_nil hok
  | cons word words ih =>
    unfold Level.read at hok ⊢
    rw [if_neg (by simp [expectsCommand, htrailing])] at hok
    rw [if_neg (by simp [expectsCommand, h.trailing_eq, htrailing])]
    obtain ⟨m, hm, hrest⟩ := Except.exists_of_bind_eq_ok hok
    unfold Level.take at hm ⊢
    rw [if_pos htrailing] at hm
    rw [if_pos (h.trailing_eq.trans htrailing)]
    obtain ⟨late', hlate', hlags⟩ := h.plain hm
    rw [hlate']
    exact ih hlags ((trailing_of_plain hm).trans htrailing) hrest

theorem ofString_of_lookup {scope inner : Scope} {word : String}
    (h : scope.commands.lookup word = some inner) : Word.ofString word = .plain := by
  obtain ⟨before, behind, hcommands, -⟩ := List.lookup_eq_some_iff.mp h
  have hmem : (word, inner) ∈ scope.commands := by simp [hcommands]
  have hplain : ∀ c ∈ scope.commands, Word.ofString c.1 = .plain := by
    cases scope <;> decide
  exact hplain _ hmem

/-- The scope is read alike in both readings. -/
theorem Lags.read (h : late.Lags level) (htrailing : level.trailing = false)
    (hok : level.read environmentPath words = .ok inv) :
    late.read environmentPath (bareWords words) = .ok inv.bare := by
  induction words generalizing level late inv with
  | nil => exact h.read_nil hok
  | cons word words ih =>
    have hexpects : late.expectsCommand = level.expectsCommand := by
      rw [expectsCommand, expectsCommand, h.trailing_eq, h.awaitsValue_eq]
    unfold Level.read at hok
    split at hok
    next hcommand =>
      split at hok
      · cases hok
      next scope hscope =>
      have hform := ofString_of_lookup hscope
      obtain ⟨inner, hinner, hok⟩ := Except.exists_of_bind_eq_ok hok
      obtain ⟨m, hm, hok⟩ := Except.exists_of_bind_eq_ok hok
      cases hok
      have hbare : bareWords (word :: words) = word :: bareWords words := by
        rw [bareWords, hform]
        rfl
      have hinner' : (initial scope).read environmentPath (bareWords words) = .ok inner.bare :=
        ih (lags_initial scope) rfl hinner
      rw [hbare, Level.read, hexpects, h.scope_eq, if_pos hcommand, hscope]
      dsimp only
      rw [hinner', h.check hm]
      exact congrArg Except.ok (around_bare m inner)
    next hcommand =>
      obtain ⟨level₁, htake, hrest⟩ := Except.exists_of_bind_eq_ok hok
      have hstep {late₁ : Level} (hlate₁ : late.take word = .ok late₁) (words' : List String) :
          late.read environmentPath (word :: words') = late₁.read environmentPath words' := by
        rw [Level.read, hexpects, h.scope_eq, if_neg hcommand, hlate₁]
        rfl
      rcases h.take htrailing htake with ⟨hswitch, hlags⟩ | ⟨hkept, late₁, hlate₁, hlags⟩
      -- a switch: the other reading does not go on, and what it has pending waits
      · have hword : Word.ofString word ≠ .separator := by
          intro hform
          rw [hform] at hswitch
          cases hswitch
        rw [bareWords, if_neg hword, if_pos hswitch]
        exact ih hlags ((trailing_of_take htake hword).trans htrailing) hrest
      by_cases hword : Word.ofString word = .separator
      -- behind two dashes the words are the same, and so is what they are taken for
      · rw [bareWords, if_pos hword, hstep hlate₁]
        exact hlags.read_of_trailing (trailing_of_separator htake hword) hrest
      · rw [bareWords, if_neg hword, if_neg (by simp [hkept]), hstep hlate₁]
        exact ih hlags ((trailing_of_take htake hword).trans htrailing) hrest

end Level

example : bareWords ["-v", "check", "--json", "--", "-q"] = ["check", "--", "-q"] := by decide

end FilterQuery
