import FilterQuery.Proofs.Switches

/-!
# The sections of a command line

Each command on a command line begins a section: the words behind it are read in its scope,
up to the next command. Within a section a flag is turned on by name or by letter, alone or
with other letters in one word, and only before the options end. Reading a section word by
word turns on what its words say (`Level.takes_take`), each section is judged by itself, and
a flag is on if any section turns it on (`Level.settles_read`). So the flags that exclude
each other do so within a section and not across sections.
-/

namespace FilterQuery

/-- The name of the option for a flag. -/
def Flag.name : Flag → String
  | verbose => "verbose"
  | quiet => "quiet"
  | json => "json"
  | noColor => "no-color"
  | force => "force"

/-- The letter of the option, if it has one. -/
def Flag.letter? : Flag → Option Char
  | verbose => some 'v'
  | quiet => some 'q'
  | _ => none

/-- The word turns the flag on. -/
def Word.turnsOn (flag : Flag) : Word → Bool
  | .long name none => name = flag.name
  | .short letters => letters.any fun letter => flag.letter? = some letter
  | _ => false

@[simp] theorem Word.turnsOn_plain (flag : Flag) : Word.plain.turnsOn flag = false :=
  rfl

/-- One of the words of a section turns the flag on, before the options end. -/
def Flag.givenIn (flag : Flag) (words : List String) : Bool :=
  (words.takeWhile fun word => Word.ofString word ≠ .separator).any fun word =>
    (Word.ofString word).turnsOn flag

/-- The words of a scope, and those of each scope inside it, without the words that open the
scopes. The first word may be the value that an option waits for. -/
def Scope.sections (scope : Scope) (awaits : Bool) :
    List String → List String × List (List String)
  | [] => ([], [])
  | word :: words =>
    if Word.ofString word = .separator then (word :: words, [])
    else
      match if awaits then none else scope.commands.lookup word with
      | some inner =>
        let (own, deeper) := inner.sections false words
        ([], own :: deeper)
      | none =>
        let awaits := Word.ofString word = .long settingsOption none
        let (own, deeper) := scope.sections awaits words
        (word :: own, deeper)

/-- The sections of a command line. The first one belongs to the program. -/
def sections (words : List String) : List (List String) :=
  let (own, deeper) := Scope.program.sections false words
  own :: deeper

example : sections ["-q", "--config", "check", "config", "-v", "show", "--", "-q"] =
    [["-q", "--config", "check"], ["-v"], ["--", "-q"]] := by decide

/-- A flag for the program as a whole is on. -/
def Invocation.has (inv : Invocation) : Flag → Bool
  | .verbose => inv.verbose
  | .quiet => inv.quiet
  | .json => inv.json
  | .noColor => inv.noColor
  | .force => false

namespace Flag

variable {flag : Flag} {word : String} {words : List String}

@[simp] theorem givenIn_nil (flag : Flag) : flag.givenIn [] = false :=
  rfl

theorem givenIn_separator (h : Word.ofString word = .separator) :
    flag.givenIn (word :: words) = false := by
  rw [givenIn, List.takeWhile_cons_of_neg (by simp [h])]
  rfl

theorem givenIn_cons (h : Word.ofString word ≠ .separator) :
    flag.givenIn (word :: words) =
      ((Word.ofString word).turnsOn flag || flag.givenIn words) := by
  rw [givenIn, List.takeWhile_cons_of_pos (by simp [h])]
  rfl

end Flag

namespace Scope

variable {scope inner : Scope} {awaits : Bool} {word : String} {words : List String}

theorem sections_separator (h : Word.ofString word = .separator) :
    scope.sections awaits (word :: words) = (word :: words, []) := by
  rw [sections, if_pos h]

theorem sections_command (h : scope.commands.lookup word = some inner) :
    scope.sections false (word :: words) =
      ([], (inner.sections false words).1 :: (inner.sections false words).2) := by
  have hform := Level.ofString_of_lookup h
  rw [sections, if_neg (by simp [hform]), if_neg (by simp), h]

theorem sections_word (h : Word.ofString word ≠ .separator)
    (hword : awaits = true ∨ scope.commands.lookup word = none) :
    scope.sections awaits (word :: words) =
      (word :: (scope.sections (Word.ofString word = .long settingsOption none) words).1,
        (scope.sections (Word.ofString word = .long settingsOption none) words).2) := by
  have hnone : (if awaits then none else scope.commands.lookup word) = none := by
    rcases hword with rfl | hlookup
    · exact if_pos rfl
    · rw [hlookup, ite_self]
  rw [sections, if_neg h, hnone]

end Scope

namespace Level

variable {level level' m : Level} {word : String} {words : List String}
  {environmentPath : Option String} {inv : Invocation}

theorem has_resolve (h : level.resolve = .ok m) (flag : Flag) : m.has flag = level.has flag := by
  obtain ⟨settings, operand, rfl⟩ := exists_of_resolve h
  rfl

/-! ## One word -/

/-- What a word does to a scope that takes it up. -/
structure Takes (level level' : Level) (w : Word) : Prop where
  scope_eq : level'.scope = level.scope
  has_eq : ∀ flag, level'.has flag = (level.has flag || w.turnsOn flag)
  awaits_eq : level'.awaitsValue = decide (w = .long Scope.settingsOption none)

/-- Judging what is pending takes up nothing. -/
theorem takes_resolve (h : level.resolve = .ok m) : Takes level m .plain := by
  obtain ⟨settings, operand, rfl⟩ := exists_of_resolve h
  refine ⟨rfl, fun flag => ?_, rfl⟩
  rw [Word.turnsOn_plain, Bool.or_false]
  rfl

/-- Only the switch's own flag is turned on. -/
theorem takes_switch {flag₁ : Flag} {w : Word} (h : level.switch (.flag flag₁) = .ok level')
    (hturns : ∀ flag, w.turnsOn flag = decide (flag = flag₁))
    (hw : w ≠ .long Scope.settingsOption none) : Takes level level' w := by
  obtain ⟨m, hm, h⟩ := Except.exists_of_bind_eq_ok h
  dsimp only at h
  split at h
  · cases h
  cases h
  have hresolve := takes_resolve hm
  refine ⟨hresolve.scope_eq, fun flag => ?_, ?_⟩
  · rw [hturns, ← has_resolve hm, Bool.or_comm]
    simp [has]
  · rw [decide_eq_false hw]
    exact hresolve.awaits_eq

theorem letter?_eq_iff {letter : Char} {flag₁ : Flag}
    (h : Scope.switchByLetter? letter = some (.flag flag₁)) (flag : Flag) :
    flag.letter? = some letter ↔ flag = flag₁ := by
  unfold Scope.switchByLetter? at h
  split at h <;> cases h <;> cases flag <;> decide

theorem name_eq_iff {scope : Scope} {name : String} {flag₁ : Flag}
    (h : scope.switchByName? name = some (.flag flag₁)) (flag : Flag) :
    name = flag.name ↔ flag = flag₁ := by
  unfold Scope.switchByName? at h
  split at h
  case h_5 =>
    split at h <;> cases h
    cases flag <;> decide
  all_goals cases h <;> cases flag <;> decide

/-- Letters in one word turn on what each of them does. -/
theorem takes_short {letter : Char} {letters : List Char}
    (h : level.short (letter :: letters) = .ok level') :
    Takes level level' (.short (letter :: letters)) := by
  induction letters generalizing letter level with
  | nil =>
    unfold short at h
    split at h
    next s hs =>
      obtain ⟨m, hm, h⟩ := Except.exists_of_bind_eq_ok h
      cases h
      obtain ⟨flag₁, rfl⟩ := exists_flag_of_switch hm
      refine takes_switch hm (fun flag => ?_) (by simp)
      simp [Word.turnsOn, letter?_eq_iff hs]
    · cases h
  | cons next letters ih =>
    unfold short at h
    split at h
    next s hs =>
      obtain ⟨m, hm, hrest⟩ := Except.exists_of_bind_eq_ok h
      obtain ⟨flag₁, rfl⟩ := exists_flag_of_switch hm
      have hfirst : Takes level m (.short [letter]) := by
        refine takes_switch hm (fun flag => ?_) (by simp)
        simp [Word.turnsOn, letter?_eq_iff hs]
      have hletters := ih hrest
      refine ⟨hletters.scope_eq.trans hfirst.scope_eq, fun flag => ?_, hletters.awaits_eq⟩
      rw [hletters.has_eq, hfirst.has_eq, Bool.or_assoc]
      simp [Word.turnsOn]
    · cases h

theorem takes_long {name : String} {value : Option String}
    (h : level.long name value = .ok level') : Takes level level' (.long name value) := by
  unfold long at h
  split at h
  next hname =>
    subst hname
    have hturns (flag : Flag) : (Word.long Scope.settingsOption value).turnsOn flag = false := by
      cases value with
      | none => cases flag <;> rfl
      | some path => rfl
    obtain ⟨m, hm, h⟩ := Except.exists_of_bind_eq_ok h
    have hresolve := takes_resolve hm
    cases value with
    | none =>
      cases h
      refine ⟨hresolve.scope_eq, fun flag => ?_, rfl⟩
      rw [hturns, Bool.or_false]
      exact has_resolve hm flag
    | some path =>
      have hvalue : { m with pending := some (.settings (some path)) }.resolve = .ok level' := h
      have hjudged := takes_resolve hvalue
      refine ⟨hjudged.scope_eq.trans hresolve.scope_eq, fun flag => ?_, ?_⟩
      · rw [hturns, Bool.or_false, has_resolve hvalue, ← has_resolve hm]
        rfl
      · rw [hjudged.awaits_eq]
        rfl
  next hname =>
    split at h
    · cases h
    · cases h
    next s hs =>
      obtain ⟨flag₁, rfl⟩ := exists_flag_of_switch h
      refine takes_switch h (fun flag => ?_) (by simp [hname])
      simp [Word.turnsOn, name_eq_iff hs]

theorem takes_plain (h : level.plain word = .ok level') : Takes level level' .plain := by
  unfold plain at h
  split at h
  · cases h
    exact ⟨rfl, fun flag => (Bool.or_false _).symm, rfl⟩
  split at h
  · obtain ⟨m, hm, h⟩ := Except.exists_of_bind_eq_ok h
    cases h
    have hresolve := takes_resolve hm
    exact ⟨hresolve.scope_eq, hresolve.has_eq, rfl⟩
  · split at h <;> cases h

theorem ofString_ne_short_nil (word : String) : Word.ofString word ≠ .short [] := by
  unfold Word.ofString
  split <;> simp

/-- Before the options end a word does what its form says. -/
theorem takes_take (h : level.take word = .ok level') (htrailing : level.trailing = false)
    (hword : Word.ofString word ≠ .separator) : Takes level level' (Word.ofString word) := by
  unfold take at h
  rw [if_neg (by simp [htrailing])] at h
  cases hform : Word.ofString word with
  | separator => exact absurd hform hword
  | long name value =>
    rw [hform] at h
    exact takes_long h
  | short letters =>
    rw [hform] at h
    cases letters with
    | nil => exact absurd hform (ofString_ne_short_nil word)
    | cons letter letters => exact takes_short h
  | plain =>
    rw [hform] at h
    exact takes_plain h

/-! ## Whole scopes -/

/-- With these words of its own and of the scopes inside it a scope comes to ask for `inv`:
what is on has been turned on somewhere, and nowhere have both the quiet and the verbose. -/
structure Settles (level : Level) (words : List String × List (List String))
    (inv : Invocation) : Prop where
  has_eq : ∀ flag, flag ≠ .force →
    inv.has flag = (level.has flag || flag.givenIn words.1 || words.2.any flag.givenIn)
  own : ¬((level.has .quiet || Flag.quiet.givenIn words.1) = true ∧
    (level.has .verbose || Flag.verbose.givenIn words.1) = true)
  deeper : ∀ other ∈ words.2,
    ¬(Flag.quiet.givenIn other = true ∧ Flag.verbose.givenIn other = true)

theorem has_around {flag : Flag} (h : flag ≠ .force) (level : Level) (inner : Invocation) :
    (level.around inner).has flag = (level.has flag || inner.has flag) := by
  cases flag with
  | force => exact absurd rfl h
  | verbose => rfl
  | quiet => rfl
  | json => rfl
  | noColor => rfl

theorem has_check (h : level.check environmentPath = .ok m) (flag : Flag) :
    m.has flag = level.has flag := by
  obtain ⟨m', hm, h⟩ := Except.exists_of_bind_eq_ok h
  split at h
  · cases h
  split at h
  · cases h
  · cases h
    exact has_resolve hm flag

/-- A scope is judged by what is on in it. -/
theorem not_both_of_check (h : level.check environmentPath = .ok m) :
    ¬(level.has .quiet = true ∧ level.has .verbose = true) := by
  obtain ⟨m', hm, h⟩ := Except.exists_of_bind_eq_ok h
  rw [← has_resolve hm, ← has_resolve hm]
  split at h
  · cases h
  split at h
  next hboth => cases h
  next hboth => exact hboth

theorem settles_nil (h : level.read environmentPath [] = .ok inv) (words : List String)
    (hwords : ∀ flag : Flag, flag.givenIn words = false) : level.Settles (words, []) inv := by
  unfold read at h
  obtain ⟨m, hm, h⟩ := Except.exists_of_bind_eq_ok h
  obtain ⟨command, -, h⟩ := Except.exists_of_bind_eq_ok h
  cases h
  refine ⟨fun flag hflag => ?_, ?_, by simp⟩
  · have hinner : (Invocation.plain command).has flag = false := by cases flag <;> rfl
    rw [has_around hflag, hinner, has_check hm, hwords, Bool.or_false]
    exact (Bool.or_false _).symm
  · rw [hwords, hwords, Bool.or_false, Bool.or_false]
    exact not_both_of_check hm

/-- Where the options have ended nothing is turned on. -/
theorem settles_of_trailing (h : level.read environmentPath words = .ok inv)
    (htrailing : level.trailing = true) (all : List String)
    (hall : ∀ flag : Flag, flag.givenIn all = false) : level.Settles (all, []) inv := by
  induction words generalizing level with
  | nil => exact settles_nil h all hall
  | cons word words ih =>
    unfold read at h
    rw [if_neg (by simp [expectsCommand, htrailing])] at h
    obtain ⟨m, hm, hrest⟩ := Except.exists_of_bind_eq_ok h
    rw [take, if_pos htrailing] at hm
    have hsettles := ih hrest ((trailing_of_plain hm).trans htrailing)
    have hhas (flag : Flag) : m.has flag = level.has flag := by
      rw [(takes_plain hm).has_eq, Word.turnsOn_plain, Bool.or_false]
    refine ⟨fun flag hflag => ?_, ?_, hsettles.deeper⟩
    · rw [hsettles.has_eq flag hflag, hhas]
    · rw [← hhas, ← hhas]
      exact hsettles.own

theorem lookup_eq_none_of_not_isCommand {scope : Scope} (h : ¬scope.isCommand word = true) :
    scope.commands.lookup word = none := by
  cases hlookup : scope.commands.lookup word with
  | none => rfl
  | some inner =>
    refine absurd ?_ h
    have hcommands : scope.commands ≠ [] := by
      intro hnil
      rw [hnil] at hlookup
      cases hlookup
    simp [Scope.isCommand, hlookup, hcommands]

/-- What all sections turn on is what is on in the end. -/
theorem settles_read (h : level.read environmentPath words = .ok inv)
    (htrailing : level.trailing = false) :
    level.Settles (level.scope.sections level.awaitsValue words) inv := by
  induction words generalizing level inv with
  | nil => exact settles_nil h [] Flag.givenIn_nil
  | cons word words ih =>
    unfold read at h
    split at h
    -- the word opens a scope, which is judged by itself before this one is
    next hcommand =>
      have hawaits : level.awaitsValue = false := by
        have hexpects := hcommand.1
        rw [expectsCommand, Bool.and_eq_true] at hexpects
        simpa using hexpects.2
      split at h
      · cases h
      next scope hscope =>
      obtain ⟨inner, hinner, h⟩ := Except.exists_of_bind_eq_ok h
      obtain ⟨m, hm, h⟩ := Except.exists_of_bind_eq_ok h
      cases h
      have hsettles : (initial scope).Settles (scope.sections false words) inner :=
        ih hinner rfl
      rw [hawaits, Scope.sections_command hscope]
      refine ⟨fun flag hflag => ?_, ?_, ?_⟩
      · have hnothing : (initial scope).has flag = false := rfl
        rw [has_around hflag, has_check hm, hsettles.has_eq flag hflag, hnothing,
          Flag.givenIn_nil, List.any_cons, Bool.false_or, Bool.or_false]
      · rw [Flag.givenIn_nil, Flag.givenIn_nil, Bool.or_false, Bool.or_false]
        exact not_both_of_check hm
      · rintro other (_ | ⟨_, hother⟩)
        · exact hsettles.own
        · exact hsettles.deeper other hother
    next hcommand =>
      obtain ⟨m, hm, hrest⟩ := Except.exists_of_bind_eq_ok h
      by_cases hword : Word.ofString word = .separator
      -- the options end here, and the rest of the words belongs to this scope
      · rw [Scope.sections_separator hword]
        have hends : m = { level with trailing := true } := by
          rw [take, if_neg (by simp [htrailing]), hword] at hm
          exact (Except.ok.inj hm).symm
        have hsettles := settles_of_trailing hrest (trailing_of_separator hm hword)
          (word :: words) fun flag => Flag.givenIn_separator hword
        subst hends
        exact ⟨hsettles.has_eq, hsettles.own, hsettles.deeper⟩
      have htakes := takes_take hm htrailing hword
      have hplace : level.awaitsValue = true ∨ level.scope.commands.lookup word = none := by
        cases hawaits : level.awaitsValue with
        | true => exact .inl rfl
        | false =>
          refine .inr (lookup_eq_none_of_not_isCommand fun hisCommand => hcommand ⟨?_, hisCommand⟩)
          rw [expectsCommand, htrailing, hawaits]
          rfl
      have hsettles := ih hrest ((trailing_of_take hm hword).trans htrailing)
      rw [htakes.scope_eq, htakes.awaits_eq] at hsettles
      rw [Scope.sections_word hword hplace]
      refine ⟨fun flag hflag => ?_, ?_, hsettles.deeper⟩
      · rw [hsettles.has_eq flag hflag, htakes.has_eq, Flag.givenIn_cons hword, Bool.or_assoc,
          Bool.or_assoc, Bool.or_assoc, Bool.or_assoc]
      · have hown := hsettles.own
        rw [htakes.has_eq, htakes.has_eq, Bool.or_assoc, Bool.or_assoc] at hown
        rw [Flag.givenIn_cons hword, Flag.givenIn_cons hword]
        exact hown

end Level

namespace Invocation

variable {environmentPath : Option String} {words : List String} {inv : Invocation}

theorem settles_parse (h : parse environmentPath words = .ok inv) :
    (Level.initial .program).Settles (Scope.program.sections false words) inv := by
  obtain ⟨asked, hread, h⟩ := Except.exists_of_bind_eq_ok h
  cases h
  have hsettles : (Level.initial .program).Settles (Scope.program.sections false words) asked :=
    Level.settles_read hread rfl
  refine ⟨fun flag hflag => ?_, hsettles.own, hsettles.deeper⟩
  rw [← hsettles.has_eq flag hflag]
  cases flag <;> rfl

/-- A flag is on if a section turns it on. -/
theorem has_iff_of_parse (h : parse environmentPath words = .ok inv) {flag : Flag}
    (hflag : flag ≠ .force) :
    inv.has flag = true ↔ ∃ part ∈ sections words, flag.givenIn part = true := by
  rw [(settles_parse h).has_eq flag hflag]
  show _ ↔ ∃ part ∈ (Scope.program.sections false words).1 ::
    (Scope.program.sections false words).2, _
  have hnothing : (Level.initial .program).has flag = false := rfl
  rw [hnothing, Bool.false_or, ← List.any_cons, List.any_eq_true]

/-- No section of an accepted command line turns on both. -/
theorem not_both_of_mem_sections (h : parse environmentPath words = .ok inv)
    {part : List String} (hpart : part ∈ sections words) :
    ¬(Flag.quiet.givenIn part = true ∧ Flag.verbose.givenIn part = true) := by
  obtain ⟨-, hown, hdeeper⟩ := settles_parse h
  rcases List.mem_cons.mp hpart with rfl | hpart
  · exact hown
  · exact hdeeper part hpart

end Invocation

end FilterQuery
