import FilterQuery.Proofs.Presentation
import FilterQuery.Proofs.Sections

/-!
# What is noted for the quiet

Whatever a session does, it only adds to the notes. What its parts add is of one kind if the
kind is closed under one note after the other (`Session.Adds`), and there are just two
reasons to add a line: the user wants to hear of the progress, or does not want to be spared
the warnings. So for the quiet nothing is noted, unless progress has been asked for as well.

That is not ruled out. The two flags exclude each other within a section of the command line
only, and are on if any section turns them on; given in two sections both are on
(`Request.Heard`).
-/

namespace FilterQuery

namespace Session

variable {α β : Type}

/-! ## Kinds of notes -/

/-- There may be no note of the kind, and one may follow another. -/
structure Chains (P : String → Prop) : Prop where
  empty : P ""
  append : ∀ {text text' : String}, P text → P text' → P (text ++ text')

theorem chains_empty : Chains (· = "") :=
  ⟨rfl, by rintro _ _ rfl rfl; rfl⟩

theorem chains_true : Chains fun _ => True :=
  ⟨trivial, fun _ _ => trivial⟩

/-- However the part ends, it has added notes of this kind. -/
def Adds (P : String → Prop) (x : Session α) : Prop :=
  ∀ w, ∃ text, P text ∧ (left (x w)).stderr = w.stderr ++ text

variable {P : String → Prop} {x : Session α} {f : α → Session β} {p : Session PUnit}

theorem of_ofExcept_eq_ok {ε : Type} {failure : ε → Failure} {e : Except ε α} {a : α}
    {w w' : World} (h : ofExcept failure e w = .ok a w') : e = .ok a ∧ w' = w := by
  cases e with
  | ok b =>
    cases h
    exact ⟨rfl, rfl⟩
  | error e => cases h

/-- It matters only what comes behind a success. -/
theorem Adds.bind (hP : Chains P) (hx : Adds P x)
    (hf : ∀ a w w', x w = .ok a w' → Adds P (f a)) : Adds P (x >>= f) := by
  intro w
  obtain ⟨text, htext, hw⟩ := hx w
  simp only [Bind.bind, EStateM.bind]
  cases hends : x w with
  | error failure w' =>
    rw [hends] at hw
    exact ⟨text, htext, hw⟩
  | ok a w' =>
    rw [hends] at hw
    obtain ⟨text', htext', hw'⟩ := hf a w w' hends w'
    refine ⟨text ++ text', hP.append htext htext', hw'.trans ?_⟩
    rw [show w'.stderr = w.stderr ++ text from hw, String.append_assoc]

theorem Adds.bind_all (hP : Chains P) (hx : Adds P x) (hf : ∀ a, Adds P (f a)) :
    Adds P (x >>= f) :=
  hx.bind hP fun a _ _ _ => hf a

theorem adds_of_stderr_eq (hP : Chains P) (h : ∀ w, (left (x w)).stderr = w.stderr) :
    Adds P x :=
  fun w => ⟨"", hP.empty, (h w).trans String.append_empty.symm⟩

theorem adds_pure (hP : Chains P) (a : α) : Adds P (pure a) :=
  adds_of_stderr_eq hP fun _ => rfl

theorem adds_throw (hP : Chains P) (failure : Failure) : Adds P (throw failure : Session α) :=
  adds_of_stderr_eq hP fun _ => rfl

theorem adds_ofExcept (hP : Chains P) {ε : Type} (failure : ε → Failure) (e : Except ε α) :
    Adds P (ofExcept failure e) := by
  cases e with
  | ok a => exact adds_pure hP a
  | error e => exact adds_throw hP (failure e)

theorem adds_files (hP : Chains P) : Adds P files :=
  adds_of_stderr_eq hP fun _ => rfl

theorem adds_print (hP : Chains P) (text : String) : Adds P (print text) :=
  adds_of_stderr_eq hP fun _ => rfl

theorem adds_note {line : String} (h : P (line ++ "\n")) : Adds P (note line) :=
  fun _ => ⟨line ++ "\n", h, String.append_assoc⟩

theorem adds_forM (hP : Chains P) {xs : List α} {f : α → Session PUnit}
    (h : ∀ a, Adds P (f a)) : Adds P (xs.forM f) := by
  induction xs with
  | nil => exact adds_pure hP _
  | cons a xs ih => exact (h a).bind_all hP fun _ => ih

/-- Something is noted first, on a condition. -/
theorem adds_noting (hP : Chains P) {c : Prop} [Decidable c] (hp : c → Adds P p)
    (hx : Adds P x) : Adds P (if c then p >>= fun _ => x else x) := by
  by_cases hc : c
  · rw [if_pos hc]
    exact (hp hc).bind_all hP fun _ => hx
  · rwa [if_neg hc]

theorem adds_answer (hP : Chains P) (how : Presentation) (document : Text.Json)
    (text : String) : Adds P (answer how document text) := by
  unfold answer
  split
  · exact adds_print hP _
  split
  · exact adds_pure hP _
  · exact adds_print hP _

/-! ## Commands -/

/-- A line may be noted if progress is asked for, or if warnings are not unwanted. -/
def Permits (how : Presentation) (P : String → Prop) : Prop :=
  how.verbose = true ∨ how.quiet = false → ∀ line, P (line ++ "\n")

variable {around : Surroundings} {env : Environment} {how how' : Presentation}
  {named : Option Path} {operand : Option String} {settings : Settings} {w w' : World}

/-- The line about the settings that are used. -/
def settingsLine (fs : FileSystem) (path : Path) : String :=
  "Using config " ++ path.text ++
    (if fs.contains path then "" else " (not found, using defaults)") ++ "\n"

/-- The settings decide about colours, and the user hears at once which settings they are. -/
theorem openSettings_eq_ok (h : openSettings around how named w = .ok (settings, how') w') :
    how'.verbose = how.verbose ∧ how'.quiet = how.quiet ∧
      (how.verbose = true → ∃ path, Settings.path around.environment named = .ok path ∧
        w'.stderr = w.stderr ++ settingsLine w.files path) := by
  unfold openSettings at h
  obtain ⟨path, w₁, hpath, hfiles⟩ := EStateM.bind_eq_ok_iff.mp h
  obtain ⟨fs, w₂, hfs, hload⟩ := EStateM.bind_eq_ok_iff.mp hfiles
  obtain ⟨loaded, w₃, hloaded, hrest⟩ := EStateM.bind_eq_ok_iff.mp hload
  obtain ⟨hpath, hw₁⟩ := of_ofExcept_eq_ok hpath
  obtain ⟨hfs, hw₂⟩ := EStateM.Result.ok.inj (hfs : EStateM.Result.ok w₁.files w₁ = .ok fs w₂)
  obtain ⟨-, hw₃⟩ := of_ofExcept_eq_ok hloaded
  have hw : w₃ = w := by rw [hw₃, ← hw₂, hw₁]
  have hcolour {w₄ : World}
      (hends : (if loaded.color = some false then return (loaded, { how with ink := .plain })
        else return (loaded, how) : Session (Settings × Presentation)) w₄ =
          .ok (settings, how') w') :
      how'.verbose = how.verbose ∧ how'.quiet = how.quiet ∧ w' = w₄ := by
    split at hends
    · cases hends
      exact ⟨rfl, rfl, rfl⟩
    · cases hends
      exact ⟨rfl, rfl, rfl⟩
  by_cases hverbose : how.verbose = true
  · simp only [if_pos hverbose] at hrest
    obtain ⟨_, w₄, hnote, hends⟩ := EStateM.bind_eq_ok_iff.mp hrest
    obtain ⟨hverbose', hquiet', hw'⟩ := hcolour hends
    obtain ⟨-, hw₄⟩ := EStateM.Result.ok.inj (hnote :)
    refine ⟨hverbose', hquiet', fun _ => ⟨path, hpath, ?_⟩⟩
    rw [hw', ← hw₄, hw, ← hw₁, hfs]
    exact String.append_assoc
  · simp only [if_neg hverbose] at hrest
    obtain ⟨hverbose', hquiet', -⟩ := hcolour hrest
    exact ⟨hverbose', hquiet', fun hv => absurd hv hverbose⟩

theorem adds_openSettings (hP : Chains P) (hhow : Permits how P) :
    Adds P (openSettings around how named) := by
  refine (adds_ofExcept hP _ _).bind_all hP fun path => ?_
  refine (adds_files hP).bind_all hP fun fs => ?_
  refine (adds_ofExcept hP _ _).bind_all hP fun settings => ?_
  refine adds_noting hP (fun hverbose => adds_note (hhow (.inl hverbose) _)) ?_
  split
  · exact adds_pure hP _
  · exact adds_pure hP _

theorem adds_readQuery (hP : Chains P) : Adds P (readQuery around operand) := by
  rw [readQuery_eq]
  exact adds_ofExcept hP _ _

theorem adds_compileQuery (hP : Chains P) (hhow : Permits how P) (known : FilterSet)
    (source : String) : Adds P (compileQuery how known source) := by
  refine adds_noting hP (fun hverbose => adds_note (hhow (.inl hverbose) _)) ?_
  refine adds_noting hP (fun hwarns => ?_) ?_
  · have hquiet : how.quiet = false := by
      rw [Bool.and_eq_true] at hwarns
      simpa using hwarns.2
    exact adds_forM hP fun d => adds_note (hhow (.inr hquiet) _)
  · exact (adds_ofExcept hP _ _).bind_all hP fun query => adds_pure hP _

/-- What is said of a query, whatever it is. -/
theorem adds_shown (hP : Chains P) (hhow : Permits how P) (known : FilterSet)
    (document : Option Query → List Diagnostic → Text.Json)
    (text : Text.Ink → Option Query → String) :
    Adds P (do
      let (query, diagnostics) ← compileQuery how known (← readQuery around operand)
      answer how (document query diagnostics) (text how.ink query)) := by
  refine (adds_readQuery hP).bind_all hP fun source => ?_
  refine (adds_compileQuery hP hhow known source).bind_all hP fun compiled => ?_
  exact adds_answer hP _ _ _

/-- A command that uses the settings opens them first. -/
theorem adds_opening (hP : Chains P) (hhow : Permits how P)
    {rest : Settings × Presentation → Session α}
    (hrest : ∀ settings how', Permits how' P → Adds P (rest (settings, how'))) :
    Adds P (openSettings around how named >>= rest) := by
  refine (adds_openSettings hP hhow).bind hP ?_
  rintro ⟨settings, how'⟩ w w' hopened
  obtain ⟨hverbose, hquiet, -⟩ := openSettings_eq_ok hopened
  refine hrest settings how' ?_
  rwa [Permits, hverbose, hquiet]

/-- And says so first if progress is asked for. -/
theorem exists_stderr_of_opening (hverbose : how.verbose = true)
    {rest : Settings × Presentation → Session α} {a : α}
    (hrest : ∀ opened, Adds (fun _ => True) (rest opened))
    (h : (openSettings around how named >>= rest) w = .ok a w') :
    ∃ path more, Settings.path around.environment named = .ok path ∧
      w'.stderr = w.stderr ++ (settingsLine w.files path ++ more) := by
  obtain ⟨⟨settings, how'⟩, w₁, hopened, hends⟩ := EStateM.bind_eq_ok_iff.mp h
  obtain ⟨-, -, hline⟩ := openSettings_eq_ok hopened
  obtain ⟨path, hpath, hw₁⟩ := hline hverbose
  obtain ⟨more, -, hw'⟩ := hrest (settings, how') w₁
  rw [hends] at hw'
  refine ⟨path, more, hpath, ?_⟩
  rw [← String.append_assoc, ← hw₁]
  exact hw'

theorem adds_showSettings (hP : Chains P) : Adds P (showSettings env how named) := by
  refine (adds_ofExcept hP _ _).bind_all hP fun path => ?_
  refine (adds_files hP).bind_all hP fun fs => ?_
  exact (adds_ofExcept hP _ _).bind_all hP fun settings => adds_answer hP _ _ _

theorem adds_showPath (hP : Chains P) : Adds P (showPath env how named) := by
  refine (adds_ofExcept hP _ _).bind_all hP fun path => ?_
  exact (adds_files hP).bind_all hP fun fs => adds_answer hP _ _ _

theorem adds_initSettings (hP : Chains P) (force : Bool) :
    Adds P (initSettings env how named force) := by
  refine adds_of_stderr_eq hP fun w => ?_
  rcases initSettings_cases env how named force w with
    ⟨failure, fs, hends, -, -⟩ | ⟨path, fs, out, -, -, -, hends⟩
  · rw [hends]
    rfl
  · rw [hends]
    rfl

end Session

namespace Request

variable {r : Request} {fs : FileSystem} {P : String → Prop}

/-- Only a command that uses the settings has anything to note. -/
theorem adds_run (hP : Session.Chains P)
    (hhow : r.UsesSettings →
      Session.Permits (r.invocation.presentation r.around.environment) P) :
    Session.Adds P (Session.run r.around r.invocation) := by
  unfold Session.run
  dsimp only
  split
  next operand hcommand =>
    refine Session.adds_opening hP (hhow (.inl ⟨operand, hcommand⟩)) fun _ how' hhow' => ?_
    exact Session.adds_shown hP hhow' _ _ _
  next operand hcommand =>
    refine Session.adds_opening hP (hhow (.inr (.inl ⟨operand, hcommand⟩))) fun _ how' hhow' => ?_
    exact Session.adds_shown hP hhow' _ _ _
  next hcommand =>
    refine Session.adds_opening hP (hhow (.inr (.inr hcommand))) fun _ how' hhow' => ?_
    exact Session.adds_answer hP _ _ _
  · exact Session.adds_showSettings hP
  · exact Session.adds_showSettings hP
  · exact Session.adds_showPath hP
  · exact Session.adds_initSettings hP _
  · exact Session.adds_pure hP _
  · split
    · exact Session.adds_pure hP _
    · exact Session.adds_print hP _

/-- What is noted beside the answer. -/
def notes (r : Request) (fs : FileSystem) : String :=
  (Session.left (r.run fs)).stderr

theorem notes_eq_empty (hquiet : r.invocation.quiet = true)
    (hprogress : ¬(r.invocation.verbose = true ∧ r.UsesSettings)) : r.notes fs = "" := by
  have hadds : Session.Adds (· = "") (Session.run r.around r.invocation) := by
    refine adds_run Session.chains_empty fun huses hlines => ?_
    rcases hlines with hverbose | hloud
    · exact absurd ⟨hverbose, huses⟩ hprogress
    · rw [show r.invocation.quiet = false from hloud] at hquiet
      cases hquiet
  obtain ⟨text, rfl, hw⟩ := hadds ⟨fs, "", ""⟩
  exact hw

theorem exists_run_eq_ok (h : (r.outcome fs).1 = .ok ()) : ∃ w, r.run fs = .ok () w := by
  unfold outcome at h
  split at h
  next w hrun => exact ⟨w, hrun⟩
  · cases h

theorem exists_notes_eq (hverbose : r.invocation.verbose = true) (huses : r.UsesSettings)
    (h : (r.outcome fs).1 = .ok ()) :
    ∃ path more, r.path = .ok path ∧ r.notes fs = Session.settingsLine fs path ++ more := by
  obtain ⟨w, hrun⟩ := exists_run_eq_ok h
  have hpermits (how : Presentation) : Session.Permits how fun _ => True :=
    fun _ _ => trivial
  have hline : ∃ path more, r.path = .ok path ∧
      w.stderr = "" ++ (Session.settingsLine fs path ++ more) := by
    rw [run, Session.run] at hrun
    rcases huses with ⟨operand, hcommand⟩ | ⟨operand, hcommand⟩ | hcommand
    · rw [hcommand] at hrun
      refine Session.exists_stderr_of_opening hverbose (fun opened => ?_) hrun
      exact Session.adds_shown Session.chains_true (hpermits _) _ _ _
    · rw [hcommand] at hrun
      refine Session.exists_stderr_of_opening hverbose (fun opened => ?_) hrun
      exact Session.adds_shown Session.chains_true (hpermits _) _ _ _
    · rw [hcommand] at hrun
      refine Session.exists_stderr_of_opening hverbose (fun opened => ?_) hrun
      exact Session.adds_answer Session.chains_true _ _ _
  obtain ⟨path, more, hpath, hw⟩ := hline
  refine ⟨path, more, hpath, ?_⟩
  rw [notes, hrun]
  exact hw.trans String.empty_append

/-- The quiet and the verbose exclude each other in every section of the command line, and
in no more: both are on if two sections ask for them. Nothing is noted for the quiet, unless
the verbose is on as well and the command uses the settings. -/
structure Heard (r : Request) (fs : FileSystem) : Prop where
  apart : ∀ part ∈ sections r.words,
    ¬(Flag.quiet.givenIn part = true ∧ Flag.verbose.givenIn part = true)
  on_iff : ∀ flag, flag ≠ .force →
    (r.invocation.has flag = true ↔ ∃ part ∈ sections r.words, flag.givenIn part = true)
  both_iff : (r.invocation.quiet = true ∧ r.invocation.verbose = true) ↔
    ∃ part ∈ sections r.words, ∃ other ∈ sections r.words, part ≠ other ∧
      Flag.quiet.givenIn part = true ∧ Flag.verbose.givenIn other = true
  hushed : r.invocation.quiet = true → ¬(r.invocation.verbose = true ∧ r.UsesSettings) →
    r.notes fs = ""
  told : r.invocation.verbose = true → r.UsesSettings → (r.outcome fs).1 = .ok () →
    ∃ path more, r.path = .ok path ∧ r.notes fs = Session.settingsLine fs path ++ more

theorem heard_spec (r : Request) (fs : FileSystem) : r.Heard fs := by
  have hquiet : r.invocation.quiet = true ↔ _ :=
    Invocation.has_iff_of_parse r.accepted (by decide : Flag.quiet ≠ .force)
  have hverbose : r.invocation.verbose = true ↔ _ :=
    Invocation.has_iff_of_parse r.accepted (by decide : Flag.verbose ≠ .force)
  have hapart : ∀ part ∈ sections r.words,
      ¬(Flag.quiet.givenIn part = true ∧ Flag.verbose.givenIn part = true) :=
    fun part hpart => Invocation.not_both_of_mem_sections r.accepted hpart
  refine ⟨hapart, fun flag hflag => Invocation.has_iff_of_parse r.accepted hflag, ?_,
    notes_eq_empty, exists_notes_eq⟩
  rw [hquiet, hverbose]
  constructor
  · rintro ⟨⟨part, hpart, hq⟩, other, hother, hv⟩
    refine ⟨part, hpart, other, hother, ?_, hq, hv⟩
    rintro rfl
    exact hapart part hpart ⟨hq, hv⟩
  · rintro ⟨part, hpart, other, hother, -, hq, hv⟩
    exact ⟨⟨part, hpart, hq⟩, other, hother, hv⟩

/-- Of a query with a stray character one hears nothing if the command is told to be quiet,
and hears of the settings if the program is told so and the command otherwise. -/
theorem heard_spec_stray_character :
    let around : Surroundings := ⟨⟨none, none, some "home", none, false⟩, .empty⟩
    let asked : Invocation :=
      { Invocation.plain (some (.check (some "\x7btext:\"a\" x\x7d"))) with quiet := true }
    let quiet : Request :=
      ⟨around, ["check", "-q", "\x7btext:\"a\" x\x7d"], asked, rfl⟩
    let both : Request :=
      ⟨around, ["-q", "check", "\x7btext:\"a\" x\x7d", "-v"], { asked with verbose := true }, rfl⟩
    let fs : FileSystem := ⟨[], []⟩
    quiet.notes fs = "" ∧ both.invocation.quiet = true ∧ ∃ path more, both.path = .ok path ∧
      both.notes fs = Session.settingsLine fs path ++ more := by
  intro around asked quiet both fs
  refine ⟨(heard_spec quiet fs).hushed rfl (by simp [quiet, asked, Invocation.plain]), rfl, ?_⟩
  exact (heard_spec both fs).told rfl (.inl ⟨_, rfl⟩) (by decide +kernel)

/-- The quiet hear of progress if it is asked for in another section. -/
theorem exists_quiet_progress :
    ∃ (r : Request) (fs : FileSystem), r.words = ["-q", "filters", "-v"] ∧
      r.invocation.quiet = true ∧ r.invocation.verbose = true ∧
      (r.outcome fs).1 = .ok () ∧ r.notes fs =
        "Using config home/.config/tfq/config.toml (not found, using defaults)\n" := by
  let asked : Invocation :=
    { Invocation.plain (some .filters) with quiet := true, verbose := true }
  let r : Request := ⟨⟨⟨none, none, some "home", none, false⟩, .empty⟩,
    ["-q", "filters", "-v"], asked, rfl⟩
  exact ⟨r, ⟨[], []⟩, rfl, rfl, rfl, by decide +kernel, by decide +kernel⟩

end Request

end FilterQuery
