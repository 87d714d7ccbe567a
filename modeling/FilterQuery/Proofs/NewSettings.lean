import FilterQuery.Invocation.Parse
import FilterQuery.Proofs.NewFile

/-!
# What a new settings file changes

Of all commands only one leaves other files than it found. Every other part of a session
can be described without the world around it, by what it ends with, answers and notes
(`Session.Gives`), and what a command ends with and answers depends on little of the files
(`Session.DependsOn`): where the user's settings are used, on those settings alone.

A run is one request after the other on the same files. What one request can do
(`Request.cases`) is at once what a run preserves: a file that a request has made is there
for good, because nothing but the same text is ever written.
-/

namespace FilterQuery

namespace Session

variable {α β : Type}

/-! ## Parts that leave the files as they are -/

/-- The end of a part of a session in this world. -/
def ended (w : World) : Except Failure α → EStateM.Result Failure World α
  | .ok a => .ok a w
  | .error f => .error f w

/-- The world that is left, however a part of a session ends. -/
def left : EStateM.Result Failure World α → World
  | .ok _ w => w
  | .error _ w => w

/-- With these files the part ends with `result`, answers `out` and notes `err`, and leaves
the files as they are. -/
def Gives (fs : FileSystem) (x : Session α) (result : Except Failure α) (out err : String) :
    Prop :=
  ∀ w, w.files = fs → x w = ended ⟨fs, w.stdout ++ out, w.stderr ++ err⟩ result

variable {fs : FileSystem} {x : Session α} {f : α → Session β} {out err out' err' : String}

theorem Gives.bind_ok {a : α} {result : Except Failure β} (hx : Gives fs x (.ok a) out err)
    (hf : Gives fs (f a) result out' err') :
    Gives fs (x >>= f) result (out ++ out') (err ++ err') := by
  intro w hw
  show EStateM.bind x f w = _
  rw [EStateM.bind, hx w hw]
  show f a _ = _
  rw [hf _ rfl, String.append_assoc, String.append_assoc]

theorem Gives.bind_error {failure : Failure} (hx : Gives fs x (.error failure) out err) :
    Gives fs (x >>= f) (.error failure) out err := by
  intro w hw
  show EStateM.bind x f w = _
  rw [EStateM.bind, hx w hw]
  rfl

theorem gives_files {f : FileSystem → Session β} {result : Except Failure β}
    (h : Gives fs (f fs) result out err) : Gives fs (files >>= f) result out err := by
  rintro w rfl
  exact h w rfl

theorem gives_pure (a : α) : Gives fs (pure a) (.ok a) "" "" := by
  rintro w rfl
  simp [ended, pure, EStateM.pure]

theorem gives_ofExcept {ε : Type} (failure : ε → Failure) (e : Except ε α) :
    Gives fs (ofExcept failure e) (e.mapError failure) "" "" := by
  rintro w rfl
  cases e with
  | ok a => simp [ofExcept, Except.mapError, ended, pure, EStateM.pure]
  | error e =>
    simp [ofExcept, Except.mapError, ended, throw, throwThe, MonadExceptOf.throw, EStateM.throw]

theorem gives_note (line : String) : Gives fs (note line) (.ok ()) "" (line ++ "\n") := by
  rintro w rfl
  simp [note, ended, modify, modifyGet, MonadStateOf.modifyGet, EStateM.modifyGet,
    String.append_assoc]

theorem gives_print (text : String) : Gives fs (print text) (.ok ()) text "" := by
  rintro w rfl
  simp [print, ended, modify, modifyGet, MonadStateOf.modifyGet, EStateM.modifyGet]

/-- What the part ends with and answers depends on this view of the files, and it leaves
the files as they are. -/
def DependsOn {γ : Type} (view : FileSystem → γ) (x : Session α) : Prop :=
  ∀ v, ∃ result out, ∀ fs, view fs = v → ∃ err, Gives fs x result out err

variable {γ : Type} {view : FileSystem → γ}

theorem Gives.dependsOn {result : Except Failure α} (h : ∀ fs, Gives fs x result out err) :
    DependsOn view x :=
  fun _ => ⟨result, out, fun fs _ => ⟨err, h fs⟩⟩

theorem DependsOn.bind (hx : DependsOn view x) (hf : ∀ a, DependsOn view (f a)) :
    DependsOn view (x >>= f) := by
  intro v
  obtain ⟨result, out, hx⟩ := hx v
  cases result with
  | error failure =>
    refine ⟨.error failure, out, fun fs hfs => ?_⟩
    obtain ⟨err, hx⟩ := hx fs hfs
    exact ⟨err, hx.bind_error⟩
  | ok a =>
    obtain ⟨result, out', hf⟩ := hf a v
    refine ⟨result, out ++ out', fun fs hfs => ?_⟩
    obtain ⟨err, hx⟩ := hx fs hfs
    obtain ⟨err', hf⟩ := hf fs hfs
    exact ⟨err ++ err', hx.bind_ok hf⟩

theorem dependsOn_pure (a : α) : DependsOn view (pure a) :=
  Gives.dependsOn fun _ => gives_pure a

theorem dependsOn_ofExcept {ε : Type} (failure : ε → Failure) (e : Except ε α) :
    DependsOn view (ofExcept failure e) :=
  Gives.dependsOn fun _ => gives_ofExcept failure e

theorem dependsOn_note (line : String) : DependsOn view (note line) :=
  Gives.dependsOn fun _ => gives_note line

theorem dependsOn_print (text : String) : DependsOn view (print text) :=
  Gives.dependsOn fun _ => gives_print text

theorem dependsOn_ite {p : Prop} [Decidable p] {x y : Session α} (hx : DependsOn view x)
    (hy : DependsOn view y) : DependsOn view (if p then x else y) := by
  by_cases hp : p
  · rwa [if_pos hp]
  · rwa [if_neg hp]

theorem dependsOn_forM {xs : List α} {f : α → Session PUnit}
    (h : ∀ a, DependsOn view (f a)) : DependsOn view (xs.forM f) := by
  induction xs with
  | nil => exact dependsOn_pure _
  | cons x xs ih => exact (h x).bind fun _ => ih

theorem exists_gives_answer (how : Presentation) (document : Text.Json) (text : String) :
    ∃ out, ∀ fs, Gives fs (answer how document text) (.ok ()) out "" := by
  unfold answer
  split
  · exact ⟨_, fun fs => gives_print _⟩
  split
  · exact ⟨_, fun fs => gives_pure _⟩
  · exact ⟨_, fun fs => gives_print _⟩

theorem dependsOn_answer (how : Presentation) (document : Text.Json) (text : String) :
    DependsOn view (answer how document text) := by
  obtain ⟨out, h⟩ := exists_gives_answer how document text
  exact Gives.dependsOn h

/-- A part that looks at the files depends on all of them. -/
theorem dependsOn_files {f : FileSystem → Session β} (h : ∀ fs, DependsOn id (f fs)) :
    DependsOn id (files >>= f) := by
  intro v
  obtain ⟨result, out, h⟩ := h v v
  refine ⟨result, out, fun fs hfs => ?_⟩
  obtain rfl : fs = v := hfs
  obtain ⟨err, h⟩ := h fs rfl
  exact ⟨err, gives_files h⟩

theorem DependsOn.of_view (hx : DependsOn view x) : DependsOn id x := by
  intro fs
  obtain ⟨result, out, hx⟩ := hx (view fs)
  exact ⟨result, out, fun fs' hfs => hx fs' (congrArg view hfs)⟩

theorem DependsOn.files_left (hx : DependsOn view x) (w : World) :
    (left (x w)).files = w.files := by
  obtain ⟨result, out, hx⟩ := hx (view w.files)
  obtain ⟨err, hx⟩ := hx w.files rfl
  rw [hx w rfl]
  cases result <;> rfl

/-! ## Commands -/

variable (around : Surroundings) (env : Environment) (how : Presentation)
  (named : Option Path) (operand : Option String)

/-- The settings that the user means, found in these files. -/
def settingsIn (fs : FileSystem) : Except SettingsFault Settings := do
  Settings.load fs (← Settings.path env named)

/-- Whether the file is there shows in a note only. -/
theorem dependsOn_openSettings :
    DependsOn (settingsIn around.environment named) (openSettings around how named) := by
  intro opened
  unfold openSettings settingsIn
  cases hpath : Settings.path around.environment named with
  | error fault =>
    exact ⟨_, _, fun fs _ => ⟨_, (gives_ofExcept .settings (.error fault)).bind_error⟩⟩
  | ok path =>
    cases opened with
    | error fault =>
      refine ⟨.error (.settings fault), "" ++ "", fun fs hfs => ⟨"" ++ "", ?_⟩⟩
      refine (gives_ofExcept .settings (.ok path)).bind_ok (gives_files ?_)
      rw [show Settings.load fs path = .error fault from hfs]
      exact (gives_ofExcept .settings (.error fault)).bind_error
    | ok settings =>
      -- The files are looked at once more, for the note.
      have hrest : ∃ result out, ∀ fs, ∃ err, Gives fs (do
          if how.verbose then
            let state := if fs.contains path then "" else " (not found, using defaults)"
            note s!"Using config {path.text}{state}"
          if settings.color = some false then return (settings, { how with ink := .plain })
          else return (settings, how)) result out err := by
        by_cases hverbose : how.verbose
        · simp only [if_pos hverbose]
          split
          · exact ⟨_, _, fun fs => ⟨_, (gives_note _).bind_ok (gives_pure _)⟩⟩
          · exact ⟨_, _, fun fs => ⟨_, (gives_note _).bind_ok (gives_pure _)⟩⟩
        · simp only [if_neg hverbose]
          split
          · exact ⟨_, _, fun fs => ⟨_, gives_pure _⟩⟩
          · exact ⟨_, _, fun fs => ⟨_, gives_pure _⟩⟩
      obtain ⟨result, out, hrest⟩ := hrest
      refine ⟨result, "" ++ ("" ++ out), fun fs hfs => ?_⟩
      obtain ⟨err, hrest⟩ := hrest fs
      refine ⟨"" ++ ("" ++ err), (gives_ofExcept .settings (.ok path)).bind_ok (gives_files ?_)⟩
      rw [show Settings.load fs path = .ok settings from hfs]
      exact (gives_ofExcept .settings (.ok settings)).bind_ok hrest

theorem dependsOn_readQuery {γ : Type} {view : FileSystem → γ} :
    DependsOn view (readQuery around operand) := by
  cases operand with
  | none => exact dependsOn_ofExcept _ _
  | some query => exact dependsOn_ite (dependsOn_ofExcept _ _) (dependsOn_pure _)

theorem dependsOn_compileQuery {γ : Type} {view : FileSystem → γ} (known : FilterSet)
    (source : String) : DependsOn view (compileQuery how known source) := by
  have hquery (compiled : Compilation) : DependsOn view (do
      let query ← ofExcept .compile compiled.outcome
      return (query, compiled.diagnostics)) :=
    (dependsOn_ofExcept _ _).bind fun _ => dependsOn_pure _
  have hcompiled (compiled : Compilation) : DependsOn view (do
      if !how.json && !how.quiet then
        compiled.diagnostics.forM fun d => note (Report.warning how.ink d)
      let query ← ofExcept .compile compiled.outcome
      return (query, compiled.diagnostics)) :=
    dependsOn_ite ((dependsOn_forM fun _ => dependsOn_note _).bind fun _ => hquery compiled)
      (hquery compiled)
  exact dependsOn_ite ((dependsOn_note _).bind fun _ => hcompiled _) (hcompiled _)

/-- What is shown of a query makes no difference. -/
theorem dependsOn_query (document : Option Query → List Diagnostic → Text.Json)
    (text : Text.Ink → Option Query → String) :
    DependsOn (settingsIn around.environment named) (do
      let (settings, how) ← openSettings around how named
      let (query, diagnostics) ← compileQuery how settings.known (← readQuery around operand)
      answer how (document query diagnostics) (text how.ink query)) := by
  refine (dependsOn_openSettings around how named).bind fun opened => ?_
  refine (dependsOn_readQuery around operand).bind fun source => ?_
  exact (dependsOn_compileQuery _ _ source).bind fun compiled => dependsOn_answer _ _ _

theorem dependsOn_check :
    DependsOn (settingsIn around.environment named) (check around how named operand) :=
  dependsOn_query around how named operand Report.summaryDocument Report.summary

theorem dependsOn_ast :
    DependsOn (settingsIn around.environment named) (ast around how named operand) :=
  dependsOn_query around how named operand Report.treeDocument Report.tree

theorem dependsOn_filters :
    DependsOn (settingsIn around.environment named) (filters around how named) :=
  (dependsOn_openSettings around how named).bind fun _ => dependsOn_answer _ _ _

theorem dependsOn_showSettings : DependsOn id (showSettings env how named) := by
  refine (dependsOn_ofExcept _ _).bind fun path => ?_
  refine dependsOn_files fun fs => ?_
  exact (dependsOn_ofExcept _ _).bind fun settings => dependsOn_answer _ _ _

theorem dependsOn_showPath : DependsOn id (showPath env how named) := by
  refine (dependsOn_ofExcept _ _).bind fun path => ?_
  exact dependsOn_files fun fs => dependsOn_answer _ _ _

/-- What making a settings file can do: fail, with some directories made and nothing else,
or write the template under the path of the settings. -/
theorem initSettings_cases (force : Bool) (w : World) :
    (∃ failure fs, initSettings env how named force w =
      .error failure { w with files := fs } ∧ w.files.Grows fs ∧ w.files.SameFiles fs) ∨
    ∃ path fs out, Settings.path env named = .ok path ∧
      (w.files.contains path = false ∨ force = true) ∧
      (w.files.makeParents path).1.write path Settings.template.toUTF8 = .ok fs ∧
      initSettings env how named force w = .ok () ⟨fs, w.stdout ++ out, w.stderr⟩ := by
  unfold initSettings
  cases hpath : Settings.path env named with
  | error fault => exact .inl ⟨_, _, rfl, .refl _, .refl _⟩
  | ok path =>
    simp only [bind, EStateM.bind, ofExcept, files, pure, EStateM.pure]
    by_cases hthere : w.files.contains path && !force
    · rw [if_pos hthere]
      exact .inl ⟨_, _, rfl, .refl _, .refl _⟩
    rw [if_neg hthere]
    have hfree : w.files.contains path = false ∨ force = true := by
      cases hcontains : w.files.contains path
      · exact .inl rfl
      · simpa [hcontains] using hthere
    have hgrows := w.files.grows_makeParents path
    have hsame := w.files.sameFiles_makeParents path
    cases hmade : (w.files.makeParents path).2 with
    | error fault => exact .inl ⟨_, _, rfl, hgrows, hsame⟩
    | ok _ =>
      cases hwrite : (w.files.makeParents path).1.write path Settings.template.toUTF8 with
      | error fault => exact .inl ⟨_, _, rfl, hgrows, hsame⟩
      | ok fs =>
        obtain ⟨out, hanswer⟩ := exists_gives_answer how
          (.object [("path", .string path.text), ("status", .string "success")])
          s!"Created config at {path.text}\n"
        refine .inr ⟨path, fs, out, rfl, hfree, hwrite, ?_⟩
        exact (hanswer fs ⟨fs, w.stdout, w.stderr⟩ rfl).trans (by simp [ended])

/-- A command that makes no settings file leaves the files as they are. -/
theorem dependsOn_run {inv : Invocation}
    (h : ∀ force, inv.command ≠ some (.config (some (.init force)))) :
    DependsOn id (run around inv) := by
  unfold run
  dsimp only
  split
  · exact (dependsOn_check around _ _ _).of_view
  · exact (dependsOn_ast around _ _ _).of_view
  · exact (dependsOn_filters around _ _).of_view
  · exact dependsOn_showSettings _ _ _
  · exact dependsOn_showSettings _ _ _
  · exact dependsOn_showPath _ _ _
  next force hcommand => exact absurd hcommand (h force)
  · exact dependsOn_pure _
  · exact dependsOn_ite (dependsOn_pure _) (dependsOn_print _)

end Session

/-! ## Requests -/

/-- A command line that is accepted, with what surrounds it. -/
structure Request where
  /-- The environment and standard input. -/
  around : Surroundings
  /-- The words of the command line. -/
  words : List String
  /-- What the words ask for. -/
  invocation : Invocation
  accepted : Invocation.parse around.environment.settingsPath words = .ok invocation

namespace Request

/-- The path of the settings file that the request means. -/
def path (r : Request) : Except SettingsFault Path :=
  Settings.path r.around.environment (r.invocation.settings.map Path.mk)

/-- The request is one about queries or filters, which uses the settings. -/
def UsesSettings (r : Request) : Prop :=
  (∃ operand, r.invocation.command = some (.check operand)) ∨
    (∃ operand, r.invocation.command = some (.ast operand)) ∨
    r.invocation.command = some .filters

/-- The session of the request on these files. -/
def run (r : Request) (fs : FileSystem) : EStateM.Result Failure World Unit :=
  Session.run r.around r.invocation ⟨fs, "", ""⟩

/-- How the request ends, and what it answers. -/
def outcome (r : Request) (fs : FileSystem) : Except Failure Unit × String :=
  match r.run fs with
  | .ok () w => (.ok (), w.stdout)
  | .error failure w => (.error failure, w.stdout)

/-- The files after the request. -/
def leaves (r : Request) (fs : FileSystem) : FileSystem :=
  (Session.left (r.run fs)).files

/-- The files after one request after the other. -/
def leavesAll (rs : List Request) (fs : FileSystem) : FileSystem :=
  rs.foldl (fun fs r => r.leaves fs) fs

/-- The request makes a settings file, and is forced to or not. -/
structure Inits (r : Request) (force : Bool) (fs : FileSystem) : Prop where
  command_eq : r.invocation.command = some (.config (some (.init force)))
  succeeds : (r.outcome fs).1 = .ok ()

variable {r : Request} {fs fs' : FileSystem} {path : Path} {location : Location}

theorem outcome_eq {result : Except Failure Unit} {out err : String}
    (h : Session.Gives fs (Session.run r.around r.invocation) result out err) :
    r.outcome fs = (result, out) := by
  rw [outcome, run, h ⟨fs, "", ""⟩ rfl]
  cases result with
  | error failure => simp [Session.ended]
  | ok _ => simp [Session.ended]

/-! ### What one request can do -/

/-- The request leaves all files as they are. -/
structure Spares (r : Request) (fs : FileSystem) : Prop where
  grows : fs.Grows (r.leaves fs)
  sameFiles : fs.SameFiles (r.leaves fs)
  not_inits : ∀ force, ¬r.Inits force fs

/-- The request makes a settings file at this location and leaves all other files as they
are. -/
structure Makes (r : Request) (fs : FileSystem) (force : Bool) (path : Path)
    (location : Location) : Prop where
  inits : r.Inits force fs
  path_eq : r.path = .ok path
  free : fs.contains path = false ∨ force = true
  grows : fs.Grows (r.leaves fs)
  holds : (r.leaves fs).Holds path location Settings.template.toUTF8
  file?_eq : ∀ other, other ≠ location → (r.leaves fs).file? other = fs.file? other

/-- All that a request can do: leave the files as they are, some directories apart, or make
one settings file. -/
theorem cases (r : Request) (fs : FileSystem) :
    r.Spares fs ∨ ∃ force path location, r.Makes fs force path location := by
  by_cases hcommand : ∀ force, r.invocation.command ≠ some (.config (some (.init force)))
  · left
    have hleaves : r.leaves fs = fs :=
      (Session.dependsOn_run r.around hcommand).files_left ⟨fs, "", ""⟩
    refine ⟨?_, ?_, fun force h => hcommand force h.command_eq⟩
    · rw [hleaves]
      exact .refl fs
    · rw [hleaves]
      exact .refl fs
  · obtain ⟨force, hcommand⟩ := not_forall.mp hcommand
    rw [ne_eq, not_not] at hcommand
    have hrun : r.run fs = Session.initSettings r.around.environment
        (r.invocation.presentation r.around.environment) (r.invocation.settings.map Path.mk)
        force ⟨fs, "", ""⟩ := by
      rw [run, Session.run, hcommand]
    rcases Session.initSettings_cases r.around.environment
        (r.invocation.presentation r.around.environment) (r.invocation.settings.map Path.mk)
        force ⟨fs, "", ""⟩ with
      ⟨failure, fs₁, hends, hgrows, hsame⟩ | ⟨path, fs₁, out, hpath, hfree, hwrite, hends⟩
    · left
      have hleaves : r.leaves fs = fs₁ := by rw [leaves, hrun, hends, Session.left]
      refine ⟨hleaves ▸ hgrows, hleaves ▸ hsame, fun force h => ?_⟩
      have hsucceeds := h.succeeds
      rw [outcome, hrun, hends] at hsucceeds
      cases hsucceeds
    · right
      have hleaves : r.leaves fs = fs₁ := by rw [leaves, hrun, hends, Session.left]
      obtain ⟨hgrows, location, hholds, hothers⟩ := FileSystem.exists_holds_of_write hwrite
      refine ⟨force, path, location, ⟨hcommand, ?_⟩, hpath, hfree, ?_, ?_, fun other hother => ?_⟩
      · rw [outcome, hrun, hends]
      · exact hleaves ▸ (fs.grows_makeParents path).trans hgrows
      · exact hleaves ▸ hholds
      · rw [hleaves, hothers other hother]
        exact fs.sameFiles_makeParents path other

/-- What is written into a settings file stays there. -/
theorem holds_leaves (h : fs.Holds path location Settings.template.toUTF8) (r : Request) :
    (r.leaves fs).Holds path location Settings.template.toUTF8 := by
  rcases r.cases fs with hspares | ⟨force, path', location', hmakes⟩
  · exact h.of_grows hspares.grows ((hspares.sameFiles location).trans h.file?_eq)
  · refine h.of_grows hmakes.grows ?_
    -- A file that is written in its place holds the same text.
    by_cases hsame : location = location'
    · rw [hsame]
      exact hmakes.holds.file?_eq
    · rw [hmakes.file?_eq location hsame]
      exact h.file?_eq

theorem holds_leavesAll (h : fs.Holds path location Settings.template.toUTF8)
    (rs : List Request) : (leavesAll rs fs).Holds path location Settings.template.toUTF8 := by
  induction rs generalizing fs with
  | nil => exact h
  | cons r rs ih => exact ih (holds_leaves h r)

/-! ### What the settings decide -/

theorem outcome_eq_of_load_eq (hpath : r.path = .ok path) (huses : r.UsesSettings)
    (hload : Settings.load fs path = Settings.load fs' path) : r.outcome fs = r.outcome fs' := by
  have hdepends : Session.DependsOn (Session.settingsIn r.around.environment
      (r.invocation.settings.map Path.mk)) (Session.run r.around r.invocation) := by
    unfold Session.run
    rcases huses with ⟨operand, hcommand⟩ | ⟨operand, hcommand⟩ | hcommand
    · rw [hcommand]
      exact Session.dependsOn_check _ _ _ _
    · rw [hcommand]
      exact Session.dependsOn_ast _ _ _ _
    · rw [hcommand]
      exact Session.dependsOn_filters _ _ _
  have hsettings : Session.settingsIn r.around.environment (r.invocation.settings.map Path.mk)
      fs = Session.settingsIn r.around.environment (r.invocation.settings.map Path.mk) fs' := by
    rw [Session.settingsIn, Session.settingsIn, show Settings.path _ _ = _ from hpath]
    exact hload
  obtain ⟨result, out, hgives⟩ := hdepends (Session.settingsIn r.around.environment
    (r.invocation.settings.map Path.mk) fs')
  obtain ⟨err, h⟩ := hgives fs hsettings
  obtain ⟨err', h'⟩ := hgives fs' rfl
  rw [outcome_eq h, outcome_eq h']

theorem outcome_of_contains (hpath : r.path = .ok path)
    (hcommand : r.invocation.command = some (.config (some (.init false))))
    (hcontains : fs.contains path = true) :
    r.outcome fs = (.error (.settings (.alreadyExists path)), "") := by
  have hrun : r.run fs = .error (.settings (.alreadyExists path)) ⟨fs, "", ""⟩ := by
    rw [run, Session.run, hcommand]
    dsimp only
    unfold Session.initSettings
    rw [show Settings.path _ _ = _ from hpath]
    simp only [bind, EStateM.bind, Session.ofExcept, Session.files, pure, EStateM.pure]
    rw [if_pos (by simp [hcontains])]
    rfl
  rw [outcome, hrun]

/-- In these files the path stands for the default settings, as it does where it leads to
nothing, and no new file takes the place of what it leads to unless that is forced. -/
structure StandsForDefault (fs : FileSystem) (path : Path) : Prop where
  load_eq : Settings.load fs path = .ok Settings.default
  outcome_eq : ∀ r : Request, r.path = .ok path → r.UsesSettings →
    ∀ bare : FileSystem, bare.contains path = false → r.outcome fs = r.outcome bare
  refuses : ∀ r : Request, r.path = .ok path →
    r.invocation.command = some (.config (some (.init false))) →
    ∃ failure, (r.outcome fs).1 = .error failure ∧ failure.code = "CONFIG_ERROR"

theorem standsForDefault_of_get (h : fs.get path = .ok (.file Settings.template.toUTF8)) :
    StandsForDefault fs path := by
  have hload := Settings.load_of_get_eq_template h
  refine ⟨hload, fun r hpath huses bare hbare => ?_, fun r hpath hcommand => ?_⟩
  · rw [← Settings.load_of_contains_eq_false hbare] at hload
    exact outcome_eq_of_load_eq hpath huses hload
  · have hcontains : fs.contains path = true := by
      rw [FileSystem.contains, h]
      rfl
    rw [outcome_of_contains hpath hcommand hcontains]
    exact ⟨_, rfl, rfl⟩

/-! ### Runs -/

/-- In a run of requests, from any files, only one that makes a settings file changes the set
or the content of the files, and it changes one, the one to which the path of the settings
leads afterwards. That file holds the template from then on, and for as long as it does the
path stands for the default settings. A request that was not forced found nothing under its
path, and if the path led to a place already, nothing stood there. -/
theorem files_change_by_init_only (fs : FileSystem) (earlier later : List Request)
    (r : Request) :
    let before := leavesAll earlier fs
    let after := r.leaves before
    ((∀ force, ¬r.Inits force before) →
      ∀ location, after.file? location = before.file? location) ∧
    (∀ force, r.Inits force before → ∃ path location, r.path = .ok path ∧
      after.follow path = .ok location ∧
      after.file? location = some Settings.template.toUTF8 ∧
      (∀ other, other ≠ location → after.file? other = before.file? other) ∧
      (force = false → before.contains path = false ∧
        ∀ there, before.follow path = .ok there → there = location ∧ before.lookup there = none) ∧
      (leavesAll later after).get path = .ok (.file Settings.template.toUTF8)) ∧
    ∀ now path, now.get path = .ok (.file Settings.template.toUTF8) →
      StandsForDefault now path := by
  intro before after
  refine ⟨fun hno => ?_, fun force hinits => ?_, fun now path => standsForDefault_of_get⟩
  · rcases r.cases before with hspares | ⟨force, path, location, hmakes⟩
    · exact hspares.sameFiles
    · exact absurd hmakes.inits (hno force)
  · rcases r.cases before with hspares | ⟨force', path, location, hmakes⟩
    · exact absurd hinits (hspares.not_inits force)
    obtain rfl : force = force' := by
      have hcommand := hinits.command_eq.symm.trans hmakes.inits.command_eq
      simpa using hcommand
    refine ⟨path, location, hmakes.path_eq, hmakes.holds.leads, hmakes.holds.file?_eq,
      hmakes.file?_eq, fun hforce => ?_, (holds_leavesAll hmakes.holds later).get_eq⟩
    have hfree : before.contains path = false := hmakes.free.resolve_right (by simp [hforce])
    -- Only a path that led somewhere before the directories were made is known to lead to the
    -- same place afterwards.
    refine ⟨hfree, fun there hthere => ⟨?_, ?_⟩⟩
    · exact Except.ok.inj ((hmakes.grows.follow hthere).symm.trans hmakes.holds.leads)
    · exact FileSystem.lookup_eq_none_of_contains hmakes.holds.ends hthere hfree

/-- A file is made in a directory that is missing, and a query is checked with it. -/
theorem init_in_missing_directory :
    let around : Surroundings := ⟨⟨none, none, some "home", none, false⟩, .empty⟩
    let before : FileSystem := ⟨[(["kept"], .file "text".toUTF8)], []⟩
    let make : Request := ⟨around, ["--config", "new/c", "config", "init"],
      { Invocation.plain (some (.config (some (.init false)))) with settings := some "new/c" },
      rfl⟩
    let check : Request := ⟨around, ["--config", "new/c", "check", "\x7b\x7d"],
      { Invocation.plain (some (.check (some "\x7b\x7d"))) with settings := some "new/c" }, rfl⟩
    make.Inits false before ∧ before.contains ⟨"new/c"⟩ = false ∧
      (make.leaves before).file? ["new", "c"] = some Settings.template.toUTF8 ∧
      (make.leaves before).file? ["kept"] = some "text".toUTF8 ∧
      (∀ force, ¬check.Inits force before) ∧
      (check.leaves before).file? ["kept"] = some "text".toUTF8 ∧
      check.outcome (make.leaves before) = check.outcome before ∧
      ∃ failure, (make.outcome (make.leaves before)).1 = .error failure ∧
        failure.code = "CONFIG_ERROR" := by
  intro around before make check
  have hmake : make.Inits false before := ⟨rfl, rfl⟩
  have hcheck (force : Bool) : ¬check.Inits force before := fun h => nomatch h.command_eq
  obtain ⟨-, hinit, hstands⟩ := files_change_by_init_only before [] [] make
  obtain ⟨path, location, hpath, hleads, hfile, hothers, hfree, hget⟩ := hinit false hmake
  obtain rfl : path = ⟨"new/c"⟩ := (Except.ok.inj hpath).symm
  obtain rfl : location = ["new", "c"] := Except.ok.inj (hleads.symm.trans rfl)
  have hnone := (hfree rfl).1
  have hstand := hstands _ _ hget
  refine ⟨hmake, hnone, hfile, hothers _ (by decide), hcheck, ?_, ?_, ?_⟩
  · exact (files_change_by_init_only before [] [] check).1 hcheck ["kept"]
  · exact hstand.outcome_eq check rfl (.inl ⟨_, rfl⟩) before hnone
  · exact hstand.refuses make rfl rfl

/-- A file is replaced though nobody forced it. A directory on the way is missing, so the path
leads nowhere when that is asked, and to the file once the directory has been made. -/
theorem exists_init_over_file :
    ∃ (r : Request) (fs : FileSystem) (location : Location),
      r.words = ["--config", "a/../cfg.toml", "config", "init"] ∧ r.Inits false fs ∧
      fs.file? location = some "kept\n".toUTF8 ∧
      (r.leaves fs).file? location = some Settings.template.toUTF8 ∧
      "kept\n".toUTF8 ≠ Settings.template.toUTF8 := by
  refine ⟨⟨⟨⟨none, none, some "home", none, false⟩, .empty⟩,
    ["--config", "a/../cfg.toml", "config", "init"],
    { Invocation.plain (some (.config (some (.init false)))) with
      settings := some "a/../cfg.toml" }, rfl⟩,
    ⟨[(["cfg.toml"], .file "kept\n".toUTF8)], []⟩, ["cfg.toml"], rfl, ⟨rfl, rfl⟩, rfl, rfl, ?_⟩
  intro h
  have htext : "kept\n".toList = Settings.template.toList :=
    congrArg String.toList (String.toByteArray_inj.mp h)
  rw [Settings.toList_template] at htext
  exact absurd (congrArg List.head? htext) (by decide)

end Request

end FilterQuery
