import FilterQuery.Session.Run

/-!
# A failure leaves nothing behind

A command that fails has answered nothing, and every file is there with its content as
before (`untouched_of_run_eq_error`). Two things could spoil this. The diagnostics of a
query are shown before its error is raised, but they are notes and no answer. And a new
settings file is made in several steps, any of which can fail: the directories around it
may have been made by then, but no file.

A command is read from its end: the part that answers cannot fail (`answer_total`), and
all parts before it, the making of directories included, spare the answer and the files
(`Spares`).
-/

namespace FilterQuery

/-! ## Making directories -/

namespace FileSystem

variable {fs fs₁ fs₂ : FileSystem} {path : Path}

/-- The same files with the same content; the directories may differ. -/
def SameFiles (fs fs' : FileSystem) : Prop :=
  ∀ location, fs'.file? location = fs.file? location

theorem SameFiles.refl (fs : FileSystem) : fs.SameFiles fs :=
  fun _ => rfl

theorem SameFiles.trans (h : fs.SameFiles fs₁) (h₁ : fs₁.SameFiles fs₂) : fs.SameFiles fs₂ :=
  fun location => (h₁ location).trans (h location)

/-- A directory is made where nothing stood. -/
theorem exists_put_of_makeDirectory (h : fs.makeDirectory path = .ok fs₁) :
    ∃ place, fs.lookup place = none ∧ fs₁ = fs.put place .directory := by
  unfold makeDirectory at h
  cases hplace : fs.follow path with
  | error fault => simp [hplace, bind, Except.bind] at h
  | ok place =>
    simp only [hplace, bind, Except.bind] at h
    split at h
    · cases h
    next hfree =>
    cases h
    refine ⟨place, ?_, rfl⟩
    rw [← Option.not_isSome_iff_eq_none]
    exact fun hsome => hfree (.inr hsome)

theorem sameFiles_of_makeDirectory (h : fs.makeDirectory path = .ok fs₁) :
    fs.SameFiles fs₁ := by
  obtain ⟨place, hnone, rfl⟩ := exists_put_of_makeDirectory h
  exact file?_put_directory hnone

/-- What holds of making one directory, and of one after the other, holds of making all of
them. What was made before a fault stays, and is covered too. -/
theorem makeDirectories_induction {R : FileSystem → FileSystem → Prop} (refl : ∀ fs, R fs fs)
    (trans : ∀ {fs fs₁ fs₂}, R fs fs₁ → R fs₁ fs₂ → R fs fs₂)
    (make : ∀ {fs fs₁ path}, fs.makeDirectory path = .ok fs₁ → R fs fs₁)
    (fs : FileSystem) (paths : List Path) : R fs (fs.makeDirectories paths).1 := by
  have hensure (fs : FileSystem) (path : Path) : R fs (fs.ensureDirectory path).1 := by
    unfold ensureDirectory
    cases h : fs.makeDirectory path with
    | error fault => exact refl fs
    | ok fs₁ => exact make h
  induction paths generalizing fs with
  | nil => exact refl fs
  | cons path around ih =>
    rw [makeDirectories]
    by_cases hhere : path.text = ""
    · rw [if_pos hhere]
      exact refl fs
    rw [if_neg hhere]
    have hmade := hensure fs path
    revert hmade
    rcases fs.ensureDirectory path with ⟨fs₁, made⟩
    intro hmade
    split
    next h =>
      cases h
      have haround := trans hmade (ih fs₁)
      revert haround
      rcases fs₁.makeDirectories around with ⟨fs₂, made₂⟩
      intro haround
      cases made₂ with
      | ok _ => exact trans haround (hensure fs₂ path)
      | error fault => exact haround
    next => exact hmade

theorem sameFiles_makeParents (fs : FileSystem) (path : Path) :
    fs.SameFiles (fs.makeParents path).1 :=
  makeDirectories_induction .refl .trans sameFiles_of_makeDirectory fs path.ancestors

end FileSystem

/-! ## Parts of a session -/

/-- Nothing has been answered since, and the files are the same. -/
structure World.Untouched (w₀ w : World) : Prop where
  stdout_eq : w.stdout = w₀.stdout
  sameFiles : w₀.files.SameFiles w.files

theorem World.Untouched.refl (w : World) : w.Untouched w :=
  ⟨rfl, .refl _⟩

namespace Session

variable {α β : Type} {w₀ : World}

/-- The part leaves the world untouched, whether it ends well or not, and what it gives has
the property `P`. -/
def Spares (w₀ : World) (x : Session α) (P : α → Prop) : Prop :=
  ∀ w, w₀.Untouched w → match x w with
    | .ok a w' => P a ∧ w₀.Untouched w'
    | .error _ w' => w₀.Untouched w'

/-- The part leaves the world untouched if it fails. -/
def FailsUntouched (w₀ : World) (x : Session α) : Prop :=
  ∀ w f w', w₀.Untouched w → x w = .error f w' → w₀.Untouched w'

/-- The part does not fail. -/
def Total (x : Session α) : Prop :=
  ∀ w f w', x w ≠ .error f w'

theorem Total.failsUntouched {x : Session α} (hx : Total x) : FailsUntouched w₀ x :=
  fun w f w' _ h => absurd h (hx w f w')

theorem Total.bind {x : Session α} {f : α → Session β} (hx : Total x)
    (hf : ∀ a, Total (f a)) : Total (x >>= f) := by
  intro w e w' h
  have hx := hx w
  simp only [Bind.bind, EStateM.bind] at h
  revert h hx
  cases x w with
  | error e₁ w₁ => exact fun _ hx => hx e₁ w₁ rfl
  | ok a w₁ => exact fun h _ => hf a w₁ e w' h

theorem Spares.failsUntouched_bind {x : Session α} {P : α → Prop} {f : α → Session β}
    (hx : Spares w₀ x P) (hf : ∀ a, P a → FailsUntouched w₀ (f a)) :
    FailsUntouched w₀ (x >>= f) := by
  intro w e w' hw h
  have hx := hx w hw
  simp only [Bind.bind, EStateM.bind] at h
  revert h hx
  cases x w with
  | error e₁ w₁ =>
    intro h hx
    cases h
    exact hx
  | ok a w₁ =>
    rintro h ⟨ha, hw₁⟩
    exact hf a ha w₁ e w' hw₁ h

theorem Spares.bind {x : Session α} {P : α → Prop} {f : α → Session β} {Q : β → Prop}
    (hx : Spares w₀ x P) (hf : ∀ a, P a → Spares w₀ (f a) Q) : Spares w₀ (x >>= f) Q := by
  intro w hw
  have hx := hx w hw
  simp only [Bind.bind, EStateM.bind]
  revert hx
  cases x w with
  | error e w₁ => exact id
  | ok a w₁ => exact fun ⟨ha, hw₁⟩ => hf a ha w₁ hw₁

theorem spares_pure (a : α) : Spares w₀ (pure a) fun _ => True :=
  fun _ hw => ⟨trivial, hw⟩

theorem spares_throw {P : α → Prop} (f : Failure) : Spares w₀ (throw f) P :=
  fun _ hw => hw

theorem spares_ofExcept {ε : Type} (failure : ε → Failure) (x : Except ε α) :
    Spares w₀ (ofExcept failure x) fun _ => True := by
  cases x with
  | ok a => exact spares_pure a
  | error e => exact spares_throw (failure e)

theorem spares_note (line : String) : Spares w₀ (note line) fun _ => True :=
  fun _ hw => ⟨trivial, hw.stdout_eq, hw.sameFiles⟩

theorem spares_files : Spares w₀ files fun fs => w₀.files.SameFiles fs :=
  fun _ hw => ⟨hw.sameFiles, hw⟩

theorem spares_setFiles {fs : FileSystem} (h : w₀.files.SameFiles fs) :
    Spares w₀ (setFiles fs) fun _ => True :=
  fun _ hw => ⟨trivial, hw.stdout_eq, h⟩

theorem spares_forM {xs : List α} {f : α → Session PUnit}
    (h : ∀ a ∈ xs, Spares w₀ (f a) fun _ => True) : Spares w₀ (xs.forM f) fun _ => True := by
  induction xs with
  | nil => exact spares_pure _
  | cons x xs ih =>
    refine (h x (by simp)).bind fun _ _ => ?_
    exact ih fun a ha => h a (by simp [ha])

theorem spares_ite {p : Prop} [Decidable p] {x y : Session α} {P : α → Prop}
    (hx : Spares w₀ x P) (hy : Spares w₀ y P) : Spares w₀ (if p then x else y) P := by
  by_cases hp : p
  · rwa [if_pos hp]
  · rwa [if_neg hp]

/-- Nothing can go wrong any more once the answer is given. -/
theorem answer_total (how : Presentation) (document : Text.Json) (text : String) :
    Total (answer how document text) := by
  intro w f w'
  unfold answer
  split
  · nofun
  split
  · nofun
  · nofun

/-! ## Commands -/

variable (around : Surroundings) (env : Environment) (how : Presentation)
  (named : Option Path) (operand : Option String)

theorem spares_openSettings : Spares w₀ (openSettings around how named) fun _ => True := by
  refine (spares_ofExcept _ _).bind fun path _ => ?_
  refine spares_files.bind fun fs _ => ?_
  refine (spares_ofExcept _ _).bind fun settings _ => ?_
  dsimp only
  refine spares_ite ((spares_note _).bind fun _ _ => ?_) ?_
  · exact spares_ite (spares_pure _) (spares_pure _)
  · exact spares_ite (spares_pure _) (spares_pure _)

theorem spares_readQuery : Spares w₀ (readQuery around operand) fun _ => True := by
  cases operand with
  | none => exact spares_ofExcept _ _
  | some query => exact spares_ite (spares_ofExcept _ _) (spares_pure _)

theorem spares_compileQuery (known : FilterSet) (source : String) :
    Spares w₀ (compileQuery how known source) fun _ => True := by
  have hquery (compiled : Compilation) : Spares w₀ (do
      let query ← ofExcept .compile compiled.outcome
      return (query, compiled.diagnostics)) fun _ => True :=
    (spares_ofExcept _ _).bind fun _ _ => spares_pure _
  have hcompiled (compiled : Compilation) : Spares w₀ (do
      if !how.json && !how.quiet then
        compiled.diagnostics.forM fun d => note (Report.warning how.ink d)
      let query ← ofExcept .compile compiled.outcome
      return (query, compiled.diagnostics)) fun _ => True :=
    spares_ite ((spares_forM fun _ _ => spares_note _).bind fun _ _ => hquery compiled)
      (hquery compiled)
  exact spares_ite ((spares_note _).bind fun _ _ => hcompiled _) (hcompiled _)

theorem check_failsUntouched : FailsUntouched w₀ (check around how named operand) := by
  refine (spares_openSettings around how named).failsUntouched_bind fun opened _ => ?_
  refine (spares_readQuery around operand).failsUntouched_bind fun source _ => ?_
  refine (spares_compileQuery _ _ source).failsUntouched_bind fun compiled _ => ?_
  exact (answer_total _ _ _).failsUntouched

theorem ast_failsUntouched : FailsUntouched w₀ (ast around how named operand) := by
  refine (spares_openSettings around how named).failsUntouched_bind fun opened _ => ?_
  refine (spares_readQuery around operand).failsUntouched_bind fun source _ => ?_
  refine (spares_compileQuery _ _ source).failsUntouched_bind fun compiled _ => ?_
  exact (answer_total _ _ _).failsUntouched

theorem filters_failsUntouched : FailsUntouched w₀ (filters around how named) := by
  refine (spares_openSettings around how named).failsUntouched_bind fun opened _ => ?_
  exact (answer_total _ _ _).failsUntouched

theorem showSettings_failsUntouched : FailsUntouched w₀ (showSettings env how named) := by
  refine (spares_ofExcept _ _).failsUntouched_bind fun path _ => ?_
  refine spares_files.failsUntouched_bind fun fs _ => ?_
  refine (spares_ofExcept _ _).failsUntouched_bind fun settings _ => ?_
  exact (answer_total _ _ _).failsUntouched

theorem showPath_failsUntouched : FailsUntouched w₀ (showPath env how named) := by
  refine (spares_ofExcept _ _).failsUntouched_bind fun path _ => ?_
  refine spares_files.failsUntouched_bind fun fs _ => ?_
  exact (answer_total _ _ _).failsUntouched

/-- The new file is written last of all: from then on nothing fails. -/
theorem initSettings_failsUntouched (force : Bool) :
    FailsUntouched w₀ (initSettings env how named force) := by
  have hmake (path : Path) {fs : FileSystem} (hfs : w₀.files.SameFiles fs) :
      FailsUntouched w₀ (do
        setFiles (fs.makeParents path).1
        ofExcept (.settings ∘ .noDirectory) (fs.makeParents path).2
        setFiles (← ofExcept (.settings ∘ .unwritable)
          ((fs.makeParents path).1.write path Settings.template.toUTF8))
        answer how (.object [("path", .string path.text), ("status", .string "success")])
          s!"Created config at {path.text}\n") := by
    have hmade := hfs.trans (fs.sameFiles_makeParents path)
    refine (spares_setFiles hmade).failsUntouched_bind fun _ _ => ?_
    refine (spares_ofExcept _ _).failsUntouched_bind fun _ _ => ?_
    refine (spares_ofExcept _ _).failsUntouched_bind fun written _ => ?_
    refine Total.failsUntouched (Total.bind (fun _ _ _ => nofun) fun _ => ?_)
    exact answer_total _ _ _
  refine (spares_ofExcept _ _).failsUntouched_bind fun path _ => ?_
  refine spares_files.failsUntouched_bind fun fs hfs => ?_
  dsimp only
  split
  · exact (spares_throw (P := fun _ => True) _).failsUntouched_bind fun _ _ => hmake path hfs
  · exact hmake path hfs

/-- A command that fails has answered nothing, and has neither made, changed nor removed a
file, whatever step of it fails. -/
theorem untouched_of_run_eq_error {around : Surroundings} {inv : Invocation} {w w' : World}
    {f : Failure} (h : run around inv w = .error f w') :
    w'.stdout = w.stdout ∧
      ∀ location, w'.files.file? location = w.files.file? location := by
  have hrun : FailsUntouched w (run around inv) := by
    unfold run
    dsimp only
    split
    · exact check_failsUntouched around _ _ _
    · exact ast_failsUntouched around _ _ _
    · exact filters_failsUntouched around _ _
    · exact showSettings_failsUntouched _ _ _
    · exact showSettings_failsUntouched _ _ _
    · exact showPath_failsUntouched _ _ _
    · exact initSettings_failsUntouched _ _ _ _
    · exact Total.failsUntouched fun _ _ _ => nofun
    · split
      · exact Total.failsUntouched fun _ _ _ => nofun
      · exact Total.failsUntouched fun _ _ _ => nofun
  have huntouched := hrun w f w' (.refl w) h
  exact ⟨huntouched.stdout_eq, huntouched.sameFiles⟩

/-- A new settings file is asked for where only a directory could be. The directory around
it is made, and then nothing can be written. -/
theorem untouched_when_unwritable :
    ∃ f w', run default
        { Invocation.plain (some (.config (some (.init true)))) with settings := some "new/x/" }
        ⟨⟨[(["kept"], .file "text".toUTF8)], []⟩, "", ""⟩ = .error f w' ∧
      f = .settings (.unwritable .isDirectory) ∧
      w'.files.lookup ["new"] = some .directory ∧
      w'.stdout = "" ∧
      ∀ location, w'.files.file? location =
        FileSystem.file? ⟨[(["kept"], .file "text".toUTF8)], []⟩ location := by
  refine ⟨_, _, rfl, rfl, rfl, ?_⟩
  exact @untouched_of_run_eq_error default
    { Invocation.plain (some (.config (some (.init true)))) with settings := some "new/x/" }
    ⟨⟨[(["kept"], .file "text".toUTF8)], []⟩, "", ""⟩ _ _ rfl

end Session

end FilterQuery
