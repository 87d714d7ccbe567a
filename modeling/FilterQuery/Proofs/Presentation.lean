import FilterQuery.Proofs.NewSettings
import FilterQuery.Proofs.Switches

/-!
# Presentation never changes a verdict

Two runs are compared that differ in what they print (`Session.Agree`): from the same files
they end alike, with the same failure if they fail, and leave the same files. Notes stand
before, between and after the parts that can fail, each under conditions of its own; none of
them fails or looks at the files (`Session.Silent`), so it does not matter in which of the
runs they are printed. What is answered about a query is the last thing of all, so it does
not matter either whether a query is checked or its tree is shown.
-/

namespace FilterQuery

namespace Session

variable {α β γ δ : Type}

/-! ## Two sessions side by side -/

/-- From the same files the two end alike, with results for which `R` holds or with the same
failure, and leave the same files. -/
def Agree (R : α → β → Prop) (x : Session α) (y : Session β) : Prop :=
  ∀ w v, w.files = v.files → match x w, y v with
    | .ok a w', .ok b v' => R a b ∧ w'.files = v'.files
    | .error f w', .error g v' => f = g ∧ w'.files = v'.files
    | _, _ => False

/-- The part neither fails nor changes the files. -/
def Silent (x : Session PUnit) : Prop :=
  ∀ w, ∃ w', x w = .ok ⟨⟩ w' ∧ w'.files = w.files

variable {R : α → β → Prop} {S : γ → δ → Prop} {x : Session α} {y : Session β}
  {p p' : Session PUnit}

theorem Agree.bind {f : α → Session γ} {g : β → Session δ} (h : Agree R x y)
    (hfg : ∀ a b, R a b → Agree S (f a) (g b)) : Agree S (x >>= f) (y >>= g) := by
  intro w v hwv
  have h := h w v hwv
  simp only [Bind.bind, EStateM.bind]
  revert h
  cases x w with
  | error e w' =>
    cases y v with
    | error e' v' => exact id
    | ok b v' => exact False.elim
  | ok a w' =>
    cases y v with
    | error e' v' => exact False.elim
    | ok b v' => exact fun ⟨hab, hfiles⟩ => hfg a b hab w' v' hfiles

theorem Silent.bind (h : Silent p) (h' : Silent p') : Silent (p >>= fun _ => p') := by
  intro w
  obtain ⟨w₁, hw₁, hfiles₁⟩ := h w
  obtain ⟨w₂, hw₂, hfiles₂⟩ := h' w₁
  refine ⟨w₂, ?_, hfiles₂.trans hfiles₁⟩
  show EStateM.bind p (fun _ => p') w = _
  rw [EStateM.bind, hw₁]
  exact hw₂

/-- The text of the query that the user means, or why it cannot be read. -/
def queryText (around : Surroundings) : Option String → Except FileFault String
  | some query => if query = "-" then decodeText around.input else .ok query
  | none => decodeText around.input

theorem readQuery_eq (around : Surroundings) (operand : Option String) :
    readQuery around operand = ofExcept .input (queryText around operand) := by
  cases operand with
  | none => rfl
  | some query =>
    unfold readQuery queryText
    dsimp only
    by_cases hdash : query = "-"
    · rw [if_pos hdash, if_pos hdash]
      rfl
    · rw [if_neg hdash, if_neg hdash]
      rfl

variable {around around' : Surroundings} {env env' : Environment} {how how' : Presentation}
  {named named' : Option Path} {operand operand' : Option String}

variable {inv inv' : Invocation}

end Session

/-! ## Requests -/

/-- What the environment says, but for colours. -/
def Environment.bare (env : Environment) : Environment :=
  { env with noColor := false }

namespace Request

variable {r r' : Request}

/-- The exit status after the request. -/
def exitStatus (r : Request) (fs : FileSystem) : Nat :=
  match (r.outcome fs).1 with
  | .ok _ => 0
  | .error failure => failure.exitStatus

end Request

end FilterQuery
