import FilterQuery.Proofs.Faultless

/-!
# What lasts while a text is read

The reader changes in two ways that count: its cursor goes over some text, and the search
for a connector notes the characters that it passes over. A property of the reader that
lasts through both (`Lasting`) holds wherever a reading ends well, whatever the parts are
that it consists of. With it goes a property of the errors that a reading ends with, and of
the diagnostics until then. Of all errors one kind is told apart, that an identifier is
unknown: its place is the start of the identifier, which the reader has left when it is
raised.

A part of a reading is judged from any state with the property before it (`Ensures`), and
these judgements are closed under sequences. Steps back undo a step that has just been
taken, and what they lead back to is known from before that step (`Entered`).
-/

namespace FilterQuery

open Grammar

/-- The error says that no filter has an identifier. -/
def CompileError.IsUnknownFilter (e : CompileError) : Prop :=
  ∃ identifier suggestion offset, e = .query ⟨.unknownFilter identifier suggestion, offset⟩

theorem CompileError.IsOf.not_isUnknownFilter {e : CompileError} {p : QueryErrorKind → Bool}
    (h : e.IsOf p)
    (hp : ∀ identifier suggestion, p (.unknownFilter identifier suggestion) = false) :
    ¬ e.IsUnknownFilter := by
  obtain ⟨error, rfl, hkind⟩ := h
  rintro ⟨identifier, suggestion, offset, he⟩
  cases he
  rw [hp] at hkind
  cases hkind

theorem Scan.not_isUnknownFilter_errorAt {c : Cursor} {kind : QueryErrorKind}
    (h : ∀ identifier suggestion, kind ≠ .unknownFilter identifier suggestion) :
    ¬ (errorAt c kind).IsUnknownFilter := by
  rintro ⟨identifier, suggestion, offset, he⟩
  cases he
  exact h _ _ rfl

/-- `I` lasts while a text is read, and `E` holds of every error that comes up meanwhile, with
the diagnostics until then. -/
structure Lasting (I : Reader → Prop) (E : CompileError → List Diagnostic → Prop) : Prop where
  goto : ∀ {r t d}, I r → r.cursor.Reads t d → I (r.goto d)
  moved : ∀ {r skipped d}, I r → r.cursor.Reads skipped d →
    (∀ a ∈ skipped, endsSearch a = false) →
    I (r.moved d (skipDiagnostics r.cursor.reach skipped))
  same : ∀ {r s : Reader}, I r → s.cursor = r.cursor → s.diagnostics = r.diagnostics → I s
  error : ∀ {r e}, I r → ¬ e.IsUnknownFilter → E e r.diagnostics
  unknown : ∀ {r t start identifier suggestion}, I r → r.cursor.Reads (t ++ [start.current]) start →
    E (Scan.errorAt start (.unknownFilter identifier suggestion)) r.diagnostics

/-- The reader has just come to the character under the cursor, from a place with `I`. -/
def Entered (I : Reader → Prop) (r : Reader) : Prop :=
  ∃ p, p.Reads [r.cursor.current] r.cursor ∧ I (r.goto p)

theorem Entered.here {I : Reader → Prop} {E : CompileError → List Diagnostic → Prop} {r : Reader}
    (hI : Lasting I E) (h : Entered I r) : I r := by
  obtain ⟨p, hp, hr⟩ := h
  exact hI.goto (r := r.goto p) hr hp

/-- A reading has ended well in a state with `Q`, or it has failed with `E`. -/
def EndsIn {α : Type} (E : CompileError → List Diagnostic → Prop) (Q : Reader → Prop) :
    EStateM.Result CompileError Reader α → Prop
  | .ok _ r => Q r
  | .error e r => E e r.diagnostics

/-- From any state with `P` a reading ends well in a state with `Q`, or it fails with `E`. -/
def Ensures {α : Type} (E : CompileError → List Diagnostic → Prop) (P : Reader → Prop)
    (x : Reading α) (Q : Reader → Prop) : Prop :=
  ∀ r, P r → EndsIn E Q (x r)

namespace Reading

variable {α β : Type} {E : CompileError → List Diagnostic → Prop} {P Q R I : Reader → Prop}
  {registry : Registry} {r : Reader}

theorem endsIn_bind {x : Reading α} {f : α → Reading β} (hx : EndsIn E Q (x r))
    (hf : ∀ a, Ensures E Q (f a) R) : EndsIn E R ((x >>= f) r) := by
  simp only [bind, EStateM.bind]
  revert hx
  cases x r with
  | ok a r' => exact hf a r'
  | error e r' => exact id

theorem ensures_bind {x : Reading α} {f : α → Reading β} (hx : Ensures E P x Q)
    (hf : ∀ a, Ensures E Q (f a) R) : Ensures E P (x >>= f) R :=
  fun r hr => endsIn_bind (hx r hr) hf

theorem endsIn_nested {f : OpenCluster → Reading OpenCluster} (hroom : r.depth ≠ maxNestingDepth)
    (h : EndsIn E Q (f ⟨r.nextId, []⟩ r.enter)) (hleave : ∀ {s}, Q s → R s.leave) :
    EndsIn E R (nested f r) := by
  cases hresult : nested f r with
  | ok child r' =>
    obtain ⟨-, s, hbody, rfl⟩ := nested_eq_ok_iff.mp hresult
    rw [hbody] at h
    exact hleave h
  | error e r' =>
    obtain ⟨hfull, -⟩ | ⟨-, s, hbody, rfl⟩ := nested_eq_error_iff.mp hresult
    · exact absurd hfull hroom
    · rw [hbody] at h
      exact h

theorem ensures_pure (a : α) : Ensures E P (pure a) P :=
  fun _ hr => hr

theorem ensures_place : Ensures E P place P :=
  fun _ hr => hr

/-! ## The steps of a filter -/

theorem filter_of_identifier_error {p : Cursor} {e : CompileError}
    (hp : p.Reads [r.cursor.current] r.cursor) (h : Scan.identifier "" p = .error e) :
    filter registry r = .error e (r.goto p) := by
  have hplace : place r = .ok r.cursor r := rfl
  have hback : stepBack r = .ok () (r.goto p) := stepBack_eq_ok_iff.mpr ⟨p, hp, rfl⟩
  have hfails : scan (Scan.identifier "") (r.goto p) = .error e (r.goto p) :=
    scan_eq_error_iff.mpr ⟨h, rfl⟩
  rw [filter, EStateM.bind_of_eq_ok hplace, EStateM.bind_of_eq_ok hback, EStateM.bind_eq_error_iff]
  exact .inl hfails

/-- When the name of a filter has been read, the filter is unknown or its clause is next. -/
theorem filter_of_identifier_ok {p d : Cursor} {name : String}
    (hp : p.Reads [r.cursor.current] r.cursor) (h : Scan.identifier "" p = .ok (name, d)) :
    ∃ m, p.Reads name.toList m ∧ ∀ registry : Registry, filter registry r =
      match registry.lookup name with
      | none => .error (Scan.errorAt r.cursor (.unknownFilter name (registry.suggest name)))
          (r.goto d)
      | some kind => (do
          let comparison ← scan (Scan.comparison name)
          let argument ← scan (Scan.argument name false "")
          let connector ← connector
          return { identifier := name, kind, comparison, argument, connector } :
          Reading FilterReference) (r.goto m) := by
  obtain ⟨hread, -⟩ := Scan.reads_of_identifier h
  obtain ⟨m, hm, hd⟩ := Cursor.reads_append.mp hread
  refine ⟨m, hm, fun registry => ?_⟩
  have hplace : place r = .ok r.cursor r := rfl
  have hback : stepBack r = .ok () (r.goto p) := stepBack_eq_ok_iff.mpr ⟨p, hp, rfl⟩
  have hname : scan (Scan.identifier "") (r.goto p) = .ok name (r.goto d) :=
    scan_eq_ok_iff.mpr ⟨d, h, rfl⟩
  have hback' : stepBack (r.goto d) = .ok () (r.goto m) := stepBack_eq_ok_iff.mpr ⟨m, hd, rfl⟩
  rw [filter, EStateM.bind_of_eq_ok hplace, EStateM.bind_of_eq_ok hback,
    EStateM.bind_of_eq_ok hname, Scan.resolve]
  cases registry.lookup name with
  | none => rfl
  | some kind =>
    have hkind : ofExcept (.ok kind) (r.goto d) = .ok kind (r.goto d) := rfl
    simp only []
    rw [EStateM.bind_of_eq_ok hkind, EStateM.bind_of_eq_ok hback']

/-! ## Parts of a reading -/

section

variable (hI : Lasting I E)

include hI

theorem ensures_ofExcept {x : Except CompileError α}
    (hx : ∀ {e}, x = .error e → ¬ e.IsUnknownFilter) : Ensures E I (ofExcept x) I := by
  intro r hr
  cases x with
  | ok a => exact hr
  | error e => exact hI.error hr (hx rfl)

/-- A scan that moves forward. -/
theorem ensures_scan {f : Cursor → Except CompileError (α × Cursor)}
    (hok : ∀ {c a d}, f c = .ok (a, d) → ∃ t, c.Reads t d)
    (herror : ∀ {c e}, f c = .error e → ¬ e.IsUnknownFilter) : Ensures E I (scan f) I := by
  intro r hr
  rw [scan]
  cases h : f r.cursor with
  | error e => exact hI.error hr (herror h)
  | ok result =>
    obtain ⟨t, hread⟩ := hok h
    exact hI.goto hr hread

theorem ensures_stepForward {missing : QueryErrorKind}
    (hmissing : ∀ identifier suggestion, missing ≠ .unknownFilter identifier suggestion) :
    Ensures E I (stepForward missing) (Entered I) := by
  intro r hr
  cases h : stepForward missing r with
  | ok u r' =>
    obtain ⟨d, hd, rfl⟩ := stepForward_eq_ok_iff.mp h
    exact ⟨r.cursor, hd, hr⟩
  | error e r' =>
    obtain ⟨⟨-, rfl⟩, rfl⟩ := stepForward_eq_error_iff.mp h
    exact hI.error hr (Scan.not_isUnknownFilter_errorAt hmissing)

theorem ensures_connector : Ensures E I connector I := by
  intro r hr
  have hends := Scan.connector_ends r.cursor
  rw [connector]
  revert hends
  generalize hresult : Scan.connector r.cursor = result
  intro hends
  cases hends with
  | cut hread hskipped _ =>
    -- of the search that has gone on, a reader that stays keeps the diagnostics
    have hfails := hI.error (hI.moved hr hread hskipped)
      ((Scan.isOf_connector hresult).not_isUnknownFilter fun _ _ => rfl)
    exact hfails
  | found hread hskipped _ _ => exact hI.moved hr hread hskipped

/-! ## Filters and calculators -/

theorem ensures_clause (filter : String) (g : Comparison → String → Option Connector → α) :
    Ensures E I (do
        let comparison ← scan (Scan.comparison filter)
        let argument ← scan (Scan.argument filter false "")
        let connector ← connector
        return g comparison argument connector) I := by
  refine ensures_bind (ensures_scan hI Scan.exists_reads_of_comparison fun h =>
    (Scan.isOf_comparison h).not_isUnknownFilter fun _ _ => rfl) fun k => ?_
  refine ensures_bind (ensures_scan hI Scan.exists_reads_of_argument fun h =>
    (Scan.isOf_argument h).not_isUnknownFilter fun _ _ => rfl) fun a => ?_
  exact ensures_bind (ensures_connector hI) fun j => ensures_pure _

theorem ensures_filter : Ensures E (Entered I) (filter registry) I := by
  rintro r ⟨p, hp, hr⟩
  cases hscan : Scan.identifier "" p with
  | error e =>
    rw [filter_of_identifier_error hp hscan]
    exact hI.error hr ((Scan.isOf_identifier hscan).not_isUnknownFilter fun _ _ => rfl)
  | ok result =>
    obtain ⟨m, hm, hfilter⟩ := filter_of_identifier_ok hp hscan
    rw [hfilter registry]
    cases registry.lookup result.1 with
    | none => exact hI.unknown (r := r.goto p) (t := []) hr hp
    | some kind => exact ensures_clause hI result.1 _ _ (hI.goto (r := r.goto p) hr hm)

theorem ensures_operands : Ensures E I (scan (Scan.operands registry [])) I := by
  intro r hr
  rw [scan]
  cases h : Scan.operands registry [] r.cursor with
  | ok result =>
    obtain ⟨t, hread⟩ := Scan.exists_reads_of_operands h
    exact hI.goto hr hread
  | error e =>
    cases Scan.operands_fail h with
    | cut => exact hI.error hr (Scan.not_isUnknownFilter_errorAt (by simp))
    | operand hread hfirst _ _ _ hends =>
      cases hends with
      | parts hparts =>
        cases hparts <;> exact hI.error hr (Scan.not_isUnknownFilter_errorAt (by simp))
      | malformed | textual => exact hI.error hr (Scan.not_isUnknownFilter_errorAt (by simp))
      | unregistered => exact hI.unknown hr (hread.trans hfirst)

/-- A calculator behind its operands. -/
theorem ensures_behind_operands (parent : Nat) (start : Cursor) (newest : List Operand) :
    Ensures E I (do
        ofExcept (checkOperands start (← place) newest)
        let comparison ← scan (Scan.comparison calculatorName)
        let argument ← scan (Scan.argument calculatorName false "")
        let connector ← connector
        return { parent, operands := newest.reverse, comparison, argument, connector } :
        Reading Calculator) I := by
  refine ensures_bind ensures_place fun finish => ?_
  refine ensures_bind (ensures_ofExcept hI fun h => ?_) fun _ => ensures_clause hI _ _
  unfold checkOperands at h
  split at h <;> cases h <;> exact Scan.not_isUnknownFilter_errorAt (by simp)

theorem ensures_calculator (parent : Nat) (start : Cursor) :
    Ensures E I (calculator registry parent start) I :=
  ensures_bind (ensures_operands hI) fun newest => ensures_behind_operands hI parent start newest

/-! ## Clusters -/

theorem ensures_nested {f : OpenCluster → Reading OpenCluster}
    (hf : ∀ cluster, Ensures E I (f cluster) I) : Ensures E I (nested f) I := by
  intro r hr
  by_cases hdepth : r.depth = maxNestingDepth
  · rw [nested, if_pos hdepth]
    exact hI.error hr (Scan.not_isUnknownFilter_errorAt (by simp))
  · exact endsIn_nested hdepth (hf _ _ (hI.same hr rfl rfl)) fun hs => hI.same hs rfl rfl

/-- The loop behind a node that has been read. -/
theorem ensures_append {bound : Nat}
    (h : ∀ cluster, Ensures E I (body registry bound cluster) I) (cluster : OpenCluster)
    (node : Node) (start : Cursor) :
    Ensures E I (do body registry bound (← ofExcept (cluster.append node start))) I := by
  refine ensures_bind (ensures_ofExcept hI fun he => ?_) h
  rw [(OpenCluster.append_eq_error_iff.mp he).2]
  exact Scan.not_isUnknownFilter_errorAt (by simp)

/-- One turn of the loop over a body. -/
theorem ensures_turn {bound : Nat} (h : ∀ cluster, Ensures E I (body registry bound cluster) I)
    (cluster : OpenCluster) : Ensures E I (body registry (bound + 1) cluster) I := by
  have hentered (cluster : OpenCluster) :
      Ensures E (Entered I) (body registry bound cluster) I :=
    fun r hr => h cluster r (hr.here hI)
  have hattach (cluster : OpenCluster) (k : Connector) (start : Cursor) :
      Ensures E (Entered I) (do body registry bound (← ofExcept (cluster.attach k start))) I := by
    intro r hr
    refine ensures_bind (ensures_ofExcept hI fun he => ?_) h r (hr.here hI)
    rw [(OpenCluster.attach_eq_error_iff.mp he).2]
    exact Scan.not_isUnknownFilter_errorAt (by simp)
  unfold body
  refine ensures_bind (ensures_stepForward hI (by simp)) fun _ => ?_
  refine ensures_bind ensures_place fun start => ?_
  cases start.currentClass with
  | whitespace => exact hentered cluster
  | closeBracket => exact fun r hr => hr.here hI
  | openBracket =>
    exact fun r hr => ensures_bind (ensures_nested hI h) (fun child => ensures_append hI h _ _ _) r
      (hr.here hI)
  | sharp =>
    intro r hr
    refine ensures_bind (ensures_stepForward hI (by simp)) (fun _ => ?_) r (hr.here hI)
    refine ensures_bind ensures_place fun c => ?_
    split
    · exact fun r hr => ensures_bind (ensures_calculator hI cluster.id start)
        (fun sum => ensures_append hI h _ _ _) r (hr.here hI)
    · exact hentered cluster
  | logicalAnd => exact hattach _ _ _
  | logicalOr => exact hattach _ _ _
  | logicalXor => exact hattach _ _ _
  | _ => exact ensures_bind (ensures_filter hI) fun node => ensures_append hI h _ _ _

theorem ensures_body (bound : Nat) :
    ∀ cluster, Ensures E I (body registry bound cluster) I := by
  induction bound with
  | zero =>
    intro cluster r hr
    exact hI.error hr (Scan.not_isUnknownFilter_errorAt (by simp))
  | succ bound ih => exact ensures_turn hI ih

end

end Reading

end FilterQuery
