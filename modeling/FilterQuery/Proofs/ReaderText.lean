import FilterQuery.Proofs.OperandText
import FilterQuery.Proofs.Results

/-!
# What the reader reads in a filter and in a calculator

The reader carries its scans along in a state, so a reading of several steps is
taken apart at the states between them: a sequence ends well exactly if there is
a state in the middle (`EStateM.bind_eq_ok_iff`), and each kind of step has its own
equivalence. Simplifying with these turns a reading into the list of its scans,
and `Scan.exists_clause` and `Scan.scans_of_clause` put the list together.

Both readings start in the middle of a step. A filter is entered on its first
character, and steps back before it reads its name; a calculator is entered on
the bracket that opens its operands.
-/

namespace FilterQuery

open Grammar

namespace Reader

/-- The reader at another place. -/
def goto (r : Reader) (d : Cursor) : Reader :=
  { r with cursor := d }

/-- The reader at another place, after more diagnostics. -/
def moved (r : Reader) (d : Cursor) (ds : List Diagnostic) : Reader :=
  { r with cursor := d, diagnostics := r.diagnostics ++ ds }

@[simp] theorem cursor_goto (r : Reader) (d : Cursor) : (r.goto d).cursor = d := rfl

@[simp] theorem goto_goto (r : Reader) (c d : Cursor) : (r.goto c).goto d = r.goto d := rfl

@[simp] theorem moved_goto (r : Reader) (c d : Cursor) (ds : List Diagnostic) :
    (r.goto c).moved d ds = r.moved d ds := rfl

end Reader

/-! ## Clauses and operands -/

/-- A clause begins with a character that ends a name and opens nothing. -/
theorem Grammar.Clause.text_head (clause : Clause) :
    ∃ x t, clause.text = x :: t ∧ isIdentifierChar x = false ∧ endsSearch x = false := by
  cases hblanks : clause.blanks with
  | nil =>
    obtain ⟨x, t, hsymbol, hother, hx⟩ := clause.comparison.exists_symbol_eq_cons
    exact ⟨x, _, by simp only [text, front, hblanks, hsymbol]; rfl, hx, by
      simp [endsSearch, connector?, hother]⟩
  | cons b blanks =>
    have hb : classify b = .whitespace := clause.blanks_blank b (by simp [hblanks])
    refine ⟨b, _, by simp only [text, front, hblanks]; rfl, ?_, ?_⟩
    · cases hletter : isIdentifierChar b with
      | false => rfl
      | true =>
        rw [classify_of_isIdentifierChar hletter] at hb
        cases hb
    · simp [endsSearch, connector?, hb]

/-- A clause that begins with a blank begins with it. -/
theorem Grammar.Clause.blanks_eq_nil {clause : Clause} {x : Char} {t : List Char}
    (h : clause.text = x :: t) (hx : classify x ≠ .whitespace) : clause.blanks = [] := by
  cases hblanks : clause.blanks with
  | nil => rfl
  | cons b blanks =>
    have hb : classify b = .whitespace := clause.blanks_blank b (by simp [hblanks])
    simp only [text, front, hblanks, List.cons_append, List.cons.injEq] at h
    exact absurd (h.1 ▸ hb) hx

/-- The operator of the last operand is missing. -/
theorem Grammar.Sum.exists_last (sum : Sum) :
    ∃ o ∈ sum.operands.getLast?, o.arithmetic = none := by
  induction sum with
  | dropped c rest ih => exact ih
  | last term closing => exact ⟨_, rfl, rfl⟩
  | more term k rest ih =>
    obtain ⟨o, ho, hnone⟩ := ih
    refine ⟨o, ?_, hnone⟩
    simp_all [Sum.operands, List.getLast?_cons]

/-! ## Steps of a reading -/

namespace Reading

variable {α β : Type} {r r' : Reader}

theorem pure_eq_ok_iff {a b : α} : (pure a : Reading α) r = .ok b r' ↔ b = a ∧ r' = r := by
  simp [pure, EStateM.pure, eq_comm]

theorem place_eq_ok_iff {c : Cursor} : place r = .ok c r' ↔ c = r.cursor ∧ r' = r := by
  simp [place, eq_comm]

theorem scan_eq_ok_iff {f : Cursor → Except CompileError (α × Cursor)} {a : α} :
    scan f r = .ok a r' ↔ ∃ d, f r.cursor = .ok (a, d) ∧ r' = r.goto d := by
  simp only [scan, Reader.goto]
  cases f r.cursor with
  | error e => simp
  | ok s => simp [Prod.ext_iff, and_assoc, eq_comm]

theorem stepForward_eq_ok_iff {missing : QueryErrorKind} {u : Unit} :
    stepForward missing r = .ok u r' ↔
      ∃ d, r.cursor.Reads [d.current] d ∧ r' = r.goto d := by
  have hstep : ∀ d, r.cursor.Reads [d.current] d ↔ Scan.stepForward r.cursor missing = .ok d :=
    fun d => Scan.stepForward_eq_ok_iff.symm
  rw [stepForward, scan_eq_ok_iff]
  simp only [hstep]
  cases Scan.stepForward r.cursor missing <;> simp [Except.map]

theorem stepBack_eq_ok_iff {u : Unit} :
    stepBack r = .ok u r' ↔
      ∃ d, d.Reads [r.cursor.current] r.cursor ∧ r' = r.goto d := by
  rw [stepBack, scan_eq_ok_iff]
  simp only [← Scan.stepBack_eq_ok_iff]
  cases Scan.stepBack r.cursor <;> simp [Except.map]

theorem ofExcept_eq_ok_iff {x : Except CompileError α} {a : α} :
    ofExcept x r = .ok a r' ↔ x = .ok a ∧ r' = r := by
  cases x with
  | error e => simp [ofExcept, throw, throwThe, MonadExceptOf.throw, EStateM.throw]
  | ok b => simp [ofExcept, pure, EStateM.pure, eq_comm]

theorem connector_eq_ok_iff {k : Option Connector} :
    connector r = .ok k r' ↔
      ∃ ds d, Scan.connector r.cursor = (ds, .ok (k, d)) ∧ r' = r.moved d ds := by
  simp only [connector, Reader.moved]
  rcases Scan.connector r.cursor with ⟨ds, e | ⟨j, d⟩⟩
  · simp
  · simp [and_assoc, eq_comm]

/-! ## Filters and calculators -/

theorem reads_of_filter {registry : Registry} {f : FilterReference} {p : Cursor}
    (hp : p.Reads [r.cursor.current] r.cursor) (hstart : r.cursor.currentClass ≠ .whitespace)
    (h : filter registry r = .ok f r') :
    ∃ (name : Name) (kind : Kind) (clause : Clause) (d : Cursor) (x : Char) (rest : List Char),
      p.Reads (name.val.toList ++ clause.text) d ∧ d.after = x :: rest ∧ endsSearch x ∧
      registry.lookup name.val = some kind ∧ (name.val = "" → clause.blanks = []) ∧
      f = ⟨name.val, kind, clause.comparison, clause.argument, connector? x⟩ ∧
      r' = r.moved d (clause.diagnostics (p.reach + utf8Length name.val.toList)) := by
  simp only [filter, EStateM.bind_eq_ok_iff, place_eq_ok_iff, stepBack_eq_ok_iff, scan_eq_ok_iff,
    ofExcept_eq_ok_iff, connector_eq_ok_iff, pure_eq_ok_iff] at h
  obtain ⟨_, _, ⟨rfl, rfl⟩, _, _, ⟨p', hp', rfl⟩, name, _, ⟨c₂, hname, rfl⟩, kind, _,
    ⟨hkind, rfl⟩, _, _, ⟨c₄, hc₄, rfl⟩, comparison, _, ⟨c₅, hcomparison, rfl⟩, argument, _,
    ⟨c₆, hargument, rfl⟩, j, _, ⟨ds, d, hconnector, rfl⟩, rfl, rfl⟩ := h
  simp only [Reader.cursor_goto, Reader.goto_goto, Reader.moved_goto] at *
  obtain rfl := hp.unique_start hp'
  obtain ⟨hread, hident⟩ := Scan.reads_of_identifier hname
  obtain ⟨hname, -⟩ := Scan.reads_of_stepBack hread hc₄
  obtain ⟨clause, x, rest, hclause, rfl, rfl, rfl, hnext, hx, rfl⟩ :=
    Scan.exists_clause hcomparison hargument hconnector
  refine ⟨⟨name, hident⟩, kind, clause, d, x, rest, hname.trans hclause, hnext, hx,
    Scan.resolve_eq_ok_iff.mp hkind, ?_, rfl, ?_⟩
  · intro hempty
    have hempty : name = "" := hempty
    subst hempty
    obtain ⟨y, t, htext, -⟩ := clause.text_head
    have hhead : p'.Reads (y :: t) d := htext ▸ hname.trans hclause
    obtain ⟨rfl, -⟩ := Cursor.reads_head hp' hhead
    exact clause.blanks_eq_nil htext hstart
  · rw [hname.reach_eq]

theorem filter_of_reads {registry : Registry} {p d : Cursor} {name : Name} {kind : Kind}
    {clause : Clause} {x : Char} {rest : List Char}
    (hp : p.Reads [r.cursor.current] r.cursor)
    (h : p.Reads (name.val.toList ++ clause.text) d) (hafter : d.after = x :: rest)
    (hx : endsSearch x) (hlookup : registry.lookup name.val = some kind) :
    filter registry r =
      .ok ⟨name.val, kind, clause.comparison, clause.argument, connector? x⟩
        (r.moved d (clause.diagnostics (p.reach + utf8Length name.val.toList))) := by
  obtain ⟨m, hname, hclause⟩ := Cursor.reads_append.mp h
  obtain ⟨y, t, htext, hy, hend⟩ := clause.text_head
  have hclose : classify y ≠ .closeBracket := by
    intro hclose
    simp [endsSearch, hclose] at hend
  obtain ⟨e, he, -⟩ := Cursor.reads_cons.mp (htext ▸ hclause)
  obtain rfl : e.current = y := he.current_eq_of_step
  have hident : Scan.identifier "" p = .ok (name.val, e) := by
    rw [Scan.identifier_of_reads name.property hy hclose (hname.trans he), String.ofList_toList]
  obtain ⟨c₁, c₂, hcomparison, hargument, hconnector⟩ :=
    Scan.scans_of_clause name.val hclause hafter hx
  simp only [filter, EStateM.bind_eq_ok_iff, place_eq_ok_iff, stepBack_eq_ok_iff, scan_eq_ok_iff,
    ofExcept_eq_ok_iff, connector_eq_ok_iff, pure_eq_ok_iff]
  refine ⟨_, _, ⟨rfl, rfl⟩, (), _, ⟨p, hp, rfl⟩, name.val, _, ⟨e, hident, rfl⟩, kind, _,
    ⟨?_, rfl⟩, (), _, ⟨m, ?_, rfl⟩, _, _, ⟨c₁, hcomparison, rfl⟩, _, _, ⟨c₂, hargument, rfl⟩,
    _, _, ⟨_, d, hconnector, rfl⟩, rfl, ?_⟩
  · exact Scan.resolve_eq_ok_iff.mpr hlookup
  · exact he
  · rw [← hname.reach_eq]
    rfl

theorem checkOperands_eq_ok_iff {start finish : Cursor} {newest : List Operand} :
    checkOperands start finish newest = .ok () ↔
      ∃ o ∈ newest.head?, o.arithmetic = none := by
  match newest with
  | [] => simp [checkOperands]
  | ⟨value, some k⟩ :: rest => simp [checkOperands]
  | ⟨value, none⟩ :: rest => simp [checkOperands]

theorem reads_of_calculator {registry : Registry} {parent : Nat} {start : Cursor}
    {s : Calculator} (h : calculator registry parent start r = .ok s r') :
    ∃ (sum : Sum) (clause : Clause) (d : Cursor) (x : Char) (rest : List Char),
      r.cursor.Reads (sum.text ++ clause.text) d ∧ d.after = x :: rest ∧ endsSearch x ∧
      sum.Valid registry ∧
      s = ⟨parent, sum.operands, clause.comparison, clause.argument, connector? x⟩ ∧
      r' = r.moved d (clause.diagnostics (r.cursor.reach + utf8Length sum.text)) := by
  simp only [calculator, EStateM.bind_eq_ok_iff, place_eq_ok_iff, scan_eq_ok_iff,
    ofExcept_eq_ok_iff, connector_eq_ok_iff, pure_eq_ok_iff] at h
  obtain ⟨newest, _, ⟨c₁, hoperands, rfl⟩, _, _, ⟨rfl, rfl⟩, _, _, ⟨hcheck, rfl⟩,
    comparison, _, ⟨c₂, hcomparison, rfl⟩, argument, _, ⟨c₃, hargument, rfl⟩,
    j, _, ⟨ds, d, hconnector, rfl⟩, rfl, rfl⟩ := h
  simp only [Reader.cursor_goto, Reader.goto_goto, Reader.moved_goto] at *
  obtain ⟨sum, hsum, hvalid, rfl⟩ := Scan.reads_of_operands (by simp)
    (checkOperands_eq_ok_iff.mp hcheck) hoperands
  obtain ⟨clause, x, rest, hclause, rfl, rfl, rfl, hnext, hx, rfl⟩ :=
    Scan.exists_clause hcomparison hargument hconnector
  refine ⟨sum, clause, d, x, rest, hsum.trans hclause, hnext, hx, hvalid, ?_, ?_⟩
  · simp
  · rw [hsum.reach_eq]

theorem calculator_of_reads {registry : Registry} (parent : Nat) (start : Cursor) {d : Cursor}
    {sum : Sum} {clause : Clause} {x : Char} {rest : List Char}
    (h : r.cursor.Reads (sum.text ++ clause.text) d) (hafter : d.after = x :: rest)
    (hx : endsSearch x) (hvalid : sum.Valid registry) :
    calculator registry parent start r =
      .ok ⟨parent, sum.operands, clause.comparison, clause.argument, connector? x⟩
        (r.moved d (clause.diagnostics (r.cursor.reach + utf8Length sum.text))) := by
  obtain ⟨m, hsum, hclause⟩ := Cursor.reads_append.mp h
  obtain ⟨y, t, htext, -⟩ := clause.text_head
  have hne : m.after ≠ [] := by simp [hclause.after, htext]
  have hoperands : Scan.operands registry [] r.cursor = .ok (sum.operands.reverse, m) := by
    rw [Scan.operands_of_reads hvalid hne hsum, List.append_nil]
  obtain ⟨c₁, c₂, hcomparison, hargument, hconnector⟩ :=
    Scan.scans_of_clause calculatorName hclause hafter hx
  simp only [calculator, EStateM.bind_eq_ok_iff, place_eq_ok_iff, scan_eq_ok_iff,
    ofExcept_eq_ok_iff, connector_eq_ok_iff, pure_eq_ok_iff]
  refine ⟨_, _, ⟨m, hoperands, rfl⟩, _, _, ⟨rfl, rfl⟩, (), _, ⟨?_, rfl⟩, _, _,
    ⟨c₁, hcomparison, rfl⟩, _, _, ⟨c₂, hargument, rfl⟩, _, _, ⟨_, d, hconnector, rfl⟩, ?_, ?_⟩
  · rw [checkOperands_eq_ok_iff, List.head?_reverse]
    exact sum.exists_last
  · rw [List.reverse_reverse]
  · rw [← hsum.reach_eq]
    rfl

end Reading

end FilterQuery
