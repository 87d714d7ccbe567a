import FilterQuery.Proofs.Raised

/-!
# How filters and calculators fail

A filter and a calculator are read by a few scans in a row, and the error of the
whole is the error of one of them. Which one, and from where it ran, is told by
`FilterFails` and `CalculatorFails`; both end in a clause, so both end in
`ClauseFails`.

A filter also steps back twice, in front of its name and behind it. Those steps
have no case here. The first one undoes the step by which the loop over the body
came to the filter, the second one a step of the scan of the name, which goes on
to the character behind it even if there is no name at all.
-/

namespace FilterQuery

open Grammar

namespace Reading

variable {α : Type} {registry : Registry} {r r' : Reader} {e : CompileError}

/-- How the reading of a clause fails, from `c` on: one of its three scans does. -/
inductive ClauseFails (filter : String) (c : Cursor) : CompileError → Prop where
  | comparison {e : CompileError} (fails : Scan.comparison filter c = .error e) :
      ClauseFails filter c e
  | argument {e : CompileError} {k : Comparison} {d : Cursor}
      (compared : Scan.comparison filter c = .ok (k, d))
      (fails : Scan.argument filter false "" d = .error e) : ClauseFails filter c e
  | connector {e : CompileError} {k : Comparison} {a : String} {ds : List Diagnostic}
      {d d' : Cursor} (compared : Scan.comparison filter c = .ok (k, d))
      (argued : Scan.argument filter false "" d = .ok (a, d'))
      (fails : Scan.connector d' = (ds, .error e)) : ClauseFails filter c e

theorem clause_fails {filter : String} {g : Comparison → String → Option Connector → α}
    (h : (do
        let comparison ← scan (Scan.comparison filter)
        let argument ← scan (Scan.argument filter false "")
        let connector ← connector
        return g comparison argument connector : Reading α) r = .error e r') :
    ClauseFails filter r.cursor e := by
  simp only [EStateM.bind_eq_error_iff, scan_eq_error_iff, scan_eq_ok_iff, connector_eq_error_iff,
    connector_eq_ok_iff, pure_eq_error_iff] at h
  rcases h with ⟨h, -⟩ | ⟨k, _, ⟨d, hk, rfl⟩, ⟨h, -⟩ | ⟨a, _, ⟨d', ha, rfl⟩, ⟨ds, h, -⟩ |
    ⟨_, _, -, h⟩⟩⟩
  · exact .comparison h
  · exact .argument hk h
  · exact .connector hk ha h
  · exact h.elim

/-- How the reading of a filter fails, whose first character stands under `start` and
behind `p`. -/
inductive FilterFails (registry : Registry) (p start : Cursor) : CompileError → Prop where
  | identifier {e : CompileError} (fails : Scan.identifier "" p = .error e) :
      FilterFails registry p start e
  | resolve {e : CompileError} {name : String} {d : Cursor}
      (reads : p.Reads (name.toList ++ [d.current]) d)
      (spelled : ∀ a ∈ name.toList, isIdentifierChar a)
      (fails : Scan.resolve registry name start = .error e) : FilterFails registry p start e
  | clause {e : CompileError} {name : String} {m : Cursor} (reads : p.Reads name.toList m)
      (spelled : ∀ a ∈ name.toList, isIdentifierChar a)
      (fails : ClauseFails name m e) : FilterFails registry p start e

theorem filter_fails {p : Cursor} (hp : p.Reads [r.cursor.current] r.cursor)
    (h : filter registry r = .error e r') : FilterFails registry p r.cursor e := by
  have hback : stepBack r = .ok () (r.goto p) := stepBack_eq_ok_iff.mpr ⟨p, hp, rfl⟩
  have hplace : place r = .ok r.cursor r := rfl
  rw [filter, EStateM.bind_of_eq_ok hplace, EStateM.bind_of_eq_ok hback,
    EStateM.bind_eq_error_iff] at h
  rcases h with h | ⟨name, _, hscan, h⟩
  · exact .identifier (scan_eq_error_iff.mp h).1
  obtain ⟨d, hname, rfl⟩ := scan_eq_ok_iff.mp hscan
  obtain ⟨hread, hspelled⟩ := Scan.reads_of_identifier hname
  rw [EStateM.bind_eq_error_iff] at h
  rcases h with h | ⟨kind, _, hkind, h⟩
  · exact .resolve hread hspelled (ofExcept_eq_error_iff.mp h).1
  obtain ⟨-, rfl⟩ := ofExcept_eq_ok_iff.mp hkind
  -- the scan has gone one character past the name
  obtain ⟨m, hm, hd⟩ := Cursor.reads_append.mp hread
  have hback' : stepBack (r.goto d) = .ok () (r.goto m) := stepBack_eq_ok_iff.mpr ⟨m, hd, rfl⟩
  rw [Reader.goto_goto, EStateM.bind_of_eq_ok hback'] at h
  exact .clause hm hspelled (clause_fails h)

/-- How the reading of a calculator fails, whose mark is `start` and whose opening
bracket stands under `c`: in its operands, at the check of them, or in its clause. -/
inductive CalculatorFails (registry : Registry) (start c : Cursor) : CompileError → Prop where
  | operands {e : CompileError} (fails : Scan.operands registry [] c = .error e) :
      CalculatorFails registry start c e
  | check {e : CompileError} {newest : List Operand} {d : Cursor}
      (listed : Scan.operands registry [] c = .ok (newest, d))
      (fails : checkOperands start d newest = .error e) : CalculatorFails registry start c e
  | clause {e : CompileError} {sum : Sum} {d : Cursor} (reads : c.Reads sum.text d)
      (valid : sum.Valid registry) (fails : ClauseFails calculatorName d e) :
      CalculatorFails registry start c e

theorem calculator_fails {parent : Nat} {start : Cursor}
    (h : calculator registry parent start r = .error e r') :
    CalculatorFails registry start r.cursor e := by
  rw [calculator, EStateM.bind_eq_error_iff] at h
  rcases h with h | ⟨newest, _, hscan, h⟩
  · exact .operands (scan_eq_error_iff.mp h).1
  obtain ⟨d, hoperands, rfl⟩ := scan_eq_ok_iff.mp hscan
  rw [EStateM.bind_of_eq_ok place_goto, EStateM.bind_eq_error_iff] at h
  rcases h with h | ⟨_, _, hok, h⟩
  · exact .check hoperands (ofExcept_eq_error_iff.mp h).1
  obtain ⟨hcheck, rfl⟩ := ofExcept_eq_ok_iff.mp hok
  obtain ⟨sum, hread, hvalid, -⟩ := Scan.reads_of_operands (by simp)
    (checkOperands_eq_ok_iff.mp hcheck) hoperands
  exact .clause hread hvalid (clause_fails h)

end Reading

end FilterQuery
