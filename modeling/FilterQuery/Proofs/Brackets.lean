import FilterQuery.Filter.Set
import FilterQuery.Proofs.ReaderSimulation

/-!
# Styles of brackets

A query means the same with curly brackets in place of all others, and fails in the same
way (`compile_of_same_brackets`): acceptance, tree, numbers, names, proposals and offsets
are the same, and where a text is shown its brackets are replaced. So two texts that differ
in the style of brackets only have the same outcome, up to the brackets that it shows.

Replacing every bracket of a text by a curly one leaves the class of every character as
it is, and its size, and whether it belongs to a word or a number. So two readers, one over
each text, are in lockstep throughout. What they hand on may hold characters of the text, and
among these brackets: in arguments, in symbols that are no operators, in characters that open
no query.
-/

namespace FilterQuery

/-! ## Characters -/

/-- The curly bracket in place of any bracket; other characters stay. -/
def curly (c : Char) : Char :=
  match classify c with
  | .openBracket => '\x7b'
  | .closeBracket => '\x7d'
  | _ => c

theorem rebrackets_curly : Rebrackets curly := by
  intro c
  unfold curly
  cases h : classify c with
  | openBracket => exact .inr ⟨rfl, .inl rfl⟩
  | closeBracket => exact .inr ⟨rfl, .inr rfl⟩
  | _ => exact .inl rfl

theorem utf8Size_curly (c : Char) : (curly c).utf8Size = c.utf8Size := by
  -- every bracket is a character of one byte
  unfold curly
  cases h : classify c with
  | openBracket =>
    unfold classify at h
    split at h <;> first | rfl | cases h
  | closeBracket => rcases classify_eq_closeBracket.mp h with rfl | rfl | rfl <;> rfl
  | _ => rfl

theorem utf8Length_curly (t : List Char) : utf8Length (t.map curly) = utf8Length t := by
  induction t with
  | nil => rfl
  | cons c t ih => rw [List.map_cons, utf8Length, utf8Length, ih, utf8Size_curly]

/-! ## Results -/

/-- The error about the text with curly brackets: of the errors that show characters of the
text, three can show a bracket. -/
def QueryErrorKind.curly : QueryErrorKind → QueryErrorKind
  | .missingRootObject found => .missingRootObject (found.map FilterQuery.curly)
  | .unknownOperator filter symbol => .unknownOperator filter (symbol.map FilterQuery.curly)
  | .unknownArithmetic symbol => .unknownArithmetic (FilterQuery.curly symbol)
  | kind => kind

theorem QueryErrorKind.respell_curly (kind : QueryErrorKind) :
    kind.respell FilterQuery.curly = kind.curly := by
  cases kind <;> rfl

def Diagnostic.curly : Diagnostic → Diagnostic
  | .unexpectedCharacter found offset => .unexpectedCharacter (FilterQuery.curly found) offset

def CompileError.curly : CompileError → CompileError
  | .fault f => .fault f
  | .query e => .query ⟨e.kind.curly, e.offset⟩

/-- The result over the text with curly brackets, where `f` is the change to a value. -/
def curlyResult {α β : Type} (f : α → β) : Except CompileError α → Except CompileError β
  | .ok a => .ok (f a)
  | .error e => .error e.curly

/-! ## Cursors -/

namespace Cursor

/-- The same place in the text with curly brackets. -/
def curly (c : Cursor) : Cursor :=
  ⟨c.before.map FilterQuery.curly, FilterQuery.curly c.current, c.after.map FilterQuery.curly⟩

theorem offset_curly (c : Cursor) : c.curly.offset = c.offset :=
  utf8Length_curly c.before

theorem Reads.curly {c d : Cursor} (h : c.Reads [d.current] d) :
    c.curly.Reads [d.curly.current] d.curly := by
  constructor
  · exact congrArg (List.map FilterQuery.curly) h.passed
  · exact congrArg (List.map FilterQuery.curly) h.after

end Cursor

theorem Scan.errorAt_curly (c : Cursor) (kind : QueryErrorKind) :
    errorAt c.curly kind.curly = (errorAt c kind).curly := by
  rw [errorAt, Cursor.offset_curly]
  rfl

/-! ## Trees -/

def FilterReference.curly (reference : FilterReference) : FilterReference :=
  { reference with argument := reference.argument.map FilterQuery.curly }

def Calculator.curly (sum : Calculator) : Calculator :=
  { sum with argument := sum.argument.map FilterQuery.curly }

mutual

/-- The node with curly brackets in every argument. -/
def Node.curly : Node → Node
  | .filter reference => .filter reference.curly
  | .calculator sum => .calculator sum.curly
  | .cluster id parent children connector => .cluster id parent (curlyAll children) connector

def curlyAll : List Node → List Node
  | [] => []
  | node :: nodes => node.curly :: curlyAll nodes

end

theorem curlyAll_eq_map (nodes : List Node) : curlyAll nodes = nodes.map Node.curly := by
  induction nodes with
  | nil => rfl
  | cons node nodes ih => rw [curlyAll, ih, List.map_cons]

def Query.curly (q : Query) : Query :=
  ⟨curlyAll q.nodes⟩

/-! ## Curly brackets for all others -/

/-- The brackets of the text are replaced. -/
def curlied (registry : Registry) : Change where
  registry := registry
  registry' := registry
  char := curly
  move := Cursor.curly
  errors := ⟨fun e e' => e' = e.curly, fun _ => False⟩
  note := Diagnostic.curly
  rebrackets := rebrackets_curly
  corresponds c :=
    ⟨rfl, fun kind => by rw [QueryErrorKind.respell_curly, Scan.errorAt_curly]⟩
  step h := h.curly
  ends := .inr fun _ => List.length_map _
  begins c h := .inr ⟨by rw [Cursor.curly, h]; rfl, rfl⟩
  knows _ _ h := h
  unknown h hnone := .inr ⟨hnone, h.errorAt (.unknownFilter _ _)⟩
  note_unexpected c := by rw [Cursor.offset_curly]; rfl

def curliedTree (registry : Registry) : TreeChange where
  toChange := curlied registry
  node := Node.curly
  node_filter _ := rfl
  node_calculator _ := rfl
  node_cluster _ _ children _ := by rw [Node.curly, curlyAll_eq_map]
  watched := False
  char_of_watched := nofun
  node_of_watched := nofun
  becomes_of_watched := nofun

/-! ## Compilations -/

/-- The compilation of the text with curly brackets. -/
def Compilation.curly (compilation : Compilation) : Compilation where
  outcome := curlyResult (Option.map Query.curly) compilation.outcome
  diagnostics := compilation.diagnostics.map Diagnostic.curly

theorem compileFrom_curly (registry : Registry) (c : Cursor) :
    compileFrom registry c.curly = (compileFrom registry c).curly := by
  have hquery : (curliedTree registry).query = Query.curly :=
    funext fun q => congrArg Query.mk (curlyAll_eq_map q.nodes).symm
  generalize hx : compileFrom registry c = x
  generalize hy : compileFrom registry c.curly = y
  cases (curliedTree registry).alongside_compileFrom hx hy with
  | ok q ds =>
    rw [hquery]
    rfl
  | @error e e' hcurly ds =>
    obtain rfl : e' = e.curly := hcurly
    rfl
  | loose hloose => exact hloose.elim

theorem exists_ok_curly {compilation : Compilation} :
    (∃ q, compilation.curly.outcome = .ok q) ↔ ∃ q, compilation.outcome = .ok q := by
  obtain ⟨outcome, ds⟩ := compilation
  cases outcome with
  | ok q => simp [Compilation.curly, curlyResult]
  | error e => simp [Compilation.curly, curlyResult]

/-- The style of brackets does not count: with curly brackets in place of all others a text
compiles to the same, but for the brackets in what is shown of it. So two texts that differ
in the style of brackets only are accepted or refused together, with the same tree, or the
same error, up to such brackets. -/
theorem compile_of_same_brackets (registry : Registry) (source : String) :
    compile registry (source.map curly) = (compile registry source).curly ∧
    ∀ other : String, other.map curly = source.map curly →
      (compile registry other).curly = (compile registry source).curly ∧
      ((∃ q, (compile registry other).outcome = .ok q) ↔
        ∃ q, (compile registry source).outcome = .ok q) := by
  have hmap (source : String) :
      compile registry (source.map curly) = (compile registry source).curly := by
    cases htext : source.toList with
    | nil =>
      rw [compile_of_nil htext, compile_of_nil (by rw [String.toList_map, htext]; rfl)]
      rfl
    | cons x t =>
      have hcurly : (source.map curly).toList = curly x :: t.map curly := by
        rw [String.toList_map, htext, List.map_cons]
      rw [compile_of_cons htext, compile_of_cons hcurly]
      exact compileFrom_curly registry ⟨[], x, t⟩
  refine ⟨hmap source, fun other hother => ?_⟩
  have hsame : (compile registry other).curly = (compile registry source).curly := by
    rw [← hmap other, hother, hmap source]
  refine ⟨hsame, ?_⟩
  rw [← exists_ok_curly, hsame, exists_ok_curly]

/-- Square brackets for round ones: one of them in an argument, and another one that is taken
for a part of an operator. -/
theorem compile_of_same_brackets_square :
    let registry := FilterSet.builtin.registry
    "[text:\"a[\"]".map curly = "(text:\"a(\")".map curly ∧
    (∃ q, (compile registry "[text:\"a[\"]").outcome = .ok q) ∧
    "[text=[\"a\"]".map curly = "(text=(\"a\")".map curly ∧
    (compile registry "[text=[\"a\"]").curly =
      ⟨.error (.query ⟨.unknownOperator "text" "=\x7b", 5⟩), []⟩ := by
  have haccepted : compile FilterSet.builtin.registry "(text:\"a(\")" =
      ⟨.ok (some ⟨[.filter ⟨"text", .text, .includes, "a(", none⟩]⟩), []⟩ := by cbv
  have hrefused : compile FilterSet.builtin.registry "(text=(\"a\")" =
      ⟨.error (.query ⟨.unknownOperator "text" "=(", 5⟩), []⟩ := by cbv
  have hargument : "[text:\"a[\"]".map curly = "(text:\"a(\")".map curly := by
    rw [← String.toList_inj, String.toList_map, String.toList_map]
    decide
  have hoperator : "[text=[\"a\"]".map curly = "(text=(\"a\")".map curly := by
    rw [← String.toList_inj, String.toList_map, String.toList_map]
    decide
  have hsymbol : "=(".map curly = "=\x7b" := by
    rw [← String.toList_inj, String.toList_map]
    decide
  intro registry
  refine ⟨hargument, ?_, hoperator, ?_⟩
  · obtain ⟨-, hsame⟩ :=
      (compile_of_same_brackets registry "(text:\"a(\")").2 "[text:\"a[\"]" hargument
    exact hsame.mpr ⟨_, congrArg Compilation.outcome haccepted⟩
  · obtain ⟨hsame, -⟩ :=
      (compile_of_same_brackets registry "(text=(\"a\")").2 "[text=[\"a\"]" hoperator
    rw [hsame, show compile registry "(text=(\"a\")" = _ from hrefused]
    simp [Compilation.curly, curlyResult, CompileError.curly, QueryErrorKind.curly, hsymbol]

end FilterQuery
