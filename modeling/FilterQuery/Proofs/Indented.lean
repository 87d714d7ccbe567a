import FilterQuery.Proofs.Chain
import FilterQuery.Proofs.ReaderSimulation

/-!
# Leading blanks only shift offsets

One reader goes over a text, and another one over the same text with more in front. They are
in lockstep, at the same characters, and the second one counts more bytes before them; so all
that is told apart is the offsets, in errors and in diagnostics. No lookup, no tree and no test
for the end of the text depends on the absolute place.

A step back is the one thing that may be refused to the first reader only. So faults are loose,
and no compilation comes to one.
-/

namespace FilterQuery

open Grammar

/-! ## More text in front -/

/-- The same error `n` bytes later. -/
def CompileError.shift (n : Nat) : CompileError → CompileError
  | .fault f => .fault f
  | .query e => .query ⟨e.kind, e.offset + n⟩

namespace Cursor

/-- The cursor in the text with `w` in front. -/
def indent (w : List Char) (c : Cursor) : Cursor :=
  { c with before := c.before ++ w.reverse }

variable {w : List Char} {c d : Cursor}

theorem offset_indent : (c.indent w).offset = c.offset + utf8Length w := by
  rw [offset, indent, utf8Length_append, utf8Length_reverse]
  rfl

theorem Reads.indent {s : List Char} (h : c.Reads s d) :
    (c.indent w).Reads s (d.indent w) := by
  have hpassed (c : Cursor) : (c.indent w).passed = c.passed ++ w.reverse := rfl
  refine ⟨?_, h.after⟩
  rw [hpassed, hpassed, h.passed, List.append_assoc]

end Cursor

theorem Scan.errorAt_indent {w : List Char} (c : Cursor) (kind : QueryErrorKind) :
    errorAt (c.indent w) kind = (errorAt c kind).shift (utf8Length w) := by
  rw [errorAt, Cursor.offset_indent]
  rfl

/-- The text begins with `w`. -/
def indented (registry : Registry) (w : List Char) : Change where
  registry := registry
  registry' := registry
  char := id
  move := Cursor.indent w
  errors := ⟨fun e e' => e' = e.shift (utf8Length w), fun e => ∃ fault, e = .fault fault⟩
  note := Diagnostic.shift (utf8Length w)
  rebrackets := .same
  corresponds c := ⟨rfl, fun kind => by rw [QueryErrorKind.respell_id, Scan.errorAt_indent]⟩
  step h := h.indent
  ends := .inr fun _ => rfl
  begins _ _ := .inl ⟨_, rfl⟩
  knows _ _ h := h
  unknown h hnone := .inr ⟨hnone, h.errorAt (.unknownFilter _ _)⟩
  note_unexpected c := by rw [Cursor.offset_indent]; rfl

def indentedTree (registry : Registry) (w : List Char) : TreeChange :=
  (indented registry w).keepingNodes rfl False nofun

/-! ## Compilations -/

/-- The same compilation `n` bytes later. -/
def Compilation.shift (n : Nat) (compilation : Compilation) : Compilation where
  outcome := compilation.outcome.mapError (CompileError.shift n)
  diagnostics := compilation.diagnostics.map (Diagnostic.shift n)

theorem compileFrom_indent (registry : Registry) (w : List Char) (c : Cursor) :
    (∃ fault, (compileFrom registry c).outcome = .error (.fault fault)) ∨
      compileFrom registry (c.indent w) = (compileFrom registry c).shift (utf8Length w) := by
  generalize hx : compileFrom registry c = x
  generalize hy : compileFrom registry (c.indent w) = y
  cases (indentedTree registry w).alongside_compileFrom hx hy with
  | ok q ds =>
    rw [TreeChange.query_of_node_eq rfl, Option.map_id]
    exact .inr rfl
  | @error e e' hshift ds =>
    obtain rfl : e' = e.shift (utf8Length w) := hshift
    exact .inr rfl
  | loose hfault =>
    obtain ⟨fault, rfl⟩ := hfault
    exact .inl ⟨fault, rfl⟩

theorem utf8Length_of_blanks {t : List Char} (h : Blanks t) : utf8Length t = t.length := by
  induction t with
  | nil => rfl
  | cons c t ih =>
    obtain ⟨hc, ht⟩ := blanks_cons.mp h
    have hsize : c.utf8Size = 1 := by
      unfold classify at hc
      split at hc <;> first | rfl | cases hc
    rw [utf8Length_cons, ih ht, hsize, List.length_cons, Nat.add_comm]

/-- The way to the root passes over blanks. -/
theorem Scan.root_blanks {d : Cursor} {blanks : List Char} (h : Blanks blanks) :
    ∀ {c : Cursor}, c.current :: c.after = blanks ++ d.current :: d.after →
      d.before = blanks.reverse ++ c.before → root c = root d := by
  induction blanks with
  | nil =>
    intro c htext hbefore
    obtain ⟨hcurrent, hafter⟩ := List.cons.inj htext
    obtain ⟨_, _, _⟩ := c
    cases d
    simp_all
  | cons x blanks ih =>
    intro c htext hbefore
    obtain ⟨hx, hblanks⟩ := blanks_cons.mp h
    obtain ⟨rfl, hafter⟩ := List.cons.inj htext
    obtain ⟨y, t, hrest⟩ := List.exists_cons_of_ne_nil
      (show blanks ++ d.current :: d.after ≠ [] by simp)
    obtain ⟨m, hm, hnext⟩ := Cursor.exists_step (hafter.trans hrest)
    obtain ⟨step, rfl⟩ := stepForward_of_reads hm (.missingRootObject none)
    have hclass : c.currentClass = .whitespace := hx
    rw [root, hclass, step]
    refine ih hblanks (by rw [hnext, hrest]) ?_
    rw [hbefore, (Cursor.Reads.passed_cons_eq (t := []) hm).2]
    simp [Cursor.passed]

/-- The way to the root begins on the first character that is no blank as well. -/
theorem compile_eq_compileFrom_indent {registry : Registry} {w s : String} {x : Char}
    {t : List Char} (hw : Blanks w.toList) (h : s.toList = x :: t) :
    compile registry (w ++ s) =
      compileFrom registry ((Cursor.mk [] x t).indent w.toList) := by
  have hsource : (w ++ s).toList = w.toList ++ x :: t := by rw [String.toList_append, h]
  obtain ⟨y, u, hcons⟩ := List.exists_cons_of_ne_nil
    (show w.toList ++ x :: t ≠ [] by simp)
  have hroot : Scan.root ⟨[], y, u⟩ = Scan.root ((Cursor.mk [] x t).indent w.toList) :=
    Scan.root_blanks hw hcons.symm (by simp [Cursor.indent])
  rw [compile_of_cons (hsource.trans hcons), compileFrom, compileFrom, hroot]

/-- In front of a text that is not empty, `n` blanks make its compilation the same one `n`
bytes later: the query, or the error with its fields, and the diagnostics stay, and every
offset grows by `n`. -/
theorem compile_blanks_append (registry : Registry) (w s : String)
    (hw : ∀ c ∈ w.toList, c = ' ' ∨ c = '\t' ∨ c = '\r' ∨ c = '\n') (hs : s ≠ "") :
    compile registry (w ++ s) = (compile registry s).shift w.length := by
  have hblanks : Blanks w.toList := by
    intro c hc
    rcases hw c hc with rfl | rfl | rfl | rfl <;> rfl
  have hlength : utf8Length w.toList = w.length := by
    rw [utf8Length_of_blanks hblanks, String.length_toList]
  obtain ⟨x, t, hcons⟩ := List.exists_cons_of_ne_nil
    (show s.toList ≠ [] by simpa using hs)
  rcases compileFrom_indent registry w.toList ⟨[], x, t⟩ with ⟨fault, hfault⟩ | hindented
  · rw [← compile_of_cons hcons] at hfault
    obtain ⟨error, herror⟩ := (raises_isQuery registry s.toList).of_compile hfault
    cases herror
  · rw [compile_eq_compileFrom_indent hblanks hcons, hindented, compile_of_cons hcons,
      hlength]

/-- The text has a diagnostic, and behind it an error at the end. -/
theorem compile_blanks_append_error :
    let registry := FilterSet.builtin.registry
    let s := "\x7btext:\"a\" x"
    compile registry s =
        ⟨.error (.query ⟨.unterminatedObject, 10⟩), [.unexpectedCharacter 'x' 10]⟩ ∧
      compile registry (" \t\r\n" ++ s) =
        ⟨.error (.query ⟨.unterminatedObject, 14⟩), [.unexpectedCharacter 'x' 14]⟩ := by
  have h : compile FilterSet.builtin.registry "\x7btext:\"a\" x" =
      ⟨.error (.query ⟨.unterminatedObject, 10⟩), [.unexpectedCharacter 'x' 10]⟩ := by cbv
  refine ⟨h, ?_⟩
  rw [compile_blanks_append _ " \t\r\n" _ (by simp) (by simp), h]
  rfl

end FilterQuery
