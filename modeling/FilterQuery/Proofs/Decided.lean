import FilterQuery.Filter.Set
import FilterQuery.Proofs.ReaderSimulation

/-!
# The outcome is decided by a prefix

One reader goes over a text, and another one over the same text with more behind it. Until
the first text ends they are in lockstep: the same values, errors and diagnostics, and cursors
on the same characters. An outcome that has been reached by then is the outcome of both, so
what follows the closing bracket of the root never counts, nor what follows an error, except
one that the text stops too early.

Errors of that kind are `mendable`, and loose: on the longer text the second reader may end
in any way. Two kinds of them, about arguments, are also raised at a closing bracket, where no
text can mend them. They are not told apart: nothing is claimed about either. All that is
kept of the second reader is that it takes no diagnostic back.
-/

namespace FilterQuery

/-! ## More text behind -/

namespace Cursor

/-- The cursor in the text with `t` behind it. -/
def lengthen (t : List Char) (c : Cursor) : Cursor :=
  { c with after := c.after ++ t }

theorem Reads.lengthen {t s : List Char} {c d : Cursor} (h : c.Reads s d) :
    (c.lengthen t).Reads s (d.lengthen t) := by
  refine ⟨h.passed, ?_⟩
  rw [Cursor.lengthen, Cursor.lengthen, h.after, List.append_assoc]

end Cursor

/-- The text goes on with `t`. -/
def longer (registry : Registry) (t : List Char) : Change where
  registry := registry
  registry' := registry
  char := id
  move := Cursor.lengthen t
  errors := ⟨Eq, fun e => e.mendable⟩
  note := id
  rebrackets := .same
  corresponds c := ⟨rfl, fun kind => by rw [QueryErrorKind.respell_id]; rfl⟩
  step h := h.lengthen
  ends := .inl fun _ _ h => h
  begins c h := .inr ⟨h, rfl⟩
  knows _ _ h := h
  unknown h hnone := .inr ⟨hnone, h.errorAt (.unknownFilter _ _)⟩
  note_unexpected _ := rfl

/-- Diagnostics are watched where the longer text goes on. -/
def longerTree (registry : Registry) (t : List Char) : TreeChange :=
  (longer registry t).keepingNodes rfl True fun _ _ => rfl

/-! ## Compilations -/

variable {registry : Registry} {s t u : String}

theorem compileFrom_lengthen (registry : Registry) (t : List Char) (c : Cursor) :
    compileFrom registry (c.lengthen t) = compileFrom registry c ∨
      ∃ e, (compileFrom registry c).outcome = .error e ∧ e.mendable ∧
        (compileFrom registry c).diagnostics <+:
          (compileFrom registry (c.lengthen t)).diagnostics := by
  have hnote (ds : List Diagnostic) : ds.map (longerTree registry t).note = ds := List.map_id ds
  generalize hx : compileFrom registry c = x
  generalize hy : compileFrom registry (c.lengthen t) = y
  cases (longerTree registry t).alongside_compileFrom hx hy with
  | ok q ds =>
    rw [hnote, TreeChange.query_of_node_eq rfl, Option.map_id]
    exact .inl rfl
  | @error e e' hsame ds =>
    obtain rfl : e = e' := hsame
    rw [hnote]
    exact .inl rfl
  | @loose e ds _ hmendable hkept => exact .inr ⟨e, rfl, hmendable, hnote ds ▸ hkept trivial⟩

theorem compile_append_or (registry : Registry) (hs : s ≠ "") (t : String) :
    compile registry (s ++ t) = compile registry s ∨
      ∃ e, (compile registry s).outcome = .error e ∧ e.mendable ∧
        (compile registry s).diagnostics <+: (compile registry (s ++ t)).diagnostics := by
  obtain ⟨x, l, hcons⟩ := List.exists_cons_of_ne_nil
    (show s.toList ≠ [] by simpa using hs)
  have hfrom := compileFrom_lengthen registry t.toList ⟨[], x, l⟩
  have hlonger : (s ++ t).toList = x :: (l ++ t.toList) := by
    rw [String.toList_append, hcons, List.cons_append]
  rw [compile_of_cons hlonger, compile_of_cons hcons]
  exact hfrom

/-- The text compiles to a query. -/
def Accepts (registry : Registry) (source : String) : Prop :=
  ∃ q, (compile registry source).outcome = .ok (some q)

theorem Accepts.ne_empty (h : Accepts registry s) : s ≠ "" := by
  rintro rfl
  obtain ⟨q, hq⟩ := h
  cases hq

theorem Accepts.compile_append (h : Accepts registry s) (t : String) :
    compile registry (s ++ t) = compile registry s := by
  have hs := h.ne_empty
  obtain ⟨q, hq⟩ := h
  rcases compile_append_or registry hs t with hsame | ⟨e, he, -⟩
  · exact hsame
  · rw [hq] at he
    cases he

/-- A shortest prefix that compiles. -/
theorem Accepts.exists_shortest (h : Accepts registry s) :
    ∃ w, Accepts registry w ∧ w.toList <+: s.toList ∧
      ∀ u, Accepts registry u → u.toList <+: w.toList → w.length ≤ u.length := by
  induction hn : s.length using Nat.strong_induction_on generalizing s with
  | _ n ih =>
    by_cases hshorter : ∃ u, Accepts registry u ∧ u.toList <+: s.toList ∧ u.length < n
    · obtain ⟨u, hu, hus, hlt⟩ := hshorter
      obtain ⟨w, hw, hwu, hmin⟩ := ih u.length hlt hu rfl
      exact ⟨w, hw, hwu.trans hus, hmin⟩
    · refine ⟨s, h, List.prefix_rfl, fun u hu hus => ?_⟩
      by_contra hlt
      exact hshorter ⟨u, hu, hus, by omega⟩

theorem Accepts.of_prefix (h : Accepts registry s) (hst : s.toList <+: t.toList) :
    Accepts registry t := by
  obtain ⟨rest, hrest⟩ := hst
  obtain rfl : s ++ String.ofList rest = t := by
    rw [← String.toList_inj, String.toList_append, String.toList_ofList, hrest]
  obtain ⟨q, hq⟩ := h
  exact ⟨q, by rw [Accepts.compile_append ⟨q, hq⟩, hq]⟩

/-- A shortest text that compiles ends with the bracket of its root. -/
theorem Accepts.exists_closing {w : String} (h : Accepts registry w)
    (hmin : ∀ u, Accepts registry u → u.toList <+: w.toList → w.length ≤ u.length) :
    ∃ (front : List Char) (closing : Grammar.Closing), w.toList = front ++ [closing.val] := by
  obtain ⟨q, hq⟩ := h
  have hcompile : compile registry w = ⟨.ok (some q), (compile registry w).diagnostics⟩ := by
    rw [← hq]
  obtain ⟨root, hvalid, htext, -⟩ := derives_of_compile hcompile
  let front := root.lead ++ root.opening.val :: root.body.text
  have hsplit : w.toList = (front ++ [root.closing.val]) ++ root.ignored := by
    rw [← htext, Grammar.Root.text]
    simp [front]
  let trimmed : Grammar.Root := { root with ignored := [] }
  have htrimmed : Accepts registry (String.ofList (front ++ [root.closing.val])) := by
    refine ⟨trimmed.query, ?_⟩
    rw [compile_of_derives ⟨trimmed, hvalid, ?_, rfl, rfl⟩]
    simp [trimmed, front, Grammar.Root.text]
  have hlength := hmin _ htrimmed (by
    rw [hsplit, String.toList_ofList]
    exact List.prefix_append _ _)
  have hnil : root.ignored = [] := by
    rw [← String.length_toList, hsplit, String.length_ofList, List.length_append] at hlength
    exact List.eq_nil_of_length_eq_zero (by omega)
  exact ⟨front, root.closing, by rw [hsplit, hnil, List.append_nil]⟩

theorem mendable_of_not_accepts (hs : Accepts registry s) (hu : u ≠ "")
    (hus : u.toList <+: s.toList) (h : ¬ Accepts registry u) :
    ∃ e, (compile registry u).outcome = .error e ∧ e.mendable := by
  obtain ⟨rest, hrest⟩ := hus
  obtain rfl : u ++ String.ofList rest = s := by
    rw [← String.toList_inj, String.toList_append, String.toList_ofList, hrest]
  rcases compile_append_or registry hu (String.ofList rest) with hsame | ⟨e, he, hmendable, -⟩
  · rw [Accepts, hsame] at hs
    exact absurd hs h
  · exact ⟨e, he, hmendable⟩

/-- There is a bracket that makes the text a query: with it, and not before. -/
theorem Accepts.exists_bracket (h : Accepts registry s) :
    ∃ (p : Nat) (closing : Grammar.Closing), s.toList[p]? = some closing.val ∧
      ∀ u : String, u ≠ "" → u.toList <+: s.toList →
        (Accepts registry u ↔ p < u.length) ∧
        (u.length ≤ p → ∃ e, (compile registry u).outcome = .error e ∧ e.mendable) := by
  obtain ⟨w, hw, hws, hmin⟩ := h.exists_shortest
  obtain ⟨front, closing, hfront⟩ := hw.exists_closing hmin
  have hlength : w.length = front.length + 1 := by
    rw [← String.length_toList, hfront, List.length_append, List.length_singleton]
  have hat : s.toList[front.length]? = some closing.val := by
    obtain ⟨rest, hrest⟩ := hws
    rw [← hrest, hfront]
    simp
  refine ⟨front.length, closing, hat, fun u hu hus => ?_⟩
  have hiff : Accepts registry u ↔ front.length < u.length := by
    constructor
    · intro haccepts
      by_contra hlt
      have huw : u.toList <+: w.toList := List.prefix_of_prefix_length_le hus hws (by
        rw [String.length_toList, String.length_toList]
        omega)
      have := hmin u haccepts huw
      omega
    · intro hlt
      refine hw.of_prefix (List.prefix_of_prefix_length_le hws hus ?_)
      rw [String.length_toList, String.length_toList]
      omega
  refine ⟨hiff, fun hle => mendable_of_not_accepts h hu hus ?_⟩
  rw [hiff]
  omega

/-- A text that compiles, or that is refused for more than that it stops too early,
compiles in the same way with more text behind it; and more text takes no diagnostic
back. -/
theorem compile_decided_by_prefix (registry : Registry) (s t : String) :
    (Accepts registry s → compile registry (s ++ t) = compile registry s) ∧
      (∀ e, (compile registry s).outcome = .error e → e.mendable = false →
        compile registry (s ++ t) = compile registry s) ∧
      (compile registry s).diagnostics <+: (compile registry (s ++ t)).diagnostics ∧
      (Accepts registry s → ∃ (p : Nat) (closing : Grammar.Closing),
        s.toList[p]? = some closing.val ∧
          ∀ u : String, u ≠ "" → u.toList <+: s.toList →
            (Accepts registry u ↔ p < u.length) ∧
            (u.length ≤ p → ∃ e, (compile registry u).outcome = .error e ∧ e.mendable)) := by
  refine ⟨fun h => h.compile_append t, fun e he hmendable => ?_, ?_, fun h => h.exists_bracket⟩
  · by_cases hs : s = ""
    · rw [hs] at he
      cases he
    rcases compile_append_or registry hs t with hsame | ⟨e', he', hmendable', -⟩
    · exact hsame
    · rw [he] at he'
      cases he'
      rw [hmendable] at hmendable'
      cases hmendable'
  · by_cases hs : s = ""
    · rw [hs]
      exact List.nil_prefix
    rcases compile_append_or registry hs t with hsame | ⟨_, -, -, hkept⟩
    · rw [hsame]
    · exact hkept

/-- Text behind the root, and text behind an error that it cannot mend. -/
theorem compile_decided_behind_root :
    let q : Query := ⟨[.filter ⟨"text", .text, .includes, "a", none⟩]⟩
    let source := "\x7btext:\"a\"\x7d"
    compile FilterSet.builtin.registry (source ++ "|") = ⟨.ok (some q), []⟩ ∧
      compile FilterSet.builtin.registry ("\x7b|" ++ source) =
        ⟨.error (.query ⟨.danglingConnector .or, 1⟩), []⟩ ∧
      ∃ (p : Nat) (closing : Grammar.Closing), source.toList[p]? = some closing.val ∧
        ∀ u : String, u ≠ "" → u.toList <+: source.toList →
          (Accepts FilterSet.builtin.registry u ↔ p < u.length) ∧
          (u.length ≤ p → ∃ e, (compile FilterSet.builtin.registry u).outcome = .error e ∧
            e.mendable) := by
  intro q source
  have haccepted : compile FilterSet.builtin.registry source = ⟨.ok (some q), []⟩ := by cbv
  have hrefused : compile FilterSet.builtin.registry "\x7b|" =
      ⟨.error (.query ⟨.danglingConnector .or, 1⟩), []⟩ := by cbv
  have haccepts : Accepts FilterSet.builtin.registry source := ⟨q, by rw [haccepted]⟩
  obtain ⟨hbehind, -, -, hbracket⟩ :=
    compile_decided_by_prefix FilterSet.builtin.registry source "|"
  obtain ⟨-, hsame, -⟩ := compile_decided_by_prefix FilterSet.builtin.registry "\x7b|" source
  refine ⟨(hbehind haccepts).trans haccepted, ?_, hbracket haccepts⟩
  exact (hsame _ (by rw [hrefused]) rfl).trans hrefused

end FilterQuery
