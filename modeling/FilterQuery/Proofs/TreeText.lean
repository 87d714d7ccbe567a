import FilterQuery.Proofs.Numbering
import FilterQuery.Proofs.PrefixFree
import FilterQuery.Proofs.WellFormed
import FilterQuery.Report.Query

/-!
# The tree of a query loses nothing

The drawing of a compiled query shows the whole of it (`tree_inj_of_compile`). Line by line
the text is taken apart again. Behind the margin the branch tells whether more nodes of the
cluster follow. The label then is that of a filter, a calculator or a cluster: only the name
of a filter is followed by a comparison, only a calculator begins with `#(`, and a cluster has
its number. A quoted argument ends at its second bare mark, so nothing in it can end a line
or look like one.

Where the nodes of a cluster end, the drawing goes back to a shorter margin, and what stands
there is a branch, while everything inside the cluster stands behind the longer margin
(`Outside`). The number of the cluster around a node is not shown; a compiled query has the
numbers of its clusters in their places, so it need not be.
-/

namespace FilterQuery

open Grammar Text

/-! ## Operands -/

theorem OperandValue.text_inj {v v' : OperandValue} (hne : v.text ≠ "") (hv : Uniform v)
    (hv' : Uniform v') (h : v.text = v'.text) : v = v' := by
  obtain ⟨c, t, hsplit⟩ := List.exists_cons_of_ne_nil (mt String.toList_eq_nil_iff.mp hne)
  have hc : c ∈ v.text.toList := by simp [hsplit]
  have hc' : c ∈ v'.text.toList := h ▸ hc
  cases v with
  | filter identifier =>
    cases v' with
    | filter identifier' => exact congrArg _ h
    | literal digits =>
      exact absurd (hv' c hc') (by simp [not_isDigit_of_isIdentifierChar (hv c hc)])
  | literal digits =>
    cases v' with
    | filter identifier =>
      exact absurd (hv c hc) (by simp [not_isDigit_of_isIdentifierChar (hv' c hc')])
    | literal digits' => exact congrArg _ h

/-- Operands with an operator between any two of them. -/
inductive IsExpression : List Operand → Prop where
  | last (v : OperandValue) (hne : v.text ≠ "") (huniform : Uniform v) : IsExpression [⟨v, none⟩]
  | more (v : OperandValue) (k : Arithmetic) (rest : List Operand) (hne : v.text ≠ "")
      (huniform : Uniform v) (hrest : IsExpression rest) : IsExpression (⟨v, some k⟩ :: rest)

theorem isExpression_of_joined {registry : Registry} {operands : List Operand}
    (hne : operands ≠ []) (hjoined : ∀ o ∈ operands.dropLast, o.arithmetic ≠ none)
    (hlast : ∀ o ∈ operands.getLast?, o.arithmetic = none)
    (hvalues : ∀ o ∈ operands, o.value.WellFormed registry) : IsExpression operands := by
  have hvalue {o : Operand} (ho : o ∈ operands) : o.value.text ≠ "" ∧ Uniform o.value := by
    have := hvalues o ho
    cases hv : o.value with
    | filter identifier =>
      rw [hv] at this
      exact ⟨this.1, this.2.1⟩
    | literal digits =>
      rw [hv] at this
      exact this
  induction operands with
  | nil => exact absurd rfl hne
  | cons o rest ih =>
    obtain ⟨hne', huniform⟩ := hvalue List.mem_cons_self
    obtain ⟨v, k⟩ := o
    cases rest with
    | nil =>
      obtain rfl : k = none := hlast _ rfl
      exact .last v hne' huniform
    | cons o' rest =>
      obtain ⟨k, rfl⟩ := Option.ne_none_iff_exists'.mp (hjoined ⟨v, k⟩ (by simp))
      refine .more v k _ hne' huniform (ih (by simp) ?_ ?_ ?_ ?_)
      · exact fun o ho => hjoined o (by simp [ho])
      · simpa using hlast
      · exact fun o ho => hvalues o (List.mem_cons_of_mem _ ho)
      · exact fun ho => hvalue (List.mem_cons_of_mem _ ho)

theorem Calculator.WellFormed.isExpression {registry : Registry} {sum : Calculator}
    (h : sum.WellFormed registry) : IsExpression sum.operands :=
  isExpression_of_joined h.nonempty h.joined h.last h.values

namespace Report

variable {s t : List Char}

theorem toList_expression_last (v : OperandValue) :
    (expression [⟨v, none⟩]).toList = v.text.toList := by
  simp [expression]

theorem toList_expression_more (v : OperandValue) (k : Arithmetic) (rest : List Operand) :
    (expression (⟨v, some k⟩ :: rest)).toList =
      v.text.toList ++ ' ' :: k.symbol :: ' ' :: (expression rest).toList := by
  simp [expression, toString]

/-- The text of an operand can be split off where a blank or a bracket follows. -/
theorem operand_append_inj {v v' : OperandValue} (hne : v.text ≠ "") (hv : Uniform v)
    (hv' : Uniform v') (hs : Stops (fun c => isIdentifierChar c || c.isDigit) s)
    (ht : Stops (fun c => isIdentifierChar c || c.isDigit) t)
    (h : v.text.toList ++ s = v'.text.toList ++ t) : v = v' ∧ s = t := by
  have hclass {v : OperandValue} (hv : Uniform v) :
      ∀ c ∈ v.text.toList, (isIdentifierChar c || c.isDigit) = true := by
    intro c hc
    cases v with
    | filter identifier => simp [hv c hc]
    | literal digits => simp [hv c hc]
  obtain ⟨htext, rfl⟩ := run_append_inj (hclass hv) (hclass hv') hs ht h
  exact ⟨OperandValue.text_inj hne hv hv' (String.toList_inj.mp htext), rfl⟩

/-- The operands of a calculator can be split off where a bracket follows. -/
theorem expression_append_inj {operands operands' : List Operand} (h : IsExpression operands)
    (h' : IsExpression operands')
    (heq : (expression operands).toList ++ ')' :: s = (expression operands').toList ++ ')' :: t) :
    operands = operands' ∧ s = t := by
  have hblank (s : List Char) : Stops (fun c => isIdentifierChar c || c.isDigit) (' ' :: s) :=
    stops_cons.mpr rfl
  have hbracket (s : List Char) : Stops (fun c => isIdentifierChar c || c.isDigit) (')' :: s) :=
    stops_cons.mpr rfl
  induction h generalizing operands' with
  | last v hne hv =>
    cases h' with
    | last v' hne' hv' =>
      rw [toList_expression_last, toList_expression_last] at heq
      obtain ⟨rfl, hrest⟩ := operand_append_inj hne hv hv' (hbracket s) (hbracket t) heq
      exact ⟨rfl, (List.cons.inj hrest).2⟩
    | more v' k' rest' hne' hv' hrest' =>
      rw [toList_expression_last, toList_expression_more, List.append_assoc] at heq
      obtain ⟨-, hrest⟩ := operand_append_inj hne hv hv' (hbracket s) (hblank _) heq
      exact absurd (List.cons.inj hrest).1 (by decide)
  | more v k rest hne hv hrest ih =>
    cases h' with
    | last v' hne' hv' =>
      rw [toList_expression_more, toList_expression_last, List.append_assoc] at heq
      obtain ⟨-, hrest⟩ := operand_append_inj hne hv hv' (hblank _) (hbracket t) heq
      exact absurd (List.cons.inj hrest).1 (by decide)
    | more v' k' rest' hne' hv' hrest' =>
      simp only [toList_expression_more, List.append_assoc, List.cons_append] at heq
      obtain ⟨rfl, hrest⟩ := operand_append_inj hne hv hv' (hblank _) (hblank _) heq
      simp only [List.cons.injEq, true_and] at hrest
      obtain rfl := Arithmetic.symbol_injective hrest.1
      obtain ⟨rfl, rfl⟩ := ih hrest' hrest.2
      exact ⟨rfl, rfl⟩

/-! ## Labels -/

/-- A comparison and its argument, as a line shows them. -/
def clauseText (k : Comparison) (argument : String) : List Char :=
  k.symbol.toList ++ ' ' :: (quoted argument).toList

theorem prefixFree_clauseText : PrefixFree fun a : Comparison × String => clauseText a.1 a.2 := by
  rintro ⟨k, a⟩ ⟨k', a'⟩ s t h
  have hsymbol (k : Comparison) : ∀ c ∈ k.symbol.toList, (c != ' ') = true := by
    cases k <;> simp [Comparison.symbol]
  simp only [clauseText, List.append_assoc, List.cons_append] at h
  obtain ⟨hk, hrest⟩ := run_append_inj (hsymbol k) (hsymbol k') (stops_cons.mpr rfl)
    (stops_cons.mpr rfl) h
  obtain ⟨rfl, rfl⟩ := prefixFree_quoted (List.cons.inj hrest).2
  obtain rfl := Comparison.symbol_injective (String.toList_inj.mp hk)
  exact ⟨rfl, rfl⟩

theorem toList_connector_some (k : Connector) :
    (connector .plain (some k)).toList = [' ', k.symbol] := by
  simp [connector, Ink.paint, Char.toString]

/-- A connector can be split off where the line ends. -/
theorem connector_append_inj {k k' : Option Connector}
    (h : (connector .plain k).toList ++ '\n' :: s = (connector .plain k').toList ++ '\n' :: t) :
    k = k' ∧ s = t := by
  cases k with
  | none =>
    cases k' with
    | none => simpa [connector] using h
    | some k' => simp [connector] at h
  | some k =>
    cases k' with
    | none => simp [connector] at h
    | some k' =>
      simp only [toList_connector_some, List.cons_append, List.nil_append, List.cons.injEq,
        true_and] at h
      exact ⟨congrArg some (Connector.symbol_injective h.1), h.2⟩

/-- What a line says of a node. -/
def label (n : Node) : List Char :=
  (describe .plain n ++ connector .plain n.connector).toList

theorem label_filter (r : FilterReference) :
    label (.filter r) = r.identifier.toList ++ ' ' :: (clauseText r.comparison r.argument ++
      ' ' :: '(' :: (r.kind.name.toList ++ ')' :: (connector .plain r.connector).toList)) := by
  simp [label, describe, clauseText, Ink.paint, kind, Node.connector, toString]

theorem label_calculator (c : Calculator) :
    label (.calculator c) = '#' :: '(' :: ((expression c.operands).toList ++
      ')' :: ' ' :: (clauseText c.comparison c.argument ++
        (connector .plain c.connector).toList)) := by
  simp [label, describe, clauseText, Node.connector, toString]

theorem label_cluster (id parent : Nat) (children : List Node) (k : Option Connector) :
    label (.cluster id parent children k) = "cluster".toList ++ ' ' :: '#' ::
      (Nat.toDigits 10 id ++ (connector .plain k).toList) := by
  simp [label, describe, Ink.paint, Node.connector, toString]

/-- The node without what its line does not show: the cluster around it and the nodes in
it. -/
def shown : Node → Node
  | .filter r => .filter r
  | .calculator c => .calculator { c with parent := 0 }
  | .cluster id _ _ k => .cluster id 0 [] k

theorem filter_label_append_inj {r r' : FilterReference}
    (hr : ∀ c ∈ r.identifier.toList, isIdentifierChar c)
    (hr' : ∀ c ∈ r'.identifier.toList, isIdentifierChar c)
    (h : label (.filter r) ++ '\n' :: s = label (.filter r') ++ '\n' :: t) : r = r' ∧ s = t := by
  have hkind (k : Kind) : ∀ c ∈ k.name.toList, (c != ')') = true := by
    cases k <;> simp [Kind.name]
  simp only [label_filter, List.append_assoc, List.cons_append] at h
  obtain ⟨hidentifier, h⟩ := run_append_inj hr hr' (stops_cons.mpr rfl) (stops_cons.mpr rfl) h
  obtain ⟨hclause, h⟩ := prefixFree_clauseText (a := (r.comparison, r.argument))
    (b := (r'.comparison, r'.argument)) (List.cons.inj h).2
  simp only [List.cons.injEq, true_and] at h
  obtain ⟨hname, h⟩ := run_append_inj (hkind _) (hkind _) (stops_cons.mpr rfl)
    (stops_cons.mpr rfl) h
  obtain ⟨hconnector, rfl⟩ := connector_append_inj (List.cons.inj h).2
  obtain ⟨hcomparison, hargument⟩ := Prod.mk.inj hclause
  have hidentifier := String.toList_inj.mp hidentifier
  have hname := Kind.name_injective (String.toList_inj.mp hname)
  cases r
  cases r'
  simp_all

theorem calculator_label_append_inj {c c' : Calculator} (hc : IsExpression c.operands)
    (hc' : IsExpression c'.operands)
    (h : label (.calculator c) ++ '\n' :: s = label (.calculator c') ++ '\n' :: t) :
    shown (.calculator c) = shown (.calculator c') ∧ s = t := by
  simp only [label_calculator, List.append_assoc, List.cons_append, List.cons.injEq,
    true_and] at h
  obtain ⟨hoperands, h⟩ := expression_append_inj hc hc' h
  obtain ⟨hclause, h⟩ := prefixFree_clauseText (a := (c.comparison, c.argument))
    (b := (c'.comparison, c'.argument)) (List.cons.inj h).2
  obtain ⟨hconnector, rfl⟩ := connector_append_inj h
  obtain ⟨hcomparison, hargument⟩ := Prod.mk.inj hclause
  cases c
  cases c'
  simp_all [shown]

theorem cluster_label_append_inj {id id' parent parent' : Nat} {children children' : List Node}
    {k k' : Option Connector} (h : label (.cluster id parent children k) ++ '\n' :: s =
      label (.cluster id' parent' children' k') ++ '\n' :: t) : id = id' ∧ k = k' ∧ s = t := by
  have hstops (k : Option Connector) (s : List Char) :
      Stops Char.isDigit ((connector .plain k).toList ++ '\n' :: s) := by
    cases k with
    | none => simp [connector]
    | some k => simp [toList_connector_some]
  simp only [label_cluster, List.append_assoc, List.cons_append, List.append_cancel_left_eq,
    List.cons.injEq, true_and] at h
  obtain ⟨rfl, hrest⟩ := number_append_inj (hstops k s) (hstops k' t) h
  obtain ⟨rfl, rfl⟩ := connector_append_inj hrest
  exact ⟨rfl, rfl, rfl⟩

/-- The name of a filter is followed by a comparison, which begins with no other mark. -/
theorem filter_label_ne_cluster {r : FilterReference}
    (hr : ∀ c ∈ r.identifier.toList, isIdentifierChar c) :
    label (.filter r) ++ s ≠ "cluster".toList ++ ' ' :: '#' :: t := by
  have hcluster : ∀ c ∈ "cluster".toList, isIdentifierChar c := by
    simp [isIdentifierChar, Char.isAlpha, Char.isUpper, Char.isLower]
  intro h
  simp only [label_filter, List.append_assoc, List.cons_append] at h
  obtain ⟨-, h⟩ := run_append_inj hr hcluster (stops_cons.mpr rfl) (stops_cons.mpr rfl) h
  cases hk : r.comparison <;> simp [hk, clauseText, Comparison.symbol] at h

theorem filter_label_ne_cluster_label {r : FilterReference} {id parent : Nat}
    {children : List Node} {k : Option Connector}
    (hr : ∀ c ∈ r.identifier.toList, isIdentifierChar c) :
    label (.filter r) ++ s ≠ label (.cluster id parent children k) ++ t := by
  rw [label_cluster, List.append_assoc, List.cons_append, List.cons_append]
  exact filter_label_ne_cluster hr

theorem filter_label_ne_calculator_label {r : FilterReference} {c : Calculator}
    (hr : ∀ c ∈ r.identifier.toList, isIdentifierChar c) :
    label (.filter r) ++ s ≠ label (.calculator c) ++ t := by
  intro h
  simp only [label_filter, label_calculator, List.append_assoc, List.cons_append] at h
  obtain ⟨-, h⟩ := run_append_inj (y := []) hr (by simp) (stops_cons.mpr rfl)
    (stops_cons.mpr rfl) h
  exact absurd (List.cons.inj h).1 (by decide)

theorem calculator_label_ne_cluster_label {c : Calculator} {id parent : Nat}
    {children : List Node} {k : Option Connector} :
    label (.calculator c) ++ s ≠ label (.cluster id parent children k) ++ t := by
  simp [label_calculator, label_cluster]

/-- The label of a well-formed node can be split off where the line ends. -/
theorem label_append_inj {registry registry' : Registry} {n n' : Node}
    (hn : n.WellFormed registry) (hn' : n'.WellFormed registry')
    (h : label n ++ '\n' :: s = label n' ++ '\n' :: t) : shown n = shown n' ∧ s = t := by
  cases hn with
  | filter r hr _ =>
    cases hn' with
    | filter r' hr' _ =>
      obtain ⟨rfl, rfl⟩ := filter_label_append_inj hr hr' h
      exact ⟨rfl, rfl⟩
    | calculator c' hc' => exact absurd h (filter_label_ne_calculator_label hr)
    | cluster => exact absurd h (filter_label_ne_cluster_label hr)
  | calculator c hc =>
    cases hn' with
    | filter r' hr' _ => exact absurd h.symm (filter_label_ne_calculator_label hr')
    | calculator c' hc' => exact calculator_label_append_inj hc.isExpression hc'.isExpression h
    | cluster => exact absurd h calculator_label_ne_cluster_label
  | cluster =>
    cases hn' with
    | filter r' hr' _ => exact absurd h.symm (filter_label_ne_cluster_label hr')
    | calculator c' hc' => exact absurd h.symm calculator_label_ne_cluster_label
    | cluster =>
      obtain ⟨rfl, rfl, rfl⟩ := cluster_label_append_inj h
      exact ⟨rfl, rfl⟩

/-! ## Drawings -/

/-- The lines of the nodes of a cluster, as one text. -/
def drawing (margin : String) (ns : List Node) : List Char :=
  (unlines (lines .plain margin ns)).toList

/-- The lines below that of a node. -/
def drawingBelow (margin : String) : Node → List Char
  | .cluster _ _ children _ => drawing margin children
  | _ => []

theorem toList_unlines (ls : List String) :
    (unlines ls).toList = ls.flatMap fun l => l.toList ++ ['\n'] := by
  induction ls with
  | nil => rfl
  | cons l ls ih => simp [unlines, ← ih]

theorem drawing_cons (margin : String) (n : Node) (rest : List Node) :
    drawing margin (n :: rest) = margin.toList ++ ((branch rest.isEmpty).toList ++
      (label n ++ '\n' :: (drawingBelow (margin ++ indent rest.isEmpty) n ++
        drawing margin rest))) := by
  cases n <;> simp [drawing, lines, nodeLines, drawingBelow, label, Node.connector,
    toList_unlines]

/-- The text does not go on behind the margin. -/
def Outside (margin : String) (s : List Char) : Prop :=
  s = [] ∨ ¬ margin.toList <+: s

theorem Outside.ne_drawing_append {margin : String} {n : Node} {rest : List Node}
    (hs : Outside margin s) : s ≠ drawing margin (n :: rest) ++ t := by
  rw [drawing_cons, List.append_assoc]
  rintro rfl
  rcases hs with hnil | hprefix
  · cases rest <;> simp [branch] at hnil
  · exact hprefix (List.prefix_append _ _)

/-- Behind the nodes inside a node the text goes on with a branch or farther out, and not
behind their margin. -/
theorem Outside.drawing_append {margin : String} {rest : List Node} (hs : Outside margin s) :
    Outside (margin ++ indent rest.isEmpty) (drawing margin rest ++ s) := by
  cases rest with
  | nil =>
    refine hs.imp id fun hprefix h => hprefix (List.IsPrefix.trans ?_ h)
    rw [String.toList_append]
    exact List.prefix_append _ _
  | cons n rest =>
    refine .inr fun h => ?_
    rw [drawing_cons, String.toList_append, List.append_assoc,
      List.prefix_append_right_inj] at h
    cases rest <;> simp [branch, indent] at h

theorem branch_append_inj {last last' : Bool}
    (h : (branch last).toList ++ s = (branch last').toList ++ t) : last = last' ∧ s = t := by
  match last, last' with
  | true, true | false, false => simpa [branch] using h
  | true, false | false, true => simp [branch] at h

variable {registry registry' : Registry}

mutual

/-- What stands in nodes with the same line can be split off where the text does not go on
behind its margin; it and the places of the nodes tell all that the line does not show. -/
theorem drawingBelow_append_inj {parent : Nat} {margin : String} {s t : List Char}
    {n n' : Node} (hshown : shown n = shown n')
    (hn : n.WellFormed registry) (hn' : n'.WellFormed registry') (hplaced : n.Placed parent)
    (hplaced' : n'.Placed parent) (hs : Outside margin s) (ht : Outside margin t)
    (h : drawingBelow margin n ++ s = drawingBelow margin n' ++ t) : n = n' ∧ s = t := by
  match n, n' with
  | .filter r, .filter r' => exact ⟨hshown, h⟩
  | .calculator c, .calculator c' =>
    simp only [Node.Placed] at hplaced hplaced'
    cases c
    cases c'
    simp_all [shown, drawingBelow]
  | .cluster id around children k, .cluster id' around' children' k' =>
    obtain ⟨rfl, hchildren⟩ := hplaced
    obtain ⟨rfl, hchildren'⟩ := hplaced'
    simp only [shown, Node.cluster.injEq, true_and] at hshown
    obtain ⟨rfl, rfl⟩ := hshown
    cases hn with
    | cluster _ _ _ _ _ hwell =>
      cases hn' with
      | cluster _ _ _ _ _ hwell' =>
        obtain ⟨rfl, rfl⟩ := drawing_append_inj hwell hwell' hchildren hchildren' hs ht h
        exact ⟨rfl, rfl⟩
  | .filter _, .calculator _ | .filter _, .cluster .. | .calculator _, .filter _
  | .calculator _, .cluster .. | .cluster .., .filter _ | .cluster .., .calculator _ =>
    simp [shown] at hshown

/-- The drawing of the nodes of a cluster can be split off where the text does not go on
behind its margin. -/
theorem drawing_append_inj {parent : Nat} {margin : String} {s t : List Char}
    {ns ns' : List Node} (hwell : ∀ n ∈ ns, n.WellFormed registry)
    (hwell' : ∀ n ∈ ns', n.WellFormed registry') (hplaced : AllPlaced parent ns)
    (hplaced' : AllPlaced parent ns') (hs : Outside margin s) (ht : Outside margin t)
    (h : drawing margin ns ++ s = drawing margin ns' ++ t) : ns = ns' ∧ s = t := by
  match ns, ns' with
  | [], [] => exact ⟨rfl, h⟩
  | [], n' :: rest' => exact absurd h hs.ne_drawing_append
  | n :: rest, [] => exact absurd h.symm ht.ne_drawing_append
  | n :: rest, n' :: rest' =>
    obtain ⟨hn, hrest⟩ := List.forall_mem_cons.mp hwell
    obtain ⟨hn', hrest'⟩ := List.forall_mem_cons.mp hwell'
    simp only [drawing_cons, List.append_assoc, List.cons_append,
      List.append_cancel_left_eq] at h
    obtain ⟨hlast, hline⟩ := branch_append_inj h
    obtain ⟨hshown, hbelow⟩ := label_append_inj hn hn' hline
    rw [← hlast] at hbelow
    -- with the same branch the nodes inside have the same margin, and what follows is outside it
    obtain ⟨rfl, htail⟩ := drawingBelow_append_inj hshown hn hn' hplaced.1 hplaced'.1
      hs.drawing_append (hlast ▸ ht.drawing_append) hbelow
    obtain ⟨rfl, rfl⟩ := drawing_append_inj hrest hrest' hplaced.2 hplaced'.2 hs ht htail
    exact ⟨rfl, rfl⟩

end

/-! ## Trees -/

theorem toList_tree_some (q : Query) :
    (tree .plain (some q)).toList = "query\n".toList ++ drawing "" q.nodes := by
  simp [tree, toList_unlines, drawing, Ink.paint]

/-- Two compiled queries with the same drawing are the same in everything, whatever texts and
registries they come from; and none is drawn as an empty text is. -/
theorem tree_inj_of_compile {source source' : String} {q q' : Option Query}
    {ds ds' : List Diagnostic} (h : compile registry source = ⟨.ok q, ds⟩)
    (h' : compile registry' source' = ⟨.ok q', ds'⟩) :
    tree .plain q = tree .plain q' ↔ q = q' := by
  refine ⟨fun heq => ?_, fun heq => heq ▸ rfl⟩
  have hnone (q : Query) : tree .plain none ≠ tree .plain (some q) := by
    intro heq
    have := congrArg String.toList heq
    rw [toList_tree_some] at this
    simp [tree] at this
  match q, q' with
  | none, none => rfl
  | none, some q' => exact absurd heq (hnone q')
  | some q, none => exact absurd heq.symm (hnone q)
  | some q, some q' =>
    have hdrawing := congrArg String.toList heq
    rw [toList_tree_some, toList_tree_some, List.append_cancel_left_eq] at hdrawing
    obtain ⟨root, ⟨hvalid, -⟩, -, rfl, -⟩ := derives_of_compile h
    obtain ⟨root', ⟨hvalid', -⟩, -, rfl, -⟩ := derives_of_compile h'
    obtain ⟨hnodes, -⟩ := drawing_append_inj (s := []) (t := []) (Body.wellFormed_nodes hvalid)
      (Body.wellFormed_nodes hvalid') Body.allPlaced_nodes Body.allPlaced_nodes (.inl rfl)
      (.inl rfl) (by simpa [Root.query] using hdrawing)
    exact congrArg (fun nodes => some (Query.mk nodes)) hnodes

/-- A quoted argument may imitate a second line; two filters are drawn in another way. -/
theorem tree_inj_of_compile_imitated_line :
    let filter (argument : String) (k : Option Connector) : Node :=
      .filter ⟨"text", .text, .includes, argument, k⟩
    let imitation : Query := ⟨[filter "x\" (text) &\n└─ text : \"y" none]⟩
    let pair : Query := ⟨[filter "x" (some .and), filter "y" none]⟩
    (∃ source ds, compile FilterSet.builtin.registry source = ⟨.ok (some imitation), ds⟩) ∧
      (∃ source ds, compile FilterSet.builtin.registry source = ⟨.ok (some pair), ds⟩) ∧
      tree .plain (some imitation) ≠ tree .plain (some pair) := by
  intro filter imitation pair
  have h : compile FilterSet.builtin.registry
      "\x7btext:\"x\\\"\\ (text\\)\\ &\\n└─\\ text\\ :\\ \\\"y\"\x7d" =
        ⟨.ok (some imitation), []⟩ := by cbv
  have h' : compile FilterSet.builtin.registry "\x7btext:\"x\" & text:\"y\"\x7d" =
      ⟨.ok (some pair), []⟩ := by cbv
  refine ⟨⟨_, _, h⟩, ⟨_, _, h'⟩, fun heq => ?_⟩
  simpa [imitation, pair] using (tree_inj_of_compile h h').mp heq

end Report

end FilterQuery
