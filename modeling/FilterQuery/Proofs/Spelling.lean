import FilterQuery.Proofs.Tree
import FilterQuery.Proofs.WellFormed
import FilterQuery.Query.Statistics

/-!
# Spellings of a query

The documented grammar read from the tree to the text: `Spells` relates a query
to every text that it may be written as. Brackets are of any style, blanks stand
between any two parts, and a character of an argument may be escaped or not
where both mean the same.

Each of these texts compiles to the query, without a diagnostic
(`compile_of_spells`). The proof is a translation: a spelling is taken apart into
the tree of the text that the scanner would find, a `Body`. The only place where
the two cut the text differently is behind an argument. A spelling keeps the
blanks there apart from those behind the connector; where there is no connector
the scanner passes all of them over in one go, so the translation moves the
blanks at the end of the cluster into the clause.

Every query that may be evaluated has a spelling (`Query.WellFormed.exists_spelling`).
-/

namespace FilterQuery

open Grammar

/-! ## Spellings -/

/-- A way to write an argument between its quotes. -/
inductive SpellsArgument : List Char → List Char → Prop where
  | done : SpellsArgument [] []
  | blank {a t : List Char} (c : Blank) (rest : SpellsArgument a t) :
      SpellsArgument a (c.val :: t)
  | plain {a t : List Char} (c : Char) (blank : classify c ≠ .whitespace)
      (escape : classify c ≠ .escape) (quote : classify c ≠ .doubleQuote)
      (close : classify c ≠ .closeBracket) (rest : SpellsArgument a t) :
      SpellsArgument (c :: a) (c :: t)
  | escaped {a t : List Char} (c : Char) (rest : SpellsArgument a t) :
      SpellsArgument (Scan.decodeEscape c :: a) ('\\' :: c :: t)

/-- A way to write a comparison with its argument. -/
inductive SpellsClause (k : Comparison) (argument : String) : List Char → Prop where
  | intro {before between inner behind : List Char} (before_blank : Blanks before)
      (between_blank : Blanks between) (spells : SpellsArgument argument.toList inner)
      (behind_blank : Blanks behind) :
      SpellsClause k argument
        (before ++ k.symbol.toList ++ between ++ '"' :: inner ++ '"' :: behind)

/-- A way to write operands, with the bracket that closes them. -/
inductive SpellsOperands : List Operand → List Char → Prop where
  | blank {operands : List Operand} {t : List Char} (c : Blank)
      (rest : SpellsOperands operands t) : SpellsOperands operands (c.val :: t)
  | last {behind : List Char} (value : OperandValue) (behind_blank : Blanks behind)
      (closing : Closing) :
      SpellsOperands [⟨value, none⟩] (value.text.toList ++ behind ++ [closing.val])
  | more {operands : List Operand} {behind t : List Char} (value : OperandValue)
      (behind_blank : Blanks behind) (operator : Arithmetic)
      (rest : SpellsOperands operands t) :
      SpellsOperands (⟨value, some operator⟩ :: operands)
        (value.text.toList ++ behind ++ operator.symbol :: t)

/-- The connector of a node as it is written. -/
def connectorText : Option Connector → List Char
  | none => []
  | some k => [k.symbol]

/-- A way to write the nodes of a cluster. -/
inductive Spells : List Node → List Char → Prop where
  | done : Spells [] []
  | blank {nodes : List Node} {t : List Char} (c : Blank) (rest : Spells nodes t) :
      Spells nodes (c.val :: t)
  | filter {nodes : List Node} {clause t : List Char} (reference : FilterReference)
      (spells : SpellsClause reference.comparison reference.argument clause)
      (rest : Spells nodes t) :
      Spells (.filter reference :: nodes)
        (reference.identifier.toList ++ clause ++ connectorText reference.connector ++ t)
  | calculator {nodes : List Node} {operands clause t : List Char} (sum : Calculator)
      (opening : Opening) (spells_operands : SpellsOperands sum.operands operands)
      (spells : SpellsClause sum.comparison sum.argument clause) (rest : Spells nodes t) :
      Spells (.calculator sum :: nodes)
        ('#' :: opening.val :: operands ++ clause ++ connectorText sum.connector ++ t)
  | cluster {children nodes : List Node} {inner behind t : List Char} (id parent : Nat)
      (connector : Option Connector) (opening : Opening) (spells : Spells children inner)
      (closing : Closing) (behind_blank : Blanks behind) (rest : Spells nodes t) :
      Spells (.cluster id parent children connector :: nodes)
        (opening.val :: inner ++ closing.val :: behind ++ connectorText connector ++ t)

/-- A way to write a query. Whatever follows the root does not matter. -/
def Query.Spells (query : Query) (source : List Char) : Prop :=
  ∃ (lead : List Char) (opening : Opening) (t : List Char) (closing : Closing)
    (ignored : List Char), Blanks lead ∧ FilterQuery.Spells query.nodes t ∧
      source = lead ++ opening.val :: t ++ closing.val :: ignored

/-! ## Queries that have a spelling -/

/-- Nodes that may stand in cluster `id` of a query, when the next cluster has the
number `next`. -/
structure Documented (registry : Registry) (id next : Nat) (nodes : List Node) : Prop where
  joined : Joined nodes
  wellFormed : ∀ node ∈ nodes, node.WellFormed registry
  named : ∀ reference, .filter reference ∈ leavesOf nodes → reference.identifier ≠ ""
  numbered : clusterIdsOf nodes = List.range' next (clusterIdsOf nodes).length
  placed : AllPlaced id nodes

/-- A query that the documented grammar can express. -/
structure Query.Documented (registry : Registry) (query : Query) : Prop where
  nodes : FilterQuery.Documented registry 0 1 query.nodes
  depth : (Statistics.ofQuery query).depth + 1 ≤ maxNestingDepth

/-- Numbers in sequence are in sequence in both parts. -/
theorem range'_append_inj {s t : List Nat} {next : Nat}
    (h : s ++ t = List.range' next (s ++ t).length) :
    s = List.range' next s.length ∧ t = List.range' (next + s.length) t.length := by
  rw [List.length_append, ← List.range'_append_1] at h
  exact List.append_inj h (by simp)

namespace Documented

variable {registry : Registry} {id next : Nat} {node : Node} {nodes : List Node}

theorem connector_ne_none (h : Documented registry id next (node :: nodes))
    (hne : nodes ≠ []) : node.connector ≠ none :=
  (joined_cons.mp h.joined).1 hne

/-- What follows a node is numbered behind the clusters in it. -/
theorem tail (h : Documented registry id next (node :: nodes)) :
    Documented registry id (next + node.clusterIds.length) nodes := by
  refine ⟨(joined_cons.mp h.joined).2, fun n hn => h.wellFormed n (by simp [hn]),
    fun f hf => h.named f ?_, ?_, ?_⟩
  · rw [leavesOf]
    exact List.mem_append_right _ hf
  · exact (range'_append_inj h.numbered).2
  · have hplaced := h.placed
    rw [AllPlaced] at hplaced
    exact hplaced.2

theorem of_filter {reference : FilterReference}
    (h : Documented registry id next (.filter reference :: nodes)) :
    reference.identifier ≠ "" ∧ (∀ c ∈ reference.identifier.toList, isIdentifierChar c) ∧
      registry.lookup reference.identifier = some reference.kind := by
  refine ⟨h.named reference (by simp [leavesOf, Node.leaves]), ?_⟩
  cases h.wellFormed _ List.mem_cons_self with
  | filter _ letters registered => exact ⟨letters, registered⟩

theorem of_calculator {sum : Calculator}
    (h : Documented registry id next (.calculator sum :: nodes)) :
    sum.parent = id ∧ sum.WellFormed registry := by
  have hplaced := h.placed
  rw [AllPlaced, Node.Placed] at hplaced
  refine ⟨hplaced.1, ?_⟩
  cases h.wellFormed _ List.mem_cons_self with
  | calculator _ wellFormed => exact wellFormed

theorem of_cluster {i parent : Nat} {children : List Node} {k : Option Connector}
    (h : Documented registry id next (.cluster i parent children k :: nodes)) :
    i = next ∧ parent = id ∧ Documented registry next (next + 1) children := by
  have hplaced := h.placed
  rw [AllPlaced, Node.Placed] at hplaced
  obtain ⟨⟨hparent, hchildren⟩, -⟩ := hplaced
  have hnumbered : i :: clusterIdsOf children =
      List.range' next (clusterIdsOf children).length.succ := (range'_append_inj h.numbered).1
  rw [List.range'_succ, List.cons.injEq] at hnumbered
  obtain ⟨rfl, hnumbered⟩ := hnumbered
  refine ⟨rfl, hparent, ?_⟩
  cases h.wellFormed _ List.mem_cons_self with
  | cluster _ _ _ _ joined wellFormed =>
    refine ⟨joined, wellFormed, fun f hf => h.named f ?_, hnumbered, hchildren⟩
    rw [leavesOf, Node.leaves]
    exact List.mem_append_left _ hf

end Documented

/-! ## Arguments, clauses and operands -/

theorem bare_of_spellsArgument {a t : List Char} (h : SpellsArgument a t) :
    bare t ∧ decode t = a := by
  induction h with
  | done => exact ⟨rfl, rfl⟩
  | blank c rest ih =>
    have hc := c.property
    refine ⟨bare_cons (by simp [hc]) (by simp [hc]) (by simp [hc]) ih.1, ?_⟩
    rw [decode_blank hc, ih.2]
  | plain c hblank hescape hquote hclose rest ih =>
    refine ⟨bare_cons hescape hquote hclose ih.1, ?_⟩
    rw [decode_plain hescape hblank, ih.2]
  | escaped c rest ih =>
    refine ⟨ih.1, ?_⟩
    rw [decode, ih.2]

theorem SpellsClause.append {k : Comparison} {a : String} {s t : List Char}
    (h : SpellsClause k a s) (ht : Blanks t) : SpellsClause k a (s ++ t) := by
  obtain ⟨hbefore, hbetween, hargument, hbehind⟩ := h
  have hclause := SpellsClause.intro (k := k) hbefore hbetween hargument (hbehind.append ht)
  simpa using hclause

theorem exists_clause_of_spells {k : Comparison} {a : String} {s : List Char}
    (h : SpellsClause k a s) :
    ∃ clause : Clause, clause.text = s ∧ clause.comparison = k ∧ clause.argument = a ∧
      ∀ offset, clause.diagnostics offset = [] := by
  obtain @⟨before, between, inner, behind, hbefore, hbetween, hargument, hbehind⟩ := h
  obtain ⟨hbare, hdecode⟩ := bare_of_spellsArgument hargument
  refine ⟨⟨before, k, between, inner, behind, hbefore, ?_, hbetween.bare, hbare, ?_⟩, ?_, rfl,
    ?_, fun offset => hbehind.skipDiagnostics_eq_nil _⟩
  · intro c hc
    simp [endsSymbol, hbetween c (List.mem_of_mem_head? hc)]
  · intro c hc
    simp [endsSearch, connector?, hbehind c hc]
  · simp [Clause.text, Clause.front]
  · rw [Clause.argument, hbetween.escapes_eq_nil, List.nil_append, hdecode,
      String.ofList_toList]

theorem OperandValue.WellFormed.uniform {registry : Registry} {value : OperandValue}
    (h : value.WellFormed registry) : Uniform value ∧ value.text ≠ "" := by
  cases value with
  | filter identifier => exact ⟨h.2.1, h.1⟩
  | literal digits => exact ⟨h.2, h.1⟩

theorem counts_of_uniform {value : OperandValue} (h : Uniform value) :
    ∀ a ∈ value.text.toList, classify a ≠ .whitespace := by
  intro a ha
  cases value with
  | filter identifier => exact Scan.isIdentifierChar_counts a (h a ha)
  | literal digits => exact Scan.isDigit_counts a (h a ha)

theorem exists_term {registry : Registry} {value : OperandValue} {behind : List Char}
    (h : value.WellFormed registry) (hbehind : Blanks behind) :
    ∃ term : Term, term.text = value.text.toList ++ behind ∧ term.value = value ∧
      term.Valid registry := by
  obtain ⟨huniform, hne⟩ := h.uniform
  have hcounts := counts_of_uniform huniform
  obtain ⟨x, u, hxu⟩ := List.exists_cons_of_ne_nil
    (show value.text.toList ≠ [] by simpa using hne)
  have hspells : (x :: (u ++ behind)).filter (classify · ≠ .whitespace) =
      value.text.toList := by
    rw [← List.cons_append, ← hxu, List.filter_append,
      List.filter_eq_self.mpr (by simpa using hcounts),
      List.filter_eq_nil_iff.mpr (by simpa [Blanks] using hbehind), List.append_nil]
  have hx : classify x ≠ .whitespace := hcounts x (by simp [hxu])
  refine ⟨⟨x, u ++ behind, value, hx, hspells, huniform⟩, ?_, rfl, ?_⟩
  · rw [hxu, Term.text, List.cons_append]
  · cases value with
    | filter identifier => exact h.2.2
    | literal digits => trivial

theorem exists_sum {registry : Registry} {operands : List Operand} {s : List Char}
    (h : SpellsOperands operands s) (hvalues : ∀ o ∈ operands, o.value.WellFormed registry) :
    ∃ sum : Sum, sum.text = s ∧ sum.operands = operands ∧ sum.Valid registry := by
  induction h with
  | blank c rest ih =>
    obtain ⟨sum, rfl, rfl, hvalid⟩ := ih hvalues
    exact ⟨.dropped ⟨c.val, .inl c.property⟩ sum, rfl, rfl, hvalid⟩
  | last value hbehind closing =>
    obtain ⟨term, htext, rfl, hvalid⟩ := exists_term (hvalues _ List.mem_cons_self) hbehind
    exact ⟨.last term closing, by rw [Sum.text, htext], rfl, hvalid⟩
  | more value hbehind k rest ih =>
    obtain ⟨term, htext, rfl, hvalid⟩ := exists_term (hvalues _ List.mem_cons_self) hbehind
    obtain ⟨sum, rfl, rfl, hrest⟩ := ih fun o ho => hvalues o (List.mem_cons_of_mem _ ho)
    exact ⟨.more term k sum, by rw [Sum.text, htext], rfl, hvalid, hrest⟩

/-! ## From a spelling to the tree of its text -/

/-- What the scanner finds in a spelling of `nodes`: a body with this text, which
joins the node before it by `j`. -/
structure Scanned (id next : Nat) (nodes : List Node) (j : Option Connector)
    (t : List Char) (b : Body) : Prop where
  text_eq : b.text = t
  nodes_eq : b.nodes id next = nodes
  joining_eq : b.joining = j
  clusters_eq : b.clusters = (clusterIdsOf nodes).length
  depth_eq : b.depth = (Statistics.ofNodes nodes).depth
  diagnostics_eq : ∀ offset, b.diagnostics offset = []

namespace Scanned

variable {registry : Registry} {id next : Nat} {nodes : List Node} {j : Option Connector}
  {s t : List Char} {b : Body}

theorem blank (c : Blank) (h : Scanned id next nodes j t b) :
    Scanned id next nodes j (c.val :: t) (.blank c b) := by
  refine ⟨?_, h.nodes_eq, h.joining_eq, h.clusters_eq, h.depth_eq, fun offset => h.diagnostics_eq _⟩
  rw [Body.text, h.text_eq]

theorem connector (k : Connector) (h : Scanned id next nodes none t b) :
    Scanned id next nodes (some k) (k.symbol :: t) (.connector k b) := by
  refine ⟨?_, h.nodes_eq, ?_, h.clusters_eq, h.depth_eq, fun offset => h.diagnostics_eq _⟩
  · rw [Body.text, h.text_eq]
  · rw [Body.joining, h.joining_eq]
    rfl

theorem exists_blanks (hs : Blanks s) (h : Scanned id next nodes j t b)
    (hvalid : b.Valid registry .loose) :
    ∃ b', Scanned id next nodes j (s ++ t) b' ∧ b'.Valid registry .loose := by
  induction s with
  | nil => exact ⟨b, h, hvalid⟩
  | cons c s ih =>
    obtain ⟨b', hb', hvalid'⟩ := ih fun a ha => hs a (List.mem_cons_of_mem c ha)
    exact ⟨_, hb'.blank ⟨c, hs c List.mem_cons_self⟩, hvalid'⟩

theorem filter {reference : FilterReference} (name : Name) {clause : Clause}
    (h : Scanned id next nodes reference.connector t b)
    (hname : name.val = reference.identifier) (hk : clause.comparison = reference.comparison)
    (ha : clause.argument = reference.argument)
    (hds : ∀ offset, clause.diagnostics offset = []) :
    Scanned id next (.filter reference :: nodes) none
      (reference.identifier.toList ++ (clause.text ++ t))
      (.filter name reference.kind clause b) := by
  refine ⟨?_, ?_, rfl, ?_, ?_, ?_⟩
  · rw [Body.text, h.text_eq, hname, List.append_assoc]
  · rw [Body.nodes, h.nodes_eq, h.joining_eq, hname, hk, ha]
  · rw [Body.clusters, h.clusters_eq]
    rfl
  · simp [Body.depth, h.depth_eq, Statistics.ofNodes, Statistics.ofNode, Statistics.beside,
      Statistics.zero]
  · intro offset
    simp [Body.diagnostics, hds, h.diagnostics_eq]

theorem calculator {sum : Calculator} (opening : Opening) {operands : Sum} {clause : Clause}
    (h : Scanned id next nodes sum.connector t b) (hparent : sum.parent = id)
    (hoperands : operands.operands = sum.operands)
    (hk : clause.comparison = sum.comparison) (ha : clause.argument = sum.argument)
    (hds : ∀ offset, clause.diagnostics offset = []) :
    Scanned id next (.calculator sum :: nodes) none
      ('#' :: opening.val :: operands.text ++ (clause.text ++ t))
      (.calculator opening operands clause b) := by
  refine ⟨?_, ?_, rfl, ?_, ?_, ?_⟩
  · rw [Body.text, h.text_eq, List.append_assoc]
  · rw [Body.nodes, h.nodes_eq, h.joining_eq, hoperands, hk, ha, ← hparent]
  · rw [Body.clusters, h.clusters_eq]
    rfl
  · simp [Body.depth, h.depth_eq, Statistics.ofNodes, Statistics.ofNode, Statistics.beside,
      Statistics.zero]
  · intro offset
    simp [Body.diagnostics, hds, h.diagnostics_eq]

theorem cluster {children : List Node} {k : Option Connector} (opening : Opening)
    (closing : Closing) {inner : Body}
    (hinner : Scanned next (next + 1) children none s inner)
    (h : Scanned id (next + 1 + inner.clusters) nodes k t b) :
    Scanned id next (.cluster next id children k :: nodes) none
      (opening.val :: s ++ closing.val :: t) (.cluster opening inner closing b) := by
  refine ⟨?_, ?_, rfl, ?_, ?_, ?_⟩
  · rw [Body.text, hinner.text_eq, h.text_eq]
  · rw [Body.nodes, hinner.nodes_eq, h.nodes_eq, h.joining_eq]
  · rw [Body.clusters, hinner.clusters_eq, h.clusters_eq, clusterIdsOf, Node.clusterIds]
    simp [Nat.add_right_comm]
  · simp [Body.depth, hinner.depth_eq, h.depth_eq, Statistics.ofNodes, Statistics.ofNode,
      Statistics.beside, Statistics.around]
  · intro offset
    simp [Body.diagnostics, hinner.diagnostics_eq, h.diagnostics_eq]

/-- What follows a cluster: its connector, and the rest. -/
theorem exists_behind (h : Scanned id next nodes none t b)
    (hvalid : ∀ joint, (joint = .loose → nodes = []) → b.Valid registry joint)
    (hj : nodes ≠ [] → j ≠ none) :
    ∃ b', Scanned id next nodes j (connectorText j ++ t) b' ∧ b'.Valid registry .loose := by
  cases j with
  | none =>
    have hnil : nodes = [] := Classical.byContradiction fun hne => hj hne rfl
    exact ⟨b, h, hvalid .loose fun _ => hnil⟩
  | some k =>
    exact ⟨_, h.connector k, by simp, hvalid .joined (by simp)⟩

end Scanned

/-- Where no nodes are spelled, there are blanks only. -/
theorem Spells.blanks {nodes : List Node} {t : List Char} (h : Spells nodes t)
    (hnil : nodes = []) : Blanks t := by
  induction h with
  | done => simp [Blanks]
  | blank c rest ih =>
    intro a ha
    rcases List.mem_cons.mp ha with rfl | ha
    · exact c.property
    · exact ih hnil a ha
  | _ => cases hnil

/-- What follows the name or the operands: a clause, and the rest. Blanks at the
end of the cluster belong to the clause. -/
theorem exists_clause_behind {registry : Registry} {id next : Nat} {nodes : List Node}
    {j : Option Connector} {k : Comparison} {a : String} {s t : List Char} {b : Body}
    (hclause : SpellsClause k a s) (hspells : Spells nodes t)
    (h : Scanned id next nodes none t b)
    (hvalid : ∀ joint, (joint = .loose → nodes = []) → b.Valid registry joint)
    (hj : nodes ≠ [] → j ≠ none) :
    ∃ (clause : Clause) (rest : Body) (t' : List Char), Scanned id next nodes j t' rest ∧
      rest.Valid registry .loose ∧ rest.endsClause ∧
      clause.text ++ t' = s ++ connectorText j ++ t ∧
      clause.comparison = k ∧ clause.argument = a ∧
      ∀ offset, clause.diagnostics offset = [] := by
  cases j with
  | none =>
    -- this is the last node, and the blanks up to the bracket go to its clause
    have hnil : nodes = [] := Classical.byContradiction fun hne => hj hne rfl
    obtain ⟨clause, htext, hclause⟩ :=
      exists_clause_of_spells (hclause.append (hspells.blanks hnil))
    subst hnil
    refine ⟨clause, .done, [], ⟨rfl, rfl, rfl, rfl, rfl, fun _ => rfl⟩, trivial, trivial,
      ?_, hclause⟩
    simp [htext, connectorText]
  | some k =>
    obtain ⟨clause, htext, hclause⟩ := exists_clause_of_spells hclause
    refine ⟨clause, _, _, h.connector k, ⟨by simp, hvalid .joined (by simp)⟩, trivial, ?_,
      hclause⟩
    simp [htext, connectorText]

theorem exists_body_of_spells {registry : Registry} {nodes : List Node} {t : List Char}
    (h : Spells nodes t) : ∀ {id next : Nat}, Documented registry id next nodes →
    ∃ b : Body, Scanned id next nodes none t b ∧
      ∀ joint, (joint = .loose → nodes = []) → b.Valid registry joint := by
  -- `id` and `next` change on the way down and on the way along, as the clusters are numbered
  induction h with
  | done =>
    intro id next _
    exact ⟨.done, ⟨rfl, rfl, rfl, rfl, rfl, fun _ => rfl⟩, fun _ _ => trivial⟩
  | blank c rest ih =>
    intro id next hdocumented
    obtain ⟨b, hb, hvalid⟩ := ih hdocumented
    exact ⟨_, hb.blank c, hvalid⟩
  | filter reference hclause rest ih =>
    intro id next hdocumented
    obtain ⟨hne, hletters, hlookup⟩ := hdocumented.of_filter
    have htail : Documented registry id next _ := hdocumented.tail
    obtain ⟨b, hb, hvalid⟩ := ih htail
    obtain ⟨clause, b', t', hb', hloose, hends, htext, hk, ha, hds⟩ :=
      exists_clause_behind hclause rest hb hvalid hdocumented.connector_ne_none
    have hscanned := hb'.filter ⟨reference.identifier, hletters⟩ rfl hk ha hds
    refine ⟨.filter ⟨reference.identifier, hletters⟩ reference.kind clause b', ?_,
      fun joint hjoint => ⟨fun h => ?_, hlookup, fun h => absurd h hne, hends, hloose⟩⟩
    · rw [htext] at hscanned
      simpa [Node.connector] using hscanned
    · cases hjoint h
  | calculator sum opening hoperands hclause rest ih =>
    intro id next hdocumented
    obtain ⟨hparent, hsum⟩ := hdocumented.of_calculator
    have htail : Documented registry id next _ := hdocumented.tail
    obtain ⟨b, hb, hvalid⟩ := ih htail
    obtain ⟨operands, rfl, hoperands, hoperands_valid⟩ := exists_sum hoperands hsum.values
    obtain ⟨clause, b', t', hb', hloose, hends, htext, hk, ha, hds⟩ :=
      exists_clause_behind hclause rest hb hvalid hdocumented.connector_ne_none
    have hscanned := hb'.calculator opening hparent hoperands hk ha hds
    refine ⟨.calculator opening operands clause b', ?_,
      fun joint hjoint => ⟨fun h => ?_, hoperands_valid, hends, hloose⟩⟩
    · rw [htext] at hscanned
      simpa [Node.connector] using hscanned
    · cases hjoint h
  | @cluster children _ _ _ _ id' parent k opening _ closing hbehind _ ih_inner ih =>
    intro id next hdocumented
    obtain ⟨rfl, rfl, hchildren⟩ := hdocumented.of_cluster
    obtain ⟨inner, hinner, hinner_valid⟩ := ih_inner hchildren
    have htail := hdocumented.tail
    have hcount : (Node.cluster id' parent children k).clusterIds.length = 1 + inner.clusters := by
      rw [hinner.clusters_eq, Node.clusterIds, List.length_cons, Nat.add_comm]
    rw [hcount, ← Nat.add_assoc] at htail
    obtain ⟨b, hb, hvalid⟩ := ih htail
    obtain ⟨b', hb', hloose'⟩ := hb.exists_behind hvalid hdocumented.connector_ne_none
    obtain ⟨b'', hb'', hloose⟩ := hb'.exists_blanks hbehind hloose'
    have hscanned := Scanned.cluster opening closing hinner hb''
    refine ⟨.cluster opening inner closing b'', ?_,
      fun joint hjoint => ⟨fun h => ?_, hinner_valid .first (by simp), hloose⟩⟩
    · simpa [Node.connector] using hscanned
    · cases hjoint h

/-! ## Every query has a spelling -/

/-- Any character may be written so that it counts. -/
theorem SpellsArgument.cons (c : Char) {a t : List Char} (h : SpellsArgument a t) :
    ∃ s, SpellsArgument (c :: a) s := by
  by_cases hescaped : Scan.decodeEscape c = c
  · have hwritten := SpellsArgument.escaped c h
    rw [hescaped] at hwritten
    exact ⟨_, hwritten⟩
  -- the two letters that an escape turns into something else need none
  have hletter : c = 'n' ∨ c = 'r' := by
    unfold Scan.decodeEscape at hescaped
    split at hescaped <;> simp_all
  refine ⟨c :: t, .plain c ?_ ?_ ?_ ?_ h⟩ <;> rcases hletter with rfl | rfl <;> decide

theorem exists_spellsArgument (a : List Char) : ∃ t, SpellsArgument a t := by
  induction a with
  | nil => exact ⟨[], .done⟩
  | cons c a ih =>
    obtain ⟨t, ht⟩ := ih
    exact ht.cons c

theorem exists_spellsClause (k : Comparison) (argument : String) :
    ∃ t, SpellsClause k argument t := by
  obtain ⟨t, ht⟩ := exists_spellsArgument argument.toList
  exact ⟨_, .intro blanks_nil blanks_nil ht blanks_nil⟩

theorem exists_spellsOperands {operands : List Operand} (hne : operands ≠ [])
    (hjoined : ∀ o ∈ operands.dropLast, o.arithmetic ≠ none)
    (hlast : ∀ o ∈ operands.getLast?, o.arithmetic = none) :
    ∃ t, SpellsOperands operands t := by
  induction operands with
  | nil => exact absurd rfl hne
  | cons o operands ih =>
    obtain ⟨value, arithmetic⟩ := o
    cases operands with
    | nil =>
      obtain rfl : arithmetic = none := hlast _ rfl
      exact ⟨_, .last value blanks_nil ⟨')', by decide⟩⟩
    | cons second operands =>
      obtain ⟨k, rfl⟩ : ∃ k, arithmetic = some k :=
        Option.ne_none_iff_exists'.mp (hjoined ⟨value, arithmetic⟩ (by simp))
      obtain ⟨t, ht⟩ := ih (by simp) (fun o ho => hjoined o (by simp_all))
        (fun o ho => hlast o (by simpa using ho))
      exact ⟨_, .more value blanks_nil k ht⟩

/-- Nodes have a spelling if each of them has one in front of any text. -/
theorem exists_spells_of_forall {nodes : List Node}
    (h : ∀ node ∈ nodes, ∀ {rest : List Node} {t : List Char}, Spells rest t →
      ∃ s, Spells (node :: rest) s) : ∃ t, Spells nodes t := by
  induction nodes with
  | nil => exact ⟨[], .done⟩
  | cons node nodes ih =>
    obtain ⟨t, ht⟩ := ih fun n hn => h n (List.mem_cons_of_mem node hn)
    exact h node List.mem_cons_self ht

theorem Node.WellFormed.exists_spells {registry : Registry} {node : Node}
    (h : node.WellFormed registry) :
    ∀ {rest : List Node} {t : List Char}, Spells rest t → ∃ s, Spells (node :: rest) s := by
  induction h with
  | filter reference letters registered =>
    intro rest t hrest
    obtain ⟨clause, hclause⟩ := exists_spellsClause reference.comparison reference.argument
    exact ⟨_, .filter reference hclause hrest⟩
  | calculator sum hsum =>
    intro rest t hrest
    obtain ⟨clause, hclause⟩ := exists_spellsClause sum.comparison sum.argument
    obtain ⟨operands, hoperands⟩ := exists_spellsOperands hsum.nonempty hsum.joined hsum.last
    exact ⟨_, .calculator sum ⟨'(', by decide⟩ hoperands hclause hrest⟩
  | cluster id parent children connector _ _ ih =>
    intro rest t hrest
    obtain ⟨inner, hinner⟩ := exists_spells_of_forall ih
    exact ⟨_, .cluster id parent connector ⟨'(', by decide⟩ hinner ⟨')', by decide⟩ blanks_nil
      hrest⟩

/-- A query that may be evaluated may be written. -/
theorem Query.WellFormed.exists_spelling {registry : Registry} {q : Query}
    (h : q.WellFormed registry) : ∃ source : String, q.Spells source.toList := by
  obtain ⟨t, ht⟩ := exists_spells_of_forall fun node hnode => (h.nodes node hnode).exists_spells
  refine ⟨String.ofList ('(' :: t ++ [')']), [], ⟨'(', by decide⟩, t, ⟨')', by decide⟩, [],
    blanks_nil, ht, ?_⟩
  rw [String.toList_ofList]
  rfl

/-! ## Spellings compile -/

/-- Every spelling of a query compiles to it, and nothing in it is reported. -/
theorem compile_of_spells {registry : Registry} {source : String} {q : Query}
    (hq : q.Documented registry) (h : q.Spells source.toList) :
    compile registry source = ⟨.ok (some q), []⟩ := by
  obtain ⟨lead, opening, t, closing, ignored, hlead, hspells, hsource⟩ := h
  obtain ⟨b, hb, hvalid⟩ := exists_body_of_spells hspells hq.nodes
  have hdepth : b.depth + 1 ≤ 128 := by
    rw [hb.depth_eq]
    exact hq.depth
  apply compile_of_derives
  refine ⟨⟨lead, opening, b, closing, ignored, hlead⟩, ⟨hvalid .first (by simp), hdepth⟩,
    ?_, ?_, hb.diagnostics_eq _⟩
  · rw [hsource, Root.text, hb.text_eq]
  · rw [Root.query, hb.nodes_eq]

/-- A filter that is joined with a calculator in a cluster, written without blanks
and with an escape in an argument. -/
theorem compile_of_spells_filter_and_calculator :
    let sum : Calculator := ⟨1, [⟨.filter "listed_count", some .add⟩, ⟨.literal "1", none⟩],
      .greaterThan, "7", none⟩
    let q : Query := ⟨[.filter ⟨"text", .text, .includes, "a\n", some .and⟩,
      .cluster 1 0 [.calculator sum] none]⟩
    let source := "\x7btext:\"a\\n\"&[#(listed_count+1)>\"7\"]\x7d"
    q.Documented FilterSet.builtin.registry ∧ q.Spells source.toList ∧
      compile FilterSet.builtin.registry source = ⟨.ok (some q), []⟩ := by
  intro sum q source
  have hsum : sum.WellFormed FilterSet.builtin.registry := by
    refine ⟨by simp [sum], by simp [sum], by simp [sum], ?_⟩
    intro o ho
    simp only [sum, List.mem_cons, List.not_mem_nil, or_false] at ho
    rcases ho with rfl | rfl
    · exact ⟨by decide, by simp [isIdentifierChar], by cbv⟩
    · exact ⟨by decide, by simp [Char.isDigit]⟩
  have hdocumented : q.Documented FilterSet.builtin.registry := by
    refine ⟨⟨?_, ?_, ?_, ?_, ?_⟩, by decide⟩
    · simp [q, Joined, Node.connector]
    · intro node hnode
      simp only [q, List.mem_cons, List.not_mem_nil, or_false] at hnode
      rcases hnode with rfl | rfl
      · exact .filter _ (by simp [isIdentifierChar]) (by cbv)
      · exact .cluster _ _ _ _ (by simp [Joined]) (by simpa using .calculator _ hsum)
    · simp [q, leavesOf, Node.leaves]
    · simp [q, clusterIdsOf, Node.clusterIds]
    · simp [q, sum, AllPlaced, Node.Placed]
  have hblanks : Blanks [] := by simp [Blanks]
  have hletters : SpellsArgument "a\n".toList ['a', '\\', 'n'] := by
    rw [show "a\n".toList = ['a', '\n'] by decide]
    exact .plain 'a' (by decide) (by decide) (by decide) (by decide) (.escaped 'n' .done)
  have hdigit : SpellsArgument "7".toList ['7'] := by
    rw [show "7".toList = ['7'] by decide]
    exact .plain '7' (by decide) (by decide) (by decide) (by decide) .done
  have hoperands : SpellsOperands sum.operands _ :=
    .more _ hblanks .add (.last _ hblanks ⟨')', by decide⟩)
  have hcalculator : Spells [.calculator sum] _ :=
    .calculator sum ⟨'(', by decide⟩ hoperands (.intro hblanks hblanks hdigit hblanks) .done
  have hnodes : Spells q.nodes _ :=
    .filter _ (.intro hblanks hblanks hletters hblanks)
      (.cluster 1 0 none ⟨'[', by decide⟩ hcalculator ⟨']', by decide⟩ hblanks .done)
  have hspells : q.Spells source.toList :=
    ⟨[], ⟨'{', by decide⟩, _, ⟨'}', by decide⟩, [], hblanks, hnodes, by decide⟩
  exact ⟨hdocumented, hspells, compile_of_spells hdocumented hspells⟩

end FilterQuery
