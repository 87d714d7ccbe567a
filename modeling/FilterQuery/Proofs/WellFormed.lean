import FilterQuery.Filter.Set
import FilterQuery.Proofs.Language

/-!
# Accepted queries are well formed

What a compiled query promises to whoever evaluates it, at every level of the
tree: nodes are joined with their successors, names are those of registered
filters, and the operands of a calculator are numbers joined by operators.

Over the text these promises are scattered. A connector may stand anywhere
behind its node and may be replaced, and an operand says what it is only once
its blanks are gone. Over the tree of the text each is local: a node takes its
connector from the body behind it, and if there is a node in that body then a
connector stands before it (`joining_ne_none`), since the body is valid behind a
node that has none yet.
-/

namespace FilterQuery

open Grammar

/-- A value that may stand in a calculator: the name of a numerical filter, or
digits. -/
def OperandValue.WellFormed (registry : Registry) : OperandValue → Prop
  | .filter identifier =>
    identifier ≠ "" ∧ (∀ c ∈ identifier.toList, isIdentifierChar c) ∧
      registry.lookup identifier = some .numerical
  | .literal digits => digits ≠ "" ∧ ∀ c ∈ digits.toList, c.isDigit

/-- A calculator has operands, and an operator between any two of them. -/
structure Calculator.WellFormed (registry : Registry) (sum : Calculator) : Prop where
  nonempty : sum.operands ≠ []
  joined : ∀ o ∈ sum.operands.dropLast, o.arithmetic ≠ none
  last : ∀ o ∈ sum.operands.getLast?, o.arithmetic = none
  values : ∀ o ∈ sum.operands, o.value.WellFormed registry

/-- Every node but the last is joined with the next one. -/
def Joined (nodes : List Node) : Prop :=
  ∀ node ∈ nodes.dropLast, node.connector ≠ none

/-- A node that may be evaluated, with all that is in it. -/
inductive Node.WellFormed (registry : Registry) : Node → Prop where
  | filter (reference : FilterReference)
      (letters : ∀ c ∈ reference.identifier.toList, isIdentifierChar c)
      (registered : registry.lookup reference.identifier = some reference.kind) :
      WellFormed registry (.filter reference)
  | calculator (sum : Calculator) (wellFormed : sum.WellFormed registry) :
      WellFormed registry (.calculator sum)
  | cluster (id parent : Nat) (children : List Node) (connector : Option Connector)
      (joined : Joined children)
      (wellFormed : ∀ node ∈ children, node.WellFormed registry) :
      WellFormed registry (.cluster id parent children connector)

/-- A query that may be evaluated. -/
structure Query.WellFormed (registry : Registry) (query : Query) : Prop where
  joined : Joined query.nodes
  nodes : ∀ node ∈ query.nodes, node.WellFormed registry

theorem joined_nil : Joined [] := by
  intro node h
  cases h

theorem joined_cons {node : Node} {nodes : List Node} :
    Joined (node :: nodes) ↔ (nodes ≠ [] → node.connector ≠ none) ∧ Joined nodes := by
  cases nodes with
  | nil => simp [Joined]
  | cons second rest => simp [Joined]

namespace Grammar

variable {registry : Registry}

/-! ## Operands -/

theorem Term.wellFormed_value {term : Term} (h : term.Valid registry) :
    term.value.WellFormed registry := by
  have hne := term.value_text_ne_empty
  have huniform := term.uniform
  unfold Term.Valid at h
  cases hvalue : term.value with
  | filter identifier =>
    rw [hvalue] at hne huniform h
    exact ⟨hne, huniform, h⟩
  | literal digits =>
    rw [hvalue] at hne huniform
    exact ⟨hne, huniform⟩

theorem Sum.operands_ne_nil (sum : Sum) : sum.operands ≠ [] := by
  induction sum with
  | dropped c rest ih => exact ih
  | last term closing => exact List.cons_ne_nil _ _
  | more term k rest ih => exact List.cons_ne_nil _ _

theorem Sum.joined_operands (sum : Sum) :
    ∀ o ∈ sum.operands.dropLast, o.arithmetic ≠ none := by
  induction sum with
  | dropped c rest ih => exact ih
  | last term closing => simp [Sum.operands]
  | more term k rest ih =>
    rw [Sum.operands, List.dropLast_cons_of_ne_nil rest.operands_ne_nil]
    intro o ho
    rcases List.mem_cons.mp ho with rfl | hrest
    · exact Option.some_ne_none k
    · exact ih o hrest

theorem Sum.wellFormed_values {sum : Sum} (h : sum.Valid registry) :
    ∀ o ∈ sum.operands, o.value.WellFormed registry := by
  induction sum with
  | dropped c rest ih => exact ih h
  | last term closing =>
    intro o ho
    obtain rfl := List.mem_singleton.mp ho
    exact term.wellFormed_value h
  | more term k rest ih =>
    obtain ⟨hterm, hrest⟩ := h
    intro o ho
    rcases List.mem_cons.mp ho with rfl | ho
    · exact term.wellFormed_value hterm
    · exact ih hrest o ho

theorem Sum.wellFormed {sum : Sum} (h : sum.Valid registry) {s : Calculator}
    (hs : s.operands = sum.operands) : s.WellFormed registry := by
  constructor
  · rw [hs]
    exact sum.operands_ne_nil
  · rw [hs]
    exact sum.joined_operands
  · rw [hs]
    obtain ⟨o, ho, hnone⟩ := sum.exists_last
    intro o' ho'
    obtain rfl := Option.mem_unique ho ho'
    exact hnone
  · rw [hs]
    exact sum.wellFormed_values h

/-! ## Bodies -/

namespace Body

variable {b : Body} {id next : Nat}

/-- Behind a node without a connector, no node comes before a connector. -/
theorem joining_ne_none (h : b.Valid registry .loose) (hne : b.nodes id next ≠ []) :
    b.joining ≠ none := by
  induction b with
  | done => exact absurd rfl hne
  | blank c rest ih => exact ih h hne
  | pair c rest ih => exact ih h hne
  | connector k rest ih => simp [joining]
  | filter name kind clause rest ih => exact absurd rfl h.1
  | calculator opening sum clause rest ih => exact absurd rfl h.1
  | cluster opening inner closing rest _ ih => exact absurd rfl h.1

theorem joined_nodes {joint : Joint} (h : b.Valid registry joint) :
    Joined (b.nodes id next) := by
  induction b generalizing id next joint with
  | done => exact joined_nil
  | blank c rest ih => exact ih h
  | pair c rest ih => exact ih h
  | connector k rest ih => exact ih h.2
  | filter name kind clause rest ih =>
    obtain ⟨-, -, -, -, hrest⟩ := h
    exact joined_cons.mpr ⟨joining_ne_none hrest, ih hrest⟩
  | calculator opening sum clause rest ih =>
    obtain ⟨-, -, -, hrest⟩ := h
    exact joined_cons.mpr ⟨joining_ne_none hrest, ih hrest⟩
  | cluster opening inner closing rest _ ih =>
    obtain ⟨-, -, hrest⟩ := h
    exact joined_cons.mpr ⟨joining_ne_none hrest, ih hrest⟩

theorem wellFormed_nodes {joint : Joint} (h : b.Valid registry joint) :
    ∀ node ∈ b.nodes id next, node.WellFormed registry := by
  induction b generalizing id next joint with
  | done => simp [nodes]
  | blank c rest ih => exact ih h
  | pair c rest ih => exact ih h
  | connector k rest ih => exact ih h.2
  | filter name kind clause rest ih =>
    obtain ⟨-, hlookup, -, -, hrest⟩ := h
    intro node hnode
    rcases List.mem_cons.mp hnode with rfl | hnode
    · exact .filter _ name.property hlookup
    · exact ih hrest node hnode
  | calculator opening sum clause rest ih =>
    obtain ⟨-, hsum, -, hrest⟩ := h
    intro node hnode
    rcases List.mem_cons.mp hnode with rfl | hnode
    · exact .calculator _ (sum.wellFormed hsum rfl)
    · exact ih hrest node hnode
  | cluster opening inner closing rest ih_inner ih =>
    obtain ⟨-, hinner, hrest⟩ := h
    intro node hnode
    rcases List.mem_cons.mp hnode with rfl | hnode
    · exact .cluster _ _ _ _ (joined_nodes hinner) (ih_inner hinner)
    · exact ih hrest node hnode

end Body

end Grammar

/-! ## Queries -/

/-- A query that the compiler accepts is well formed at every level. -/
theorem wellFormed_of_compile {registry : Registry} {source : String} {q : Query}
    {ds : List Diagnostic} (h : compile registry source = ⟨.ok (some q), ds⟩) :
    q.WellFormed registry := by
  obtain ⟨root, ⟨hvalid, -⟩, -, rfl, -⟩ := derives_of_compile h
  exact ⟨Body.joined_nodes hvalid, Body.wellFormed_nodes hvalid⟩

/-- A filter that is joined with a cluster. -/
theorem wellFormed_filter_and_cluster :
    let q : Query := ⟨[.filter ⟨"text", .text, .includes, "a", some .and⟩,
      .cluster 1 0 [.filter ⟨"text", .text, .regex, "b", none⟩] none]⟩
    compile FilterSet.builtin.registry "\x7btext: \"a\" & [text::\"b\"]\x7d" = ⟨.ok (some q), []⟩ ∧
      q.WellFormed FilterSet.builtin.registry := by
  intro q
  have h : compile FilterSet.builtin.registry "\x7btext: \"a\" & [text::\"b\"]\x7d" =
      ⟨.ok (some q), []⟩ := by cbv
  exact ⟨h, wellFormed_of_compile h⟩

end FilterQuery
