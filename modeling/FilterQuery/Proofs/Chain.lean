import FilterQuery.Filter.Set
import FilterQuery.Query.Statistics
import FilterQuery.Proofs.Numbering

/-!
# Queries as clusters of a query

An accepted text is a cluster when it stands in another one. Many of them may stand
there in a row, joined by connectors, and the text around them compiles to their
queries (`compile_chain`): nothing that is read in one block depends on the others, but
for the numbers of the clusters and the offsets of the diagnostics, which count on.

A block has to end on the bracket of its root, since what stands behind that bracket is
unread while the block stands alone, and read when it does not. It may begin with
blanks. And it is put one level deeper than it stood, so it has one level less.
-/

namespace FilterQuery

open Grammar

/-- The same diagnostic `n` bytes later. -/
def Diagnostic.shift (n : Nat) : Diagnostic → Diagnostic
  | unexpectedCharacter found offset => unexpectedCharacter found (offset + n)

/-- A text that may stand as a cluster in a query: it is accepted, its root closes on the
last character, and its clusters are nested no deeper than 126 below the root. -/
structure Block (registry : Registry) where
  source : String
  query : Query
  diagnostics : List Diagnostic
  compiles : compile registry source = ⟨.ok (some query), diagnostics⟩
  closes : unread? registry source = some []
  shallow : (Statistics.ofQuery query).depth ≤ 126

namespace Block

variable {registry : Registry}

/-- The number of clusters in a block, its root included. -/
def clusters (block : Block registry) : Nat :=
  (Statistics.ofQuery block.query).clusters + 1

/-- The cluster that a block becomes, as cluster `id` of the root. -/
def node (block : Block registry) (id : Nat) (k : Option Connector) : Node :=
  .cluster id 0 (raiseAll id block.query.nodes) k

end Block

/-- One or more blocks, joined by connectors. -/
inductive Chain (registry : Registry) where
  | last (block : Block registry)
  | more (block : Block registry) (k : Connector) (rest : Chain registry)

namespace Chain

variable {registry : Registry}

def blocks : Chain registry → List (Block registry)
  | last block => [block]
  | more block _ rest => block :: rest.blocks

def connectors : Chain registry → List Connector
  | last _ => []
  | more _ k rest => k :: rest.connectors

def text : Chain registry → List Char
  | last block => block.source.toList
  | more block k rest => block.source.toList ++ k.symbol :: rest.text

/-- The text of a chain in brackets. -/
def source (chain : Chain registry) : String :=
  String.ofList ('\x7b' :: chain.text ++ ['\x7d'])

/-- The number of the cluster that the block at `i` becomes: those of the earlier blocks
come before it. -/
def idAt (chain : Chain registry) (i : Nat) : Nat :=
  1 + ((chain.blocks.take i).map Block.clusters).sum

/-- The diagnostics of the blocks; the bytes before the chain are counted by `offset`. -/
def diagnostics (offset : Nat) : Chain registry → List Diagnostic
  | last block => block.diagnostics.map (Diagnostic.shift offset)
  | more block k rest =>
    block.diagnostics.map (Diagnostic.shift offset) ++
      rest.diagnostics (offset + utf8Length (block.source.toList ++ [k.symbol]))

/-- The nodes of the blocks, numbered from `next` on. -/
def nodes (next : Nat) : Chain registry → List Node
  | last block => [block.node next none]
  | more block k rest => block.node next (some k) :: rest.nodes (next + block.clusters)

theorem nodes_eq_mapIdx (chain : Chain registry) (next : Nat) :
    chain.nodes next = chain.blocks.mapIdx fun i block =>
      block.node (next + ((chain.blocks.take i).map Block.clusters).sum)
        chain.connectors[i]? := by
  induction chain generalizing next with
  | last block => rfl
  | more block k rest ih =>
    rw [nodes, ih, blocks, connectors, List.mapIdx_cons]
    simp [Nat.add_assoc]

end Chain

/-! ## The same body elsewhere -/

namespace Grammar

theorem shift_skipDiagnostics (n offset : Nat) (t : List Char) :
    (skipDiagnostics offset t).map (Diagnostic.shift n) = skipDiagnostics (offset + n) t := by
  induction t generalizing offset with
  | nil => rfl
  | cons c t ih =>
    rw [skipDiagnostics, skipDiagnostics, Nat.add_right_comm, ← ih]
    split <;> rfl

theorem Clause.shift_diagnostics (n offset : Nat) (clause : Clause) :
    (clause.diagnostics offset).map (Diagnostic.shift n) = clause.diagnostics (offset + n) := by
  rw [diagnostics, shift_skipDiagnostics, Nat.add_right_comm, diagnostics]

namespace Body

variable {registry : Registry} {b b' rest : Body} {s : List Char} {id next : Nat}

theorem shift_diagnostics (n offset : Nat) (b : Body) :
    (b.diagnostics offset).map (Diagnostic.shift n) = b.diagnostics (offset + n) := by
  induction b generalizing offset with
  | done => rfl
  | blank c rest ih | pair c rest ih | connector k rest ih =>
    rw [diagnostics, ih, Nat.add_right_comm, diagnostics]
  | filter name kind clause rest ih | calculator opening sum clause rest ih =>
    simp only [diagnostics, List.map_append, ih, Clause.shift_diagnostics,
      Nat.add_right_comm _ n]
  | cluster opening inner closing rest ih_inner ih =>
    simp only [diagnostics, List.map_append, ih, ih_inner, Nat.add_right_comm _ n]

theorem clusters_statistics (b : Body) :
    (Statistics.ofNodes (b.nodes id next)).clusters = b.clusters := by
  induction b generalizing id next with
  | done => rfl
  | blank c rest ih | pair c rest ih | connector k rest ih => exact ih
  | filter name kind clause rest ih | calculator opening sum clause rest ih =>
    rw [nodes, Statistics.ofNodes, clusters, ← ih]
    exact Nat.zero_add _
  | cluster opening inner closing rest ih_inner ih =>
    rw [nodes, Statistics.ofNodes, clusters, ← ih_inner, ← ih]
    rfl

theorem depth_statistics (b : Body) :
    (Statistics.ofNodes (b.nodes id next)).depth = b.depth := by
  induction b generalizing id next with
  | done => rfl
  | blank c rest ih | pair c rest ih | connector k rest ih => exact ih
  | filter name kind clause rest ih | calculator opening sum clause rest ih =>
    rw [nodes, Statistics.ofNodes, depth, ← ih]
    exact Nat.zero_max _
  | cluster opening inner closing rest ih_inner ih =>
    rw [nodes, Statistics.ofNodes, depth, ← ih_inner, ← ih]
    rfl

/-- The body `b'` is `b` behind the blanks `s`. -/
structure Indents (s : List Char) (b b' : Body) : Prop where
  text_eq : b'.text = s ++ b.text
  nodes_eq : ∀ id next, b'.nodes id next = b.nodes id next
  joining_eq : b'.joining = b.joining
  depth_eq : b'.depth = b.depth
  diagnostics_eq : ∀ offset, b'.diagnostics offset = b.diagnostics (offset + utf8Length s)
  valid : ∀ {registry joint}, b.Valid registry joint → b'.Valid registry joint

theorem exists_indents (hs : Blanks s) (b : Body) : ∃ b', Indents s b b' := by
  induction s with
  | nil => exact ⟨b, rfl, fun _ _ => rfl, rfl, rfl, fun _ => rfl, id⟩
  | cons c s ih =>
    obtain ⟨hc, hs⟩ := blanks_cons.mp hs
    obtain ⟨b', h⟩ := ih hs
    refine ⟨.blank ⟨c, hc⟩ b', congrArg (c :: ·) h.text_eq, h.nodes_eq, h.joining_eq,
      h.depth_eq, fun offset => ?_, h.valid⟩
    rw [diagnostics, h.diagnostics_eq, Nat.add_assoc]
    rfl

end Body

end Grammar

/-! ## Blocks -/

variable {registry : Registry}

/-- The body `b` is that of a block as a cluster of the root, followed by `rest`. -/
structure Block.Heads (block : Block registry) (rest b : Body) : Prop where
  text_eq : b.text = block.source.toList ++ rest.text
  nodes_eq : ∀ next, b.nodes 0 next =
    block.node next rest.joining :: rest.nodes 0 (next + block.clusters)
  joining_eq : b.joining = none
  depth_le : rest.depth ≤ 127 → b.depth ≤ 127
  diagnostics_eq : ∀ offset, b.diagnostics offset =
    block.diagnostics.map (Diagnostic.shift offset) ++
      rest.diagnostics (offset + utf8Length block.source.toList)
  valid : rest.Valid registry .loose → ∀ {joint}, joint ≠ .loose → b.Valid registry joint

theorem Block.exists_heads (block : Block registry) (rest : Body) :
    ∃ b, block.Heads rest b := by
  obtain ⟨source, query, ds, hcompiles, hcloses, hshallow⟩ := block
  obtain ⟨root, ⟨hvalid, -⟩, htext, rfl, rfl, hunread⟩ := exists_root_of_compile hcompiles
  have hignored : root.ignored = [] := Option.some.inj (hunread.symm.trans hcloses)
  obtain ⟨lead, opening, inner, closing, ignored, hlead⟩ := root
  obtain rfl : ignored = [] := hignored
  have hdepth : inner.depth ≤ 126 := inner.depth_statistics ▸ hshallow
  have hclusters : (Statistics.ofNodes (inner.nodes 0 1)).clusters = inner.clusters :=
    inner.clusters_statistics
  obtain ⟨b, hb⟩ := Body.exists_indents hlead (.cluster opening inner closing rest)
  refine ⟨b, ?_, fun next => ?_, hb.joining_eq, fun hrest => ?_, fun offset => ?_,
    fun hrest joint hjoint => hb.valid ⟨hjoint, hvalid, hrest⟩⟩
  · rw [hb.text_eq, ← htext]
    simp [Root.text, Body.text]
  · -- the number of the root is 0 in the block, and `next` here
    have hraise : raiseAll next (inner.nodes 0 1) = inner.nodes next (next + 1) := by
      rw [Body.raiseAll_nodes, Nat.zero_add, Nat.add_comm 1]
    simp only [hb.nodes_eq, Body.nodes, Block.node, Block.clusters, Root.query,
      Statistics.ofQuery, hraise, hclusters, List.cons.injEq, true_and]
    rw [Nat.add_assoc, Nat.add_comm 1]
  · rw [hb.depth_eq, Body.depth]
    omega
  · have hlength : utf8Length source.toList = utf8Length lead + (utf8Length [opening.val] +
        utf8Length (inner.text ++ [closing.val])) := by
      rw [← htext]
      simp [Root.text, utf8Length_append]
    simp only [hb.diagnostics_eq, Body.diagnostics, Root.diagnostics, Body.shift_diagnostics,
      hlength, utf8Length_append lead, Nat.add_comm _ offset, Nat.add_assoc]

/-! ## Chains -/

/-- The body `b` is that of a chain in the root. -/
structure Chain.Fills (chain : Chain registry) (b : Body) : Prop where
  text_eq : b.text = chain.text
  nodes_eq : ∀ next, b.nodes 0 next = chain.nodes next
  joining_eq : b.joining = none
  depth_le : b.depth ≤ 127
  diagnostics_eq : ∀ offset, b.diagnostics offset = chain.diagnostics offset
  valid : ∀ {joint}, joint ≠ .loose → b.Valid registry joint

theorem Chain.exists_fills (chain : Chain registry) : ∃ b, chain.Fills b := by
  induction chain with
  | last block =>
    obtain ⟨b, hb⟩ := block.exists_heads .done
    refine ⟨b, ?_, hb.nodes_eq, hb.joining_eq, hb.depth_le (Nat.zero_le 127), fun offset => ?_,
      hb.valid trivial⟩
    · rw [hb.text_eq, Body.text, List.append_nil, text]
    · rw [hb.diagnostics_eq, Body.diagnostics, List.append_nil, diagnostics]
  | more block k rest ih =>
    obtain ⟨c, hc⟩ := ih
    obtain ⟨b, hb⟩ := block.exists_heads (.connector k c)
    refine ⟨b, ?_, fun next => ?_, hb.joining_eq, hb.depth_le hc.depth_le, fun offset => ?_,
      hb.valid ⟨by decide, hc.valid (by decide)⟩⟩
    · rw [hb.text_eq, Body.text, hc.text_eq, text]
    · rw [hb.nodes_eq, Body.joining, hc.joining_eq, Body.nodes, hc.nodes_eq]
      rfl
    · rw [hb.diagnostics_eq, Body.diagnostics, hc.diagnostics_eq, diagnostics,
        utf8Length_append, Nat.add_assoc]

/-- Blocks in a row compile one by one: each becomes a cluster of the root, joined by the
connector behind it, and brings its nodes and diagnostics along. -/
theorem compile_chain (chain : Chain registry) :
    compile registry chain.source = ⟨.ok (some ⟨chain.blocks.mapIdx fun i block =>
      block.node (chain.idAt i) chain.connectors[i]?⟩), chain.diagnostics 1⟩ := by
  obtain ⟨b, hb⟩ := chain.exists_fills
  have hdepth : b.depth + 1 ≤ 128 := Nat.succ_le_succ hb.depth_le
  refine compile_of_derives ⟨⟨[], ⟨'\x7b', rfl⟩, b, ⟨'\x7d', rfl⟩, [], blanks_nil⟩,
    ⟨hb.valid (by decide), hdepth⟩, ?_, ?_, hb.diagnostics_eq 1⟩
  · rw [Chain.source, String.toList_ofList, Root.text, hb.text_eq]
    rfl
  · exact congrArg Query.mk ((hb.nodes_eq 1).trans (chain.nodes_eq_mapIdx 1))

/-- Two blocks, one with a diagnostic and one with a cluster of its own. -/
theorem compile_chain_of_two :
    let leaf : Node := .filter ⟨"text", .text, .includes, "é", none⟩
    let nodes : List Node := [.cluster 1 0 [leaf] (some .or),
      .cluster 2 0 [.cluster 3 2 [] none] none]
    ∃ chain : Chain FilterSet.builtin.registry,
      chain.blocks.map Block.source = [" \x7btext:\"é\" x\x7d", "([])"] ∧
      chain.source = "\x7b \x7btext:\"é\" x\x7d|([])\x7d" ∧
      compile FilterSet.builtin.registry chain.source =
        ⟨.ok (some ⟨nodes⟩), [.unexpectedCharacter 'x' 13]⟩ := by
  have hfirst : compile FilterSet.builtin.registry " \x7btext:\"é\" x\x7d" =
      ⟨.ok (some ⟨[.filter ⟨"text", .text, .includes, "é", none⟩]⟩),
        [.unexpectedCharacter 'x' 12]⟩ := by cbv
  have hsecond : compile FilterSet.builtin.registry "([])" =
      ⟨.ok (some ⟨[.cluster 1 0 [] none]⟩), []⟩ := by cbv
  have hcloses : unread? FilterSet.builtin.registry " \x7btext:\"é\" x\x7d" = some [] := by cbv
  have hcloses' : unread? FilterSet.builtin.registry "([])" = some [] := by cbv
  have hsource : String.ofList ('\x7b' :: (" \x7btext:\"é\" x\x7d".toList ++ '|' ::
      "([])".toList) ++ ['\x7d']) = "\x7b \x7btext:\"é\" x\x7d|([])\x7d" := by decide
  intro leaf nodes
  let chain : Chain FilterSet.builtin.registry :=
    .more ⟨_, _, _, hfirst, hcloses, by decide⟩ .or (.last ⟨_, _, _, hsecond, hcloses', by decide⟩)
  exact ⟨chain, rfl, hsource, compile_chain chain⟩

end FilterQuery
