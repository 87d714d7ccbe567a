import FilterQuery.Proofs.Chain
import FilterQuery.Proofs.Printed
import FilterQuery.Proofs.TreeText

/-!
# What the statistics of a query count

Three walks over a query agree (`statistics_of_compile`): the one that counts, the one that
draws a line for each node, and the reading itself, which gave the clusters their numbers.
A line of the drawing ends where it seems to, since nothing that it says of a node has a line
end in it, and the clusters can be told from the lines alone. The numbers of the clusters are
1, 2, and so on, so the greatest of them is their count. The depth is that of the longest
chain of clusters one in the other, the innermost of which may be empty.
-/

namespace FilterQuery

open Grammar Text

/-! ## All nodes of a query -/

mutual

/-- A node and the nodes in it, each before those inside it. -/
def Node.walk : Node → List Node
  | .filter reference => [.filter reference]
  | .calculator sum => [.calculator sum]
  | .cluster id parent children connector =>
    .cluster id parent children connector :: walkOf children

/-- Neighbouring nodes and the nodes in them. -/
def walkOf : List Node → List Node
  | [] => []
  | node :: nodes => node.walk ++ walkOf nodes

end

def Node.isFilter : Node → Bool
  | .filter _ => true
  | _ => false

def Node.isCalculator : Node → Bool
  | .calculator _ => true
  | _ => false

def Node.isCluster : Node → Bool
  | .cluster .. => true
  | _ => false

namespace Statistics

/-- These statistics count the nodes of a list by their sorts. -/
structure Counts (s : Statistics) (nodes : List Node) : Prop where
  filters_eq : s.filters = nodes.countP Node.isFilter
  calculators_eq : s.calculators = nodes.countP Node.isCalculator
  clusters_eq : s.clusters = nodes.countP Node.isCluster

theorem Counts.beside {s t : Statistics} {nodes nodes' : List Node} (h : s.Counts nodes)
    (h' : t.Counts nodes') : (s.beside t).Counts (nodes ++ nodes') := by
  refine ⟨?_, ?_, ?_⟩
  · rw [List.countP_append, ← h.filters_eq, ← h'.filters_eq, Statistics.beside]
  · rw [List.countP_append, ← h.calculators_eq, ← h'.calculators_eq, Statistics.beside]
  · rw [List.countP_append, ← h.clusters_eq, ← h'.clusters_eq, Statistics.beside]

mutual

theorem counts_ofNode (node : Node) : (ofNode node).Counts node.walk := by
  match node with
  | .filter reference => exact ⟨rfl, rfl, rfl⟩
  | .calculator sum => exact ⟨rfl, rfl, rfl⟩
  | .cluster id parent children connector =>
    obtain ⟨hfilters, hcalculators, hclusters⟩ := counts_ofNodes children
    refine ⟨?_, ?_, ?_⟩
    · rw [ofNode, around, hfilters]
      rfl
    · rw [ofNode, around, hcalculators]
      rfl
    · rw [ofNode, around, hclusters, Node.walk, List.countP_cons_of_pos rfl]

theorem counts_ofNodes (nodes : List Node) : (ofNodes nodes).Counts (walkOf nodes) := by
  match nodes with
  | [] => exact ⟨rfl, rfl, rfl⟩
  | node :: rest => exact (counts_ofNode node).beside (counts_ofNodes rest)

end

/-- A node is of one sort. -/
theorem Counts.length_eq {s : Statistics} {nodes : List Node} (h : s.Counts nodes) :
    nodes.length = s.filters + s.calculators + s.clusters := by
  rw [h.filters_eq, h.calculators_eq, h.clusters_eq]
  clear h
  induction nodes with
  | nil => rfl
  | cons node nodes ih =>
    rw [List.length_cons, ih, List.countP_cons, List.countP_cons, List.countP_cons]
    cases node
    all_goals
      simp only [Node.isFilter, Node.isCalculator, Node.isCluster, if_true, Bool.false_eq_true,
        if_false]
      omega

end Statistics

/-! ## Depth -/

/-- Each of these clusters stands in the one before it, and the first among `nodes`. -/
inductive Nests : List Node → List Node → Prop where
  | nil {nodes : List Node} : Nests nodes []
  | cons {nodes children chain : List Node} {id parent : Nat} {k : Option Connector}
      (mem : .cluster id parent children k ∈ nodes) (rest : Nests children chain) :
      Nests nodes (.cluster id parent children k :: chain)

theorem Nests.mono {nodes nodes' chain : List Node} (h : Nests nodes chain)
    (hsub : nodes ⊆ nodes') : Nests nodes' chain := by
  cases h with
  | nil => exact .nil
  | cons mem rest => exact .cons (hsub mem) rest

namespace Statistics

theorem depth_ofNode_le {node : Node} {nodes : List Node} (h : node ∈ nodes) :
    (ofNode node).depth ≤ (ofNodes nodes).depth := by
  induction nodes with
  | nil => cases h
  | cons first rest ih =>
    rw [ofNodes, beside]
    rcases List.mem_cons.mp h with rfl | h
    · exact Nat.le_max_left _ _
    · exact (ih h).trans (Nat.le_max_right _ _)

theorem length_le_depth {nodes chain : List Node} (h : Nests nodes chain) :
    chain.length ≤ (ofNodes nodes).depth := by
  induction h with
  | nil => exact Nat.zero_le _
  | cons mem rest ih =>
    have hdepth := depth_ofNode_le mem
    rw [ofNode, around] at hdepth
    rw [List.length_cons]
    exact (Nat.succ_le_succ ih).trans hdepth

mutual

theorem exists_nests_ofNode (node : Node) :
    ∃ chain, Nests [node] chain ∧ chain.length = (ofNode node).depth := by
  match node with
  | .filter reference => exact ⟨[], .nil, rfl⟩
  | .calculator sum => exact ⟨[], .nil, rfl⟩
  | .cluster id parent children connector =>
    obtain ⟨chain, hchain, hlength⟩ := exists_nests_ofNodes children
    refine ⟨_, .cons List.mem_cons_self hchain, ?_⟩
    rw [List.length_cons, hlength, ofNode, around]

theorem exists_nests_ofNodes (nodes : List Node) :
    ∃ chain, Nests nodes chain ∧ chain.length = (ofNodes nodes).depth := by
  match nodes with
  | [] => exact ⟨[], .nil, rfl⟩
  | node :: rest =>
    obtain ⟨chain, hchain, hlength⟩ := exists_nests_ofNode node
    obtain ⟨chain', hchain', hlength'⟩ := exists_nests_ofNodes rest
    rw [ofNodes, beside, ← hlength, ← hlength']
    rcases max_choice chain.length chain'.length with hmax | hmax
    · exact ⟨chain, hchain.mono (by simp), hmax.symm⟩
    · exact ⟨chain', hchain'.mono (by simp), hmax.symm⟩

end

theorem isGreatest_depth (nodes : List Node) :
    IsGreatest {n | ∃ chain, Nests nodes chain ∧ chain.length = n} (ofNodes nodes).depth := by
  refine ⟨exists_nests_ofNodes nodes, ?_⟩
  rintro n ⟨chain, hchain, rfl⟩
  exact length_le_depth hchain

end Statistics

/-! ## Numbers of clusters -/

mutual

theorem Node.map_fst_clusters (node : Node) : node.clusters.map Prod.fst = node.clusterIds := by
  match node with
  | .filter reference => rfl
  | .calculator sum => rfl
  | .cluster id parent children connector =>
    rw [Node.clusters, Node.clusterIds, List.map_cons, map_fst_clustersOf]

theorem map_fst_clustersOf (nodes : List Node) :
    (clustersOf nodes).map Prod.fst = clusterIdsOf nodes := by
  match nodes with
  | [] => rfl
  | node :: rest =>
    rw [clustersOf, clusterIdsOf, List.map_append, Node.map_fst_clusters, map_fst_clustersOf]

end

/-- The greatest of the numbers 1, 2, up to `n`, or 0. -/
theorem isGreatest_range' (n : Nat) : IsGreatest (insert 0 {id | id ∈ List.range' 1 n}) n := by
  refine ⟨?_, ?_⟩
  · rcases Nat.eq_zero_or_pos n with rfl | hn
    · exact .inl rfl
    · exact .inr (List.mem_range'_1.mpr ⟨hn, Nat.lt_add_of_pos_left Nat.one_pos⟩)
  · rintro id (rfl | hid)
    · exact Nat.zero_le _
    · have := (List.mem_range'_1.mp hid).2
      omega

/-- How many numbers have been given to clusters when the root is closed, if it is closed. -/
def numbersGiven? (registry : Registry) (source : String) : Option Nat :=
  match Cursor.ofString? source with
  | none => none
  | some c =>
    match Scan.root c with
    | .error _ => none
    | .ok d =>
      match Reading.cluster registry ⟨d, 0, 0, []⟩ with
      | .ok _ r => some r.nextId
      | .error _ _ => none

variable {registry : Registry} {source : String} {q : Query} {ds : List Diagnostic}

theorem numbersGiven?_of_compile (h : compile registry source = ⟨.ok (some q), ds⟩) :
    numbersGiven? registry source = some ((Statistics.ofQuery q).clusters + 1) := by
  unfold compile at h
  split at h
  · cases h
  next c hsource =>
  unfold compileFrom at h
  split at h
  · cases h
  next d hroot =>
  split at h
  · next root r hcluster =>
    cases h
    obtain ⟨-, s, hbody, rfl⟩ := Reading.nested_eq_ok_iff.mp hcluster
    obtain ⟨b, closing, e, -, rfl, rfl⟩ :=
      Reading.coversBodies_body d.remaining hbody (show 1 ≤ maxNestingDepth by decide)
    have hgiven : numbersGiven? registry source = some (1 + b.clusters) := by
      simp only [numbersGiven?, hsource, hroot, hcluster]
      rfl
    rw [hgiven, Statistics.ofQuery, OpenCluster.nodes_extend_nil, Body.clusters_statistics,
      Nat.add_comm]
  · cases h

namespace Report

/-! ## Lines -/

/-- What stands between the ends of the lines of a text; nothing stands behind the last one. -/
def splitLines (s : String) : List String :=
  (s.toList.splitOn '\n').map String.ofList

theorem splitLines_unlines {ls : List String} (h : ∀ l ∈ ls, '\n' ∉ l.toList) :
    splitLines (unlines ls) = ls ++ [""] := by
  rw [splitLines, toList_unlines, List.splitOn_eq_splitOnP]
  induction ls with
  | nil => rfl
  | cons l ls ih =>
    obtain ⟨hl, hls⟩ := List.forall_mem_cons.mp h
    have hbare : ∀ c ∈ l.toList, (c == '\n') = false := by
      intro c hc
      exact beq_false_of_ne (ne_of_mem_of_not_mem hc hl)
    rw [List.flatMap_cons, List.append_assoc, List.singleton_append,
      List.splitOnP_append_cons_of_forall_mem hbare _ (beq_self_eq_true _), List.map_cons,
      ih hls, String.ofList_toList, List.cons_append]

/-- A character of which margins and branches consist. -/
def isFrame (c : Char) : Bool :=
  c = ' ' || c = '│' || c = '├' || c = '└' || c = '─'

/-- This line says of this node what there is to say, behind a margin and a branch. -/
def IsLineOf (n : Node) (line : String) : Prop :=
  ∃ frame, (∀ c ∈ frame, isFrame c) ∧ line.toList = frame ++ label n

theorem isFrame_branch (last : Bool) : ∀ c ∈ (branch last).toList, isFrame c := by
  cases last <;> simp [branch, isFrame]

theorem isFrame_indent (last : Bool) : ∀ c ∈ (indent last).toList, isFrame c := by
  cases last <;> simp [indent, isFrame]

theorem isFrame_append {margin s : String} (hmargin : ∀ c ∈ margin.toList, isFrame c)
    (hs : ∀ c ∈ s.toList, isFrame c) : ∀ c ∈ (margin ++ s).toList, isFrame c := by
  rw [String.toList_append]
  exact List.forall_mem_append.mpr ⟨hmargin, hs⟩

theorem isLineOf_node {margin : String} (hmargin : ∀ c ∈ margin.toList, isFrame c) (last : Bool)
    (n : Node) :
    IsLineOf n (margin ++ branch last ++ describe .plain n ++ connector .plain n.connector) := by
  refine ⟨_, isFrame_append hmargin (isFrame_branch last), ?_⟩
  rw [String.append_assoc, String.toList_append]
  rfl

mutual

theorem forall₂_nodeLines (n : Node) {margin : String} (hmargin : ∀ c ∈ margin.toList, isFrame c)
    (last : Bool) : List.Forall₂ IsLineOf n.walk (nodeLines .plain margin last n) := by
  match n with
  | .filter reference => exact .cons (isLineOf_node hmargin last _) .nil
  | .calculator sum => exact .cons (isLineOf_node hmargin last _) .nil
  | .cluster id parent children k =>
    exact .cons (isLineOf_node hmargin last _)
      (forall₂_lines children (isFrame_append hmargin (isFrame_indent last)))

/-- The lines of a drawing are those of the nodes, in their order. -/
theorem forall₂_lines (ns : List Node) {margin : String}
    (hmargin : ∀ c ∈ margin.toList, isFrame c) :
    List.Forall₂ IsLineOf (walkOf ns) (lines .plain margin ns) := by
  match ns with
  | [] => exact .nil
  | n :: rest =>
    exact List.rel_append (forall₂_nodeLines n hmargin _) (forall₂_lines rest hmargin)

end

mutual

theorem wellFormed_walk {n : Node} (h : n.WellFormed registry) :
    ∀ m ∈ n.walk, m.WellFormed registry := by
  match n, h with
  | .filter _, h => exact List.forall_mem_singleton.mpr h
  | .calculator _, h => exact List.forall_mem_singleton.mpr h
  | .cluster _ _ children _, h =>
    refine List.forall_mem_cons.mpr ⟨h, wellFormed_walkOf ?_⟩
    cases h
    assumption

theorem wellFormed_walkOf {ns : List Node} (h : ∀ n ∈ ns, n.WellFormed registry) :
    ∀ m ∈ walkOf ns, m.WellFormed registry := by
  match ns with
  | [] => exact h
  | n :: rest =>
    obtain ⟨hn, hrest⟩ := List.forall_mem_cons.mp h
    exact List.forall_mem_append.mpr ⟨wellFormed_walk hn, wellFormed_walkOf hrest⟩

end

theorem IsLineOf.not_mem {n : Node} {line : String} (h : IsLineOf n line)
    (hn : n.WellFormed registry) : '\n' ∉ line.toList := by
  obtain ⟨frame, hframe, hline⟩ := h
  have hlabel : '\n' ∉ label n :=
    (printed_append.mpr ⟨printed_describe hn, printed_connector _⟩).not_mem (by decide)
  rw [hline, List.mem_append, not_or]
  exact ⟨fun hmem => absurd (hframe _ hmem) (by decide), hlabel⟩

/-! ## Lines of clusters -/

/-- Behind its frame the line has the word for a cluster, and a number. -/
def isClusterLine (line : String) : Bool :=
  "cluster #".toList.isPrefixOf (line.toList.dropWhile isFrame)

theorem isFrame_false_of_isIdentifierChar {c : Char} (h : isIdentifierChar c) :
    isFrame c = false := by
  by_contra hframe
  simp only [isFrame, Bool.not_eq_false, Bool.or_eq_true, decide_eq_true_eq] at hframe
  rcases hframe with (((rfl | rfl) | rfl) | rfl) | rfl <;> exact absurd h (by decide)

theorem not_isClusterLabel_filter {r : FilterReference}
    (hr : ∀ c ∈ r.identifier.toList, isIdentifierChar c) :
    ¬ "cluster #".toList <+: (label (.filter r)).dropWhile isFrame := by
  rintro ⟨t, ht⟩
  cases hidentifier : r.identifier.toList with
  | nil =>
    rw [label_filter, hidentifier] at ht
    cases hk : r.comparison <;>
      simp [hk, clauseText, Comparison.symbol, isFrame] at ht
  | cons c rest =>
    have hc : isFrame c = false :=
      isFrame_false_of_isIdentifierChar (hr c (by simp [hidentifier]))
    have hbare : (label (.filter r)).dropWhile isFrame = label (.filter r) := by
      rw [label_filter, hidentifier, List.cons_append, List.dropWhile_cons_of_neg (by simp [hc])]
    rw [hbare] at ht
    refine filter_label_ne_cluster (s := []) (t := t) hr ?_
    rw [List.append_nil, ← ht]
    simp

theorem IsLineOf.isClusterLine_eq {n : Node} {line : String} (h : IsLineOf n line)
    (hn : n.WellFormed registry) : isClusterLine line = n.isCluster := by
  obtain ⟨frame, hframe, hline⟩ := h
  rw [isClusterLine, hline, List.dropWhile_append_of_pos hframe, Bool.eq_iff_iff,
    List.isPrefixOf_iff_prefix]
  cases hn with
  | filter r hr _ => exact iff_of_false (not_isClusterLabel_filter hr) Bool.false_ne_true
  | calculator c _ =>
    refine iff_of_false ?_ Bool.false_ne_true
    rw [label_calculator, List.dropWhile_cons_of_neg (by decide)]
    simp
  | cluster id parent children k =>
    refine iff_of_true ?_ rfl
    rw [label_cluster]
    exact ⟨_, rfl⟩

theorem countP_isClusterLine {ns : List Node} {ls : List String}
    (h : List.Forall₂ IsLineOf ns ls) (hns : ∀ n ∈ ns, n.WellFormed registry) :
    ls.countP isClusterLine = ns.countP Node.isCluster := by
  induction h with
  | nil => rfl
  | cons hline _ ih =>
    obtain ⟨hn, hrest⟩ := List.forall_mem_cons.mp hns
    rw [List.countP_cons, List.countP_cons, hline.isClusterLine_eq hn, ih hrest]

/-! ## The drawing of a query -/

theorem splitLines_tree (hq : ∀ n ∈ q.nodes, n.WellFormed registry) :
    ∃ rows, splitLines (tree .plain (some q)) = "query" :: rows ++ [""] ∧
      List.Forall₂ IsLineOf (walkOf q.nodes) rows := by
  have hrows : List.Forall₂ IsLineOf (walkOf q.nodes) (lines .plain "" q.nodes) :=
    forall₂_lines q.nodes (by simp)
  refine ⟨_, splitLines_unlines (List.forall_mem_cons.mpr ⟨by decide, fun line hline => ?_⟩),
    hrows⟩
  obtain ⟨i, hi, rfl⟩ := List.getElem_of_mem hline
  have hi' : i < (walkOf q.nodes).length := hrows.length_eq ▸ hi
  exact (hrows.get hi' hi).not_mem (wellFormed_walkOf hq _ (List.getElem_mem hi'))

/-- A line for the root and a line for each node, in the order of the nodes; as many of them
show clusters as there are; the numbers of the clusters go up to their count, and one more
has been given, to the root; and the longest chain of clusters is as long as the depth. -/
theorem statistics_of_compile (h : compile registry source = ⟨.ok (some q), ds⟩) :
    let s := Statistics.ofQuery q
    (∃ rows, splitLines (tree .plain (some q)) = "query" :: rows ++ [""] ∧
      ("query" :: rows).length = 1 + s.filters + s.calculators + s.clusters ∧
      List.Forall₂ IsLineOf (walkOf q.nodes) rows ∧
      ("query" :: rows).countP isClusterLine = s.clusters) ∧
    s.Counts (walkOf q.nodes) ∧
    IsGreatest (insert 0 {id | id ∈ clusterIdsOf q.nodes}) s.clusters ∧
    numbersGiven? registry source = some (s.clusters + 1) ∧
    IsGreatest {n | ∃ chain, Nests q.nodes chain ∧ chain.length = n} s.depth := by
  intro s
  have hcounts : s.Counts (walkOf q.nodes) := Statistics.counts_ofNodes q.nodes
  obtain ⟨root, ⟨hvalid, -⟩, -, rfl, -⟩ := derives_of_compile h
  have hwell : ∀ n ∈ root.query.nodes, n.WellFormed registry := Body.wellFormed_nodes hvalid
  obtain ⟨rows, hrows, hshow⟩ := splitLines_tree hwell
  have hids : clusterIdsOf root.query.nodes = List.range' 1 s.clusters := by
    rw [← map_fst_clustersOf, Root.query, Body.map_fst_clustersOf_nodes,
      ← Body.clusters_statistics]
    rfl
  refine ⟨⟨rows, hrows, ?_, hshow, ?_⟩, hcounts, ?_, numbersGiven?_of_compile h,
    Statistics.isGreatest_depth _⟩
  · rw [List.length_cons, ← hshow.length_eq, hcounts.length_eq]
    omega
  · rw [List.countP_cons_of_neg (by decide),
      countP_isClusterLine hshow (wellFormed_walkOf hwell), ← hcounts.clusters_eq]
  · rw [hids]
    exact isGreatest_range' _

/-- An argument with the line of a cluster in it, a filter with that name, and a chain of two
clusters of which the inner one is empty. -/
theorem statistics_of_compile_empty_cluster :
    let registry : Registry := ⟨fun name => if name = "cluster" then some .text else none, []⟩
    let source := "\x7bcluster:\"x\\ncluster\\ #7\" & \x7b\x7b\x7d\x7d\x7d"
    let q : Query := ⟨[.filter ⟨"cluster", .text, .includes, "x\ncluster #7", some .and⟩,
      .cluster 1 0 [.cluster 2 1 [] none] none]⟩
    compile registry source = ⟨.ok (some q), []⟩ ∧
      splitLines (tree .plain (some q)) = ["query",
        "├─ cluster : \"x\\ncluster #7\" (text) &", "└─ cluster #1", "   └─ cluster #2", ""] ∧
      (Statistics.ofQuery q).clusters = 2 ∧ numbersGiven? registry source = some 3 ∧
      IsGreatest {n | ∃ chain, Nests q.nodes chain ∧ chain.length = n} 2 := by
  intro registry source q
  have h : compile registry source = ⟨.ok (some q), []⟩ := by cbv
  obtain ⟨-, -, -, hnumbers, hdepth⟩ := statistics_of_compile h
  exact ⟨h, by decide +kernel, rfl, hnumbers, hdepth⟩

end Report

end FilterQuery
