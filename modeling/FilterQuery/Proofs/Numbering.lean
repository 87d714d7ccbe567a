import FilterQuery.Filter.Set
import FilterQuery.Proofs.Language
import FilterQuery.Proofs.Tree

/-!
# How clusters are numbered

A cluster takes its number when its bracket opens, and is put into the tree only
when it closes, behind everything inside it. Over the tree of the text the two
meet: a cluster in a body is counted before the clusters inside it, and those
before the ones that follow. So the numbers of a query are 1, 2, and so on in
the order of the text, and each node names the cluster around it.

Which bracket belongs to which cluster is said without the tree of the text
(`OpensAt`): from that bracket on the text is a query of its own, and its nodes
are those of the cluster, but for the numbers, which count from another place.
-/

namespace FilterQuery

open Grammar

/-- The cluster begins behind `before`: there is an opening bracket, and the text from
it on compiles to the nodes of the cluster, numbered as if it were the root. -/
def OpensAt (registry : Registry) (source : List Char) (cluster : Nat × List Node)
    (before : List Char) : Prop :=
  ∃ (opening : Opening) (after : List Char) (nodes : List Node) (ds : List Diagnostic),
    source = before ++ opening.val :: after ∧
    compile registry (String.ofList (opening.val :: after)) = ⟨.ok (some ⟨nodes⟩), ds⟩ ∧
    cluster.2 = raiseAll cluster.1 nodes

namespace Grammar.Body

variable {registry : Registry} {b : Body} {id next : Nat} {before : List Char}

/-- What stands before each bracket that opens a cluster of a body that follows
`before`. -/
def openings (before : List Char) : Body → List (List Char)
  | done => []
  | blank c rest => rest.openings (before ++ [c.val])
  | pair c rest => rest.openings (before ++ ['#', c.val])
  | connector k rest => rest.openings (before ++ [k.symbol])
  | filter name _ clause rest => rest.openings (before ++ (name.val.toList ++ clause.text))
  | calculator opening sum clause rest =>
    rest.openings (before ++ ('#' :: opening.val :: sum.text ++ clause.text))
  | cluster opening inner closing rest =>
    before :: (inner.openings (before ++ [opening.val]) ++
      rest.openings (before ++ opening.val :: (inner.text ++ [closing.val])))

/-- Counting from another number on changes the numbers only. -/
theorem raiseAll_nodes (n : Nat) :
    raiseAll n (b.nodes id next) = b.nodes (id + n) (next + n) := by
  induction b generalizing id next with
  | done => rfl
  | blank c rest ih => exact ih
  | pair c rest ih => exact ih
  | connector k rest ih => exact ih
  | filter name kind clause rest ih => rw [nodes, raiseAll, ih, Node.raise, nodes]
  | calculator opening sum clause rest ih => rw [nodes, raiseAll, ih, Node.raise, nodes]
  | cluster opening inner closing rest ih_inner ih =>
    have hinner : next + 1 + n = next + n + 1 := by omega
    have hrest : next + 1 + inner.clusters + n = next + n + 1 + inner.clusters := by omega
    rw [nodes, raiseAll, ih, Node.raise, ih_inner, nodes, hinner, hrest]

theorem map_fst_clustersOf_nodes :
    (clustersOf (b.nodes id next)).map Prod.fst = List.range' next b.clusters := by
  induction b generalizing id next with
  | done => rfl
  | blank c rest ih => exact ih
  | pair c rest ih => exact ih
  | connector k rest ih => exact ih
  | filter name kind clause rest ih => exact ih
  | calculator opening sum clause rest ih => exact ih
  | cluster opening inner closing rest ih_inner ih =>
    calc (clustersOf ((cluster opening inner closing rest).nodes id next)).map Prod.fst
        = next :: (List.range' (next + 1) inner.clusters ++
            List.range' (next + 1 + inner.clusters) rest.clusters) := by
          rw [nodes, clustersOf, Node.clusters, List.map_append, List.map_cons, ih_inner, ih,
            List.cons_append]
      _ = List.range' next (inner.clusters + rest.clusters + 1) := by
          rw [List.range'_append_1, ← List.range'_succ]
      _ = List.range' next (cluster opening inner closing rest).clusters := by
          rw [clusters, Nat.add_right_comm]

theorem allPlaced_nodes : AllPlaced id (b.nodes id next) := by
  induction b generalizing id next with
  | done => exact trivial
  | blank c rest ih => exact ih
  | pair c rest ih => exact ih
  | connector k rest ih => exact ih
  | filter name kind clause rest ih => exact ⟨trivial, ih⟩
  | calculator opening sum clause rest ih => exact ⟨rfl, ih⟩
  | cluster opening inner closing rest ih_inner ih => exact ⟨⟨rfl, ih_inner⟩, ih⟩

/-! ## Where clusters open -/

theorem length_of_mem_openings {place : List Char} (h : place ∈ b.openings before) :
    before.length ≤ place.length ∧ place.length < before.length + b.text.length := by
  induction b generalizing before with
  | done => cases h
  | blank c rest ih =>
    have := ih h
    simp only [text, List.length_append, List.length_cons, List.length_nil] at this ⊢
    omega
  | pair c rest ih =>
    have := ih h
    simp only [text, List.length_append, List.length_cons, List.length_nil] at this ⊢
    omega
  | connector k rest ih =>
    have := ih h
    simp only [text, List.length_append, List.length_cons, List.length_nil] at this ⊢
    omega
  | filter name kind clause rest ih =>
    have := ih h
    simp only [text, List.length_append] at this ⊢
    omega
  | calculator opening sum clause rest ih =>
    have := ih h
    simp only [text, List.length_append, List.length_cons] at this ⊢
    omega
  | cluster opening inner closing rest ih_inner ih =>
    simp only [text, List.length_append, List.length_cons]
    rcases List.mem_cons.mp h with rfl | h
    · omega
    rcases List.mem_append.mp h with h | h
    · have := ih_inner h
      simp only [List.length_append, List.length_cons, List.length_nil] at this
      omega
    · have := ih h
      simp only [List.length_append, List.length_cons, List.length_nil] at this
      omega

theorem pairwise_openings : (b.openings before).Pairwise (·.length < ·.length) := by
  induction b generalizing before with
  | done => exact .nil
  | blank c rest ih => exact ih
  | pair c rest ih => exact ih
  | connector k rest ih => exact ih
  | filter name kind clause rest ih => exact ih
  | calculator opening sum clause rest ih => exact ih
  | cluster opening inner closing rest ih_inner ih =>
    refine List.pairwise_cons.mpr ⟨fun place hplace => ?_, List.pairwise_append.mpr
      ⟨ih_inner, ih, fun place hplace place' hplace' => ?_⟩⟩
    · rcases List.mem_append.mp hplace with hplace | hplace
      · have := length_of_mem_openings hplace
        simp only [List.length_append, List.length_cons] at this
        omega
      · have := length_of_mem_openings hplace
        simp only [List.length_append, List.length_cons] at this
        omega
    · have hinner := length_of_mem_openings hplace
      have hrest := length_of_mem_openings hplace'
      simp only [List.length_append, List.length_cons, List.length_nil] at hinner hrest
      omega

/-- A cluster that is not nested too deep is a query of its own. -/
theorem opensAt_cluster {opening : Opening} {inner : Body} {closing : Closing}
    {behind : List Char} (hvalid : inner.Valid registry .first) (hdepth : inner.depth + 1 ≤ 128) :
    OpensAt registry (before ++ opening.val :: (inner.text ++ closing.val :: behind))
      (next, inner.nodes next (next + 1)) before := by
  refine ⟨opening, _, inner.nodes 0 1, _, rfl, compile_of_derives
    ⟨⟨[], opening, inner, closing, behind, blanks_nil⟩, ⟨hvalid, hdepth⟩, ?_, rfl, rfl⟩, ?_⟩
  · simp [Root.text]
  · rw [raiseAll_nodes, Nat.zero_add, Nat.add_comm 1]

theorem forall₂_openings {joint : Joint} {source behind : List Char}
    (hvalid : b.Valid registry joint) (hdepth : b.depth ≤ 128)
    (hsource : source = before ++ b.text ++ behind) :
    List.Forall₂ (OpensAt registry source) (clustersOf (b.nodes id next))
      (b.openings before) := by
  induction b generalizing id next before behind joint with
  | done => exact .nil
  | blank c rest ih => exact ih hvalid hdepth (by simpa [text] using hsource)
  | pair c rest ih => exact ih hvalid hdepth (by simpa [text] using hsource)
  | connector k rest ih => exact ih hvalid.2 hdepth (by simpa [text] using hsource)
  | filter name kind clause rest ih =>
    obtain ⟨-, -, -, -, hrest⟩ := hvalid
    exact ih hrest hdepth (by simpa [text] using hsource)
  | calculator opening sum clause rest ih =>
    obtain ⟨-, -, -, hrest⟩ := hvalid
    exact ih hrest hdepth (by simpa [text] using hsource)
  | cluster opening inner closing rest ih_inner ih =>
    obtain ⟨-, hinner, hrest⟩ := hvalid
    rw [depth] at hdepth
    have hself : source =
        before ++ opening.val :: (inner.text ++ closing.val :: (rest.text ++ behind)) := by
      simpa [text] using hsource
    refine .cons ?_ (List.rel_append ?_ ?_)
    · exact hself ▸ opensAt_cluster hinner (by omega)
    · exact ih_inner hinner (by omega) (by simpa [text] using hsource)
    · exact ih hrest (by omega) (by simpa [text] using hsource)

end Grammar.Body

/-- The clusters of a query are numbered from 1 on in the order in which their
brackets open, and every calculator and cluster names the cluster around it. -/
theorem numbering_of_compile {registry : Registry} {source : String} {q : Query}
    {ds : List Diagnostic} (h : compile registry source = ⟨.ok (some q), ds⟩) :
    (clustersOf q.nodes).map Prod.fst = List.range' 1 (clustersOf q.nodes).length ∧
      AllPlaced 0 q.nodes ∧
      ∃ places : List (List Char), places.Pairwise (·.length < ·.length) ∧
        List.Forall₂ (OpensAt registry source.toList) (clustersOf q.nodes) places := by
  obtain ⟨root, ⟨hvalid, hdepth⟩, htext, rfl, -⟩ := derives_of_compile h
  have hids : (clustersOf (root.body.nodes 0 1)).map Prod.fst =
      List.range' 1 root.body.clusters := Body.map_fst_clustersOf_nodes
  have hcount : (clustersOf (root.body.nodes 0 1)).length = root.body.clusters := by
    have := congrArg List.length hids
    simpa using this
  have hsource : source.toList = root.lead ++ [root.opening.val] ++ root.body.text ++
      root.closing.val :: root.ignored := by
    rw [← htext, Root.text]
    simp
  refine ⟨?_, Body.allPlaced_nodes, root.body.openings (root.lead ++ [root.opening.val]),
    Body.pairwise_openings, Body.forall₂_openings hvalid (by omega) hsource⟩
  rw [Root.query, hcount, hids]

/-- Two clusters side by side, and a calculator in one inside the first. -/
theorem numbering_of_compile_nested :
    let source := "\x7b([#(1)>\"2\"])|\x7b\x7d\x7d"
    let sum : Calculator := ⟨2, [⟨.literal "1", none⟩], .greaterThan, "2", none⟩
    let q : Query := ⟨[.cluster 1 0 [.cluster 2 1 [.calculator sum] none] (some .or),
      .cluster 3 0 [] none]⟩
    compile FilterSet.builtin.registry source = ⟨.ok (some q), []⟩ ∧
      (clustersOf q.nodes).map Prod.fst = [1, 2, 3] ∧ AllPlaced 0 q.nodes ∧
      ∃ places : List (List Char), places.Pairwise (·.length < ·.length) ∧
        List.Forall₂ (OpensAt FilterSet.builtin.registry source.toList)
          (clustersOf q.nodes) places := by
  intro source sum q
  let one : Term := ⟨'1', [], .literal "1", by decide, by decide, by simp [Uniform, Char.isDigit]⟩
  let clause : Clause := ⟨[], .greaterThan, [], ['2'], [], blanks_nil, by simp, by decide,
    by decide, by simp⟩
  let inner : Body := .calculator ⟨'(', rfl⟩ (.last one ⟨')', rfl⟩) clause .done
  let first : Body := .cluster ⟨'[', rfl⟩ inner ⟨']', rfl⟩ .done
  let second : Body := .cluster ⟨'\x7b', rfl⟩ .done ⟨'\x7d', rfl⟩ .done
  let body : Body := .cluster ⟨'(', rfl⟩ first ⟨')', rfl⟩ (.connector .or second)
  have hvalid : body.Valid FilterSet.builtin.registry .first := by
    simp [body, first, second, inner, one, Body.Valid, Sum.Valid, Term.Valid, Body.endsClause]
  have h : compile FilterSet.builtin.registry source = ⟨.ok (some q), []⟩ :=
    compile_of_derives ⟨⟨[], ⟨'\x7b', rfl⟩, body, ⟨'\x7d', rfl⟩, [], blanks_nil⟩,
      ⟨hvalid, by decide⟩, by decide, by rfl, by rfl⟩
  obtain ⟨hids, hplaced, hplaces⟩ := numbering_of_compile h
  exact ⟨h, hids, hplaced, hplaces⟩

end FilterQuery
