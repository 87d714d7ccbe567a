import FilterQuery.Proofs.Chain
import FilterQuery.Proofs.Raised
import FilterQuery.Proofs.Spelling

/-!
# The limit of nesting

A query has at most 128 clusters open at once, its root among them. The limit is exact
(`nesting_limit_exact`): whatever is nested deeper, and well formed otherwise, is refused
where it is written, and at the first bracket that opens a cluster too many. Clusters that
have been closed before that bracket do not count.

The first such bracket is found along the text. What stands before it is read as ever, part
by part (`Passes`), since a part with no bracket that is too deep has room enough. A cluster
with such a bracket in it is entered, and then the bracket is inside it. A bracket that is
too deep may stand behind another one in an earlier cluster, so the induction is on the
length of the text and not on the way to the bracket (`exists_first`).
-/

namespace FilterQuery

open Grammar

/-! ## Brackets and the clusters around them -/

/-- In the spelling `t` of some nodes, a bracket behind `before` opens a cluster; `n` of the
clusters among the nodes are around it. -/
inductive Opens : Nat → List Node → List Char → List Char → Prop where
  | blank {n : Nat} {nodes : List Node} {before t : List Char} (c : Blank)
      (rest : Opens n nodes before t) : Opens n nodes (c.val :: before) (c.val :: t)
  | filter {n : Nat} {nodes : List Node} {clause before t : List Char}
      (reference : FilterReference)
      (spells : SpellsClause reference.comparison reference.argument clause)
      (rest : Opens n nodes before t) :
      Opens n (.filter reference :: nodes)
        (reference.identifier.toList ++ clause ++ connectorText reference.connector ++ before)
        (reference.identifier.toList ++ clause ++ connectorText reference.connector ++ t)
  | calculator {n : Nat} {nodes : List Node} {operands clause before t : List Char}
      (sum : Calculator) (opening : Opening)
      (spells_operands : SpellsOperands sum.operands operands)
      (spells : SpellsClause sum.comparison sum.argument clause)
      (rest : Opens n nodes before t) :
      Opens n (.calculator sum :: nodes)
        ('#' :: opening.val :: operands ++ clause ++ connectorText sum.connector ++ before)
        ('#' :: opening.val :: operands ++ clause ++ connectorText sum.connector ++ t)
  | here {children nodes : List Node} {inner behind t : List Char} (id parent : Nat)
      (connector : Option Connector) (opening : Opening) (spells : Spells children inner)
      (closing : Closing) (behind_blank : Blanks behind) (rest : Spells nodes t) :
      Opens 0 (.cluster id parent children connector :: nodes) []
        (opening.val :: inner ++ closing.val :: behind ++ connectorText connector ++ t)
  | inside {n : Nat} {children nodes : List Node} {before inner behind t : List Char}
      (id parent : Nat) (connector : Option Connector) (opening : Opening)
      (within : Opens n children before inner) (closing : Closing)
      (behind_blank : Blanks behind) (rest : Spells nodes t) :
      Opens (n + 1) (.cluster id parent children connector :: nodes) (opening.val :: before)
        (opening.val :: inner ++ closing.val :: behind ++ connectorText connector ++ t)
  | behind {n : Nat} {children nodes : List Node} {inner behind before t : List Char}
      (id parent : Nat) (connector : Option Connector) (opening : Opening)
      (spells : Spells children inner) (closing : Closing) (behind_blank : Blanks behind)
      (rest : Opens n nodes before t) :
      Opens n (.cluster id parent children connector :: nodes)
        (opening.val :: inner ++ closing.val :: behind ++ connectorText connector ++ before)
        (opening.val :: inner ++ closing.val :: behind ++ connectorText connector ++ t)

/-- In a spelling of the query, a bracket behind `before` opens a cluster with `n` clusters
open around it, the root among them. -/
def Query.Opens (q : Query) (n : Nat) (before source : List Char) : Prop :=
  ∃ (lead : List Char) (opening : Opening) (m : Nat) (inner t : List Char) (closing : Closing)
    (ignored : List Char), Blanks lead ∧ n = m + 1 ∧ FilterQuery.Opens m q.nodes inner t ∧
      before = lead ++ opening.val :: inner ∧
      source = lead ++ opening.val :: t ++ closing.val :: ignored

theorem Opens.exists_text_eq {n : Nat} {nodes : List Node} {before t : List Char}
    (h : Opens n nodes before t) : ∃ (opening : Opening) (u : List Char),
      t = before ++ opening.val :: u := by
  induction h with
  | blank c rest ih =>
    obtain ⟨opening, u, rfl⟩ := ih
    exact ⟨opening, u, rfl⟩
  | filter reference spells rest ih =>
    obtain ⟨opening, u, rfl⟩ := ih
    exact ⟨opening, u, by simp⟩
  | calculator sum opening' spells_operands spells rest ih =>
    obtain ⟨opening, u, rfl⟩ := ih
    exact ⟨opening, u, by simp⟩
  | here id parent connector opening spells closing behind_blank rest =>
    exact ⟨opening, _, by simp; rfl⟩
  | inside id parent connector opening' within closing behind_blank rest ih =>
    obtain ⟨opening, u, rfl⟩ := ih
    exact ⟨opening, _, by simp; rfl⟩
  | behind id parent connector opening' spells closing behind_blank rest ih =>
    obtain ⟨opening, u, rfl⟩ := ih
    exact ⟨opening, u, by simp⟩

theorem Opens.length_lt {n : Nat} {nodes : List Node} {before t : List Char}
    (h : Opens n nodes before t) : before.length < t.length := by
  obtain ⟨opening, u, rfl⟩ := h.exists_text_eq
  simp

theorem Opens.spells {n : Nat} {nodes : List Node} {before t : List Char}
    (h : Opens n nodes before t) : Spells nodes t := by
  induction h with
  | blank c rest ih => exact .blank c ih
  | filter reference spells rest ih => exact .filter reference spells ih
  | calculator sum opening spells_operands spells rest ih =>
    exact .calculator sum opening spells_operands spells ih
  | here id parent connector opening spells closing behind_blank rest =>
    exact .cluster id parent connector opening spells closing behind_blank rest
  | inside id parent connector opening within closing behind_blank rest ih =>
    exact .cluster id parent connector opening ih closing behind_blank rest
  | behind id parent connector opening spells closing behind_blank rest ih =>
    exact .cluster id parent connector opening spells closing behind_blank ih

theorem Opens.nodes_ne_nil {n : Nat} {nodes : List Node} {before t : List Char}
    (h : Opens n nodes before t) : nodes ≠ [] := by
  induction h with
  | blank c rest ih => exact ih
  | _ => exact List.cons_ne_nil _ _

theorem depth_cons_filter (reference : FilterReference) (nodes : List Node) :
    (Statistics.ofNodes (.filter reference :: nodes)).depth =
      (Statistics.ofNodes nodes).depth :=
  Nat.zero_max _

theorem depth_cons_calculator (sum : Calculator) (nodes : List Node) :
    (Statistics.ofNodes (.calculator sum :: nodes)).depth = (Statistics.ofNodes nodes).depth :=
  Nat.zero_max _

theorem depth_cons_cluster (id parent : Nat) (children nodes : List Node)
    (k : Option Connector) :
    (Statistics.ofNodes (.cluster id parent children k :: nodes)).depth =
      max ((Statistics.ofNodes children).depth + 1) (Statistics.ofNodes nodes).depth :=
  rfl

/-- Where clusters are nested deep enough, a spelling has a bracket with `n` of them around
it. -/
theorem Spells.exists_opens {nodes : List Node} {t : List Char} (h : Spells nodes t) :
    ∀ {n : Nat}, n < (Statistics.ofNodes nodes).depth → ∃ before, Opens n nodes before t := by
  induction h with
  | done => exact fun hn => absurd hn (Nat.not_lt_zero _)
  | blank c rest ih =>
    intro n hn
    obtain ⟨before, hbefore⟩ := ih hn
    exact ⟨_, hbefore.blank c⟩
  | filter reference spells rest ih =>
    intro n hn
    rw [depth_cons_filter] at hn
    obtain ⟨before, hbefore⟩ := ih hn
    exact ⟨_, hbefore.filter reference spells⟩
  | calculator sum opening spells_operands spells rest ih =>
    intro n hn
    rw [depth_cons_calculator] at hn
    obtain ⟨before, hbefore⟩ := ih hn
    exact ⟨_, hbefore.calculator sum opening spells_operands spells⟩
  | @cluster children nodes _ _ _ id parent connector opening spells closing behind_blank rest
      ih_inner ih =>
    intro n hn
    cases n with
    | zero => exact ⟨[], .here id parent connector opening spells closing behind_blank rest⟩
    | succ n =>
      rw [depth_cons_cluster] at hn
      by_cases hinner : n < (Statistics.ofNodes children).depth
      · obtain ⟨before, hbefore⟩ := ih_inner hinner
        exact ⟨_, hbefore.inside id parent connector opening closing behind_blank rest⟩
      · have hrest : n + 1 < (Statistics.ofNodes nodes).depth := by omega
        obtain ⟨before, hbefore⟩ := ih hrest
        exact ⟨_, hbefore.behind id parent connector opening spells closing behind_blank⟩

/-! ## Parts that are passed over -/

namespace Reading

variable {registry : Registry} {n : Nat} {P Q R : Joint → Prop} {s t first : List Char}

/-- With room for `n` more clusters, the loop gets over the text `s`: from a place with `P`
it comes to one with `Q`. -/
def Passes (registry : Registry) (n : Nat) (P : Joint → Prop) (s : List Char)
    (Q : Joint → Prop) : Prop :=
  ∀ ⦃bound : Nat⦄ ⦃cluster : OpenCluster⦄ ⦃r : Reader⦄ ⦃t : List Char⦄,
    r.cursor.after = s ++ t → r.cursor.remaining ≤ bound → P cluster.joint →
    r.depth + n = maxNestingDepth →
    ∃ bound' cluster' r', body registry bound cluster r = body registry bound' cluster' r' ∧
      r.cursor.Reads s r'.cursor ∧ r'.cursor.remaining ≤ bound' ∧ Q cluster'.joint ∧
      r'.depth = r.depth

theorem passes_nil : Passes registry n P [] P := by
  intro bound cluster r t _ hbound hP _
  exact ⟨bound, cluster, r, rfl, .refl _, hbound, hP, rfl⟩

theorem Passes.trans (h : Passes registry n P s Q) (h' : Passes registry n Q t R) :
    Passes registry n P (s ++ t) R := by
  intro bound cluster r u hafter hbound hP hdepth
  rw [List.append_assoc] at hafter
  obtain ⟨bound', cluster', r', hbody, hread, hbound', hQ, hdepth'⟩ := h hafter hbound hP hdepth
  have hafter' : r'.cursor.after = t ++ u :=
    List.append_cancel_left (hread.after.symm.trans hafter)
  obtain ⟨bound'', cluster'', r'', hbody', hread', hbound'', hR, hdepth''⟩ :=
    h' hafter' hbound' hQ (hdepth' ▸ hdepth)
  exact ⟨bound'', cluster'', r'', hbody.trans hbody', hread.trans hread', hbound'', hR,
    hdepth''.trans hdepth'⟩

theorem passes_blanks (hs : Blanks s) : Passes registry n P s P := by
  induction s with
  | nil => exact passes_nil
  | cons c s ih =>
    obtain ⟨hc, hs⟩ := blanks_cons.mp hs
    refine Passes.trans (s := [c]) ?_ (ih hs)
    intro bound cluster r t hafter hbound hP hdepth
    obtain ⟨m, hm, -⟩ := Cursor.exists_step hafter
    obtain ⟨bound, rfl, hbound'⟩ := exists_bound_succ hm (by simp) hbound
    exact ⟨bound, cluster, r.goto m, body_blank hm hc, hm, hbound', hP, rfl⟩

theorem passes_connector (k : Connector) :
    Passes registry n (· ≠ .first) [k.symbol] (· = .joined) := by
  intro bound cluster r t hafter hbound hjoint hdepth
  obtain ⟨m, hm, -⟩ := Cursor.exists_step hafter
  obtain ⟨bound, rfl, hbound'⟩ := exists_bound_succ hm (by simp) hbound
  have hattach : cluster.attach k m = .ok ⟨cluster.id, OpenCluster.join (some k) cluster.newest⟩ :=
    OpenCluster.attach_eq_ok_iff.mpr ⟨hjoint, rfl⟩
  refine ⟨bound, _, r.goto m, ?_, hm, hbound', OpenCluster.joint_join (k := k) hjoint, rfl⟩
  rw [body_connector hm, hattach]
  rfl

theorem endsSearch_symbol (k : Connector) : endsSearch k.symbol := by
  rw [endsSearch, connector?_eq_some_iff.mpr rfl]
  simp

theorem passes_filter {name : Name} {kind : Kind} (clause : Clause) (k : Connector)
    (hlookup : registry.lookup name.val = some kind) (hne : name.val ≠ "") :
    Passes registry n (· ≠ .loose) (name.val.toList ++ clause.text ++ [k.symbol])
      (· = .joined) := by
  intro bound cluster r t hafter hbound hjoint hdepth
  rw [List.append_assoc] at hafter
  obtain ⟨e, he, hnext⟩ := Cursor.exists_reads hafter
  obtain ⟨x, u, hname⟩ := List.exists_cons_of_ne_nil (mt String.toList_eq_nil_iff.mp hne)
  obtain ⟨bound, rfl, hbound'⟩ := exists_bound_succ he (by simp [hname]) hbound
  have hcell : body registry (bound + 1) cluster r = _ :=
    body_filter_of_reads he hnext (endsSearch_symbol k) hlookup (fun h => absurd h hne) hjoint
  have hnode := OpenCluster.joint_cons_ne_first cluster.id (.filter ⟨name.val, kind,
    clause.comparison, clause.argument, connector? k.symbol⟩) cluster.newest
  obtain ⟨bound', cluster', r', hbody, hread, hrest⟩ :=
    passes_connector k (r := r.moved e _) hnext hbound' hnode hdepth
  exact ⟨bound', cluster', r', hcell.trans hbody, he.trans hread, hrest⟩

theorem passes_calculator {sum : Sum} (opening : Opening) (clause : Clause) (k : Connector)
    (hsum : sum.Valid registry) :
    Passes registry n (· ≠ .loose)
      ('#' :: opening.val :: sum.text ++ clause.text ++ [k.symbol]) (· = .joined) := by
  intro bound cluster r t hafter hbound hjoint hdepth
  rw [List.append_assoc] at hafter
  obtain ⟨e, he, hnext⟩ := Cursor.exists_reads hafter
  obtain ⟨c, hc, hclause⟩ := Cursor.reads_append.mp
    (show r.cursor.Reads (['#', opening.val] ++ (sum.text ++ clause.text)) e from he)
  obtain ⟨bound, rfl, hbound'⟩ := exists_bound_succ he (by simp) hbound
  have hcell : body registry (bound + 1) cluster r = _ :=
    body_calculator_of_reads hc hclause hnext (endsSearch_symbol k) hsum hjoint
  have hnode := OpenCluster.joint_cons_ne_first cluster.id (.calculator ⟨cluster.id,
    sum.operands, clause.comparison, clause.argument, connector? k.symbol⟩) cluster.newest
  obtain ⟨bound', cluster', r', hbody, hread, hrest⟩ :=
    passes_connector k (r := r.moved e _) hnext hbound' hnode hdepth
  exact ⟨bound', cluster', r', hcell.trans hbody, he.trans hread, hrest⟩

/-- A cluster is passed over if there is room for what is nested in it. -/
theorem passes_cluster (opening : Opening) {b : Body} (closing : Closing)
    (hvalid : b.Valid registry .first) (hroom : b.depth + 1 ≤ n) :
    Passes registry n (· ≠ .loose) (opening.val :: b.text ++ [closing.val]) (· ≠ .first) := by
  intro bound cluster r t hafter hbound hjoint hdepth
  obtain ⟨e, he, -⟩ := Cursor.exists_reads hafter
  obtain ⟨m, hm, hinner⟩ := Cursor.reads_cons.mp he
  obtain ⟨bound, rfl, hbound'⟩ := exists_bound_succ hm (by simp) hbound
  have hcovers : Covers registry ⟨r.nextId, []⟩ (r.goto m).enter b closing e := by
    refine ⟨hinner, hvalid, ?_⟩
    show r.depth + 1 + b.depth ≤ maxNestingDepth
    omega
  have hcell := body_cluster_of_eq_ok hm (by omega) (readsBody b hcovers hbound') hjoint
  have hremaining := hinner.remaining_eq
  refine ⟨bound, _, _, hcell, he, ?_, OpenCluster.joint_cons_ne_first _ _ _, rfl⟩
  show e.remaining ≤ bound
  omega

/-! ## The bracket that is refused -/

/-- With room for `n` more clusters, the loop over the text `t` ends behind `first`, at a
bracket for which there is no room. -/
def Fails (registry : Registry) (n : Nat) (t first : List Char) : Prop :=
  ∀ ⦃bound : Nat⦄ ⦃cluster : OpenCluster⦄ ⦃r : Reader⦄ ⦃rest : List Char⦄,
    r.cursor.after = t ++ rest → r.cursor.remaining ≤ bound → cluster.joint ≠ .loose →
    r.depth + n = maxNestingDepth →
    ∃ r', body registry bound cluster r =
      .error (.query ⟨.nestingTooDeep maxNestingDepth, r.cursor.reach + utf8Length first⟩) r'

theorem Passes.fails (h : Passes registry n (· ≠ .loose) s Q)
    (hQ : ∀ joint, Q joint → joint ≠ .loose) (h' : Fails registry n t first) :
    Fails registry n (s ++ t) (s ++ first) := by
  intro bound cluster r rest hafter hbound hjoint hdepth
  rw [List.append_assoc] at hafter
  obtain ⟨bound', cluster', r', hbody, hread, hbound', hjoined, hdepth'⟩ :=
    h hafter hbound hjoint hdepth
  have hafter' : r'.cursor.after = t ++ rest :=
    List.append_cancel_left (hread.after.symm.trans hafter)
  obtain ⟨r'', hfails⟩ := h' hafter' hbound' (hQ _ hjoined) (hdepth' ▸ hdepth)
  refine ⟨r'', ?_⟩
  rw [hbody, hfails, hread.reach_eq, utf8Length_append, Nat.add_assoc]

theorem fails_here (opening : Opening) (t : List Char) :
    Fails registry 0 (opening.val :: t) [] := by
  intro bound cluster r rest hafter hbound hjoint hdepth
  obtain ⟨m, hm, -⟩ := Cursor.exists_step hafter
  obtain ⟨bound, rfl, -⟩ := exists_bound_succ hm (by simp) hbound
  have hoffset : m.offset = r.cursor.reach + utf8Length [] := hm.offset_eq (t := [])
  have hnested : nested (body registry bound) (r.goto m) =
      .error (.query ⟨.nestingTooDeep maxNestingDepth, r.cursor.reach + utf8Length []⟩)
        (r.goto m) := by
    rw [nested_eq_error_iff, ← hoffset]
    exact .inl ⟨hdepth, rfl, rfl⟩
  refine ⟨r.goto m, ?_⟩
  rw [body_open hm opening.property]
  simp only [bind, EStateM.bind, hnested]

theorem fails_inside (opening : Opening) (h : Fails registry n s first) (t : List Char) :
    Fails registry (n + 1) (opening.val :: s ++ t) (opening.val :: first) := by
  intro bound cluster r rest hafter hbound hjoint hdepth
  obtain ⟨m, hm, hnext⟩ := Cursor.exists_step hafter
  obtain ⟨bound, rfl, hbound'⟩ := exists_bound_succ hm (by simp) hbound
  have hinner : m.after = s ++ (t ++ rest) := hnext.trans (List.append_assoc s t rest)
  have hfirst : OpenCluster.joint ⟨r.nextId, []⟩ ≠ .loose := by simp [OpenCluster.joint]
  have hroom : (r.goto m).enter.depth + n = maxNestingDepth := by
    show r.depth + 1 + n = maxNestingDepth
    omega
  obtain ⟨r', hfails⟩ := h (r := (r.goto m).enter) hinner hbound' hfirst hroom
  have hoffset : r.cursor.reach + utf8Length (opening.val :: first) =
      (r.goto m).enter.cursor.reach + utf8Length first := by
    show _ = m.reach + utf8Length first
    rw [hm.reach_eq, utf8Length_cons]
    simp [Nat.add_assoc]
  have hnested : nested (body registry bound) (r.goto m) =
      .error (.query ⟨.nestingTooDeep maxNestingDepth,
        r.cursor.reach + utf8Length (opening.val :: first)⟩) r'.leave := by
    rw [nested_eq_error_iff, hoffset]
    refine .inr ⟨?_, r', hfails, rfl⟩
    show r.depth ≠ maxNestingDepth
    omega
  refine ⟨r'.leave, ?_⟩
  rw [body_open hm opening.property]
  simp only [bind, EStateM.bind, hnested]

theorem joined_ne_loose : ∀ joint, joint = Joint.joined → joint ≠ .loose := by
  rintro joint rfl
  exact Joint.noConfusion

/-! ## Spellings -/

section Spelled

variable {id next : Nat} {nodes : List Node} {k : Connector}

theorem passes_of_filter {reference : FilterReference} {clause : List Char}
    (hdocumented : Documented registry id next (.filter reference :: nodes))
    (hspells : SpellsClause reference.comparison reference.argument clause)
    (hk : reference.connector = some k) :
    Passes registry n (· ≠ .loose)
      (reference.identifier.toList ++ clause ++ connectorText reference.connector)
      (· = .joined) := by
  obtain ⟨hne, hletters, hlookup⟩ := hdocumented.of_filter
  obtain ⟨clause, rfl, -⟩ := exists_clause_of_spells hspells
  rw [hk]
  exact @passes_filter registry n ⟨reference.identifier, hletters⟩ _ clause k hlookup hne

theorem passes_of_calculator {sum : Calculator} {operands clause : List Char}
    (hdocumented : Documented registry id next (.calculator sum :: nodes)) (opening : Opening)
    (hoperands : SpellsOperands sum.operands operands)
    (hspells : SpellsClause sum.comparison sum.argument clause)
    (hk : sum.connector = some k) :
    Passes registry n (· ≠ .loose)
      ('#' :: opening.val :: operands ++ clause ++ connectorText sum.connector)
      (· = .joined) := by
  obtain ⟨-, hsum⟩ := hdocumented.of_calculator
  obtain ⟨operands, rfl, -, hvalid⟩ := exists_sum hoperands hsum.values
  obtain ⟨clause, rfl, -⟩ := exists_clause_of_spells hspells
  rw [hk]
  exact passes_calculator opening clause k hvalid

theorem passes_of_cluster {i parent : Nat} {children : List Node} {inner behind : List Char}
    (hdocumented : Documented registry id next (.cluster i parent children (some k) :: nodes))
    (opening : Opening) (hspells : Spells children inner) (closing : Closing)
    (hbehind : Blanks behind) (hroom : (Statistics.ofNodes children).depth + 1 ≤ n) :
    Passes registry n (· ≠ .loose)
      (opening.val :: inner ++ closing.val :: behind ++ connectorText (some k))
      (· = .joined) := by
  obtain ⟨-, -, hchildren⟩ := hdocumented.of_cluster
  obtain ⟨b, hb, hvalid⟩ := exists_body_of_spells hspells hchildren
  have hdepth : b.depth + 1 ≤ n := by
    rw [hb.depth_eq]
    exact hroom
  have hcluster := passes_cluster opening closing (hvalid .first (by simp)) hdepth
  have hall := (hcluster.trans (passes_blanks hbehind)).trans (passes_connector k)
  rw [hb.text_eq] at hall
  simpa [connectorText] using hall

theorem fails_of_inside (opening : Opening) {inner behind : List Char} (closing : Closing)
    (k : Option Connector) (h : Fails registry n inner first) :
    Fails registry (n + 1)
      (opening.val :: inner ++ closing.val :: behind ++ connectorText k ++ t)
      (opening.val :: first) := by
  rw [List.append_assoc, List.append_assoc]
  exact fails_inside opening h _

/-- A node that another one follows is joined with it. -/
theorem exists_connector {node : Node} {before : List Char}
    (hdocumented : Documented registry id next (node :: nodes))
    (h : Opens n nodes before t) : ∃ k, node.connector = some k :=
  Option.ne_none_iff_exists'.mp (hdocumented.connector_ne_none h.nodes_ne_nil)

end Spelled

/-- Of the brackets with `n` clusters around them there is one, not behind a given one, where
the loop ends. -/
theorem exists_first (size : Nat) : ∀ {n : Nat} {nodes : List Node} {other t : List Char}
    {id next : Nat}, t.length < size → Opens n nodes other t →
    Documented registry id next nodes →
    ∃ first, Opens n nodes first t ∧ first.length ≤ other.length ∧ Fails registry n t first := by
  induction size with
  | zero => exact fun h => absurd h (Nat.not_lt_zero _)
  | succ size ih =>
    intro n nodes other t id next hsize h hdocumented
    cases h with
    | blank c rest =>
      rw [List.length_cons] at hsize
      obtain ⟨first, hfirst, hle, hfails⟩ := ih (by omega) rest hdocumented
      have hblank : Passes registry n (· ≠ .loose) [c.val] (· ≠ .loose) :=
        passes_blanks (blanks_cons.mpr ⟨c.property, blanks_nil⟩)
      exact ⟨_, hfirst.blank c, Nat.succ_le_succ hle, hblank.fails (fun _ h => h) hfails⟩
    | filter reference spells rest =>
      obtain ⟨k, hk⟩ := exists_connector hdocumented rest
      obtain ⟨hne, -⟩ := hdocumented.of_filter
      have hname := List.length_pos_iff.mpr (mt String.toList_eq_nil_iff.mp hne)
      simp only [List.length_append] at hsize
      obtain ⟨first, hfirst, hle, hfails⟩ := ih (by omega) rest hdocumented.tail
      exact ⟨_, hfirst.filter reference spells, by simp; omega,
        (passes_of_filter hdocumented spells hk).fails joined_ne_loose hfails⟩
    | calculator sum opening spells_operands spells rest =>
      obtain ⟨k, hk⟩ := exists_connector hdocumented rest
      simp only [List.length_append, List.length_cons] at hsize
      obtain ⟨first, hfirst, hle, hfails⟩ := ih (by omega) rest hdocumented.tail
      exact ⟨_, hfirst.calculator sum opening spells_operands spells, by simp; omega,
        (passes_of_calculator hdocumented opening spells_operands spells hk).fails
          joined_ne_loose hfails⟩
    | here i parent k opening spells closing behind_blank rest =>
      exact ⟨[], .here i parent k opening spells closing behind_blank rest, Nat.zero_le _,
        fails_here opening _⟩
    | inside i parent k opening within closing behind_blank rest =>
      obtain ⟨-, -, hchildren⟩ := hdocumented.of_cluster
      simp only [List.length_append, List.length_cons] at hsize
      obtain ⟨first, hfirst, hle, hfails⟩ := ih (by omega) within hchildren
      exact ⟨_, hfirst.inside i parent k opening closing behind_blank rest,
        Nat.succ_le_succ hle, fails_of_inside opening closing k hfails⟩
    | @behind _ children _ inner _ _ _ i parent k opening spells closing behind_blank rest =>
      obtain ⟨k, rfl⟩ := exists_connector hdocumented rest
      obtain ⟨-, -, hchildren⟩ := hdocumented.of_cluster
      simp only [List.length_append, List.length_cons] at hsize
      cases n with
      | zero =>
        exact ⟨[], .here i parent _ opening spells closing behind_blank rest.spells,
          Nat.zero_le _, fails_here opening _⟩
      | succ n =>
      by_cases hdeep : n < (Statistics.ofNodes children).depth
      · -- a bracket inside this cluster comes before the one in question
        obtain ⟨earlier, hearlier⟩ := spells.exists_opens hdeep
        obtain ⟨first, hfirst, hle, hfails⟩ := ih (by omega) hearlier hchildren
        have hinside := hfirst.inside i parent (some k) opening closing behind_blank rest.spells
        refine ⟨_, hinside, ?_, fails_of_inside opening closing (some k) hfails⟩
        have hlength := hfirst.length_lt
        simp only [List.length_append, List.length_cons]
        omega
      · obtain ⟨first, hfirst, hle, hfails⟩ := ih (by omega) rest hdocumented.tail
        have hroom : (Statistics.ofNodes children).depth + 1 ≤ n + 1 := by omega
        exact ⟨_, hfirst.behind i parent _ opening spells closing behind_blank, by simp; omega,
          (passes_of_cluster hdocumented opening spells closing behind_blank hroom).fails
            joined_ne_loose hfails⟩

end Reading

/-! ## Compilations -/

theorem eq_of_utf8Length_eq {s t source : List Char} (hs : s <+: source) (ht : t <+: source)
    (h : utf8Length s = utf8Length t) : s = t := by
  have hnil {s u : List Char} (h : utf8Length (s ++ u) = utf8Length s) : u = [] := by
    cases u with
    | nil => rfl
    | cons c u =>
      have hsize := c.utf8Size_pos
      rw [utf8Length_append, utf8Length_cons] at h
      omega
  rcases List.prefix_or_prefix_of_prefix hs ht with ⟨u, rfl⟩ | ⟨u, rfl⟩
  · rw [hnil h.symm, List.append_nil]
  · rw [hnil h, List.append_nil]

theorem Query.Opens.isPrefix {q : Query} {n : Nat} {before source : List Char}
    (h : q.Opens n before source) : before <+: source := by
  obtain ⟨lead, opening, m, inner, t, closing, ignored, -, -, hopens, rfl, rfl⟩ := h
  obtain ⟨opening', u, rfl⟩ := hopens.exists_text_eq
  exact ⟨opening'.val :: u ++ closing.val :: ignored, by simp⟩

theorem Query.Spells.exists_opens {q : Query} {source : List Char} (h : q.Spells source)
    {n : Nat} (hn : n < (Statistics.ofQuery q).depth) :
    ∃ before, q.Opens (n + 1) before source := by
  obtain ⟨lead, opening, t, closing, ignored, hlead, hspells, rfl⟩ := h
  obtain ⟨inner, hinner⟩ := hspells.exists_opens hn
  exact ⟨_, lead, opening, n, inner, t, closing, ignored, hlead, rfl, hinner, rfl, rfl⟩

/-- A spelling with a bracket that is too deep does not compile, and the error is at such a
bracket that is not behind it. -/
theorem exists_compile_error {registry : Registry} {q : Query} {source : String}
    {other : List Char} (hdocumented : Documented registry 0 1 q.nodes)
    (h : q.Opens maxNestingDepth other source.toList) :
    ∃ first, q.Opens maxNestingDepth first source.toList ∧ first.length ≤ other.length ∧
      (compile registry source).outcome =
        .error (.query ⟨.nestingTooDeep maxNestingDepth, utf8Length first⟩) := by
  obtain ⟨lead, opening, n, inner, t, closing, ignored, hlead, hn, hopens, rfl, hsource⟩ := h
  obtain ⟨first, hfirst, hle, hfails⟩ :=
    Reading.exists_first (t.length + 1) (Nat.lt_succ_self _) hopens hdocumented
  refine ⟨lead ++ opening.val :: first,
    ⟨lead, opening, n, first, t, closing, ignored, hlead, hn, hfirst, rfl, hsource⟩,
    by simpa using hle, ?_⟩
  rw [List.append_assoc] at hsource
  obtain ⟨d, hafter, hreach, -, hcompile⟩ := exists_compile_eq registry hlead hsource
  have hfirst : OpenCluster.joint ⟨0, []⟩ ≠ .loose := by simp [OpenCluster.joint]
  have hroom : (Reader.enter ⟨d, 0, 0, []⟩).depth + n = maxNestingDepth := by
    show 0 + 1 + n = maxNestingDepth
    omega
  obtain ⟨r, hbody⟩ := hfails (r := .enter ⟨d, 0, 0, []⟩) hafter (Nat.le_refl _) hfirst hroom
  have hcluster : Reading.cluster registry ⟨d, 0, 0, []⟩ = .error _ r.leave :=
    Reading.nested_eq_error_iff.mpr
      (.inr ⟨show (0 : Nat) ≠ maxNestingDepth by decide, r, hbody, rfl⟩)
  have hoffset : d.reach + utf8Length first = utf8Length (lead ++ opening.val :: first) := by
    rw [hreach]
    simp [utf8Length_append, Nat.add_assoc]
  rw [hcompile _ _ hcluster, ← hoffset]
  rfl

/-- Clusters may be nested 127 levels deep below the root, and no deeper. A text for a query
that is nested deeper, and well formed otherwise, fails at the first bracket that has 128
clusters open around it, whatever has been closed before. -/
theorem nesting_limit_exact (registry : Registry) :
    (∀ (source : String) (q : Query) (ds : List Diagnostic),
      compile registry source = ⟨.ok (some q), ds⟩ → (Statistics.ofQuery q).depth ≤ 127) ∧
    ∀ (q : Query) (source : String), Documented registry 0 1 q.nodes →
      128 ≤ (Statistics.ofQuery q).depth → q.Spells source.toList →
      ∃ before, q.Opens 128 before source.toList ∧
        (∀ other, q.Opens 128 other source.toList → before.length ≤ other.length) ∧
        (compile registry source).outcome =
          .error (.query ⟨.nestingTooDeep 128, utf8Length before⟩) := by
  constructor
  · intro source q ds h
    obtain ⟨root, ⟨-, hdepth⟩, -, rfl, -⟩ := derives_of_compile h
    have hquery : (Statistics.ofQuery root.query).depth = root.body.depth :=
      root.body.depth_statistics
    omega
  · intro q source hdocumented hdeep hspells
    obtain ⟨given, hgiven⟩ := hspells.exists_opens hdeep
    obtain ⟨first, hfirst, -, hcompile⟩ := exists_compile_error hdocumented hgiven
    refine ⟨first, hfirst, fun other hother => ?_, hcompile⟩
    -- the text has one outcome, so whichever bracket one starts from, the error is here
    obtain ⟨first', hfirst', hle, hcompile'⟩ := exists_compile_error hdocumented hother
    rw [hcompile] at hcompile'
    simp only [Except.error.injEq, CompileError.query.injEq, QueryError.mk.injEq] at hcompile'
    rw [eq_of_utf8Length_eq hfirst.isPrefix hfirst'.isPrefix hcompile'.2]
    exact hle

/-- `n` clusters, each but the first in the one before it, in cluster `id`. -/
def tower : Nat → Nat → Nat → List Node
  | 0, _, _ => []
  | n + 1, id, next => [.cluster next id (tower n next (next + 1)) none]

def towerText : Nat → List Char
  | 0 => []
  | n + 1 => '(' :: towerText n ++ [')']

theorem depth_tower (n id next : Nat) : (Statistics.ofNodes (tower n id next)).depth = n := by
  induction n generalizing id next with
  | zero => rfl
  | succ n ih =>
    rw [tower, depth_cons_cluster, ih]
    exact Nat.max_eq_left (Nat.zero_le _)

theorem spells_tower (n id next : Nat) : Spells (tower n id next) (towerText n) := by
  induction n generalizing id next with
  | zero => exact .done
  | succ n ih =>
    have hcluster := Spells.cluster next id none ⟨'(', rfl⟩ (ih next (next + 1)) ⟨')', rfl⟩
      blanks_nil .done
    simpa [tower, towerText, connectorText] using hcluster

theorem clusterIdsOf_tower (n id next : Nat) :
    clusterIdsOf (tower n id next) = List.range' next n := by
  induction n generalizing id next with
  | zero => rfl
  | succ n ih =>
    rw [tower, clusterIdsOf, Node.clusterIds, ih, clusterIdsOf, List.append_nil, List.range'_succ]

theorem documented_tower (registry : Registry) (n id next : Nat) :
    Documented registry id next (tower n id next) := by
  induction n generalizing id next with
  | zero => exact ⟨joined_nil, nofun, nofun, rfl, trivial⟩
  | succ n ih =>
    have hinner := ih next (next + 1)
    refine ⟨?_, ?_, ?_, ?_, ?_⟩
    · exact joined_cons.mpr ⟨fun h => absurd rfl h, joined_nil⟩
    · intro node hnode
      rw [List.mem_singleton.mp hnode]
      exact .cluster _ _ _ _ hinner.joined hinner.wellFormed
    · intro reference href
      simp only [tower, leavesOf, Node.leaves, List.append_nil] at href
      exact hinner.named reference href
    · rw [clusterIdsOf_tower, List.length_range']
    · exact ⟨⟨rfl, hinner.placed⟩, trivial⟩

/-- An empty cluster before others of its level. -/
theorem documented_behind {registry : Registry} {id next : Nat} {nodes : List Node}
    (h : Documented registry id (next + 1) nodes) :
    Documented registry id next (.cluster next id [] (some .and) :: nodes) := by
  refine ⟨?_, ?_, ?_, ?_, ?_⟩
  · exact joined_cons.mpr ⟨fun _ => Option.some_ne_none _, h.joined⟩
  · intro node hnode
    rcases List.mem_cons.mp hnode with rfl | hnode
    · exact .cluster _ _ _ _ joined_nil nofun
    · exact h.wellFormed node hnode
  · exact h.named
  · show next :: clusterIdsOf nodes = List.range' next (clusterIdsOf nodes).length.succ
    rw [List.range'_succ, ← h.numbered]
  · exact ⟨⟨rfl, trivial⟩, h.placed⟩

/-- An empty cluster, and behind it 128 clusters in one another. -/
theorem nesting_limit_exact_tower :
    let q : Query := ⟨.cluster 1 0 [] (some .and) :: tower 128 0 2⟩
    let source := String.ofList ("\x7b()&".toList ++ towerText 128 ++ ['}'])
    128 ≤ (Statistics.ofQuery q).depth ∧ q.Spells source.toList ∧
      ∃ before, q.Opens 128 before source.toList ∧
        (∀ other, q.Opens 128 other source.toList → before.length ≤ other.length) ∧
        (compile FilterSet.builtin.registry source).outcome =
          .error (.query ⟨.nestingTooDeep 128, utf8Length before⟩) := by
  intro q source
  have hdocumented : Documented FilterSet.builtin.registry 0 1 q.nodes :=
    documented_behind (documented_tower _ 128 0 2)
  have hdepth : 128 ≤ (Statistics.ofQuery q).depth := by
    show 128 ≤ max _ (Statistics.ofNodes (tower 128 0 2)).depth
    rw [depth_tower]
    exact Nat.le_max_right _ _
  have hnodes : FilterQuery.Spells q.nodes _ :=
    .cluster 1 0 (some .and) ⟨'(', rfl⟩ .done ⟨')', rfl⟩ blanks_nil (spells_tower 128 0 2)
  have hspells : q.Spells source.toList := by
    refine ⟨[], ⟨'{', rfl⟩, _, ⟨'}', rfl⟩, [], blanks_nil, hnodes, ?_⟩
    rw [String.toList_ofList]
    rfl
  exact ⟨hdepth, hspells, (nesting_limit_exact _).2 q source hdocumented hdepth hspells⟩

end FilterQuery
