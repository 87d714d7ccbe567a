import FilterQuery.Filter.Set
import FilterQuery.Proofs.Sites

/-!
# What stands between a comparison and its argument

The search for a connector reports every character that it passes over. The
search for the quote that opens an argument passes over characters as well, and
reports none. So the gap between a comparison and its argument may hold anything
that can stand there at all (`MayStand`), and another text in its place makes no
difference: not to the query, as long as the escapes stay the same, and not to
the characters that are reported.

Over the tree of the text this is a congruence. A clause with another gap agrees
with the old one in all that its surroundings make of it (`Agrees`), and
agreement passes through every part that may stand around it.
-/

namespace FilterQuery

open Grammar

/-- The character that a diagnostic is about. -/
def Diagnostic.found : Diagnostic → Char
  | unexpectedCharacter found _ => found

/-- A text that may stand between a comparison and the quote of its argument: it ends
the symbol of the comparison, and neither opens the argument nor closes the cluster. -/
structure MayStand (gap : List Char) : Prop where
  ends_symbol : ∀ c ∈ gap.head?, endsSymbol c
  gap_bare : bare gap

namespace Site

variable {site site' : Site} {gap before s t t' : List Char}

/-- The place with another gap. -/
def refill (site : Site) (h : MayStand gap) : Site :=
  { site with gap, gap_bare := h.gap_bare }

/-- Two texts that follow `before` differ in this place only. -/
def Swaps (site site' : Site) (before t t' : List Char) : Prop :=
  ∃ after, before ++ t = site.opened ++ '"' :: after ∧ before ++ t' = site'.opened ++ '"' :: after

namespace Swaps

theorem shift (h : Swaps site site' (before ++ s) t t') :
    Swaps site site' before (s ++ t) (s ++ t') := by
  obtain ⟨after, ht, ht'⟩ := h
  rw [List.append_assoc] at ht ht'
  exact ⟨after, ht, ht'⟩

theorem append (h : Swaps site site' before t t') (u : List Char) :
    Swaps site site' before (t ++ u) (t' ++ u) := by
  obtain ⟨after, ht, ht'⟩ := h
  refine ⟨after ++ u, ?_, ?_⟩
  · rw [← List.append_assoc, ht, List.append_assoc, List.cons_append]
  · rw [← List.append_assoc, ht', List.append_assoc, List.cons_append]

end Swaps

end Site

namespace Grammar

/-! ## The characters that are reported -/

theorem found_skipDiagnostics (offset : Nat) (t : List Char) :
    (skipDiagnostics offset t).map Diagnostic.found = t.filter (classify · ≠ .whitespace) := by
  induction t generalizing offset with
  | nil => rfl
  | cons c t ih =>
    rw [skipDiagnostics]
    split
    · next hblank => rw [ih, List.filter_cons_of_neg (by simp [hblank])]
    · next hcounts =>
      rw [List.map_cons, ih, List.filter_cons_of_pos (by simp [hcounts])]
      rfl

/-- The characters that are reported in a body. -/
def Body.reported : Body → List Char
  | done => []
  | blank _ rest | pair _ rest | connector _ rest => rest.reported
  | filter _ _ clause rest | calculator _ _ clause rest =>
    clause.skipped.filter (classify · ≠ .whitespace) ++ rest.reported
  | cluster _ inner _ rest => inner.reported ++ rest.reported

theorem Body.found_diagnostics (offset : Nat) (b : Body) :
    (b.diagnostics offset).map Diagnostic.found = b.reported := by
  induction b generalizing offset with
  | done => rfl
  | blank c rest ih => exact ih _
  | pair c rest ih => exact ih _
  | connector k rest ih => exact ih _
  | filter name kind clause rest ih =>
    rw [diagnostics, List.map_append, ih, Clause.diagnostics, found_skipDiagnostics, reported]
  | calculator opening sum clause rest ih =>
    rw [diagnostics, List.map_append, ih, Clause.diagnostics, found_skipDiagnostics, reported]
  | cluster opening inner closing rest ih_inner ih =>
    rw [diagnostics, List.map_append, ih, ih_inner, reported]

/-! ## Agreement -/

/-- Two clauses that mean the same. -/
structure Clause.Agrees (clause clause' : Clause) : Prop where
  blanks_eq : clause'.blanks = clause.blanks
  comparison_eq : clause'.comparison = clause.comparison
  argument_eq : clause'.argument = clause.argument
  skipped_eq : clause'.skipped = clause.skipped

theorem Clause.Agrees.refl (clause : Clause) : clause.Agrees clause :=
  ⟨rfl, rfl, rfl, rfl⟩

namespace Body

/-- Two bodies that mean the same, in any surroundings. -/
structure Agrees (b b' : Body) : Prop where
  nodes_eq : ∀ id next, b'.nodes id next = b.nodes id next
  joining_eq : b'.joining = b.joining
  clusters_eq : b'.clusters = b.clusters
  depth_eq : b'.depth = b.depth
  reported_eq : b'.reported = b.reported
  endsClause : b.endsClause → b'.endsClause
  valid : ∀ {registry joint}, b.Valid registry joint → b'.Valid registry joint

namespace Agrees

variable {b b' inner inner' rest rest' : Body} {clause clause' : Clause}

theorem refl (b : Body) : b.Agrees b :=
  ⟨fun _ _ => rfl, rfl, rfl, rfl, rfl, id, id⟩

theorem blank (c : Blank) (h : rest.Agrees rest') : (blank c rest).Agrees (.blank c rest') :=
  ⟨h.nodes_eq, h.joining_eq, h.clusters_eq, h.depth_eq, h.reported_eq, id, h.valid⟩

theorem pair (c : { c : Char // classify c ≠ .openBracket }) (h : rest.Agrees rest') :
    (pair c rest).Agrees (.pair c rest') :=
  ⟨h.nodes_eq, h.joining_eq, h.clusters_eq, h.depth_eq, h.reported_eq, id, h.valid⟩

theorem connector (k : Connector) (h : rest.Agrees rest') :
    (connector k rest).Agrees (.connector k rest') where
  nodes_eq := h.nodes_eq
  joining_eq := by rw [joining, joining, h.joining_eq]
  clusters_eq := h.clusters_eq
  depth_eq := h.depth_eq
  reported_eq := h.reported_eq
  endsClause := id
  valid hvalid := ⟨hvalid.1, h.valid hvalid.2⟩

theorem filter (name : Name) (kind : Kind) (hclause : clause.Agrees clause')
    (h : rest.Agrees rest') :
    (filter name kind clause rest).Agrees (.filter name kind clause' rest') where
  nodes_eq id next := by
    rw [nodes, nodes, h.nodes_eq, h.joining_eq, hclause.comparison_eq, hclause.argument_eq]
  joining_eq := rfl
  clusters_eq := h.clusters_eq
  depth_eq := h.depth_eq
  reported_eq := by rw [reported, reported, h.reported_eq, hclause.skipped_eq]
  endsClause := id
  valid := by
    rintro registry joint ⟨hjoint, hlookup, hname, hends, hrest⟩
    exact ⟨hjoint, hlookup, hclause.blanks_eq ▸ hname, h.endsClause hends, h.valid hrest⟩

theorem calculator (opening : Opening) (sum : Sum) (hclause : clause.Agrees clause')
    (h : rest.Agrees rest') :
    (calculator opening sum clause rest).Agrees (.calculator opening sum clause' rest') where
  nodes_eq id next := by
    rw [nodes, nodes, h.nodes_eq, h.joining_eq, hclause.comparison_eq, hclause.argument_eq]
  joining_eq := rfl
  clusters_eq := h.clusters_eq
  depth_eq := h.depth_eq
  reported_eq := by rw [reported, reported, h.reported_eq, hclause.skipped_eq]
  endsClause := id
  valid := by
    rintro registry joint ⟨hjoint, hsum, hends, hrest⟩
    exact ⟨hjoint, hsum, h.endsClause hends, h.valid hrest⟩

theorem cluster (opening : Opening) (closing : Closing) (hinner : inner.Agrees inner')
    (h : rest.Agrees rest') :
    (cluster opening inner closing rest).Agrees (.cluster opening inner' closing rest') where
  nodes_eq id next := by
    rw [nodes, nodes, h.nodes_eq, h.joining_eq, hinner.nodes_eq, hinner.clusters_eq]
  joining_eq := rfl
  clusters_eq := by rw [clusters, clusters, h.clusters_eq, hinner.clusters_eq]
  depth_eq := by rw [depth, depth, h.depth_eq, hinner.depth_eq]
  reported_eq := by rw [reported, reported, h.reported_eq, hinner.reported_eq]
  endsClause := id
  valid := by
    rintro registry joint ⟨hjoint, hinner', hrest⟩
    exact ⟨hjoint, hinner.valid hinner', h.valid hrest⟩

end Agrees

end Body

/-! ## Another gap -/

variable {gap before : List Char} {site : Site}

/-- The clause with another gap. -/
def Clause.refill (clause : Clause) (h : MayStand gap) : Clause :=
  { clause with gap, gap_ends_symbol := h.ends_symbol, gap_bare := h.gap_bare }

theorem Clause.agrees_refill {clause : Clause} (h : MayStand gap)
    (hescapes : escapes gap = escapes clause.gap) : clause.Agrees (clause.refill h) :=
  ⟨rfl, rfl, by rw [argument, argument, refill, hescapes], rfl⟩

theorem Clause.swaps_refill (before word : List Char) (clause : Clause) (h : MayStand gap) :
    Site.Swaps (clause.site (before ++ word)) ((clause.site (before ++ word)).refill h) before
      (word ++ clause.text) (word ++ (clause.refill h).text) :=
  ⟨clause.skipped, by simp [site, Site.opened, text, front],
    by simp [site, Site.refill, Site.opened, refill, text, front]⟩

namespace Body

theorem mayStand_of_mem_sites {b : Body} (h : site ∈ b.sites before) : MayStand site.gap := by
  induction b generalizing before with
  | done => cases h
  | blank c rest ih => exact ih h
  | pair c rest ih => exact ih h
  | connector k rest ih => exact ih h
  | filter name kind clause rest ih =>
    rcases List.mem_cons.mp h with rfl | h
    · exact ⟨clause.gap_ends_symbol, clause.gap_bare⟩
    · exact ih h
  | calculator opening sum clause rest ih =>
    rcases List.mem_cons.mp h with rfl | h
    · exact ⟨clause.gap_ends_symbol, clause.gap_bare⟩
    · exact ih h
  | cluster opening inner closing rest ih_inner ih =>
    rcases List.mem_append.mp h with h | h
    · exact ih_inner h
    · exact ih h

theorem exists_agrees_refill {b : Body} (hsite : site ∈ b.sites before) (h : MayStand gap)
    (hescapes : escapes gap = escapes site.gap) :
    ∃ b' : Body, b.Agrees b' ∧ Site.Swaps site (site.refill h) before b.text b'.text := by
  induction b generalizing before with
  | done => cases hsite
  | blank c rest ih =>
    obtain ⟨rest', hagrees, hswaps⟩ := ih hsite
    exact ⟨_, hagrees.blank c, hswaps.shift⟩
  | pair c rest ih =>
    obtain ⟨rest', hagrees, hswaps⟩ := ih hsite
    exact ⟨_, hagrees.pair c, hswaps.shift⟩
  | connector k rest ih =>
    obtain ⟨rest', hagrees, hswaps⟩ := ih hsite
    exact ⟨_, hagrees.connector k, hswaps.shift⟩
  | filter name kind clause rest ih =>
    rcases List.mem_cons.mp hsite with rfl | hsite
    · exact ⟨_, .filter name kind (Clause.agrees_refill h hescapes) (.refl rest),
        (clause.swaps_refill before _ h).append rest.text⟩
    · obtain ⟨rest', hagrees, hswaps⟩ := ih hsite
      exact ⟨_, .filter name kind (.refl clause) hagrees, hswaps.shift⟩
  | calculator opening sum clause rest ih =>
    rcases List.mem_cons.mp hsite with rfl | hsite
    · exact ⟨_, .calculator opening sum (Clause.agrees_refill h hescapes) (.refl rest),
        (clause.swaps_refill before _ h).append rest.text⟩
    · obtain ⟨rest', hagrees, hswaps⟩ := ih hsite
      exact ⟨_, .calculator opening sum (.refl clause) hagrees, hswaps.shift⟩
  | cluster opening inner closing rest ih_inner ih =>
    rcases List.mem_append.mp hsite with hsite | hsite
    · obtain ⟨inner', hagrees, hswaps⟩ := ih_inner hsite
      refine ⟨_, .cluster opening closing hagrees (.refl rest), ?_⟩
      exact (hswaps.append (closing.val :: rest.text)).shift
    · obtain ⟨rest', hagrees, hswaps⟩ := ih hsite
      refine ⟨_, .cluster opening closing (.refl inner) hagrees, ?_⟩
      rw [text, text, List.append_cons, List.append_cons _ _ rest'.text]
      exact hswaps.shift

end Body

end Grammar

/-! ## Queries -/

/-- The gap of this place is passed over: with any other that may stand there and has
the same escapes the text compiles to the same query, and the same characters are
reported. -/
def Site.PassesGap (registry : Registry) (source : List Char) (q : Query)
    (ds : List Diagnostic) (site : Site) : Prop :=
  ∃ after, source = site.opened ++ '"' :: after ∧
    ∀ (gap : List Char) (h : MayStand gap), escapes gap = escapes site.gap →
      ∃ ds', ds'.map Diagnostic.found = ds.map Diagnostic.found ∧
        compile registry (String.ofList ((site.refill h).opened ++ '"' :: after)) =
          ⟨.ok (some q), ds'⟩

/-- Between the comparisons of an accepted text and their arguments anything may stand
that can, and nothing of it is reported. -/
theorem gaps_of_compile {registry : Registry} {source : String} {q : Query}
    {ds : List Diagnostic} (h : compile registry source = ⟨.ok (some q), ds⟩) :
    ∃ sites : List Site,
      sites.Pairwise (fun s t => s.opened.length < t.head.length) ∧
      List.Forall₂ (fun leaf site => site.Holds leaf) (leavesOf q.nodes) sites ∧
      ∀ site ∈ sites, MayStand site.gap ∧ site.PassesGap registry source.toList q ds := by
  obtain ⟨root, ⟨hvalid, hdepth⟩, htext, rfl, rfl⟩ := derives_of_compile h
  refine ⟨root.body.sites (root.lead ++ [root.opening.val]), Body.pairwise_sites,
    Body.forall₂_sites, fun site hsite => ⟨Body.mayStand_of_mem_sites hsite, ?_⟩⟩
  obtain ⟨-, after, hopened⟩ := Body.lies_of_mem_sites hsite
  refine ⟨after ++ root.closing.val :: root.ignored, ?_, fun gap hgap hescapes => ?_⟩
  · rw [← htext, Root.text, List.append_cons root.lead, hopened, List.append_assoc,
      List.cons_append]
  obtain ⟨b, hagrees, after', hopened', hrefilled⟩ :=
    Body.exists_agrees_refill hsite hgap hescapes
  obtain rfl : after = after' :=
    (List.cons.inj (List.append_cancel_left (hopened.symm.trans hopened'))).2
  let refilled : Root := { root with body := b }
  have hderives : Derives registry
      (String.ofList ((site.refill hgap).opened ++
        '"' :: (after ++ root.closing.val :: root.ignored))).toList
      root.query refilled.diagnostics := by
    refine ⟨refilled, ⟨hagrees.valid hvalid, ?_⟩, ?_, ?_, rfl⟩
    · rw [hagrees.depth_eq]
      exact hdepth
    · rw [Root.text, List.append_cons root.lead, hrefilled, String.toList_ofList,
        List.append_assoc, List.cons_append]
    · rw [Root.query, hagrees.nodes_eq, Root.query]
  refine ⟨refilled.diagnostics, ?_, compile_of_derives hderives⟩
  rw [Root.diagnostics, Root.diagnostics, Body.found_diagnostics, Body.found_diagnostics,
    hagrees.reported_eq]

/-- A letter stands in front of the quote, and is dropped. -/
theorem compile_letter_in_gap :
    compile FilterSet.builtin.registry "\x7btext:x\"y\"\x7d" =
      ⟨.ok (some ⟨[.filter ⟨"text", .text, .includes, "y", none⟩]⟩), []⟩ := by cbv

/-- A text with a letter in the gap. -/
theorem gaps_of_compile_letter :
    let source := "\x7btext:x\"y\"\x7d"
    let leaf : Node := .filter ⟨"text", .text, .includes, "y", none⟩
    compile FilterSet.builtin.registry source = ⟨.ok (some ⟨[leaf]⟩), []⟩ ∧
      ∃ sites : List Site,
        sites.Pairwise (fun s t => s.opened.length < t.head.length) ∧
        List.Forall₂ (fun leaf site => site.Holds leaf) [leaf] sites ∧
        ∀ site ∈ sites, MayStand site.gap ∧
          site.PassesGap FilterSet.builtin.registry source.toList ⟨[leaf]⟩ [] :=
  ⟨compile_letter_in_gap, gaps_of_compile compile_letter_in_gap⟩

/-- The gap of this filter is not blank, and nothing is reported. -/
theorem gap_not_blank :
    let source := "\x7btext:x\"y\"\x7d"
    let leaf : Node := .filter ⟨"text", .text, .includes, "y", none⟩
    let site : Site := ⟨"\x7btext".toList, .includes, ['x'], ['y'], rfl, rfl⟩
    compile FilterSet.builtin.registry source = ⟨.ok (some ⟨[leaf]⟩), []⟩ ∧
      source.toList = site.opened ++ '"' :: ['\x7d'] ∧ site.Holds leaf ∧ ¬ Blanks site.gap := by
  intro source leaf site
  have hfollows : site.Follows "text".toList := ⟨['\x7b'], [], blanks_nil, by decide⟩
  have hcaptured : "y".toList = site.captured := by decide
  refine ⟨compile_letter_in_gap, by decide, ⟨hfollows, rfl, hcaptured⟩, fun h => ?_⟩
  exact absurd (h 'x' (by simp [site])) (by decide)

end FilterQuery
