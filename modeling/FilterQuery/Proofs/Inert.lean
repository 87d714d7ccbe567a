import FilterQuery.Proofs.Reported

/-!
# Diagnostics do no harm

What is reported has no part in the query: without the characters that the diagnostics
name, the text compiles to the same query, and nothing is left to report
(`compile_strike`). What is reported may be any text at all, with quotes, brackets and
escapes in it, so it is worth asking whether the text that is left falls into the same
parts. It does, because only a clause has such characters, behind its argument, where
nothing is read but blanks; so the tree of the text that is left is at hand
(`Body.struck`).

The characters go by their offsets in the whole text, while the tree tells the
diagnostics part by part. A part is unmoved by the diagnostics of the others, whose
offsets lie outside of it; `Strikes` says so of one part, and two parts in a row are one.
-/

namespace FilterQuery

open Grammar

/-- A text that begins at `offset`, without the characters at the offsets `named`. -/
def strike (named : List Nat) (offset : Nat) : List Char → List Char
  | [] => []
  | c :: t =>
    let later := strike named (offset + c.utf8Size) t
    if offset ∈ named then later else c :: later

theorem strike_append (named : List Nat) (offset : Nat) (s t : List Char) :
    strike named offset (s ++ t) =
      strike named offset s ++ strike named (offset + utf8Length s) t := by
  induction s generalizing offset with
  | nil => rfl
  | cons c s ih =>
    simp only [List.cons_append, strike, ih, utf8Length_cons, Nat.add_assoc]
    split <;> rfl

/-- Of the part `t` of a text, which begins at `offset`, the diagnostics `ds` leave `t'`,
whatever is named outside of it. -/
structure Strikes (offset : Nat) (t : List Char) (ds : List Diagnostic) (t' : List Char) :
    Prop where
  within : ∀ d ∈ ds, offset ≤ d.offset ∧ d.offset < offset + utf8Length t
  leaves : ∀ {named : List Nat}, (∀ n, offset ≤ n → n < offset + utf8Length t →
    (n ∈ named ↔ ∃ d ∈ ds, d.offset = n)) → strike named offset t = t'

namespace Strikes

variable {offset next : Nat} {s s' t t' : List Char} {ds ds' : List Diagnostic}

theorem append (hs : Strikes offset s ds s') (ht : Strikes next t ds' t')
    (hnext : next = offset + utf8Length s) :
    Strikes offset (s ++ t) (ds ++ ds') (s' ++ t') where
  within d hd := by
    rw [utf8Length_append]
    rcases List.mem_append.mp hd with hd | hd
    · have hwithin := hs.within d hd
      omega
    · have hwithin := ht.within d hd
      omega
  leaves {named} hnamed := by
    rw [utf8Length_append] at hnamed
    rw [strike_append, hs.leaves, ← hnext, ht.leaves]
    · intro n hfrom hto
      rw [hnamed n (by omega) (by omega)]
      constructor
      · rintro ⟨d, hd, rfl⟩
        rcases List.mem_append.mp hd with hd | hd
        · have hwithin := hs.within d hd
          omega
        · exact ⟨d, hd, rfl⟩
      · rintro ⟨d, hd, rfl⟩
        exact ⟨d, List.mem_append_right ds hd, rfl⟩
    · intro n hfrom hto
      rw [hnamed n hfrom (by omega)]
      constructor
      · rintro ⟨d, hd, rfl⟩
        rcases List.mem_append.mp hd with hd | hd
        · exact ⟨d, hd, rfl⟩
        · have hwithin := ht.within d hd
          omega
      · rintro ⟨d, hd, rfl⟩
        exact ⟨d, List.mem_append_left ds' hd, rfl⟩

/-- What no diagnostic is about is left as it is. -/
theorem plain (offset : Nat) (t : List Char) : Strikes offset t [] t where
  within := by simp
  leaves {named} hnamed := by
    induction t generalizing offset with
    | nil => rfl
    | cons c t ih =>
      have hsize := c.utf8Size_pos
      rw [utf8Length_cons] at hnamed
      have hhead : offset ∉ named := by
        rw [hnamed offset (Nat.le_refl _) (by omega)]
        simp
      rw [strike, if_neg hhead, ih]
      exact fun n hfrom hto => hnamed n (by omega) (by omega)

/-- A character that is reported goes. -/
theorem single (offset : Nat) (c : Char) :
    Strikes offset [c] [.unexpectedCharacter c offset] [] where
  within d hd := by
    have hsize := c.utf8Size_pos
    obtain rfl := List.mem_singleton.mp hd
    simp only [Diagnostic.offset, utf8Length_cons, utf8Length_nil]
    omega
  leaves {named} hnamed := by
    have hsize := c.utf8Size_pos
    rw [utf8Length_cons] at hnamed
    have hhead : offset ∈ named :=
      (hnamed offset (Nat.le_refl _) (by omega)).mpr ⟨_, List.mem_singleton_self _, rfl⟩
    rw [strike, if_pos hhead, strike]

/-- Of a text that is passed over the blanks are left. -/
theorem skipped (offset : Nat) (t : List Char) :
    Strikes offset t (skipDiagnostics offset t) (t.filter (classify · = .whitespace)) := by
  induction t generalizing offset with
  | nil => exact plain offset []
  | cons c t ih =>
    rw [skipDiagnostics]
    split
    · next hblank =>
      rw [List.filter_cons_of_pos (by simpa using hblank)]
      exact (plain offset [c]).append (ih _) rfl
    · next hcounts =>
      rw [List.filter_cons_of_neg (by simpa using hcounts)]
      exact (single offset c).append (ih _) rfl

end Strikes

/-! ## The tree of what is left -/

namespace Grammar

/-- The clause without what is reported in it. -/
def Clause.struck (clause : Clause) : Clause :=
  { clause with
    skipped := clause.skipped.filter (classify · = .whitespace)
    skipped_search := fun c hc => clause.skipped_search c (List.mem_filter.mp hc).1 }

theorem Clause.strikes (clause : Clause) (offset : Nat) :
    Strikes offset clause.text (clause.diagnostics offset) clause.struck.text :=
  (Strikes.plain offset clause.front).append (.skipped _ clause.skipped) rfl

theorem Clause.diagnostics_struck (clause : Clause) (offset : Nat) :
    clause.struck.diagnostics offset = [] := by
  refine Blanks.skipDiagnostics_eq_nil (fun c hc => ?_) _
  simpa using (List.mem_filter.mp hc).2

namespace Body

/-- The body without what is reported in it. -/
def struck : Body → Body
  | done => done
  | blank c rest => blank c rest.struck
  | pair c rest => pair c rest.struck
  | connector k rest => connector k rest.struck
  | filter name kind clause rest => filter name kind clause.struck rest.struck
  | calculator opening sum clause rest => calculator opening sum clause.struck rest.struck
  | cluster opening inner closing rest => cluster opening inner.struck closing rest.struck

theorem strikes (b : Body) (offset : Nat) :
    Strikes offset b.text (b.diagnostics offset) b.struck.text := by
  induction b generalizing offset with
  | done => exact .plain offset []
  | blank c rest ih => exact (Strikes.plain offset [c.val]).append (ih _) rfl
  | pair c rest ih => exact (Strikes.plain offset ['#', c.val]).append (ih _) rfl
  | connector k rest ih => exact (Strikes.plain offset [k.symbol]).append (ih _) rfl
  | filter name kind clause rest ih =>
    refine ((Strikes.plain offset name.val.toList).append (clause.strikes _) rfl).append (ih _) ?_
    rw [utf8Length_append, Nat.add_assoc]
  | calculator opening sum clause rest ih =>
    refine ((Strikes.plain offset ('#' :: opening.val :: sum.text)).append (clause.strikes _)
      rfl).append (ih _) ?_
    rw [utf8Length_append, Nat.add_assoc]
  | cluster opening inner closing rest ih_inner ih =>
    have hinner := (Strikes.plain offset [opening.val]).append (ih_inner _) rfl
    have hclosed := hinner.append (.plain _ [closing.val]) rfl
    have hwhole := hclosed.append (ih _) rfl
    simpa [text, struck, diagnostics, utf8Length_append, Nat.add_assoc] using hwhole

theorem joining_struck (b : Body) : b.struck.joining = b.joining := by
  induction b with
  | blank c rest ih | pair c rest ih => exact ih
  | connector k rest ih => rw [struck, joining, joining, ih]
  | _ => rfl

theorem clusters_struck (b : Body) : b.struck.clusters = b.clusters := by
  induction b with
  | done => rfl
  | cluster opening inner closing rest ih_inner ih =>
    rw [struck, clusters, clusters, ih_inner, ih]
  | _ => assumption

theorem depth_struck (b : Body) : b.struck.depth = b.depth := by
  induction b with
  | done => rfl
  | cluster opening inner closing rest ih_inner ih =>
    rw [struck, depth, depth, ih_inner, ih]
  | _ => assumption

theorem nodes_struck (b : Body) (id next : Nat) : b.struck.nodes id next = b.nodes id next := by
  induction b generalizing id next with
  | done => rfl
  | blank c rest ih | pair c rest ih | connector k rest ih => exact ih _ _
  | filter name kind clause rest ih =>
    rw [struck, nodes, nodes, ih, joining_struck]
    rfl
  | calculator opening sum clause rest ih =>
    rw [struck, nodes, nodes, ih, joining_struck]
    rfl
  | cluster opening inner closing rest ih_inner ih =>
    rw [struck, nodes, nodes, ih_inner, ih, joining_struck, clusters_struck]

theorem endsClause_struck {b : Body} (h : b.endsClause) : b.struck.endsClause := by
  cases b with
  | done | connector k rest => trivial
  | _ => exact h

theorem valid_struck {registry : Registry} {joint : Joint} {b : Body}
    (h : b.Valid registry joint) : b.struck.Valid registry joint := by
  induction b generalizing joint with
  | done => trivial
  | blank c rest ih | pair c rest ih => exact ih h
  | connector k rest ih => exact ⟨h.1, ih h.2⟩
  | filter name kind clause rest ih =>
    obtain ⟨hjoint, hlookup, hname, hends, hrest⟩ := h
    exact ⟨hjoint, hlookup, hname, endsClause_struck hends, ih hrest⟩
  | calculator opening sum clause rest ih =>
    obtain ⟨hjoint, hsum, hends, hrest⟩ := h
    exact ⟨hjoint, hsum, endsClause_struck hends, ih hrest⟩
  | cluster opening inner closing rest ih_inner ih =>
    obtain ⟨hjoint, hinner, hrest⟩ := h
    exact ⟨hjoint, ih_inner hinner, ih hrest⟩

theorem diagnostics_struck (b : Body) (offset : Nat) : b.struck.diagnostics offset = [] := by
  induction b generalizing offset with
  | done => rfl
  | blank c rest ih | pair c rest ih | connector k rest ih => exact ih _
  | filter name kind clause rest ih | calculator opening sum clause rest ih =>
    rw [struck, diagnostics, ih, Clause.diagnostics_struck, List.append_nil]
  | cluster opening inner closing rest ih_inner ih =>
    rw [struck, diagnostics, ih, ih_inner, List.append_nil]

end Body

/-- The text without what is reported in it. -/
def Root.struck (root : Root) : Root :=
  { root with body := root.body.struck }

theorem Root.strikes (root : Root) : Strikes 0 root.text root.diagnostics root.struck.text := by
  have hlead := Strikes.plain 0 (root.lead ++ [root.opening.val])
  have hbody := root.body.strikes (utf8Length (root.lead ++ [root.opening.val]))
  have hrest := Strikes.plain (utf8Length (root.lead ++ [root.opening.val]) +
    utf8Length root.body.text) (root.closing.val :: root.ignored)
  have hroot := (hlead.append hbody (Nat.zero_add _).symm).append hrest
    (by rw [utf8Length_append (root.lead ++ _), Nat.zero_add])
  simpa [text, struck, diagnostics] using hroot

end Grammar

/-! ## Compilations -/

/-- An accepted text compiles to the same query without what is reported in it. -/
theorem compile_strike {registry : Registry} {source : String} {q : Query}
    {ds : List Diagnostic} (h : compile registry source = ⟨.ok (some q), ds⟩) :
    compile registry (String.ofList (strike (ds.map Diagnostic.offset) 0 source.toList)) =
      ⟨.ok (some q), []⟩ := by
  obtain ⟨root, ⟨hvalid, hdepth⟩, htext, rfl, rfl⟩ := derives_of_compile h
  have hstrike : strike (root.diagnostics.map Diagnostic.offset) 0 source.toList =
      root.struck.text := by
    rw [← htext]
    exact root.strikes.leaves fun n _ _ => List.mem_map
  refine compile_of_derives ⟨root.struck, ⟨Body.valid_struck hvalid, ?_⟩, ?_, ?_, ?_⟩
  · exact root.body.depth_struck ▸ hdepth
  · rw [hstrike, String.toList_ofList]
  · exact congrArg Query.mk (root.body.nodes_struck 0 1)
  · exact root.body.diagnostics_struck _

/-- Accepted or not, a text is reported for characters that stand in it, in order, each
of them once; and if it is accepted, then they may go. -/
theorem compile_reports (registry : Registry) (source : String) :
    (compile registry source).diagnostics.Pairwise (·.offset < ·.offset) ∧
      (∀ d ∈ (compile registry source).diagnostics, d.Stands 0 source.toList) ∧
      ∀ q, (compile registry source).outcome = .ok (some q) →
        compile registry (String.ofList (strike
          ((compile registry source).diagnostics.map Diagnostic.offset) 0 source.toList)) =
          ⟨.ok (some q), []⟩ := by
  have hsublist := sublist_reportable registry source
  refine ⟨(pairwise_reportable 0 _).sublist hsublist, fun d hd => ?_, fun q hq => ?_⟩
  · exact stands_of_mem_reportable (hsublist.subset hd)
  · exact compile_strike (by rw [← hq])

/-- A letter of two bytes, a quote and an opening bracket are reported, and may go. -/
theorem compile_reports_quote :
    let source := "\x7btext:\"a\" é\"( & text:\"b\"\x7d"
    let struck := "\x7btext:\"a\"  & text:\"b\"\x7d"
    let q : Query := ⟨[.filter ⟨"text", .text, .includes, "a", some .and⟩,
      .filter ⟨"text", .text, .includes, "b", none⟩]⟩
    let ds : List Diagnostic := [.unexpectedCharacter 'é' 10, .unexpectedCharacter '"' 12,
      .unexpectedCharacter '(' 13]
    compile FilterSet.builtin.registry source = ⟨.ok (some q), ds⟩ ∧
      String.ofList (strike (ds.map Diagnostic.offset) 0 source.toList) = struck ∧
      compile FilterSet.builtin.registry struck = ⟨.ok (some q), []⟩ := by
  have h : compile FilterSet.builtin.registry "\x7btext:\"a\" é\"( & text:\"b\"\x7d" =
      ⟨.ok (some ⟨[.filter ⟨"text", .text, .includes, "a", some .and⟩,
        .filter ⟨"text", .text, .includes, "b", none⟩]⟩),
        [.unexpectedCharacter 'é' 10, .unexpectedCharacter '"' 12,
          .unexpectedCharacter '(' 13]⟩ := by cbv
  intro source struck q ds
  have hstruck : String.ofList (strike (ds.map Diagnostic.offset) 0 source.toList) = struck := by
    decide
  refine ⟨h, hstruck, ?_⟩
  have hreports := (compile_reports FilterSet.builtin.registry source).2.2 q (by rw [h])
  rw [h, hstruck] at hreports
  exact hreports

end FilterQuery
