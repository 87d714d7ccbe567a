import FilterQuery.Proofs.FilterRows
import FilterQuery.Proofs.Reported
import FilterQuery.Proofs.Respelled
import FilterQuery.Proofs.Suggestion

/-!
# Suggestions that are followed

The error for an unknown identifier can come with a registered one, and then the text is
mended by writing that one instead: nothing changes in front of its place, and no identifier
is unknown there or before (`suggestion_resolves`).

The way of the reader to the error is a way through the mended text, too, since every turn
before the error ends before the identifier (`ComesTo.endsIn_body`). Turns look one character
ahead, and the first character of the identifier is none that they look for
(`ComesTo.endsSearch_eq_false`). At the place the other identifier is read, in the position of
a filter (`endsIn_body_of_name`) or of an operand (`endsIn_body_of_operands`). From there on
nothing is known about the mended text. But every error about an identifier is at a place
that the reader has not yet passed, and what is reported is about characters that it passes
from then on (`lasting_past`).
-/

namespace FilterQuery

open Grammar

/-! ## Beyond a place -/

/-- The diagnostics go on from `noted`, about characters at byte `k` or behind it. -/
def GoesOn (k : Nat) (noted ds : List Diagnostic) : Prop :=
  ∃ later, ds = noted ++ later ∧ ∀ d ∈ later, k ≤ d.offset

theorem GoesOn.refl (k : Nat) (ds : List Diagnostic) : GoesOn k ds ds :=
  ⟨[], by simp, by simp⟩

/-- The reader has left byte `k` behind. -/
structure Past (k : Nat) (noted : List Diagnostic) (r : Reader) : Prop where
  beyond : k < r.cursor.reach
  goes_on : GoesOn k noted r.diagnostics

/-- The text is refused for something else than an unknown name up to byte `k`. -/
structure RefusedLater (k : Nat) (noted : List Diagnostic) (e : CompileError)
    (ds : List Diagnostic) : Prop where
  known : e.KnownUpTo k
  goes_on : GoesOn k noted ds

theorem lasting_past (k : Nat) (noted : List Diagnostic) :
    Lasting (Past k noted) (RefusedLater k noted) where
  goto hr hread := by
    refine ⟨?_, hr.goes_on⟩
    rw [Reader.cursor_goto, hread.reach_eq]
    exact Nat.lt_add_right _ hr.beyond
  moved {r skipped d} hr hread hskipped := by
    obtain ⟨later, hlater, hoffset⟩ := hr.goes_on
    refine ⟨?_, later ++ skipDiagnostics r.cursor.reach skipped, ?_, fun a ha => ?_⟩
    · show k < d.reach
      rw [hread.reach_eq]
      exact Nat.lt_add_right _ hr.beyond
    · simp only [Reader.moved, hlater, List.append_assoc]
    · rcases List.mem_append.mp ha with ha | ha
      · exact hoffset a ha
      · rw [skipDiagnostics_eq_reportable _ hskipped] at ha
        obtain ⟨s, t, -, hplace⟩ := (stands_of_mem_reportable ha).at_offset
        have hbeyond := hr.beyond
        omega
  same hr hcursor hdiagnostics := ⟨hcursor ▸ hr.beyond, hdiagnostics ▸ hr.goes_on⟩
  error hr he := ⟨CompileError.knownUpTo_of_not he, hr.goes_on⟩
  unknown {r t start identifier suggestion} hr hread := by
    refine ⟨Scan.knownUpTo_errorAt ?_, hr.goes_on⟩
    rw [hread.offset_eq]
    exact Nat.lt_add_right _ hr.beyond

/-- A diagnostic is about a character in front of the cursor. -/
theorem Noted.offset_lt {source : List Char} {r : Reader} {d : Diagnostic}
    (h : Noted source r) (hd : d ∈ r.diagnostics) : d.offset < r.cursor.reach := by
  obtain ⟨s, t, htext, hoffset⟩ := (stands_of_mem_reportable (h.listed.subset hd)).at_offset
  have hsize := d.found.utf8Size_pos
  have hreach : r.cursor.reach = utf8Length (s ++ d.found :: t) := by
    rw [← htext, utf8Length_reverse]
    rfl
  rw [utf8Length_append, utf8Length_cons] at hreach
  omega

section

variable {registry : Registry} {cluster cluster' : OpenCluster} {r r' s n : Reader}
  {e : CompileError} {name : String} {suggestion : Option String} {k bound : Nat}
  {mid rest t : List Char} {other : String} {kind : Kind} {x y : Char} {c : Cursor}

/-- What lasts while a text is read lasts from turn to turn. -/
theorem Turns.lasts {I : Reader → Prop} {E : CompileError → List Diagnostic → Prop}
    (hI : Lasting I E) (h : Turns registry cluster r cluster' r') (hr : I r) : I r' := by
  cases h with
  | blank step => exact hI.goto hr step
  | pair step => exact hI.goto hr step
  | attach step => exact hI.goto hr step
  | @append _ start _ _ adds =>
    cases adds with
    | filter step starts reads =>
      obtain rfl := step.current_eq_of_step
      have hfilter : EndsIn E I (Reading.filter registry (r.goto start)) :=
        Reading.ensures_filter hI _ ⟨r.cursor, step, hr⟩
      rw [reads] at hfilter
      exact hfilter
    | @calculator _ _ c _ _ step next opens reads =>
      have hsum : EndsIn E I (Reading.calculator registry cluster.id start (r.goto c)) :=
        Reading.ensures_calculator hI _ _ _ (hI.goto hr (step.trans next))
      rw [reads] at hsum
      exact hsum
    | cluster step opens reads =>
      have hchild : EndsIn E I (Reading.cluster registry (r.goto start)) :=
        Reading.ensures_nested hI (Reading.ensures_body hI _) _ (hI.goto hr step)
      rw [reads] at hchild
      exact hchild

/-! ## Where a name is unknown -/

/-- The turn ends at byte `k` because of the name there, which is that of a filter or an
operand. -/
inductive MeetsUnknown (registry : Registry) (r : Reader) (name : String)
    (suggestion : Option String) (k : Nat) : Prop where
  | filter {d : Cursor} (reads : r.cursor.Reads (name.toList ++ [d.current]) d)
      (starts : ∀ a t, r.cursor.after = a :: t → startsFilter a)
      (ends : isIdentifierChar d.current = false) (goes_on : d.currentClass ≠ .closeBracket)
      (place : k = r.cursor.reach) : MeetsUnknown registry r name suggestion k
  | operand {x : Char} {c : Cursor} (reads : r.cursor.Reads ['#', x] c)
      (opens : classify x = .openBracket)
      (fails : Scan.operands registry [] c = .error (.query ⟨.unknownFilter name suggestion, k⟩)) :
      MeetsUnknown registry r name suggestion k

namespace Reading

theorem meetsUnknown_of_filter {m : Cursor} (step : r.cursor.Reads [x] m) (starts : startsFilter x)
    (h : filter registry (r.goto m) = .error (.query ⟨.unknownFilter name suggestion, k⟩) s) :
    MeetsUnknown registry r name suggestion k ∧ s.diagnostics = r.diagnostics := by
  obtain rfl := step.current_eq_of_step
  have hends := Scan.identifier_ends r.cursor
  generalize hscan : Scan.identifier "" r.cursor = result at hends
  cases hends with
  | cut | bracket =>
    rw [filter_of_identifier_error (r := r.goto m) step hscan] at h
    cases h
  | @found letters d hread hletters hother hclose =>
    obtain ⟨m', -, hfilter⟩ := filter_of_identifier_ok (r := r.goto m) step hscan
    rw [hfilter registry] at h
    cases hlookup : registry.lookup (String.ofList letters) with
    | none =>
      rw [hlookup] at h
      cases h
      refine ⟨.filter (by simpa using hread) (fun a t ha => ?_) hother hclose ?_, rfl⟩
      · obtain ⟨rfl, -⟩ := List.cons.inj (ha.symm.trans step.after)
        exact starts
      · exact step.offset_eq (t := [])
    | some kind =>
      rw [hlookup] at h
      have hfails := (clause_fails h).isOf.not_isUnknownFilter fun _ _ => rfl
      exact absurd ⟨_, _, _, rfl⟩ hfails

theorem meetsUnknown_of_calculator {m : Cursor} {parent : Nat} (step : r.cursor.Reads ['#'] m)
    (next : m.Reads [x] c) (opens : classify x = .openBracket)
    (h : calculator registry parent m (r.goto c) =
      .error (.query ⟨.unknownFilter name suggestion, k⟩) s) :
    MeetsUnknown registry r name suggestion k ∧ s.diagnostics = r.diagnostics := by
  cases calculator_fails h with
  | operands fails =>
    have hscan : scan (Scan.operands registry []) (r.goto c) = .error _ (r.goto c) :=
      scan_eq_error_iff.mpr ⟨fails, rfl⟩
    rw [calculator, EStateM.bind_eq_error_iff.mpr (.inl hscan)] at h
    cases h
    exact ⟨.operand (step.trans next) opens fails, rfl⟩
  | check _ fails =>
    unfold checkOperands at fails
    split at fails <;> cases fails
  | clause _ _ fails =>
    exact absurd ⟨_, _, _, rfl⟩ (fails.isOf.not_isUnknownFilter fun _ _ => rfl)

end Reading

theorem TurnFails.meetsUnknown
    (h : TurnFails registry cluster r (.query ⟨.unknownFilter name suggestion, k⟩) s) :
    MeetsUnknown registry r name suggestion k ∧ s.diagnostics = r.diagnostics := by
  cases h with
  | attach step fails =>
    have he := (OpenCluster.attach_eq_error_iff.mp fails).2
    cases he
  | append adds fails =>
    have he := (OpenCluster.append_eq_error_iff.mp fails).2
    cases he
  | filter step starts fails => exact Reading.meetsUnknown_of_filter step starts fails
  | calculator step next opens fails =>
    exact Reading.meetsUnknown_of_calculator step next opens fails

theorem MeetsUnknown.reach_le (h : MeetsUnknown registry r name suggestion k) :
    r.cursor.reach ≤ k := by
  cases h with
  | filter _ _ _ _ place => exact place.ge
  | operand reads _ fails =>
    have hreach := reads.reach_eq
    have := Scan.reach_le_of_operands fails
    omega

/-- A name that is unknown is still ahead. -/
theorem ComesTo.reach_le
    (h : ComesTo registry (.query ⟨.unknownFilter name suggestion, k⟩) cluster r s)
    (hdepth : r.depth ≤ maxNestingDepth) : r.cursor.reach ≤ k := by
  induction h with
  | here fails => exact fails.meetsUnknown.1.reach_le
  | behind turns rest ih =>
    obtain ⟨text, -, hread, hsame⟩ := turns.reads hdepth
    have hreach := hread.reach_eq
    have := ih (hsame ▸ hdepth)
    omega
  | @inside _ r _ _ m step opens room rest ih =>
    have hreach := step.reach_eq
    have : m.reach ≤ k := ih (Nat.lt_of_le_of_ne hdepth room)
    omega

/-- Everything that has been noted is about characters in front of it. -/
theorem ComesTo.offset_lt {source : List Char}
    (h : ComesTo registry (.query ⟨.unknownFilter name suggestion, k⟩) cluster r s)
    (hr : Noted source r) : ∀ d ∈ s.diagnostics, d.offset < k := by
  induction h with
  | here fails =>
    obtain ⟨hmeets, hsame⟩ := fails.meetsUnknown
    intro d hd
    exact Nat.lt_of_lt_of_le (hr.offset_lt (hsame ▸ hd)) hmeets.reach_le
  | behind turns rest ih => exact ih (turns.lasts (lasting_noted source) hr)
  | inside step opens room rest ih =>
    exact ih ((lasting_noted source).same (hr.goto step) rfl rfl)

theorem endsSearch_of_startsFilter {a : Char} (h : startsFilter a) : endsSearch a = false := by
  simp only [startsFilter, endsSearch, connector?] at h ⊢
  cases hclass : classify a <;> simp_all

/-- A search that has come to the place does not end there. -/
theorem ComesTo.endsSearch_eq_false
    (h : ComesTo registry (.query ⟨.unknownFilter name suggestion, k⟩) cluster r s)
    (hdepth : r.depth ≤ maxNestingDepth) (hr : r.cursor.Before [] t k) :
    ∀ a v, t = a :: v → endsSearch a = false := by
  rintro a v rfl
  have hplace : k = r.cursor.reach := hr.place
  have hafter : r.cursor.after = a :: v := hr.after
  cases h with
  | here fails =>
    cases fails.meetsUnknown.1 with
    | filter _ starts => exact endsSearch_of_startsFilter (starts a v hafter)
    | operand reads =>
      obtain ⟨rfl, -⟩ := List.cons.inj (hafter.symm.trans reads.after)
      decide
  | behind turns rest =>
    obtain ⟨text, hne, hread, hsame⟩ := turns.reads hdepth
    exact absurd (hread.beyond hne hplace.symm) (rest.reach_le (hsame ▸ hdepth)).not_gt
  | @inside _ _ _ _ m step opens room rest =>
    exact absurd (step.beyond (by simp) hplace.symm)
      (rest.reach_le (Nat.lt_of_le_of_ne hdepth room)).not_gt

/-! ## With another name -/

namespace Reading

theorem endsIn_body_of_name (hnew : registry.Spells other kind)
    (hafter : n.cursor.after = other.toList ++ y :: t) (hy : isIdentifierChar y = false)
    (hclose : classify y ≠ .closeBracket) (hplace : n.cursor.reach = k)
    (hbound : n.cursor.remaining ≤ bound) :
    EndsIn (RefusedLater k n.diagnostics) (Past k n.diagnostics)
      (body registry bound cluster n) := by
  have hpast := lasting_past k n.diagnostics
  have hsplit : n.cursor.after = (other.toList ++ [y]) ++ t := by simp [hafter]
  obtain ⟨d, hd, -⟩ := Cursor.exists_reads hsplit
  obtain rfl := hd.current_eq
  obtain ⟨a, u, hother⟩ := List.exists_cons_of_ne_nil hnew.nonempty
  obtain ⟨m, hm, -⟩ := Cursor.reads_cons.mp
    (show n.cursor.Reads (a :: (u ++ [d.current])) d by simpa [hother] using hd)
  obtain rfl := hm.current_eq_of_step
  have hfirst : isIdentifierChar m.current := hnew.letters _ (by simp [hother])
  obtain ⟨b, rfl, -⟩ := exists_bound_succ hm (by simp) hbound
  have hname := Scan.identifier_of_reads hnew.letters hy hclose hd
  rw [String.ofList_toList] at hname
  obtain ⟨m', hm', hfilter⟩ := filter_of_identifier_ok (r := n.goto m) hm hname
  have hreached : Past k n.diagnostics (n.goto m') :=
    ⟨hm'.beyond hnew.nonempty hplace, .refl _ _⟩
  rw [body_filter hm (startsFilter_of_isIdentifierChar hfirst)]
  refine endsIn_bind ?_ fun node => ensures_append hpast (ensures_body hpast b) cluster _ _
  rw [hfilter registry, hnew.lookup]
  exact ensures_clause hpast other _ _ hreached

theorem endsIn_body_of_operands (hc : n.cursor.Reads ['#', x] c) (hopen : classify x = .openBracket)
    (hoperands : Scan.EndsBeyond k (Scan.operands registry [] c))
    (hbound : n.cursor.remaining ≤ bound) :
    EndsIn (RefusedLater k n.diagnostics) (Past k n.diagnostics)
      (body registry bound cluster n) := by
  have hpast := lasting_past k n.diagnostics
  obtain ⟨m, hm, hnext⟩ := Cursor.reads_cons.mp hc
  obtain ⟨b, rfl, -⟩ := exists_bound_succ hm (by simp) hbound
  rw [body_sharp_step hm hnext, if_pos hopen]
  refine endsIn_bind ?_ fun node => ensures_append hpast (ensures_body hpast b) cluster _ _
  refine endsIn_bind ?_ fun newest => ensures_behind_operands hpast cluster.id m newest
  rw [scan, Reader.cursor_goto]
  cases hscan : Scan.operands registry [] c with
  | ok result =>
    rw [hscan] at hoperands
    exact Past.mk hoperands (.refl _ _)
  | error e =>
    rw [hscan] at hoperands
    exact RefusedLater.mk hoperands (.refl _ _)

end Reading

/-- At the turn that has met the unknown name. -/
theorem MeetsUnknown.endsIn_body (h : MeetsUnknown registry r name suggestion k)
    (hr : r.cursor.Before mid (name.toList ++ rest) k) (hnew : registry.Spells other kind)
    (hbound : (r.onto (mid ++ (other.toList ++ rest))).cursor.remaining ≤ bound) :
    EndsIn (RefusedLater k r.diagnostics) (Past k r.diagnostics)
      (Reading.body registry bound cluster (r.onto (mid ++ (other.toList ++ rest)))) := by
  cases h with
  | @filter d reads starts ends goes_on place =>
    obtain rfl := hr.eq_nil place.le
    obtain rfl : rest = d.current :: d.after := by
      have hafter := hr.after.symm.trans reads.after
      simpa using hafter
    exact Reading.endsIn_body_of_name hnew rfl ends goes_on place.symm hbound
  | @operand x c reads opens fails =>
    obtain ⟨u, hmid, hc⟩ := (reads.before_or_beyond hr).resolve_right
      (Scan.reach_le_of_operands fails).not_gt
    exact Reading.endsIn_body_of_operands (reads.onto hmid _) opens
      (Scan.operands_respelled hc fails hnew) hbound

/-- The loop that comes to an unknown name goes the same way to the other one. -/
theorem ComesTo.endsIn_body
    (h : ComesTo registry (.query ⟨.unknownFilter name suggestion, k⟩) cluster r s)
    (hr : r.cursor.Before mid (name.toList ++ rest) k) (hdepth : r.depth ≤ maxNestingDepth)
    (hnew : registry.Spells other kind)
    (hbound : (r.onto (mid ++ (other.toList ++ rest))).cursor.remaining ≤ bound) :
    EndsIn (RefusedLater k s.diagnostics) (Past k s.diagnostics)
      (Reading.body registry bound cluster (r.onto (mid ++ (other.toList ++ rest)))) := by
  induction h generalizing mid bound with
  | here fails =>
    obtain ⟨hmeets, hsame⟩ := fails.meetsUnknown
    rw [hsame]
    exact hmeets.endsIn_body hr hnew hbound
  | @behind cluster cluster' r r' s turns onward ih =>
    obtain ⟨text, -, hread, hsame⟩ := turns.reads hdepth
    have hdepth' : r'.depth ≤ maxNestingDepth := hsame ▸ hdepth
    have hplace (hat : r'.cursor.after = name.toList ++ rest) :=
      onward.endsSearch_eq_false hdepth' (hread.before_nil hr hat)
    obtain ⟨u, hr', hturns⟩ := (turns.onto hr hdepth hplace (other.toList ++ rest)).resolve_right
      (onward.reach_le hdepth').not_gt
    obtain ⟨bound', hbound', hbody⟩ := Reading.body_of_turns hturns hdepth hbound
    rw [hbody]
    exact ih hr' hdepth' hbound'
  | @inside cluster r s x m step opens room onward ih =>
    have hpast := lasting_past k s.diagnostics
    obtain ⟨u, hmid, hm⟩ := (step.before_or_beyond hr).resolve_right
      (onward.reach_le (Nat.lt_of_le_of_ne hdepth room)).not_gt
    have hstep := step.onto hmid (other.toList ++ rest)
    obtain ⟨b, rfl, hb⟩ := Reading.exists_bound_succ hstep (by simp) hbound
    rw [Reading.body_open hstep opens]
    refine Reading.endsIn_bind ?_ fun child =>
      Reading.ensures_append hpast (Reading.ensures_body hpast b) cluster _ _
    exact Reading.endsIn_nested room (ih hm (Nat.lt_of_le_of_ne hdepth room) hb) fun hs =>
      hpast.same hs rfl rfl

end

/-! ## Compilations -/

section

variable {registry : Registry} {name other front rest : String} {suggestion : Option String}
  {kind : Kind} {k : Nat}

/-- With the unknown name replaced by one that is known, a text is reported the same up to its
place, and no name is unknown there. -/
theorem compile_respelled
    (h : (compile registry (front ++ name ++ rest)).outcome =
      .error (.query ⟨.unknownFilter name suggestion, k⟩))
    (hplace : utf8Length front.toList = k) (hnew : registry.Spells other kind) :
    (∀ d ∈ (compile registry (front ++ name ++ rest)).diagnostics, d.offset < k) ∧
      GoesOn k (compile registry (front ++ name ++ rest)).diagnostics
        (compile registry (front ++ other ++ rest)).diagnostics ∧
      ∀ e, (compile registry (front ++ other ++ rest)).outcome = .error e → e.KnownUpTo k := by
  obtain ⟨x, t, htext, ⟨hroot, -⟩ | ⟨c, s, hroot, hcomes, hdiagnostics⟩⟩ := comesTo_of_compile h
  · have hends := Scan.root_ends ⟨[], x, t⟩
    rw [hroot] at hends
    cases hends
  obtain ⟨text, hpassed, hcursor, hagain⟩ := Scan.root_onto hroot
  have hdepth : (Reader.enter ⟨c, 0, 0, []⟩).depth ≤ maxNestingDepth :=
    show 1 ≤ maxNestingDepth by decide
  have hsource : c.source = front.toList ++ (name.toList ++ rest.toList) := by
    rw [hcursor, ← htext]
    simp
  obtain ⟨mid, hfront, hc⟩ := Cursor.exists_before hsource hplace (hcomes.reach_le hdepth)
  have htext' : (front ++ other ++ rest).toList =
      x :: (text ++ (mid ++ (other.toList ++ rest.toList))) := by
    simp [hfront, hpassed]
  have hbody := hcomes.endsIn_body hc hdepth hnew (Nat.le_refl _)
  have hcluster : EndsIn (RefusedLater k s.diagnostics) (Past k s.diagnostics)
      (Reading.cluster registry ⟨c.onto (mid ++ (other.toList ++ rest.toList)), 0, 0, []⟩) :=
    Reading.endsIn_nested (show 0 ≠ maxNestingDepth by decide) hbody fun hs =>
      (lasting_past _ _).same hs rfl rfl
  have hnoted : Noted c.source (Reader.enter ⟨c, 0, 0, []⟩) := ⟨rfl, List.nil_sublist _⟩
  rw [hdiagnostics]
  refine ⟨hcomes.offset_lt hnoted, ?_⟩
  simp only [compile_of_cons htext', compileFrom, hagain]
  revert hcluster
  cases Reading.cluster registry ⟨c.onto (mid ++ (other.toList ++ rest.toList)), 0, 0, []⟩ with
  | ok root r => exact fun hpast => ⟨hpast.goes_on, fun e he => by cases he⟩
  | error e r =>
    refine fun hrefused => ⟨hrefused.goes_on, fun e' he => ?_⟩
    cases he
    exact hrefused.known

end

theorem FilterSet.Nameable.exists_spells {set : FilterSet} {x : String} (h : set.Nameable)
    (hx : set.get? x ≠ none) : ∃ kind, set.registry.Spells x kind := by
  obtain ⟨f, hf⟩ := Option.ne_none_iff_exists'.mp hx
  obtain ⟨hmem, rfl⟩ := FilterSet.get?_eq_some_iff.mp hf
  obtain ⟨hne, hletters⟩ := h f hmem
  exact ⟨f.kind, hletters, mt String.toList_eq_nil_iff.mp hne, by simp [registry, hf]⟩

/-- A suggestion that is put in the place of the unknown identifier is registered. What has
been reported before that place is reported again, and if an identifier is unknown now, then
at a later place. -/
theorem suggestion_resolves (set : FilterSet) (hset : set.Nameable)
    (source front identifier rest x : String) (offset : Nat)
    (h : (compile set.registry source).outcome =
      .error (.query ⟨.unknownFilter identifier (some x), offset⟩))
    (hsource : source = front ++ identifier ++ rest) (hplace : utf8Length front.toList = offset) :
    set.get? x ≠ none ∧
      (compile set.registry (front ++ x ++ rest)).diagnostics.filter (·.offset < offset) =
        (compile set.registry source).diagnostics ∧
      ∀ identifier' suggestion' offset',
        (compile set.registry (front ++ x ++ rest)).outcome =
          .error (.query ⟨.unknownFilter identifier' suggestion', offset'⟩) → offset < offset' := by
  subst hsource
  have hsuggested := (lookup_of_compile_unknownFilter h).2.symm
  have hx := (FilterSet.suggest_eq_some_iff.mp hsuggested).1.registered
  obtain ⟨kind, hspells⟩ := hset.exists_spells hx
  obtain ⟨hbefore, ⟨later, hlater, hbehind⟩, hknown⟩ := compile_respelled h hplace hspells
  refine ⟨hx, ?_, fun identifier' suggestion' offset' he => hknown _ he _ _ _ rfl⟩
  have hkeep : (compile set.registry (front ++ identifier ++ rest)).diagnostics.filter
      (·.offset < offset) = (compile set.registry (front ++ identifier ++ rest)).diagnostics :=
    List.filter_eq_self.mpr fun d hd => by simpa using hbefore d hd
  have hdrop : later.filter (·.offset < offset) = [] :=
    List.filter_eq_nil_iff.mpr fun d hd => by simpa using hbehind d hd
  rw [hlater, List.filter_append, hkeep, hdrop, List.append_nil]

/-- A character that has been passed over before the unknown identifier is reported again. -/
theorem suggestion_resolves_text :
    let front := "\x7bfavorite_count>\"1\"x&"
    FilterSet.builtin.Nameable ∧
      (compile FilterSet.builtin.registry (front ++ "txt" ++ ":\"a\"\x7d")) =
        ⟨.error (.query ⟨.unknownFilter "txt" (some "text"), 21⟩),
          [.unexpectedCharacter 'x' 19]⟩ ∧
      utf8Length front.toList = 21 ∧
      (compile FilterSet.builtin.registry (front ++ "text" ++ ":\"a\"\x7d")).diagnostics.filter
        (·.offset < 21) = [.unexpectedCharacter 'x' 19] := by
  have h : compile FilterSet.builtin.registry
      ("\x7bfavorite_count>\"1\"x&" ++ "txt" ++ ":\"a\"\x7d") =
      ⟨.error (.query ⟨.unknownFilter "txt" (some "text"), 21⟩),
        [.unexpectedCharacter 'x' 19]⟩ := by cbv
  have houtcome := congrArg Compilation.outcome h
  have hresolves := suggestion_resolves _ FilterSet.nameable_builtin _ _ _ _ _ _ houtcome rfl
    (by decide)
  refine ⟨FilterSet.nameable_builtin, h, by decide, hresolves.2.1.trans ?_⟩
  rw [h]

end FilterQuery
