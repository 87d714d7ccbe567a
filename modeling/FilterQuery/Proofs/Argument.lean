import FilterQuery.Filter.Set
import FilterQuery.Proofs.Failures
import FilterQuery.Proofs.Sites

/-!
# What an argument is

An argument should be what stands between its quotes. The scan of an argument
has one more source: an escape counts from the comparison on, also in front of
the quote that opens the argument. So an argument is the text between its quotes
exactly if no backslash stands in the gap before them, and the same holds of the
mark that says whether an unfinished argument has any content
(`captured_eq_decode_iff`, `captured_ne_nil_iff`).

For the unfinished ones the text has to be read off an error. Only the scan of
an argument raises that error, and what it has read by then is cut like a site:
into the gap, the inner text, and a rest with which no argument goes on.
-/

namespace FilterQuery

open Grammar

/-! ## Gaps with and without escapes -/

theorem escapes_eq_nil_iff {t : List Char} (h : bare t) : escapes t = [] ↔ '\\' ∉ t := by
  fun_induction bare t with
  | case1 => simp [escapes]
  | case2 x t ih => simp [escapes]
  | case3 c t _ ih =>
    obtain ⟨hescape, -, -, ht⟩ := of_bare_cons h
    have hc : '\\' ≠ c := fun hc => hescape (classify_eq_escape.mpr hc.symm)
    rw [escapes_cons hescape, ih ht]
    simp [hc]

namespace Site

theorem captured_eq_decode_iff (site : Site) :
    site.captured = decode site.inner ↔ '\\' ∉ site.gap := by
  rw [← escapes_eq_nil_iff site.gap_bare, captured]
  simp

theorem captured_ne_nil_iff (site : Site) :
    (site.captured ≠ [] ↔ decode site.inner ≠ []) ↔
      '\\' ∉ site.gap ∨ decode site.inner ≠ [] := by
  rw [← escapes_eq_nil_iff site.gap_bare, captured]
  by_cases hgap : escapes site.gap = [] <;> by_cases hinner : decode site.inner = [] <;>
    simp [hgap, hinner]

end Site

/-! ## The error of an unfinished argument -/

/-- The error of an argument that is opened and not closed. -/
def Unterminates (e : CompileError) : Prop :=
  ∃ name captured offset, e = .query ⟨.unterminatedArgument name captured, offset⟩

namespace Scan

variable {c : Cursor} {e : CompileError} {registry : Registry}

theorem not_unterminates_resolve {identifier : String}
    (h : resolve registry identifier c = .error e) : ¬ Unterminates e := by
  unfold resolve at h
  split at h <;> cases h
  simp [Unterminates, errorAt]

theorem not_unterminates_identifier (h : identifier "" c = .error e) : ¬ Unterminates e := by
  have hends := identifier_ends c
  rw [h] at hends
  cases hends <;> simp [Unterminates, errorAt]

theorem not_unterminates_comparison {filter : String} (h : comparison filter c = .error e) :
    ¬ Unterminates e := by
  have hends := comparison_ends filter c
  rw [h] at hends
  cases hends <;> simp [Unterminates, errorAt]

theorem not_unterminates_connector {ds : List Diagnostic} (h : connector c = (ds, .error e)) :
    ¬ Unterminates e := by
  have hends := connector_ends c
  rw [h] at hends
  cases hends
  simp [Unterminates, errorAt]

theorem not_unterminates_root (h : root c = .error e) : ¬ Unterminates e := by
  have hends := root_ends c
  rw [h] at hends
  cases hends <;> simp [Unterminates, errorAt]

theorem not_unterminates_operands (h : operands registry [] c = .error e) :
    ¬ Unterminates e := by
  cases operands_fail h with
  | cut => simp [Unterminates, errorAt]
  | operand _ _ _ _ _ hends =>
    cases hends with
    | parts hparts => cases hparts <;> simp [Unterminates, errorAt]
    | malformed | unregistered | textual => simp [Unterminates, errorAt]

end Scan

/-- The argument of `name` that is opened at this site of `source` is not closed: what
follows the inner text ends the scan. The scan has looked at one character of
that, if there is one; the error stands at the last character it has looked at. -/
def Site.BreaksOff (site : Site) (source : List Char) (name : String) (offset : Nat) : Prop :=
  ∃ rest, source = site.opened ++ rest ∧ Scan.Stops rest ∧
    (site.Follows name.toList ∨
      name = Reading.calculatorName ∧ ∃ closing : Closing, site.Follows [closing.val]) ∧
    ∃ t x, site.opened ++ rest.take 1 = t ++ [x] ∧ offset = utf8Length t

/-- The error of an unfinished argument, from the clause it stands in. -/
theorem breaksOff_of_argument {p c d : Cursor} {word : List Char} {filter : String}
    {k : Comparison} {e : CompileError} (hword : p.Reads word c)
    (hfilter : word = filter.toList ∨
      filter = Reading.calculatorName ∧ ∃ closing : Closing, word = [closing.val])
    (hk : Scan.comparison filter c = .ok (k, d))
    (harg : Scan.argument filter false "" d = .error e) {name : String} {captured : Bool}
    {offset : Nat} (he : e = .query ⟨.unterminatedArgument name captured, offset⟩) :
    ∃ site : Site, site.BreaksOff p.source name offset ∧ captured = !site.captured.isEmpty := by
  have hcomparison := Scan.comparison_ends filter c
  rw [hk] at hcomparison
  have hargument := Scan.argument_ends filter d
  rw [harg, he] at hargument
  cases hcomparison with
  | @found blanks _ _ _ hsymbol hblanks =>
  cases hargument with
  | @unterminated gap inner m e hread hgap hinner hstops hnext =>
  -- the three walks are the word, the comparison, and the argument as far as it goes
  have hwhole := (hword.trans hsymbol).trans hread
  refine ⟨⟨p.passed.reverse ++ word ++ blanks, k, gap, inner, hgap, hinner⟩,
    ⟨m.after, ?_, hstops, ?_, e.before.reverse, e.current, ?_, ?_⟩, rfl⟩
  · rw [hwhole.source_eq_append]
    simp [Site.opened]
  · rcases hfilter with rfl | ⟨hname, closing, rfl⟩
    · exact .inl ⟨p.passed.reverse, blanks, hblanks, rfl⟩
    · exact .inr ⟨hname, closing, p.passed.reverse, blanks, hblanks, rfl⟩
  · have hpassed := (hwhole.trans hnext).passed_reverse
    rw [Cursor.passed, List.reverse_cons] at hpassed
    rw [hpassed]
    simp [Site.opened]
  · rw [utf8Length_reverse]
    rfl

/-- If an error is that of an unfinished argument, then there is one in `source`. -/
def Explained (source : List Char) (e : CompileError) : Prop :=
  ∀ (name : String) (captured : Bool) (offset : Nat),
    e = .query ⟨.unterminatedArgument name captured, offset⟩ →
    ∃ site : Site, site.BreaksOff source name offset ∧ captured = !site.captured.isEmpty

theorem explained_of_not {source : List Char} {e : CompileError} (h : ¬ Unterminates e) :
    Explained source e :=
  fun _ _ _ he => absurd ⟨_, _, _, he⟩ h

namespace Reading

variable {registry : Registry} {e : CompileError} {filter : String} {p start c : Cursor}

/-- In the clause of a filter or calculator only the argument may be unfinished. -/
theorem ClauseFails.explained {word : List Char} (h : ClauseFails filter c e)
    (hword : p.Reads word c)
    (hfilter : word = filter.toList ∨
      filter = calculatorName ∧ ∃ closing : Closing, word = [closing.val]) :
    Explained p.source e := by
  cases h with
  | comparison h => exact explained_of_not (Scan.not_unterminates_comparison h)
  | argument hk h => exact fun _ _ _ he => breaksOff_of_argument hword hfilter hk h he
  | connector _ _ h => exact explained_of_not (Scan.not_unterminates_connector h)

theorem FilterFails.explained (h : FilterFails registry p start e) : Explained p.source e := by
  cases h with
  | identifier h => exact explained_of_not (Scan.not_unterminates_identifier h)
  | resolve _ _ h => exact explained_of_not (Scan.not_unterminates_resolve h)
  | clause hword _ h => exact h.explained hword (.inl rfl)

theorem CalculatorFails.explained (h : CalculatorFails registry start c e) :
    Explained c.source e := by
  cases h with
  | operands h => exact explained_of_not (Scan.not_unterminates_operands h)
  | check _ h =>
    unfold checkOperands at h
    split at h <;> cases h <;> exact explained_of_not (by simp [Unterminates, Scan.errorAt])
  | @clause sum _ hsum _ h =>
    obtain ⟨t, closing, htext⟩ := sum.exists_text_eq
    obtain ⟨p, hp, hword⟩ := Cursor.reads_append.mp (htext ▸ hsum)
    rw [← hp.source_eq]
    exact h.explained hword (.inr ⟨rfl, closing, rfl⟩)

end Reading

theorem raises_explained (registry : Registry) (source : List Char) :
    Raises registry source (Explained source) where
  root _ _ h := explained_of_not (Scan.not_unterminates_root h)
  unterminated _ _ := explained_of_not (by simp [Unterminates, Scan.errorAt])
  nesting _ _ := explained_of_not (by simp [Unterminates, Scan.errorAt])
  missing _ _ := explained_of_not (by simp [Unterminates, Scan.errorAt])
  dangling _ _ := explained_of_not (by simp [Unterminates, Scan.errorAt])
  filter hp hsource _ h := by
    rw [← hsource, hp.source_eq]
    exact (Reading.filter_fails hp h).explained
  calculator hsource _ _ _ h := by
    rw [← hsource]
    exact (Reading.calculator_fails h).explained

/-! ## Arguments and their texts -/

/-- The leaves of a query have their arguments from `source`, one site each, in
order. Such an argument is the text between its quotes exactly if no backslash
stands between the comparison and the first of them. -/
def ArgumentsIn (source : List Char) (leaves : List Node) : Prop :=
  ∃ sites : List Site,
    (∀ site ∈ sites, ∃ after, source = site.opened ++ '"' :: after) ∧
    sites.Pairwise (fun s t => s.opened.length < t.head.length) ∧
    List.Forall₂ (fun leaf site => site.Holds leaf ∧
      (leaf.argument? = some (String.ofList (decode site.inner)) ↔ '\\' ∉ site.gap))
      leaves sites

/-- An argument of `name` breaks off in `source`. Whether it counts as captured is a
matter of its inner text exactly if there is something in that, or no backslash
between the comparison and the quote. -/
def UnfinishedIn (source : List Char) (name : String) (captured : Bool) (offset : Nat) :
    Prop :=
  ∃ site : Site, site.BreaksOff source name offset ∧
    (captured = true ↔ site.captured ≠ []) ∧
    ((captured = true ↔ decode site.inner ≠ []) ↔
      '\\' ∉ site.gap ∨ decode site.inner ≠ [])

theorem Site.Holds.argument_iff {site : Site} {leaf : Node} (h : site.Holds leaf) :
    leaf.argument? = some (String.ofList (decode site.inner)) ↔ '\\' ∉ site.gap := by
  rw [← site.captured_eq_decode_iff]
  cases leaf with
  | filter reference =>
    rw [← h.2.2, Node.argument?, Option.some.injEq, ← String.toList_inj, String.toList_ofList]
  | calculator sum =>
    rw [← h.2.2, Node.argument?, Option.some.injEq, ← String.toList_inj, String.toList_ofList]
  | cluster id parent children connector => exact h.elim

/-- Where the arguments of accepted texts and of unfinished ones come from. -/
theorem arguments_of_compile (registry : Registry) (source : String) :
    (∀ q ds, compile registry source = ⟨.ok (some q), ds⟩ →
      ArgumentsIn source.toList (leavesOf q.nodes)) ∧
    ∀ name captured offset, (compile registry source).outcome =
      .error (.query ⟨.unterminatedArgument name captured, offset⟩) →
      UnfinishedIn source.toList name captured offset := by
  constructor
  · intro q ds h
    obtain ⟨sites, hsource, hordered, hholds⟩ := exists_sites_of_compile h
    exact ⟨sites, hsource, hordered, hholds.imp fun leaf site h => ⟨h, h.argument_iff⟩⟩
  · intro name captured offset h
    obtain ⟨site, hbreaks, rfl⟩ :=
      (raises_explained registry source.toList).of_compile h name captured offset rfl
    have hcaptured : (!site.captured.isEmpty) = true ↔ site.captured ≠ [] := by simp
    refine ⟨site, hbreaks, hcaptured, ?_⟩
    rw [hcaptured]
    exact site.captured_ne_nil_iff

/-- The escape stands in front of the quote, and counts. -/
theorem compile_escape_in_gap :
    compile FilterSet.builtin.registry "\x7btext: \\x\"y\"\x7d" =
      ⟨.ok (some ⟨[.filter ⟨"text", .text, .includes, "xy", none⟩]⟩), []⟩ := by cbv

/-- Texts with an escape in the gap, one accepted and one unfinished. -/
theorem arguments_of_compile_escape_in_gap :
    let accepted := "\x7btext: \\x\"y\"\x7d"
    let unfinished := "\x7btext: \\x\""
    let leaf : Node := .filter ⟨"text", .text, .includes, "xy", none⟩
    compile FilterSet.builtin.registry accepted = ⟨.ok (some ⟨[leaf]⟩), []⟩ ∧
      ArgumentsIn accepted.toList [leaf] ∧
      (compile FilterSet.builtin.registry unfinished).outcome =
        .error (.query ⟨.unterminatedArgument "text" true, 9⟩) ∧
      UnfinishedIn unfinished.toList "text" true 9 := by
  intro accepted unfinished leaf
  have hunfinished : (compile FilterSet.builtin.registry unfinished).outcome =
      .error (.query ⟨.unterminatedArgument "text" true, 9⟩) := by cbv
  exact ⟨compile_escape_in_gap,
    (arguments_of_compile FilterSet.builtin.registry accepted).1 _ _ compile_escape_in_gap,
    hunfinished,
    (arguments_of_compile FilterSet.builtin.registry unfinished).2 _ _ _ hunfinished⟩

/-- Between its quotes this argument has one letter, and it gets two. -/
theorem argument_ne_decode :
    let source := "\x7btext: \\x\"y\"\x7d"
    let reference : FilterReference := ⟨"text", .text, .includes, "xy", none⟩
    compile FilterSet.builtin.registry source = ⟨.ok (some ⟨[.filter reference]⟩), []⟩ ∧
      source.toList = "\x7btext: \\x".toList ++ '"' :: ['y'] ++ '"' :: ['}'] ∧
      reference.argument.toList ≠ decode ['y'] := by
  refine ⟨compile_escape_in_gap, by decide, by decide⟩

end FilterQuery
