import FilterQuery.Proofs.Language
import FilterQuery.Proofs.Tree

/-!
# Where the arguments of a query stand

An argument is written behind a comparison, between two quotes. A `Site` is such
a place of a text: it is cut at the comparison, at the quote that opens the
argument and at the end of what may be read of it. The cuts are not a matter of
choice. Gap and inner text are `bare`, so the quotes that bound the inner text
are the first two behind the comparison that no backslash precedes.

An accepted text has one site for each filter and calculator, in the order of
the tree (`exists_sites_of_compile`), and each argument is what its site
captures: the escapes of the gap, and then the inner text.
-/

namespace FilterQuery

open Grammar

/-- A place of a text where an argument is written. -/
structure Site where
  /-- The text up to the comparison. -/
  head : List Char
  comparison : Comparison
  /-- What stands between the comparison and the quote that opens the argument. -/
  gap : List Char
  /-- What is read of the argument. -/
  inner : List Char
  gap_bare : bare gap
  inner_bare : bare inner

namespace Site

/-- The text up to the end of what is read of the argument. -/
def opened (site : Site) : List Char :=
  site.head ++ site.comparison.symbol.toList ++ site.gap ++ '"' :: site.inner

/-- What the scan of the argument captures. -/
def captured (site : Site) : List Char :=
  escapes site.gap ++ decode site.inner

/-- The comparison follows a word, blanks aside. -/
def Follows (site : Site) (word : List Char) : Prop :=
  ∃ lead blanks, Blanks blanks ∧ site.head = lead ++ word ++ blanks

/-- The leaf of a query is what the site stands for: a filter with the name before
the comparison, or a calculator whose operands end there. -/
def Holds (site : Site) : Node → Prop
  | .filter reference =>
    site.Follows reference.identifier.toList ∧ reference.comparison = site.comparison ∧
      reference.argument.toList = site.captured
  | .calculator sum =>
    (∃ closing : Closing, site.Follows [closing.val]) ∧ sum.comparison = site.comparison ∧
      sum.argument.toList = site.captured
  | .cluster _ _ _ _ => False

/-- The site lies in the text `t` that follows `before`, with both quotes. -/
def Lies (site : Site) (before t : List Char) : Prop :=
  before.length ≤ site.head.length ∧ ∃ after, before ++ t = site.opened ++ '"' :: after

namespace Lies

variable {site site' : Site} {before s t : List Char}

theorem shift (h : site.Lies (before ++ s) t) : site.Lies before (s ++ t) := by
  obtain ⟨hlength, after, htext⟩ := h
  rw [List.length_append] at hlength
  rw [List.append_assoc] at htext
  exact ⟨by omega, after, htext⟩

theorem append (h : site.Lies before s) (t : List Char) : site.Lies before (s ++ t) := by
  obtain ⟨hlength, after, htext⟩ := h
  refine ⟨hlength, after ++ t, ?_⟩
  rw [← List.append_assoc, htext, List.append_assoc, List.cons_append]

/-- Sites of consecutive texts do not overlap. -/
theorem opened_lt (h : site.Lies before s) (h' : site'.Lies (before ++ s) t) :
    site.opened.length < site'.head.length := by
  obtain ⟨-, after, htext⟩ := h
  obtain ⟨hlength, -⟩ := h'
  rw [htext] at hlength
  simp only [List.length_append, List.length_cons] at hlength
  omega

end Lies

end Site

namespace Grammar

theorem Sum.exists_text_eq (sum : Sum) :
    ∃ (t : List Char) (closing : Closing), sum.text = t ++ [closing.val] := by
  induction sum with
  | dropped c rest ih =>
    obtain ⟨t, closing, h⟩ := ih
    exact ⟨c.val :: t, closing, by rw [Sum.text, h, List.cons_append]⟩
  | last term closing => exact ⟨term.text, closing, rfl⟩
  | more term k rest ih =>
    obtain ⟨t, closing, h⟩ := ih
    exact ⟨term.text ++ k.symbol :: t, closing, by simp [Sum.text, h]⟩

namespace Clause

variable {clause : Clause}

/-- The site of a clause that follows `before`. -/
def site (before : List Char) (clause : Clause) : Site where
  head := before ++ clause.blanks
  comparison := clause.comparison
  gap := clause.gap
  inner := clause.inner
  gap_bare := clause.gap_bare
  inner_bare := clause.inner_bare

theorem lies_site (before word : List Char) :
    (clause.site (before ++ word)).Lies before (word ++ clause.text) := by
  refine ⟨?_, clause.skipped, ?_⟩
  · simp only [site, List.length_append]
    omega
  · simp [site, Site.opened, text, front]

theorem argument_toList (before : List Char) :
    clause.argument.toList = (clause.site before).captured := by
  simp [argument, site, Site.captured]

theorem follows_site (lead word : List Char) :
    (clause.site (lead ++ word)).Follows word :=
  ⟨lead, clause.blanks, clause.blanks_blank, rfl⟩

end Clause

namespace Body

/-- The sites of a body that follows `before`, in the order of the text. -/
def sites (before : List Char) : Body → List Site
  | done => []
  | blank c rest => rest.sites (before ++ [c.val])
  | pair c rest => rest.sites (before ++ ['#', c.val])
  | connector k rest => rest.sites (before ++ [k.symbol])
  | filter name _ clause rest =>
    clause.site (before ++ name.val.toList) ::
      rest.sites (before ++ (name.val.toList ++ clause.text))
  | calculator opening sum clause rest =>
    clause.site (before ++ '#' :: opening.val :: sum.text) ::
      rest.sites (before ++ ('#' :: opening.val :: sum.text ++ clause.text))
  | cluster opening inner closing rest =>
    inner.sites (before ++ [opening.val]) ++
      rest.sites (before ++ opening.val :: (inner.text ++ [closing.val]))

/-- The sites are places of the body's text. -/
theorem lies_of_mem_sites {b : Body} {before : List Char} {site : Site}
    (h : site ∈ b.sites before) : site.Lies before b.text := by
  induction b generalizing before with
  | done => cases h
  | blank c rest ih => exact (ih h).shift
  | pair c rest ih => exact (ih h).shift
  | connector k rest ih => exact (ih h).shift
  | filter name kind clause rest ih =>
    rcases List.mem_cons.mp h with rfl | h
    · exact (clause.lies_site before name.val.toList).append rest.text
    · exact (ih h).shift
  | calculator opening sum clause rest ih =>
    rcases List.mem_cons.mp h with rfl | h
    · exact (clause.lies_site before ('#' :: opening.val :: sum.text)).append rest.text
    · exact (ih h).shift
  | cluster opening inner closing rest ih_inner ih =>
    rw [text, List.append_cons]
    rcases List.mem_append.mp h with h | h
    · exact ((ih_inner h).shift.append [closing.val]).append rest.text
    · exact (ih h).shift

/-- The sites follow one another. -/
theorem pairwise_sites {b : Body} {before : List Char} :
    (b.sites before).Pairwise fun s t => s.opened.length < t.head.length := by
  induction b generalizing before with
  | done => exact .nil
  | blank c rest ih => exact ih
  | pair c rest ih => exact ih
  | connector k rest ih => exact ih
  | filter name kind clause rest ih =>
    refine List.pairwise_cons.mpr ⟨fun site hsite => ?_, ih⟩
    exact (clause.lies_site before name.val.toList).opened_lt (lies_of_mem_sites hsite)
  | calculator opening sum clause rest ih =>
    refine List.pairwise_cons.mpr ⟨fun site hsite => ?_, ih⟩
    exact (clause.lies_site before ('#' :: opening.val :: sum.text)).opened_lt
      (lies_of_mem_sites hsite)
  | cluster opening inner closing rest ih_inner ih =>
    -- a site inside the cluster ends before the bracket that closes it
    refine List.pairwise_append.mpr ⟨ih_inner, ih, fun site hsite site' hsite' => ?_⟩
    have hinner := (lies_of_mem_sites hsite).shift.append [closing.val]
    exact hinner.opened_lt (lies_of_mem_sites hsite')

/-- The sites are those of the leaves, in the same order. -/
theorem forall₂_sites {b : Body} {id next : Nat} {before : List Char} :
    List.Forall₂ (fun leaf site => site.Holds leaf) (leavesOf (b.nodes id next))
      (b.sites before) := by
  induction b generalizing id next before with
  | done => exact .nil
  | blank c rest ih => exact ih
  | pair c rest ih => exact ih
  | connector k rest ih => exact ih
  | filter name kind clause rest ih =>
    exact .cons ⟨clause.follows_site before name.val.toList, rfl,
      clause.argument_toList _⟩ ih
  | calculator opening sum clause rest ih =>
    obtain ⟨t, closing, htext⟩ := sum.exists_text_eq
    refine .cons ⟨⟨closing, ?_⟩, rfl, clause.argument_toList _⟩ ih
    rw [htext, ← List.cons_append, ← List.cons_append, ← List.append_assoc]
    exact clause.follows_site _ [closing.val]
  | cluster opening inner closing rest ih_inner ih =>
    exact List.rel_append ih_inner ih

end Body

end Grammar

/-- The arguments of an accepted query stand in the text, each in a site of its
own. -/
theorem exists_sites_of_compile {registry : Registry} {source : String} {q : Query}
    {ds : List Diagnostic} (h : compile registry source = ⟨.ok (some q), ds⟩) :
    ∃ sites : List Site,
      (∀ site ∈ sites, ∃ after, source.toList = site.opened ++ '"' :: after) ∧
      sites.Pairwise (fun s t => s.opened.length < t.head.length) ∧
      List.Forall₂ (fun leaf site => site.Holds leaf) (leavesOf q.nodes) sites := by
  obtain ⟨root, -, htext, rfl, -⟩ := derives_of_compile h
  refine ⟨root.body.sites (root.lead ++ [root.opening.val]), fun site hsite => ?_,
    Body.pairwise_sites, Body.forall₂_sites⟩
  obtain ⟨-, after, hsource⟩ := Body.lies_of_mem_sites hsite
  refine ⟨after ++ root.closing.val :: root.ignored, ?_⟩
  rw [← htext, Root.text, List.append_cons root.lead, hsource, List.append_assoc,
    List.cons_append]

end FilterQuery
