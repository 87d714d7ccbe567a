import FilterQuery.Proofs.Printed
import FilterQuery.Report.Settings
import FilterQuery.Report.Query

/-!
# Colours never change the text

A coloured report is the plain one with escape sequences put in: take them out again and the
plain one is left (`uncolour_reports`). Each report is put together from painted pieces and
from pieces that are the same with every ink, and taking out goes piece by piece, since no
sequence reaches from one piece into the next (`Shows`).

That needs pieces without an escape of their own. Names in a compiled query are letters, and
whatever else comes from outside is quoted, which writes an escape by its number. Only the
table of filters shows identifiers as they are.
-/

namespace FilterQuery

namespace Text

/-- What stands behind the escape sequence with which a text begins: an escape, an opening
bracket, a number and the letter `m`. -/
def behindSequence? : List Char → Option (List Char)
  | '\x1b' :: '[' :: t =>
    match t.takeWhile Char.isDigit, t.dropWhile Char.isDigit with
    | _ :: _, 'm' :: rest => some rest
    | _, _ => none
  | _ => none

theorem length_behindSequence?_lt {t rest : List Char} (h : behindSequence? t = some rest) :
    rest.length < t.length := by
  unfold behindSequence? at h
  split at h
  next t =>
    split at h
    next _ _ rest' _ hdrop =>
      have := List.length_dropWhile_le Char.isDigit t
      simp only [hdrop, List.length_cons, Option.some.injEq] at this h
      subst h
      simp only [List.length_cons]
      omega
    next => cases h
  next => cases h

/-- A text without its escape sequences. -/
def withoutSequences (t : List Char) : List Char :=
  match _behind : behindSequence? t with
  | some rest => withoutSequences rest
  | none =>
    match t with
    | [] => []
    | c :: rest => c :: withoutSequences rest
termination_by t.length
decreasing_by
  · exact length_behindSequence?_lt _behind
  · exact Nat.lt_succ_self _

/-- A text without its colours. -/
def uncolour (s : String) : String :=
  String.ofList (withoutSequences s.toList)

theorem behindSequence?_escapeSequence (n : Nat) (rest : List Char) :
    behindSequence? ((escapeSequence n).toList ++ rest) = some rest := by
  have htext : (escapeSequence n).toList ++ rest =
      '\x1b' :: '[' :: (Nat.toDigits 10 n ++ 'm' :: rest) := by
    simp [escapeSequence, toString]
  have hdigits : ∀ c ∈ Nat.toDigits 10 n, c.isDigit :=
    fun c hc => Nat.isDigit_of_mem_toDigits (by decide) (by decide) hc
  obtain ⟨c, t, hc⟩ := List.exists_cons_of_ne_nil (Nat.toDigits_ne_nil (n := n) (b := 10))
  have htake : (Nat.toDigits 10 n ++ 'm' :: rest).takeWhile Char.isDigit = c :: t :=
    (takeWhile_run_append hdigits (stops_cons.mpr rfl)).trans hc
  have hdrop : (Nat.toDigits 10 n ++ 'm' :: rest).dropWhile Char.isDigit = 'm' :: rest := by
    rw [List.dropWhile_append_of_pos hdigits]
    rfl
  simp only [htext, behindSequence?, htake, hdrop]

theorem withoutSequences_nil : withoutSequences [] = [] := by
  rw [withoutSequences]
  rfl

theorem withoutSequences_of_behind {t rest : List Char} (h : behindSequence? t = some rest) :
    withoutSequences t = withoutSequences rest := by
  rw [withoutSequences]
  split
  next rest' h' =>
    obtain rfl := Option.some.inj (h.symm.trans h')
    rfl
  next h' =>
    rw [h] at h'
    cases h'

theorem withoutSequences_cons {c : Char} (hc : c ≠ '\x1b') (t : List Char) :
    withoutSequences (c :: t) = c :: withoutSequences t := by
  have hnone : behindSequence? (c :: t) = none := by
    unfold behindSequence?
    split
    next heq => exact absurd (List.cons.inj heq).1 hc
    next => rfl
  rw [withoutSequences]
  split
  next h =>
    rw [hnone] at h
    cases h
  next => rfl

/-! ## Pieces -/

/-- The text holds no escape. -/
def EscapeFree (s : String) : Prop :=
  '\x1b' ∉ s.toList

instance (s : String) : Decidable (EscapeFree s) :=
  inferInstanceAs (Decidable ('\x1b' ∉ s.toList))

/-- Without its sequences the first text is the second, whatever comes behind it. -/
def Shows (c p : String) : Prop :=
  ∀ rest, withoutSequences (c.toList ++ rest) = p.toList ++ withoutSequences rest

@[simp] theorem escapeFree_append {s t : String} :
    EscapeFree (s ++ t) ↔ EscapeFree s ∧ EscapeFree t := by
  simp [EscapeFree]

@[simp] theorem escapeFree_toString_string {s : String} :
    EscapeFree (toString s) ↔ EscapeFree s :=
  Iff.rfl

theorem escapeFree_of_forall {p : Char → Bool} {s : String} (hp : p '\x1b' = false)
    (hs : ∀ c ∈ s.toList, p c) : EscapeFree s :=
  fun h => absurd (hs _ h) (by simp [hp])

theorem shows_self {s : String} (hs : EscapeFree s) : Shows s s := by
  intro rest
  unfold EscapeFree at hs
  generalize s.toList = t at hs
  induction t with
  | nil => rfl
  | cons c t ih =>
    rw [List.mem_cons, not_or] at hs
    rw [List.cons_append, withoutSequences_cons (Ne.symm hs.1), ih hs.2, List.cons_append]

theorem Shows.append {c p c' p' : String} (h : Shows c p) (h' : Shows c' p') :
    Shows (c ++ c') (p ++ p') := by
  intro rest
  rw [String.toList_append, String.toList_append, List.append_assoc, List.append_assoc, h, h']

theorem shows_paint {c p : String} (h : Shows c p) (style : Style) :
    Shows (Ink.coloured.paint style c) p := by
  intro rest
  rw [Ink.paint, String.toList_append, String.toList_append, List.append_assoc,
    List.append_assoc, withoutSequences_of_behind (behindSequence?_escapeSequence _ _), h,
    withoutSequences_of_behind (behindSequence?_escapeSequence _ _)]

theorem Shows.uncolour {c p : String} (h : Shows c p) : uncolour c = p := by
  have := h []
  rw [List.append_nil, withoutSequences_nil, List.append_nil] at this
  rw [Text.uncolour, this, String.ofList_toList]

/-! ## Texts without an escape -/

theorem Printed.escapeFree {s : String} (h : Printed s) : EscapeFree s :=
  h.not_mem (by decide)

@[simp] theorem escapeFree_repr (n : Nat) : EscapeFree n.repr :=
  (printed_repr n).escapeFree

@[simp] theorem escapeFree_quoted (s : String) : EscapeFree (quoted s) :=
  (printed_quoted s).escapeFree

@[simp] theorem escapeFree_quotedChar (c : Char) : EscapeFree (quotedChar c) :=
  (printed_quotedChar c).escapeFree

end Text

namespace Report

open Text

/-! ## Labels -/

theorem shows_kind (k : Kind) : Shows (kind .coloured k) (kind .plain k) :=
  shows_paint (shows_self (printed_kindName k).escapeFree) _

theorem shows_connector (k : Option Connector) :
    Shows (connector .coloured k) (connector .plain k) := by
  cases k with
  | none => exact shows_self (by decide : EscapeFree "")
  | some k =>
    refine (shows_self (by decide)).append (shows_paint (shows_self ?_) _)
    cases k <;> decide

theorem shows_strong {s : String} (h : EscapeFree s) (colour : Style) :
    Shows (strong .coloured colour s) (strong .plain colour s) :=
  shows_paint (shows_paint (shows_self h) colour) .bold

theorem escapeFree_message (d : Diagnostic) : EscapeFree d.message := by
  cases d
  unfold Diagnostic.message
  simp only [escapeFree_append, escapeFree_toString_string, escapeFree_quotedChar,
    Nat.toString_eq_repr, escapeFree_repr]
  decide

theorem shows_warning (d : Diagnostic) : Shows (warning .coloured d) (warning .plain d) :=
  ((shows_strong (by decide) .yellow).append (shows_self (by decide))).append
    (shows_self (escapeFree_message d))

/-! ## Summaries -/

theorem escapeFree_plural {noun : String} (h : EscapeFree noun) (count : Nat) :
    EscapeFree (plural count noun) := by
  unfold plural
  split <;> simp [h] <;> decide

theorem shows_summary (q : Option Query) :
    Shows (summary .coloured q) (summary .plain q) := by
  cases q with
  | none => exact shows_self (by decide)
  | some q =>
    refine (((shows_strong (by decide) .green).append (shows_self (by decide))).append
      (shows_self ?_)).append (shows_self (by decide))
    simp only [String.intercalate_cons_cons, String.intercalate_singleton, escapeFree_append]
    exact ⟨⟨escapeFree_plural (by decide) _, by decide⟩,
      ⟨escapeFree_plural (by decide) _, by decide⟩, escapeFree_plural (by decide) _⟩

/-! ## Trees -/

/-- Lines that show lines, one by one, make a text that shows the text. -/
theorem shows_unlines {cs ps : List String} (h : List.Forall₂ Shows cs ps) :
    Shows (unlines cs) (unlines ps) := by
  induction h with
  | nil => exact shows_self (by decide)
  | cons h _ ih =>
    rw [unlines, unlines, List.map_cons, List.map_cons, String.join_cons, String.join_cons]
    exact (h.append (shows_self (by decide))).append ih

variable {registry : Registry}

theorem shows_describe {n : Node} (h : n.WellFormed registry) :
    Shows (describe .coloured n) (describe .plain n) := by
  -- but for the colours of a filter, the two descriptions are the same
  have hplain : EscapeFree (describe .plain n) := (printed_describe h).escapeFree
  cases h with
  | filter r hletters _ =>
    have hidentifier : Shows (Ink.coloured.paint .bold r.identifier) r.identifier :=
      shows_paint (shows_self (escapeFree_of_forall (p := isIdentifierChar) rfl hletters)) _
    have hclause : EscapeFree (" " ++ r.comparison.symbol ++ " " ++ quoted r.argument ++ " ") := by
      simp only [escapeFree_append, (printed_comparisonSymbol r.comparison).escapeFree,
        escapeFree_quoted]
      decide
    have hkind := ((shows_self (by decide : EscapeFree "(")).append (shows_kind r.kind)).append
      (shows_self (by decide : EscapeFree ")"))
    simpa only [describe, toString, String.append_assoc, Ink.paint] using
      (hidentifier.append (shows_self hclause)).append hkind
  | calculator c _ => exact shows_self hplain
  | cluster id => exact shows_paint (shows_self hplain) .dimmed

theorem shows_line {n : Node} {margin : String} (hmargin : EscapeFree margin) (last : Bool)
    (h : n.WellFormed registry) :
    Shows (margin ++ branch last ++ describe .coloured n ++ connector .coloured n.connector)
      (margin ++ branch last ++ describe .plain n ++ connector .plain n.connector) := by
  have hbranch : EscapeFree (branch last) := by
    cases last <;> decide
  exact ((shows_self (escapeFree_append.mpr ⟨hmargin, hbranch⟩)).append
    (shows_describe h)).append (shows_connector n.connector)

mutual

theorem shows_nodeLines {n : Node} {margin : String} (hmargin : EscapeFree margin) (last : Bool)
    (h : n.WellFormed registry) :
    List.Forall₂ Shows (nodeLines .coloured margin last n) (nodeLines .plain margin last n) := by
  have hline := shows_line hmargin last h
  match n with
  | .filter _ => exact .cons hline .nil
  | .calculator _ => exact .cons hline .nil
  | .cluster id parent children k =>
    have hindent : EscapeFree (margin ++ indent last) := by
      refine escapeFree_append.mpr ⟨hmargin, ?_⟩
      cases last <;> decide
    cases h with
    | cluster _ _ _ _ _ hchildren => exact .cons hline (shows_lines hindent hchildren)

theorem shows_lines {ns : List Node} {margin : String} (hmargin : EscapeFree margin)
    (h : ∀ n ∈ ns, n.WellFormed registry) :
    List.Forall₂ Shows (lines .coloured margin ns) (lines .plain margin ns) := by
  match ns with
  | [] => exact .nil
  | n :: rest =>
    obtain ⟨hn, hrest⟩ := List.forall_mem_cons.mp h
    exact List.rel_append (shows_nodeLines hmargin rest.isEmpty hn) (shows_lines hmargin hrest)

end

theorem shows_tree {q : Query} (h : ∀ n ∈ q.nodes, n.WellFormed registry) :
    Shows (tree .coloured (some q)) (tree .plain (some q)) :=
  shows_unlines (.cons (shows_paint (shows_self (by decide)) _) (shows_lines (by decide) h))

/-! ## The table of filters -/

theorem shows_tableLine {first second third shown plain : String} (width : Nat)
    (hfirst : EscapeFree first) (hthird : EscapeFree third) (hshown : Shows shown plain) :
    Shows (tableLine width first second shown third)
      (tableLine width first second plain third) := by
  have hpadding (n : Nat) (s : String) : EscapeFree (padding n s) := by
    simp [EscapeFree, padding]
  have hgap : EscapeFree "  " := by decide
  have hbefore : EscapeFree (first ++ padding width first ++ "  ") :=
    escapeFree_append.mpr ⟨escapeFree_append.mpr ⟨hfirst, hpadding width first⟩, hgap⟩
  have hbehind : EscapeFree (padding kindWidth second ++ "  " ++ third) :=
    escapeFree_append.mpr ⟨escapeFree_append.mpr ⟨hpadding kindWidth second, hgap⟩, hthird⟩
  simpa only [tableLine, toString, String.append_assoc] using
    ((shows_self hbefore).append hshown).append (shows_self hbehind)

theorem shows_filterTable {rows : List FilterRow}
    (h : ∀ row ∈ rows, EscapeFree row.filter.identifier) :
    Shows (filterTable .coloured rows) (filterTable .plain rows) := by
  unfold filterTable
  split
  · exact shows_self (by decide)
  · have htitle (width : Nat) : Shows (tableLine width "ID" "Kind" "Kind" "Source")
        (tableLine width "ID" "Kind" "Kind" "Source") :=
      shows_tableLine width (by decide) (by decide) (shows_self (by decide))
    refine shows_unlines (.cons (shows_paint (htitle _) .dimmed) ?_)
    rw [List.forall₂_map_left_iff, List.forall₂_map_right_iff, List.forall₂_same]
    exact fun row hrow => shows_tableLine _ (h row hrow) (printed_originName row.origin).escapeFree
      (shows_kind row.filter.kind)

/-- A report is the same with and without colours, but for the escape sequences that colour it.
The table of filters shows identifiers as they are, and must not have an escape in one. -/
theorem uncolour_reports :
    (∀ registry source q ds, compile registry source = ⟨.ok q, ds⟩ →
      uncolour (tree .coloured q) = tree .plain q ∧
        uncolour (summary .coloured q) = summary .plain q) ∧
    (∀ d, uncolour (warning .coloured d) = warning .plain d) ∧
    ∀ rows, (∀ row ∈ rows, '\x1b' ∉ row.filter.identifier.toList) →
      uncolour (filterTable .coloured rows) = filterTable .plain rows := by
  refine ⟨fun registry source q ds h => ⟨?_, (shows_summary q).uncolour⟩,
    fun d => (shows_warning d).uncolour, fun rows h => (shows_filterTable h).uncolour⟩
  cases q with
  | none => exact (shows_self (by decide : EscapeFree "(empty query)\n")).uncolour
  | some q =>
    obtain ⟨root, ⟨hvalid, -⟩, -, rfl, -⟩ := derives_of_compile h
    exact (shows_tree (Grammar.Body.wellFormed_nodes hvalid)).uncolour

/-- An argument with an escape in it, and an identifier that is wider in bytes than in
characters. -/
theorem uncolour_reports_escape_in_argument :
    let q : Query := ⟨[.filter ⟨"text", .text, .includes, "\x1b[31ma", none⟩]⟩
    let row : FilterRow := ⟨⟨"é", .numerical⟩, .config⟩
    compile FilterSet.builtin.registry "\x7btext:\"\x1b[31ma\"\x7d" = ⟨.ok (some q), []⟩ ∧
      uncolour (tree .coloured (some q)) =
        "query\n└─ text : \"\\u\x7b1b\x7d[31ma\" (text)\n" ∧
      uncolour (filterTable .coloured [row]) =
        "ID  Kind       Source\né   numerical  config\n" := by
  intro q row
  have h : compile FilterSet.builtin.registry "\x7btext:\"\x1b[31ma\"\x7d" =
      ⟨.ok (some q), []⟩ := by cbv
  obtain ⟨hqueries, -, htables⟩ := uncolour_reports
  refine ⟨h, (hqueries _ _ _ _ h).1.trans ?_, (htables [row] (by decide)).trans ?_⟩
  · cbv
  · cbv

end Report

end FilterQuery
