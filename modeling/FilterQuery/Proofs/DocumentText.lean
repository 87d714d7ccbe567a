import FilterQuery.Proofs.PrefixFree
import FilterQuery.Report.Document

/-!
# Documents lose nothing

The text of a document can be read in one way only. Its first character tells its sort, a
string ends at its second bare mark, and of what is on several lines each part begins with
a character of its own: a comma goes on, a line end closes. Only a number needs to know what
comes behind it, and in a document that is never a digit (`write_inj`).

What a document says of a query is everything the query is. Nodes of different sorts may
have fields in common, but the first field names the sort; a value that may be missing is
`null` or something else than `null`. So two queries with their diagnostics, printed as the
same text, are the same (`pretty_treeDocument_inj`).
-/

namespace FilterQuery

namespace Text.Json

/-! ## Strings -/

/-- The four digits are those of the number of a character, which has at most two. -/
def InTwoDigits (c : Char) (x : List Char) : Prop :=
  ∃ i < 16, ∃ j < 16, x = ['0', '0', i.digitChar, j.digitChar] ∧ c.toNat = 16 * i + j

theorem escaped_escapeChar (c : Char) : Escaped InTwoDigits c (escapeChar c) := by
  fun_cases escapeChar c
  case case1 h => exact .letter '"' (by decide) h.symm
  case case2 h => exact .letter '\\' (by decide) h.symm
  case case3 h => exact .letter 'n' (by decide) h.symm
  case case4 h => exact .letter 'r' (by decide) h.symm
  case case5 h => exact .letter 't' (by decide) h.symm
  case case6 h => exact .letter 'b' (by decide) h.symm
  case case7 h => exact .letter 'f' (by decide) h.symm
  case case8 h =>
    refine .numbered _ ⟨0, by decide, c.toNat, h, ?_, by omega⟩
    rw [Nat.toDigits_of_lt_base h]
    rfl
  case case9 h h' =>
    have hone : c.toNat / 16 = 1 := by omega
    refine .numbered _ ⟨1, by decide, c.toNat % 16, Nat.mod_lt _ (by decide), ?_, by omega⟩
    rw [Nat.toDigits_of_base_le (by decide) (Nat.not_lt.mp h), hone]
    rfl
  case case10 hmark hslash _ _ _ _ _ _ _ => exact .bare hslash hmark

theorem InTwoDigits.append_inj {c d : Char} {x y s t : List Char} (hx : InTwoDigits c x)
    (hy : InTwoDigits d y) (h : x ++ s = y ++ t) : c = d ∧ s = t := by
  obtain ⟨i, hi, j, hj, rfl, hc⟩ := hx
  obtain ⟨i', hi', j', hj', rfl, hd⟩ := hy
  obtain ⟨hdi, hdj, hrest⟩ : i.digitChar = i'.digitChar ∧ j.digitChar = j'.digitChar ∧ s = t := by
    simpa using h
  obtain rfl := digitChar_inj i hi i' hi' hdi
  obtain rfl := digitChar_inj j hj j' hj' hdj
  exact ⟨Char.toNat_inj.mp (hc.trans hd.symm), hrest⟩

theorem prefixFree_writeString : PrefixFree writeString :=
  prefixFree_between_marks escaped_escapeChar InTwoDigits.append_inj

/-! ## Documents -/

/-- The sort of a document. -/
def sort : Json → Nat
  | null => 0
  | bool _ => 1
  | number _ => 2
  | string _ => 3
  | array _ => 4
  | object _ => 5

/-- The sort of the document whose text begins with a character. -/
def sortOf (c : Char) : Nat :=
  if c = 'n' then 0
  else if c = 't' ∨ c = 'f' then 1
  else if c = '"' then 3
  else if c = '[' then 4
  else if c = '\x7b' then 5
  else 2

theorem sortOf_digit : ∀ d < 10, sortOf (Nat.digitChar d) = 2 := by
  decide

theorem exists_write_eq_cons (depth : Nat) (j : Json) :
    ∃ c r, write depth j = c :: r ∧ sortOf c = j.sort := by
  cases j with
  | null => exact ⟨_, _, rfl, rfl⟩
  | bool b => cases b <;> exact ⟨_, _, rfl, rfl⟩
  | number n =>
    obtain ⟨c, r, hc⟩ := List.exists_cons_of_ne_nil (Nat.toDigits_ne_nil (n := n) (b := 10))
    have hmem : c ∈ Nat.toDigits 10 n := by simp [hc]
    obtain ⟨d, hd, rfl⟩ := exists_of_mem_toDigits (by decide) hmem
    exact ⟨_, r, hc, sortOf_digit d hd⟩
  | string s => exact ⟨_, _, rfl, rfl⟩
  | array items => cases items <;> exact ⟨_, _, rfl, rfl⟩
  | object fields => rcases fields with _ | ⟨⟨name, value⟩, fields⟩ <;> exact ⟨_, _, rfl, rfl⟩

theorem sort_eq_of_write_append_eq {depth : Nat} {j j' : Json} {s t : List Char}
    (h : write depth j ++ s = write depth j' ++ t) : j.sort = j'.sort := by
  obtain ⟨c, r, hj, hc⟩ := exists_write_eq_cons depth j
  obtain ⟨c', r', hj', hc'⟩ := exists_write_eq_cons depth j'
  rw [hj, hj', List.cons_append, List.cons_append, List.cons.injEq] at h
  rw [← hc, ← hc', h.1]

theorem stops_writeItems (depth : Nat) (items : List Json) (s : List Char) :
    Stops Char.isDigit (writeItems depth items ++ '\n' :: s) := by
  cases items <;> simp [writeItems]

theorem stops_writeFields (depth : Nat) (fields : List (String × Json)) (s : List Char) :
    Stops Char.isDigit (writeFields depth fields ++ '\n' :: s) := by
  rcases fields with _ | ⟨⟨name, value⟩, fields⟩ <;> simp [writeFields]

mutual

/-- The text of a document can be split off where no digit follows. -/
theorem write_inj (depth : Nat) (j j' : Json) {s t : List Char}
    (hs : Stops Char.isDigit s) (ht : Stops Char.isDigit t)
    (h : write depth j ++ s = write depth j' ++ t) : j = j' ∧ s = t := by
  have hsort := sort_eq_of_write_append_eq h
  match j, j' with
  | .null, .null => simpa [write] using h
  | .bool true, .bool true => simpa [write] using h
  | .bool false, .bool false => simpa [write] using h
  | .bool true, .bool false => simp [write] at h
  | .bool false, .bool true => simp [write] at h
  | .number m, .number n =>
    obtain ⟨rfl, rfl⟩ := number_append_inj hs ht (by simpa [write] using h)
    exact ⟨rfl, rfl⟩
  | .string a, .string b =>
    obtain ⟨rfl, rfl⟩ := prefixFree_writeString (a := a) (b := b) (by simpa [write] using h)
    exact ⟨rfl, rfl⟩
  | .array [], .array [] => simpa [write] using h
  | .array [], .array (_ :: _) => simp [write, lineStart] at h
  | .array (_ :: _), .array [] => simp [write, lineStart] at h
  | .array (item :: items), .array (item' :: items') =>
    simp only [write, lineStart, List.cons_append, List.append_assoc, List.cons.injEq, true_and,
      List.append_cancel_left_eq] at h
    -- behind an item stands a comma or the end of the line, so a number ends there
    obtain ⟨rfl, hitems⟩ := write_inj (depth + 1) item item' (stops_writeItems _ _ _)
      (stops_writeItems _ _ _) h
    obtain ⟨rfl, hrest⟩ := writeItems_inj (depth + 1) items items' hitems
    exact ⟨rfl, by simpa using hrest⟩
  | .object [], .object [] => simpa [write] using h
  | .object [], .object (_ :: _) => simp [write, lineStart] at h
  | .object (_ :: _), .object [] => simp [write, lineStart] at h
  | .object ((name, value) :: fields), .object ((name', value') :: fields') =>
    simp only [write, lineStart, List.cons_append, List.append_assoc, List.cons.injEq, true_and,
      List.append_cancel_left_eq] at h
    obtain ⟨rfl, hvalue⟩ := prefixFree_writeString h
    simp only [List.nil_append, List.cons.injEq, true_and] at hvalue
    obtain ⟨rfl, hfields⟩ := write_inj (depth + 1) value value' (stops_writeFields _ _ _)
      (stops_writeFields _ _ _) hvalue
    obtain ⟨rfl, hrest⟩ := writeFields_inj (depth + 1) fields fields' hfields
    exact ⟨rfl, by simpa using hrest⟩

/-- The items after the first end where a line ends without a comma. -/
theorem writeItems_inj (depth : Nat) (items items' : List Json) {s t : List Char}
    (h : writeItems depth items ++ '\n' :: s = writeItems depth items' ++ '\n' :: t) :
    items = items' ∧ s = t := by
  match items, items' with
  | [], [] => simpa [writeItems] using h
  | [], _ :: _ => simp [writeItems] at h
  | _ :: _, [] => simp [writeItems] at h
  | item :: items, item' :: items' =>
    simp only [writeItems, lineStart, List.cons_append, List.append_assoc, List.cons.injEq,
      true_and, List.append_cancel_left_eq] at h
    obtain ⟨rfl, hitems⟩ := write_inj depth item item' (stops_writeItems _ _ _)
      (stops_writeItems _ _ _) h
    obtain ⟨rfl, hrest⟩ := writeItems_inj depth items items' hitems
    exact ⟨rfl, hrest⟩

/-- The fields after the first end where a line ends without a comma. -/
theorem writeFields_inj (depth : Nat) (fields fields' : List (String × Json)) {s t : List Char}
    (h : writeFields depth fields ++ '\n' :: s = writeFields depth fields' ++ '\n' :: t) :
    fields = fields' ∧ s = t := by
  match fields, fields' with
  | [], [] => simpa [writeFields] using h
  | [], _ :: _ => simp [writeFields] at h
  | _ :: _, [] => simp [writeFields] at h
  | (name, value) :: fields, (name', value') :: fields' =>
    simp only [writeFields, lineStart, List.cons_append, List.append_assoc, List.cons.injEq,
      true_and, List.append_cancel_left_eq] at h
    obtain ⟨rfl, hvalue⟩ := prefixFree_writeString h
    simp only [List.nil_append, List.cons.injEq, true_and] at hvalue
    obtain ⟨rfl, hfields⟩ := write_inj depth value value' (stops_writeFields _ _ _)
      (stops_writeFields _ _ _) hvalue
    obtain ⟨rfl, hrest⟩ := writeFields_inj depth fields fields' hfields
    exact ⟨rfl, hrest⟩

end

theorem pretty_injective : Function.Injective pretty := by
  intro j j' h
  have h : write 0 j ++ [] = write 0 j' ++ [] := by
    rw [List.append_nil, List.append_nil]
    exact String.ofList_injective h
  exact (write_inj 0 j j' stops_nil stops_nil h).1

theorem ofOption_injective {α : Type} {f : α → Json} (hf : Function.Injective f)
    (hnull : ∀ a, f a ≠ null) : Function.Injective (ofOption f) := by
  intro a b h
  cases a with
  | none =>
    cases b with
    | none => rfl
    | some b => exact absurd h.symm (hnull b)
  | some a =>
    cases b with
    | none => exact absurd h (hnull a)
    | some b => exact congrArg some (hf h)

end Text.Json

namespace Report

open Text (Json)

/-! ## Documents about queries -/

theorem operandDocument_injective : Function.Injective operandDocument := by
  rintro ⟨value, arithmetic⟩ ⟨value', arithmetic'⟩ h
  have harithmetic : Function.Injective
      (Json.ofOption fun a : Arithmetic => .string a.tag) :=
    Json.ofOption_injective (fun a b h => Arithmetic.tag_injective (Json.string.inj h)) nofun
  cases value <;> cases value' <;> simp [operandDocument, harithmetic.eq_iff] at h ⊢ <;> exact h

theorem connectorField_inj {k l : Option Connector} :
    connectorField k = connectorField l ↔ k = l := by
  simp [connectorField, Connector.tag_injective.eq_iff]

mutual

/-- The document about a node says all that there is to the node. -/
theorem outlineDocument_inj (o o' : Outline) (h : outlineDocument o = outlineDocument o') :
    o = o' := by
  match o, o' with
  | .filter r, .filter r' =>
    simp only [outlineDocument, Json.object.injEq, List.cons.injEq, Prod.mk.injEq,
      Json.string.injEq, connectorField_inj, Kind.name_injective.eq_iff,
      Comparison.tag_injective.eq_iff, true_and, and_true] at h
    cases r
    cases r'
    simpa using h
  | .calculator c, .calculator c' =>
    simp only [outlineDocument, Json.object.injEq, List.cons.injEq, Prod.mk.injEq,
      Json.string.injEq, Json.number.injEq, Json.array.injEq, connectorField_inj,
      Comparison.tag_injective.eq_iff, operandDocument_injective.list_map.eq_iff, true_and,
      and_true] at h
    cases c
    cases c'
    simpa using h
  | .cluster id parent children k, .cluster id' parent' children' k' =>
    have hparent : Function.Injective (Json.ofOption .number) :=
      Json.ofOption_injective (fun m n h => Json.number.inj h) nofun
    simp only [outlineDocument, Json.object.injEq, List.cons.injEq, Prod.mk.injEq,
      Json.number.injEq, Json.array.injEq, connectorField_inj, hparent.eq_iff, true_and,
      and_true] at h
    obtain ⟨rfl, rfl, hchildren, rfl⟩ := h
    rw [outlineDocuments_inj children children' hchildren]
  | .filter _, .calculator _ | .filter _, .cluster .. | .calculator _, .filter _
  | .calculator _, .cluster .. | .cluster .., .filter _ | .cluster .., .calculator _ =>
    simp [outlineDocument] at h

theorem outlineDocuments_inj (os os' : List Outline)
    (h : outlineDocuments os = outlineDocuments os') : os = os' := by
  match os, os' with
  | [], [] => rfl
  | [], _ :: _ => simp [outlineDocuments] at h
  | _ :: _, [] => simp [outlineDocuments] at h
  | o :: os, o' :: os' =>
    rw [outlineDocuments, outlineDocuments, List.cons.injEq] at h
    rw [outlineDocument_inj o o' h.1, outlineDocuments_inj os os' h.2]

end

mutual

theorem ofNode_inj (n n' : Node) (h : Outline.ofNode n = Outline.ofNode n') : n = n' := by
  match n, n' with
  | .filter _, .filter _ => simpa [Outline.ofNode] using h
  | .calculator _, .calculator _ => simpa [Outline.ofNode] using h
  | .cluster id parent children k, .cluster id' parent' children' k' =>
    simp only [Outline.ofNode, Outline.cluster.injEq, Option.some.injEq] at h
    obtain ⟨rfl, rfl, hchildren, rfl⟩ := h
    rw [ofNodes_inj children children' hchildren]
  | .filter _, .calculator _ | .filter _, .cluster .. | .calculator _, .filter _
  | .calculator _, .cluster .. | .cluster .., .filter _ | .cluster .., .calculator _ =>
    simp [Outline.ofNode] at h

theorem ofNodes_inj (ns ns' : List Node) (h : Outline.ofNodes ns = Outline.ofNodes ns') :
    ns = ns' := by
  match ns, ns' with
  | [], [] => rfl
  | [], _ :: _ => simp [Outline.ofNodes] at h
  | _ :: _, [] => simp [Outline.ofNodes] at h
  | n :: ns, n' :: ns' =>
    rw [Outline.ofNodes, Outline.ofNodes, List.cons.injEq] at h
    rw [ofNode_inj n n' h.1, ofNodes_inj ns ns' h.2]

end

theorem diagnosticDocument_injective : Function.Injective diagnosticDocument := by
  rintro ⟨found, offset⟩ ⟨found', offset'⟩ h
  simpa [diagnosticDocument, Char.toString] using h

theorem outlineTreeDocument_inj {ns ns' : Option (List Outline)} {ds ds' : List Diagnostic} :
    outlineTreeDocument ns ds = outlineTreeDocument ns' ds' ↔ ns = ns' ∧ ds = ds' := by
  have hnodes : Function.Injective (Json.ofOption nodesDocument) := by
    refine Json.ofOption_injective (fun os os' h => ?_) nofun
    exact outlineDocuments_inj os os' (by simpa [nodesDocument] using h)
  simp [outlineTreeDocument, diagnosticsField, hnodes.eq_iff,
    diagnosticDocument_injective.list_map.eq_iff]

/-- The text of a document about a query tree determines the query, with everything in it,
and the diagnostics. The same holds of outlines, where a cluster may stand in no other
one. -/
theorem pretty_treeDocument_inj :
    (∀ (q q' : Option Query) (ds ds' : List Diagnostic),
      (treeDocument q ds).pretty = (treeDocument q' ds').pretty ↔ q = q' ∧ ds = ds') ∧
    ∀ (ns ns' : Option (List Outline)) (ds ds' : List Diagnostic),
      (outlineTreeDocument ns ds).pretty = (outlineTreeDocument ns' ds').pretty ↔
        ns = ns' ∧ ds = ds' := by
  have hquery : Function.Injective fun q : Query => Outline.ofNodes q.nodes := by
    rintro ⟨ns⟩ ⟨ns'⟩ h
    rw [ofNodes_inj ns ns' h]
  refine ⟨fun q q' ds ds' => ?_, fun ns ns' ds ds' => ?_⟩
  · rw [Json.pretty_injective.eq_iff, treeDocument, treeDocument, outlineTreeDocument_inj,
      (Option.map_injective hquery).eq_iff]
  · rw [Json.pretty_injective.eq_iff, outlineTreeDocument_inj]

end Report

end FilterQuery
