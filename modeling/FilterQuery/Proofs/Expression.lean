import FilterQuery.Proofs.Spelling
import FilterQuery.Proofs.TreeText

/-!
# Shown operands read back

The drawing of a query shows the operands of a calculator as a query would write them, with
a blank on both sides of each operator. That is one of the spellings of the operands
(`spellsOperands_expression`), so where a query has the shown text for its operands it has
those very operands (`compile_expression`).
-/

namespace FilterQuery

open Grammar

namespace Report

variable {registry : Registry} {operands : List Operand}

/-- The blank in front of an operator belongs to the operand before it, the one behind it
stands in front of the next operand. -/
theorem spellsOperands_expression (h : IsExpression operands) (closing : Closing) :
    SpellsOperands operands ((expression operands).toList ++ [closing.val]) := by
  induction h with
  | last v _ _ =>
    rw [toList_expression_last]
    simpa using SpellsOperands.last v blanks_nil closing
  | more v k rest _ _ _ ih =>
    have hbehind : Blanks [' '] := by simp [Blanks, classify]
    have hrest := SpellsOperands.blank ⟨' ', rfl⟩ ih
    rw [toList_expression_more]
    simpa using SpellsOperands.more v hbehind k hrest

/-- The operands that are shown are the operands that are read. -/
theorem compile_expression (hne : operands ≠ [])
    (hjoined : ∀ o ∈ operands.dropLast, o.arithmetic ≠ none)
    (hlast : ∀ o ∈ operands.getLast?, o.arithmetic = none)
    (hvalues : ∀ o ∈ operands, o.value.WellFormed registry) :
    compile registry ("\x7b#(" ++ expression operands ++ ")==\"\"\x7d") =
      ⟨.ok (some ⟨[.calculator ⟨0, operands, .equal, "", none⟩]⟩), []⟩ := by
  have hexpression := isExpression_of_joined hne hjoined hlast hvalues
  obtain ⟨sum, htext, hoperands, hvalid⟩ :=
    exists_sum (spellsOperands_expression hexpression ⟨')', rfl⟩) hvalues
  have hspells : SpellsClause .equal "" _ := .intro blanks_nil blanks_nil .done blanks_nil
  obtain ⟨clause, hclause, hcomparison, hargument, hdiagnostics⟩ :=
    exists_clause_of_spells hspells
  let body : Body := .calculator ⟨'(', rfl⟩ sum clause .done
  have hbody : body.Valid registry .first := ⟨by decide, hvalid, trivial, trivial⟩
  refine compile_of_derives ⟨⟨[], ⟨'{', rfl⟩, body, ⟨'}', rfl⟩, [], blanks_nil⟩,
    ⟨hbody, show 0 + 1 ≤ 128 by decide⟩, ?_, ?_, ?_⟩
  · simp [Root.text, body, Body.text, htext, hclause, Comparison.symbol]
  · simp [Root.query, body, Body.nodes, hoperands, hcomparison, hargument, Body.joining]
  · simp [Root.diagnostics, body, Body.diagnostics, hdiagnostics]

/-- Names and digits, with all four operators between them. -/
theorem compile_expression_of_five :
    let operands : List Operand := [⟨.filter "listed_count", some .mul⟩, ⟨.literal "2", some .sub⟩,
      ⟨.filter "favorite_count", some .add⟩, ⟨.literal "007", some .div⟩, ⟨.literal "1", none⟩]
    expression operands = "listed_count * 2 - favorite_count + 007 / 1" ∧
      (∀ o ∈ operands, o.value.WellFormed FilterSet.builtin.registry) ∧
      compile FilterSet.builtin.registry
          "\x7b#(listed_count * 2 - favorite_count + 007 / 1)==\"\"\x7d" =
        ⟨.ok (some ⟨[.calculator ⟨0, operands, .equal, "", none⟩]⟩), []⟩ := by
  intro operands
  have hvalues : ∀ o ∈ operands, o.value.WellFormed FilterSet.builtin.registry := by
    intro o ho
    simp only [operands, List.mem_cons, List.not_mem_nil, or_false] at ho
    rcases ho with rfl | rfl | rfl | rfl | rfl
    · exact ⟨by decide, by simp [isIdentifierChar], by cbv⟩
    · exact ⟨by decide, by simp [Char.isDigit]⟩
    · exact ⟨by decide, by simp [isIdentifierChar], by cbv⟩
    · exact ⟨by decide, by simp [Char.isDigit]⟩
    · exact ⟨by decide, by simp [Char.isDigit]⟩
  have hne : operands ≠ [] := List.cons_ne_nil _ _
  have hcompile := compile_expression hne (by simp [operands]) (by simp [operands]) hvalues
  exact ⟨by cbv, hvalues, hcompile⟩

end Report

end FilterQuery
