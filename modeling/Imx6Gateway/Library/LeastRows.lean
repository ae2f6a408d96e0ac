import Mathlib.Data.List.Sort

namespace Imx6Gateway
namespace Library

/-!
# The first rows in the order of a key

A query that orders its rows by a key and limits their number returns the rows
with the least keys; rows with one key stay in the order that they had.
-/

variable {Row Key : Type} [LinearOrder Key]

def leastRows (key : Row -> Key) (limit : Nat) (rows : List Row) : List Row :=
  (rows.mergeSort fun first second => key first ≤ key second).take limit

variable (key : Row -> Key) (limit : Nat) (rows : List Row)

/-- The keys ascend. -/
theorem pairwise_mergeSort_key :
    (rows.mergeSort fun first second => key first ≤ key second).Pairwise fun first second =>
      key first ≤ key second := by
  let before (first second : Row) : Bool := key first ≤ key second
  have sorted := @List.pairwise_mergeSort Row before ?_ ?_ rows
  · exact sorted.imp fun ordered => of_decide_eq_true ordered
  · intro first second third
    simp only [before, decide_eq_true_eq]
    exact le_trans
  · intro first second
    simp only [before, Bool.or_eq_true, decide_eq_true_eq]
    exact le_total _ _

theorem pairwise_leastRows :
    (leastRows key limit rows).Pairwise fun first second => key first ≤ key second :=
  (pairwise_mergeSort_key key rows).take

theorem length_leastRows : (leastRows key limit rows).length = min limit rows.length := by
  rw [leastRows, List.length_take, List.length_mergeSort]

/-- No row that is left out has a lesser key, and none is left out while there
is room. -/
theorem leastRows_rest : exists rest, (leastRows key limit rows ++ rest).Perm rows ∧
    (rest ≠ [] -> (leastRows key limit rows).length = limit) ∧
    forall row, row ∈ leastRows key limit rows -> forall other, other ∈ rest ->
      key row ≤ key other := by
  refine ⟨(rows.mergeSort fun first second => key first ≤ key second).drop limit, ?_, ?_, ?_⟩
  · rw [leastRows, List.take_append_drop]
    exact List.mergeSort_perm rows _
  · intro more
    have longer : limit < rows.length := by
      by_contra short
      apply more
      apply List.drop_eq_nil_of_le
      rw [List.length_mergeSort]
      exact not_lt.mp short
    rw [length_leastRows, min_eq_left longer.le]
  · intro row first other later
    have sorted := pairwise_mergeSort_key key rows
    rw [← List.take_append_drop limit (rows.mergeSort _)] at sorted
    exact (List.pairwise_append.mp sorted).2.2 row first other later

end Library
end Imx6Gateway
