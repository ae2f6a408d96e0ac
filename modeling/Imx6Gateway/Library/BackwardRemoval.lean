import Mathlib.Data.List.Induction

namespace Imx6Gateway
namespace Library

/-!
# Loops that remove items from the end on

A loop takes the indices of a list from the last one down to zero, and its
body may remove items.  The index is never taken back, so a body that removes
more than the item it was called for can leave the next index outside of the
list.  Such an access ends the loop without a result.
-/

variable {σ α : Type}

/-- The turns for the indices below a bound, the largest one first. -/
def removeDown (items : σ -> List α) (body : Nat -> α -> σ -> Option σ) : Nat -> σ -> Option σ
  | 0, state => some state
  | index + 1, state =>
      match (items state)[index]? with
      | none => none
      | some item => (body index item state).bind (removeDown items body index)

/-- A body that removes at most its own item, from states of an invariant,
leaves every index inside, and the loop keeps what no turn removes. -/
theorem removeDown_below {items : σ -> List α} {body : Nat -> α -> σ -> Option σ}
    {invariant : σ -> Prop} {keep : α -> Bool}
    (turn : forall state before item after, invariant state ->
      items state = before ++ item :: after ->
      exists next, body before.length item state = some next ∧ invariant next ∧
        items next = before ++ ([item].filter keep ++ after))
    (before : List α) {state : σ} {after : List α} (holds : invariant state)
    (split : items state = before ++ after) :
    exists final, removeDown items body before.length state = some final ∧ invariant final ∧
      items final = before.filter keep ++ after := by
  induction before using List.reverseRecOn generalizing state after with
  | nil => exact ⟨state, rfl, holds, split⟩
  | append_singleton before item ih =>
      rw [List.append_assoc, List.singleton_append] at split
      rcases turn state before item after holds split with ⟨next, run, nextHolds, shorter⟩
      have found : (items state)[before.length]? = some item := by
        rw [split, List.getElem?_append_right (Nat.le_refl _), Nat.sub_self]
        rfl
      rcases ih nextHolds shorter with ⟨final, rest, finalHolds, left⟩
      refine ⟨final, ?_, finalHolds, ?_⟩
      · rw [List.length_append, List.length_singleton, removeDown, found]
        dsimp only
        rw [run, Option.bind_some, rest]
      · rw [left, List.filter_append, List.append_assoc]

/-- The loop over a whole list is a filter of it. -/
theorem removeDown_all {items : σ -> List α} {body : Nat -> α -> σ -> Option σ}
    {invariant : σ -> Prop} {keep : α -> Bool}
    (turn : forall state before item after, invariant state ->
      items state = before ++ item :: after ->
      exists next, body before.length item state = some next ∧ invariant next ∧
        items next = before ++ ([item].filter keep ++ after))
    {state : σ} (holds : invariant state) :
    exists final, removeDown items body (items state).length state = some final ∧
      invariant final ∧ items final = (items state).filter keep := by
  rcases removeDown_below turn (items state) holds (List.append_nil _).symm
    with ⟨final, run, finalHolds, left⟩
  exact ⟨final, run, finalHolds, left.trans (List.append_nil _)⟩

end Library
end Imx6Gateway
