import Mathlib.Data.List.Basic

namespace Imx6Gateway
namespace Library

/-!
# Whole writes that change one cell each

A writer that can only write all cells at once changes one of them by copying
the others from what it believes them to be.  A queue of such writes does what
its authors want if each of them copies what the writes before it leave.
`Chained` says so for a queue, and `final` is what the queue leaves in the end.
-/

namespace WriteChain

variable {ι α W : Type} (vector : W -> ι -> α) (own : W -> ι -> Prop)
  [forall write cell, Decidable (own write cell)] (value : W -> α)

/-- The write changes its own cells and copies the others. -/
def Extends (before : ι -> α) (write : W) : Prop :=
  forall cell, vector write cell = if own write cell then value write else before cell

def Chained : (ι -> α) -> List W -> Prop
  | _, [] => True
  | before, write :: writes =>
      Extends vector own value before write ∧ Chained (vector write) writes

def final : (ι -> α) -> List W -> ι -> α
  | before, [] => before
  | _, write :: writes => final (vector write) writes

variable {vector own value} {before : ι -> α} {writes : List W}

/-- One more write, which copies what the queue leaves. -/
theorem chained_push (chained : Chained vector own value before writes) {write : W}
    (copies : Extends vector own value (final vector before writes) write) :
    Chained vector own value before (writes ++ [write]) := by
  induction writes generalizing before with
  | nil => exact ⟨copies, trivial⟩
  | cons first writes ih => exact ⟨chained.1, ih chained.2 copies⟩

/-- A first write that changes nothing can be left out. -/
theorem chained_skip {write : W} (chained : Chained vector own value before (write :: writes))
    (idle : forall cell, own write cell -> value write = before cell) :
    Chained vector own value before writes := by
  have same : vector write = before := by
    funext cell
    rw [chained.1 cell]
    split
    · rename_i owned
      exact idle cell owned
    · rfl
  rw [← same]
  exact chained.2

/-- A cell that no write owns stays as it is. -/
theorem final_of_untouched (chained : Chained vector own value before writes) {cell : ι}
    (untouched : forall write, write ∈ writes -> ¬own write cell) :
    final vector before writes cell = before cell := by
  induction writes generalizing before with
  | nil => rfl
  | cons first writes ih =>
      rw [final, ih chained.2 fun write inside => untouched write (List.mem_cons_of_mem first inside),
        chained.1 cell, if_neg (untouched first List.mem_cons_self)]

/-- A cell that one write owns gets the value of that write. -/
theorem final_of_owner (chained : Chained vector own value before writes) {cell : ι} {write : W}
    (inside : write ∈ writes) (owned : own write cell)
    (alone : writes.Pairwise fun first second => own first cell -> ¬own second cell) :
    final vector before writes cell = value write := by
  induction writes generalizing before with
  | nil => cases inside
  | cons first writes ih =>
      rcases List.pairwise_cons.mp alone with ⟨others, alone⟩
      rcases List.mem_cons.mp inside with rfl | later
      · rw [final, final_of_untouched chained.2 fun other inside => others other inside owned,
          chained.1 cell, if_pos owned]
      · exact ih chained.2 later alone

end WriteChain
end Library
end Imx6Gateway
