import Mathlib.Data.List.Nodup
import Mathlib.Data.List.Perm.Lattice
import Mathlib.Data.List.Sort

namespace Imx6Gateway
namespace Library
namespace Eviction

/-!
# Taking the least elements of a class

A collection loses elements of one class only, and of this class the least
elements first.  Batches that are taken one after the other do together what
one larger batch does.
-/

variable {Item : Type}

/-- What a removal of least elements leaves of a collection. -/
structure TakesLeast (member : Item -> Prop) (le : Item -> Item -> Prop)
    (before after : List Item) : Prop where
  sublist : after.Sublist before
  ofClass : forall item, item ∈ before -> item ∉ after -> member item
  least : forall item, item ∈ before -> item ∉ after ->
    forall other, other ∈ after -> member other -> le item other

namespace TakesLeast

variable {member : Item -> Prop} {le : Item -> Item -> Prop}

theorem refl (items : List Item) : TakesLeast member le items items where
  sublist := List.Sublist.refl items
  ofClass := fun _ present absent => absurd present absent
  least := fun _ present absent => absurd present absent

theorem trans {before middle after : List Item} (first : TakesLeast member le before middle)
    (second : TakesLeast member le middle after) : TakesLeast member le before after where
  sublist := second.sublist.trans first.sublist
  ofClass := by
    intro item present absent
    by_cases between : item ∈ middle
    · exact second.ofClass item between absent
    · exact first.ofClass item present between
  least := by
    intro item present absent other kept same
    by_cases between : item ∈ middle
    · exact second.least item between absent other kept same
    · exact first.least item present between other (second.sublist.subset kept) same

end TakesLeast

section Batch

variable (member : Item -> Bool) (le : Item -> Item -> Prop) [DecidableRel le]

/-- The first elements of a class in the given order. -/
def leastOf (count : Nat) (items : List Item) : List Item :=
  ((items.filter member).insertionSort le).take count

theorem mem_of_mem_leastOf {count : Nat} {items : List Item} {item : Item}
    (taken : item ∈ leastOf member le count items) : item ∈ items ∧ member item = true :=
  List.mem_filter.mp ((List.mem_insertionSort le).mp (List.mem_of_mem_take taken))

theorem nodup_leastOf {count : Nat} {items : List Item} (nodup : items.Nodup) :
    (leastOf member le count items).Nodup := by
  have sorted : ((items.filter member).insertionSort le).Nodup :=
    (List.perm_insertionSort le _).nodup_iff.mpr (nodup.filter member)
  exact sorted.sublist (List.take_sublist count _)

theorem length_leastOf (count : Nat) (items : List Item) :
    (leastOf member le count items).length = min count (items.filter member).length := by
  rw [leastOf, List.length_take, List.length_insertionSort]

theorem le_of_mem_leastOf [Std.Total le] [IsTrans Item le] {count : Nat} {items : List Item}
    {item other : Item} (taken : item ∈ leastOf member le count items) (present : other ∈ items)
    (same : member other = true) (left : other ∉ leastOf member le count items) :
    le item other := by
  have sorted := List.pairwise_insertionSort le (items.filter member)
  have listed : other ∈ (items.filter member).insertionSort le :=
    (List.mem_insertionSort le).mpr (List.mem_filter.mpr ⟨present, same⟩)
  rw [← List.take_append_drop count (List.insertionSort _ _)] at sorted listed
  rcases List.mem_append.mp listed with inside | behind
  · exact absurd inside left
  · exact (List.pairwise_append.mp sorted).2.2 item taken other behind

/-- A collection without a batch of least elements. -/
theorem takesLeast_batch [DecidableEq Item] [Std.Total le] [IsTrans Item le] (count : Nat)
    (items : List Item) :
    TakesLeast (fun item => member item = true) le items
      (items.filter fun item => item ∉ leastOf member le count items) := by
  have taken : forall item, item ∈ items ->
      item ∉ items.filter (fun item => item ∉ leastOf member le count items) ->
        item ∈ leastOf member le count items := by
    intro item present absent
    by_contra left
    exact absent (List.mem_filter.mpr ⟨present, decide_eq_true left⟩)
  refine ⟨List.filter_sublist, ?_, ?_⟩
  · intro item present absent
    exact (mem_of_mem_leastOf member le (taken item present absent)).2
  · intro item present absent other kept same
    have left := List.mem_filter.mp kept
    exact le_of_mem_leastOf member le (taken item present absent) left.1 same
      (of_decide_eq_true left.2)

/-- A batch is full unless it takes the whole class. -/
theorem length_batch [DecidableEq Item] (count : Nat) {items : List Item} (nodup : items.Nodup) :
    (items.filter fun item => item ∉ leastOf member le count items).length +
      min count (items.filter member).length = items.length := by
  have whole := List.length_eq_length_filter_add (l := items)
    (fun item => decide (item ∉ leastOf member le count items))
  have batch : (items.filter fun item => !decide (item ∉ leastOf member le count items)).Perm
      (leastOf member le count items) := by
    apply (List.perm_ext_iff_of_nodup (nodup.filter _) (nodup_leastOf member le nodup)).mpr
    intro item
    rw [List.mem_filter, decide_not, Bool.not_not, decide_eq_true_eq]
    constructor
    · exact fun found => found.2
    · exact fun found => ⟨(mem_of_mem_leastOf member le found).1, found⟩
  rw [← length_leastOf member le, ← batch.length_eq]
  exact whole.symm

end Batch

end Eviction
end Library
end Imx6Gateway
