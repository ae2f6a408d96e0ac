import Imx6Gateway.Library.SlotTable

namespace Imx6Gateway
namespace Library

/-!
# The order in which slots were filled

A table of slots forgets when its records came.  `follow` keeps that order
beside the table: the used slots in the order in which they were filled.  A
search in index order finds the record that came first as long as every
record went behind those that were there.
-/

namespace SlotTable

variable {α : Type} {size : Nat}

/-- The record of a slot. -/
def record (table : SlotTable α size) (index : Nat) : Option α :=
  table.slots[index]?.join

def isUsed (table : SlotTable α size) (index : Nat) : Bool :=
  (table.record index).isSome

/-- The slot at which a search for any record stops. -/
def firstUsed (table : SlotTable α size) : Option Nat :=
  (List.range size).find? table.isUsed

/-- The slot into which a new record goes. -/
def firstFree (table : SlotTable α size) : Option Nat :=
  (List.range size).find? fun index => !table.isUsed index

theorem lt_size_of_isUsed {table : SlotTable α size} {index : Nat}
    (used : table.isUsed index = true) : index < size := by
  by_contra outside
  have missing : table.slots[index]? = none := by
    rw [List.getElem?_eq_none_iff, table.length_eq]
    omega
  rw [isUsed, record, missing] at used
  cases used

theorem record_of_split {table : SlotTable α size} {before after : List (Option α)}
    {slot : Option α} (split : table.slots = before ++ slot :: after) :
    table.record before.length = slot := by
  rw [record, split, List.getElem?_append_right (Nat.le_refl _), Nat.sub_self,
    List.getElem?_cons_zero, Option.join_some]

/-- One slot is written. -/
theorem record_of_splits {table result : SlotTable α size} {before after : List (Option α)}
    {old new : Option α} (split : table.slots = before ++ old :: after)
    (resultSplit : result.slots = before ++ new :: after) (index : Nat) :
    result.record index = if index = before.length then new else table.record index := by
  by_cases here : index = before.length
  · rw [here, if_pos rfl, record_of_split resultSplit]
  · rw [if_neg here, record, record, split, resultSplit]
    by_cases earlier : index < before.length
    · rw [List.getElem?_append_left earlier, List.getElem?_append_left earlier]
    · have later : before.length < index := by omega
      rcases Nat.exists_eq_add_of_lt later with ⟨distance, rfl⟩
      rw [List.getElem?_append_right (by omega), List.getElem?_append_right (by omega)]
      have shift : before.length + distance + 1 - before.length = distance + 1 := by omega
      rw [shift, List.getElem?_cons_succ, List.getElem?_cons_succ]

theorem find_range_eq_some {test : Nat -> Bool} {index : Nat} (inside : index < size)
    (passes : test index = true) (earlier : forall other, other < index -> test other = false) :
    (List.range size).find? test = some index := by
  rw [List.find?_range_eq_some]
  refine ⟨passes, List.mem_range.mpr inside, ?_⟩
  intro other lower
  simp [earlier other lower]

theorem isUsed_before {table : SlotTable α size} {before after : List (Option α)}
    (split : table.slots = before ++ after) {index : Nat} (inside : index < before.length) :
    table.isUsed index = true ↔ exists entry, before[index]? = some (some entry) := by
  rw [isUsed, record, split, List.getElem?_append_left inside]
  cases found : before[index]? with
  | none => simp
  | some slot => cases slot <;> simp

theorem length_before_lt {table : SlotTable α size} {before after : List (Option α)}
    {slot : Option α} (split : table.slots = before ++ slot :: after) : before.length < size := by
  rw [← table.length_eq, split, List.length_append, List.length_cons]
  omega

/-- Taking any record clears the first used slot. -/
theorem takeFirst_any {table result : SlotTable α size} {entry : α}
    (taken : table.takeFirst (fun _ => true) = some (entry, result)) :
    exists index, table.firstUsed = some index ∧ table.record index = some entry ∧
      forall other, result.record other = if other = index then none else table.record other := by
  rcases takeFirst_eq_some taken with ⟨before, after, split, resultSplit, -, earlier⟩
  refine ⟨before.length, ?_, record_of_split split, record_of_splits split resultSplit⟩
  apply find_range_eq_some (length_before_lt split)
  · rw [isUsed, record_of_split split, Option.isSome_some]
  · intro other lower
    rw [Bool.eq_false_iff]
    intro used
    rcases (isUsed_before split lower).mp used with ⟨stored, found⟩
    cases earlier stored (List.mem_of_getElem? found)

/-- Taking a record uses no other slot. -/
theorem isUsed_of_takeFirst {table result : SlotTable α size} {test : α -> Bool} {entry : α}
    (taken : table.takeFirst test = some (entry, result)) {index : Nat}
    (used : result.isUsed index = true) : table.isUsed index = true := by
  rcases takeFirst_eq_some taken with ⟨before, after, split, resultSplit, -, -⟩
  rw [isUsed, record_of_splits split resultSplit] at used
  split at used
  · cases used
  · exact used

/-- Changing a record leaves the used slots as they are. -/
theorem isUsed_modifyFirst {table result : SlotTable α size} {test : α -> Bool} {change : α -> α}
    (modified : table.modifyFirst test change = some result) (index : Nat) :
    result.isUsed index = table.isUsed index := by
  rcases modifyFirst_eq_some modified with ⟨before, old, after, split, resultSplit, -, -⟩
  rw [isUsed, record_of_splits split resultSplit]
  split
  · rename_i here
    rw [here, isUsed, record_of_split split, Option.isSome_some, Option.isSome_some]
  · rfl

/-- A new record goes into the first free slot. -/
theorem isUsed_insertFree {table result : SlotTable α size} {entry : α}
    (inserted : table.insertFree entry = some result) :
    exists index, table.firstFree = some index ∧
      forall other, result.isUsed other = true ↔ other = index ∨ table.isUsed other = true := by
  rw [insertFree, Option.map_eq_some_iff] at inserted
  rcases inserted with ⟨⟨found, next⟩, stopped, rfl⟩
  rcases update_eq_some stopped with ⟨before, after, split, resultSplit, passes, earlier⟩
  refine ⟨before.length, ?_, ?_⟩
  · apply find_range_eq_some (length_before_lt split)
    · rw [isUsed, record_of_split split, Option.isNone_iff_eq_none.mp passes]
      rfl
    · intro other lower
      have stored := List.getElem?_eq_getElem lower
      have used := earlier _ (List.mem_of_getElem? stored)
      rw [Bool.not_eq_false', isUsed_before split lower]
      cases slot : before[other] with
      | none =>
          rw [slot] at used
          cases used
      | some entry => exact ⟨entry, stored.trans (congrArg some slot)⟩
  · intro other
    rw [isUsed, record_of_splits split resultSplit]
    split
    · rename_i here
      exact iff_of_true rfl (Or.inl here)
    · rename_i different
      exact (or_iff_right different).symm

/-! ## The used slots in the order in which they were filled -/

/-- What is left of the order, and behind it the slots that were filled. -/
def follow (order : List Nat) (next : SlotTable α size) : List Nat :=
  order.filter next.isUsed ++
    (List.range size).filter fun index => next.isUsed index && !order.contains index

/-- The order lists the used slots. -/
def Lists (order : List Nat) (table : SlotTable α size) : Prop :=
  forall index, index ∈ order ↔ table.isUsed index = true

/-- Every record went behind those that were there. -/
def InOrder (order : List Nat) : Prop :=
  order.Pairwise (fun first second => first < second)

theorem lists_empty : Lists [] (empty α size) := by
  intro index
  refine iff_of_false (List.not_mem_nil) ?_
  intro used
  rcases Option.isSome_iff_exists.mp used with ⟨entry, found⟩
  exact not_mem_empty entry (List.mem_of_getElem? (Option.join_eq_some_iff.mp found))

theorem lists_follow (order : List Nat) (next : SlotTable α size) :
    Lists (follow order next) next := by
  intro index
  rw [follow, List.mem_append, List.mem_filter, List.mem_filter, List.mem_range]
  constructor
  · rintro (⟨-, used⟩ | ⟨-, fresh⟩)
    · exact used
    · exact (Bool.and_eq_true_iff.mp fresh).1
  · intro used
    by_cases known : index ∈ order
    · exact Or.inl ⟨known, used⟩
    · exact Or.inr ⟨lt_size_of_isUsed used, by simp [used, known]⟩

/-- The order grows only behind its end. -/
theorem inOrder_follow {order : List Nat} {table next : SlotTable α size} (ordered : InOrder order)
    (lists : Lists order table)
    (behind : forall new, next.isUsed new = true -> table.isUsed new = false ->
      forall old, table.isUsed old = true -> old < new) :
    InOrder (follow order next) := by
  rw [InOrder, follow, List.pairwise_append]
  refine ⟨List.Pairwise.filter _ ordered, List.Pairwise.filter _ List.pairwise_lt_range, ?_⟩
  intro old kept new filled
  have known := (lists old).mp (List.mem_filter.mp kept).1
  have fresh := (List.mem_filter.mp filled).2
  rw [Bool.and_eq_true_iff, Bool.not_eq_true', List.contains_eq_mem, decide_eq_false_iff_not,
    lists new, Bool.not_eq_true] at fresh
  exact behind new fresh.1 fresh.2 old known

/-- The first used slot is the one that was filled first. -/
theorem firstUsed_eq_head {order : List Nat} {table : SlotTable α size} (ordered : InOrder order)
    (lists : forall index, table.isUsed index = true -> index ∈ order) :
    table.firstUsed = (order.filter table.isUsed).head? := by
  cases remaining : order.filter table.isUsed with
  | nil =>
      rw [List.head?_nil, firstUsed, List.find?_eq_none]
      intro index _ used
      have inside := List.mem_filter.mpr ⟨lists index used, used⟩
      rw [remaining] at inside
      cases inside
  | cons first rest =>
      have head : first ∈ order.filter table.isUsed := by
        rw [remaining]
        exact List.mem_cons_self
      have used := (List.mem_filter.mp head).2
      apply find_range_eq_some (lt_size_of_isUsed used) used
      intro other lower
      rw [Bool.eq_false_iff]
      intro otherUsed
      have inside := List.mem_filter.mpr ⟨lists other otherUsed, otherUsed⟩
      have sorted := List.Pairwise.filter table.isUsed ordered
      rw [remaining] at inside sorted
      rcases List.mem_cons.mp inside with same | later
      · omega
      · have := (List.pairwise_cons.mp sorted).1 other later
        omega

end SlotTable
end Library
end Imx6Gateway
