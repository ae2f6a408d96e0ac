import Mathlib.Data.List.Basic
import Mathlib.Logic.Function.Basic
import Mathlib.Tactic.SplitIfs

namespace Imx6Gateway
namespace Library

/-!
# Ring buffers

A queue in an array of fixed size, with the index of the oldest cell and of
the first free one.  One cell stays free, so that a full ring differs from an
empty one.  `contents` is the queue the ring stands for; taken cells keep
their old values and are not part of it.
-/

structure RingBuffer (α : Type) (size : Nat) where
  cells : Fin size -> α
  head : Nat
  tail : Nat
  head_lt : head < size
  tail_lt : tail < size

namespace RingBuffer

variable {α : Type} {size : Nat}

def isEmpty (ring : RingBuffer α size) : Bool :=
  ring.head = ring.tail

def isFull (ring : RingBuffer α size) : Bool :=
  (ring.tail + 1) % size = ring.head

/-- The steps from one index to another one. -/
def distance (size first last : Nat) : Nat :=
  if first ≤ last then last - first else size - first + last

def count (ring : RingBuffer α size) : Nat :=
  distance size ring.head ring.tail

theorem mod_lt (ring : RingBuffer α size) (index : Nat) : index % size < size :=
  Nat.mod_lt index (Nat.zero_lt_of_lt ring.head_lt)

/-- The cell so many places behind the oldest one. -/
def cellAt (ring : RingBuffer α size) (offset : Nat) : α :=
  ring.cells ⟨(ring.head + offset) % size, ring.mod_lt _⟩

/-- The values from the oldest to the newest one. -/
def contents (ring : RingBuffer α size) : List α :=
  (List.range ring.count).map ring.cellAt

/-- Write the first free cell. -/
def push (ring : RingBuffer α size) (value : α) : RingBuffer α size where
  cells := Function.update ring.cells ⟨ring.tail, ring.tail_lt⟩ value
  head := ring.head
  tail := (ring.tail + 1) % size
  head_lt := ring.head_lt
  tail_lt := ring.mod_lt _

/-- Give the oldest cell back. -/
def dropFront (ring : RingBuffer α size) : RingBuffer α size where
  cells := ring.cells
  head := (ring.head + 1) % size
  tail := ring.tail
  head_lt := ring.mod_lt _
  tail_lt := ring.tail_lt

def front (ring : RingBuffer α size) : α :=
  ring.cells ⟨ring.head, ring.head_lt⟩

/-- An index wraps at most once. -/
theorem wrap_eq {index offset : Nat} (inside : index < size) (small : offset ≤ size) :
    (index + offset) % size =
      if index + offset < size then index + offset else index + offset - size := by
  split
  · rename_i noWrap
    exact Nat.mod_eq_of_lt noWrap
  · rename_i wraps
    rw [Nat.mod_eq_sub_mod (by omega), Nat.mod_eq_of_lt (by omega)]

theorem count_lt (ring : RingBuffer α size) : ring.count < size := by
  have head := ring.head_lt
  have tail := ring.tail_lt
  unfold count distance
  split <;> omega

theorem length_contents (ring : RingBuffer α size) : ring.contents.length = ring.count := by
  rw [contents, List.length_map, List.length_range]

theorem isEmpty_iff (ring : RingBuffer α size) : ring.isEmpty = true ↔ ring.contents = [] := by
  have head := ring.head_lt
  rw [← List.length_eq_zero_iff, length_contents, isEmpty, decide_eq_true_iff, count, distance]
  split <;> omega

/-- The first free cell lies behind the newest value. -/
theorem tail_eq (ring : RingBuffer α size) : (ring.head + ring.count) % size = ring.tail := by
  have head := ring.head_lt
  have tail := ring.tail_lt
  rw [wrap_eq head (Nat.le_of_lt ring.count_lt)]
  unfold count distance
  split_ifs <;> omega

theorem offset_ne_tail (ring : RingBuffer α size) {offset : Nat} (inside : offset < ring.count) :
    (ring.head + offset) % size ≠ ring.tail := by
  have head := ring.head_lt
  have bound := ring.count_lt
  rw [← ring.tail_eq, wrap_eq head (by omega), wrap_eq head (Nat.le_of_lt bound)]
  split_ifs <;> omega

theorem count_push (ring : RingBuffer α size) (value : α) (room : ring.isFull = false) :
    (ring.push value).count = ring.count + 1 := by
  have head := ring.head_lt
  have tail := ring.tail_lt
  have open_ := decide_eq_false_iff_not.mp room
  rw [wrap_eq tail (by omega)] at open_
  change distance size ring.head ((ring.tail + 1) % size) = distance size ring.head ring.tail + 1
  rw [wrap_eq tail (by omega)]
  unfold distance
  split_ifs at open_ ⊢ <;> omega

theorem cellAt_push (ring : RingBuffer α size) (value : α) (offset : Nat) :
    (ring.push value).cellAt offset =
      if (ring.head + offset) % size = ring.tail then value else ring.cellAt offset := by
  change Function.update ring.cells ⟨ring.tail, ring.tail_lt⟩ value
    ⟨(ring.head + offset) % size, ring.mod_lt _⟩ = _
  by_cases same : (ring.head + offset) % size = ring.tail
  · simp only [same, Function.update_self, if_true]
  · rw [if_neg same, Function.update_of_ne (fun equal => same (Fin.mk.inj equal))]
    rfl

theorem contents_push (ring : RingBuffer α size) (value : α) (room : ring.isFull = false) :
    (ring.push value).contents = ring.contents ++ [value] := by
  rw [contents, count_push ring value room, List.range_succ, List.map_append, List.map_singleton,
    cellAt_push, if_pos ring.tail_eq, contents]
  congr 1
  apply List.map_congr_left
  intro offset inside
  rw [cellAt_push, if_neg (ring.offset_ne_tail (List.mem_range.mp inside))]

theorem count_dropFront (ring : RingBuffer α size) (some : ring.isEmpty = false) :
    ring.count = ring.dropFront.count + 1 := by
  have head := ring.head_lt
  have tail := ring.tail_lt
  have different := decide_eq_false_iff_not.mp some
  change distance size ring.head ring.tail = distance size ((ring.head + 1) % size) ring.tail + 1
  rw [wrap_eq head (by omega)]
  unfold distance
  split_ifs <;> omega

theorem cellAt_dropFront (ring : RingBuffer α size) (offset : Nat) :
    ring.dropFront.cellAt offset = ring.cellAt (offset + 1) := by
  simp only [cellAt, dropFront, Nat.mod_add_mod, Nat.add_assoc, Nat.add_comm 1 offset]

theorem contents_dropFront (ring : RingBuffer α size) (some : ring.isEmpty = false) :
    ring.contents = ring.front :: ring.dropFront.contents := by
  rw [contents, count_dropFront ring some, List.range_succ_eq_map, List.map_cons, List.map_map,
    contents]
  congr 1
  · simp only [cellAt, front, Nat.add_zero, Nat.mod_eq_of_lt ring.head_lt]
  · apply List.map_congr_left
    intro offset inside
    exact (ring.cellAt_dropFront offset).symm

end RingBuffer
end Library
end Imx6Gateway
