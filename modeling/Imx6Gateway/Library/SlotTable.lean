import Mathlib.Data.List.Basic

namespace Imx6Gateway
namespace Library

/-!
# Tables of slots searched in index order

A C program keeps a bounded pool of records as an array with a `used` flag
in each element, and every operation is a loop that stops at the first
element with some property.  `updateFirst` is that loop.  A `SlotTable`
holds the array; an unused element is `none`, so a stale record in it cannot
be read.  Each operation is described by the split of the array at the
element it stopped at.
-/

section UpdateFirst

variable {β : Type} (test : β -> Bool) (change : β -> β)

/-- Change the first element that passes the test, and return that element
with the changed list.  `none` means that the loop ran to the end. -/
def updateFirst : List β -> Option (β × List β)
  | [] => none
  | head :: tail =>
      if test head then some (head, change head :: tail)
      else (updateFirst tail).map fun found => (found.1, head :: found.2)

theorem updateFirst_eq_none {elements : List β} :
    updateFirst test change elements = none ↔
      forall element, element ∈ elements -> test element = false := by
  induction elements with
  | nil => simp [updateFirst]
  | cons head tail ih =>
      cases passes : test head <;> simp [updateFirst, passes, ih]

/-- The loop stops at the first element that passes, and changes only it. -/
theorem updateFirst_eq_some {elements result : List β} {found : β}
    (stopped : updateFirst test change elements = some (found, result)) :
    exists before after, elements = before ++ found :: after ∧
      result = before ++ change found :: after ∧ test found = true ∧
      forall element, element ∈ before -> test element = false := by
  induction elements generalizing result with
  | nil => cases stopped
  | cons head tail ih =>
      cases passes : test head with
      | true =>
          simp only [updateFirst, passes, if_true, Option.some.injEq, Prod.mk.injEq] at stopped
          rcases stopped with ⟨rfl, rfl⟩
          exact ⟨[], tail, rfl, rfl, passes, by simp⟩
      | false =>
          simp only [updateFirst, passes, Bool.false_eq_true, if_false, Option.map_eq_some_iff,
            Prod.mk.injEq] at stopped
          rcases stopped with ⟨⟨inner, rest⟩, innerStopped, rfl, rfl⟩
          rcases ih innerStopped with ⟨before, after, split, restSplit, foundPasses, earlier⟩
          refine ⟨head :: before, after, by rw [split, List.cons_append],
            by rw [List.cons_append, ← restSplit], foundPasses, ?_⟩
          intro element member
          rcases List.mem_cons.mp member with rfl | member
          · exact passes
          · exact earlier element member

theorem updateFirst_length {elements result : List β} {found : β}
    (stopped : updateFirst test change elements = some (found, result)) :
    result.length = elements.length := by
  rcases updateFirst_eq_some test change stopped with ⟨before, after, rfl, rfl, -, -⟩
  simp

/-- The loop stops where a search stops. -/
theorem find?_of_updateFirst {elements result : List β} {found : β}
    (stopped : updateFirst test change elements = some (found, result)) :
    elements.find? test = some found := by
  rcases updateFirst_eq_some test change stopped with ⟨before, after, rfl, -, passes, earlier⟩
  have skipped : before.find? test = none :=
    List.find?_eq_none.mpr fun element member => Bool.eq_false_iff.mp (earlier element member)
  rw [List.find?_append, skipped, Option.none_or, List.find?_cons_of_pos passes]

theorem find?_updateFirst_self {elements result : List β} {found : β}
    (stopped : updateFirst test change elements = some (found, result))
    (stays : test (change found) = true) : result.find? test = some (change found) := by
  rcases updateFirst_eq_some test change stopped with ⟨before, after, -, rfl, -, earlier⟩
  have skipped : before.find? test = none :=
    List.find?_eq_none.mpr fun element member => Bool.eq_false_iff.mp (earlier element member)
  rw [List.find?_append, skipped, Option.none_or, List.find?_cons_of_pos stays]

/-- A search that passes over the element does not see the change. -/
theorem find?_updateFirst_of_ne {elements result : List β} {found : β}
    (stopped : updateFirst test change elements = some (found, result)) {other : β -> Bool}
    (before : other found = false) (after : other (change found) = false) :
    result.find? other = elements.find? other := by
  rcases updateFirst_eq_some test change stopped with ⟨front, back, rfl, rfl, -, -⟩
  rw [List.find?_append, List.find?_append, List.find?_cons_of_neg (Bool.eq_false_iff.mp before),
    List.find?_cons_of_neg (Bool.eq_false_iff.mp after)]

/-- A projection that the change keeps. -/
theorem map_updateFirst {γ : Type} {elements result : List β} {found : β}
    (stopped : updateFirst test change elements = some (found, result)) {project : β -> γ}
    (keeps : project (change found) = project found) :
    result.map project = elements.map project := by
  rcases updateFirst_eq_some test change stopped with ⟨before, after, rfl, rfl, -, -⟩
  rw [List.map_append, List.map_append, List.map_cons, List.map_cons, keeps]

end UpdateFirst

/-- An array of `size` slots.  The length travels with the table, so that no
operation can grow or shrink the array. -/
structure SlotTable (α : Type) (size : Nat) where
  slots : List (Option α)
  length_eq : slots.length = size
deriving DecidableEq

namespace SlotTable

variable {α : Type} {size : Nat}

instance : Membership α (SlotTable α size) where
  mem table entry := some entry ∈ table.slots

theorem mem_iff {table : SlotTable α size} {entry : α} :
    entry ∈ table ↔ some entry ∈ table.slots := Iff.rfl

/-- All slots unused. -/
def empty (α : Type) (size : Nat) : SlotTable α size :=
  ⟨List.replicate size none, List.length_replicate⟩

theorem not_mem_empty (entry : α) : entry ∉ empty α size := by
  intro member
  have isNone := List.eq_of_mem_replicate (mem_iff.mp member)
  cases isNone

/-- One search of the array, with the element it stopped at. -/
def update (table : SlotTable α size) (test : Option α -> Bool)
    (change : Option α -> Option α) : Option (Option α × SlotTable α size) :=
  match stopped : updateFirst test change table.slots with
  | none => none
  | some (found, result) =>
      some (found, ⟨result, (updateFirst_length test change stopped).trans table.length_eq⟩)

theorem update_eq_none {table : SlotTable α size} {test : Option α -> Bool}
    {change : Option α -> Option α} :
    table.update test change = none ↔
      forall slot, slot ∈ table.slots -> test slot = false := by
  rw [← updateFirst_eq_none test change]
  unfold update
  split
  · rename_i stopped
    simp only [stopped]
  · rename_i stopped
    simp only [stopped, reduceCtorEq]

theorem update_eq_some {table result : SlotTable α size} {test : Option α -> Bool}
    {change : Option α -> Option α} {found : Option α}
    (stopped : table.update test change = some (found, result)) :
    exists before after, table.slots = before ++ found :: after ∧
      result.slots = before ++ change found :: after ∧ test found = true ∧
      forall slot, slot ∈ before -> test slot = false := by
  unfold update at stopped
  split at stopped
  · cases stopped
  · rename_i inner list innerStopped
    simp only [Option.some.injEq, Prod.mk.injEq] at stopped
    rcases stopped with ⟨rfl, rfl⟩
    exact updateFirst_eq_some test change innerStopped

/-- The record of the first used slot that passes the test. -/
def first (table : SlotTable α size) (test : α -> Bool) : Option α :=
  table.slots.findSome? fun slot => slot.filter test

/-- Change the record of the first used slot that passes the test. -/
def modifyFirst (table : SlotTable α size) (test : α -> Bool) (change : α -> α) :
    Option (SlotTable α size) :=
  (table.update (fun slot => slot.any test) (fun slot => slot.map change)).map Prod.snd

/-- Store a record in the first unused slot. -/
def insertFree (table : SlotTable α size) (entry : α) : Option (SlotTable α size) :=
  (table.update (fun slot => slot.isNone) (fun _ => some entry)).map Prod.snd

/-- Clear the first used slot that passes the test, and return its record. -/
def takeFirst (table : SlotTable α size) (test : α -> Bool) :
    Option (α × SlotTable α size) :=
  match table.update (fun slot => slot.any test) (fun _ => none) with
  | some (some entry, result) => some (entry, result)
  | _ => none

theorem first_eq_of_split {table : SlotTable α size} {test : α -> Bool} {entry : α}
    {before after : List (Option α)} (split : table.slots = before ++ some entry :: after)
    (passes : test entry = true)
    (earlier : forall stored, some stored ∈ before -> test stored = false) :
    table.first test = some entry := by
  have skipped : before.findSome? (fun slot => slot.filter test) = none := by
    rw [List.findSome?_eq_none_iff]
    intro slot member
    cases slot with
    | none => rfl
    | some stored => simp [Option.filter, earlier stored member]
  rw [first, split, List.findSome?_append, skipped]
  simp [Option.filter, passes]

theorem mem_of_first {table : SlotTable α size} {test : α -> Bool} {entry : α}
    (found : table.first test = some entry) : entry ∈ table ∧ test entry = true := by
  rcases List.exists_of_findSome?_eq_some found with ⟨slot, member, passes⟩
  rw [Option.filter_eq_some_iff] at passes
  rcases passes with ⟨rfl, passes⟩
  exact ⟨member, passes⟩

theorem first_eq_none {table : SlotTable α size} {test : α -> Bool} :
    table.first test = none ↔ forall stored, stored ∈ table -> test stored = false := by
  rw [first, List.findSome?_eq_none_iff]
  constructor
  · intro fails stored member
    simpa [Option.filter] using fails (some stored) member
  · intro fails slot member
    cases slot with
    | none => rfl
    | some stored => simp [Option.filter, fails stored member]

theorem modifyFirst_eq_none {table : SlotTable α size} {test : α -> Bool} {change : α -> α} :
    table.modifyFirst test change = none ↔
      forall stored, stored ∈ table -> test stored = false := by
  rw [modifyFirst, Option.map_eq_none_iff, update_eq_none]
  constructor
  · intro fails stored member
    exact fails (some stored) member
  · intro fails slot member
    cases slot with
    | none => rfl
    | some stored => exact fails stored member

theorem modifyFirst_eq_none_iff_first {table : SlotTable α size} {test : α -> Bool}
    {change : α -> α} : table.modifyFirst test change = none ↔ table.first test = none := by
  rw [modifyFirst_eq_none, first_eq_none]

theorem modifyFirst_eq_some {table result : SlotTable α size} {test : α -> Bool}
    {change : α -> α} (modified : table.modifyFirst test change = some result) :
    exists before old after, table.slots = before ++ some old :: after ∧
      result.slots = before ++ some (change old) :: after ∧ test old = true ∧
      forall stored, some stored ∈ before -> test stored = false := by
  rw [modifyFirst, Option.map_eq_some_iff] at modified
  rcases modified with ⟨⟨found, after⟩, stopped, rfl⟩
  rcases update_eq_some stopped with ⟨before, rest, split, resultSplit, passes, earlier⟩
  cases found with
  | none => cases passes
  | some old =>
      refine ⟨before, old, rest, split, resultSplit, passes, ?_⟩
      intro stored member
      exact earlier (some stored) member

theorem insertFree_eq_none {table : SlotTable α size} {entry : α} :
    table.insertFree entry = none ↔ none ∉ table.slots := by
  rw [insertFree, Option.map_eq_none_iff, update_eq_none]
  constructor
  · intro used member
    cases used none member
  · intro full slot member
    cases slot with
    | none => exact absurd member full
    | some stored => rfl

theorem insertFree_eq_some {table result : SlotTable α size} {entry : α}
    (inserted : table.insertFree entry = some result) :
    exists before after, table.slots = before ++ none :: after ∧
      result.slots = before ++ some entry :: after := by
  rw [insertFree, Option.map_eq_some_iff] at inserted
  rcases inserted with ⟨⟨found, after⟩, stopped, rfl⟩
  rcases update_eq_some stopped with ⟨before, rest, split, resultSplit, passes, -⟩
  cases found with
  | none => exact ⟨before, rest, split, resultSplit⟩
  | some old => cases passes

theorem takeFirst_eq_none {table : SlotTable α size} {test : α -> Bool} :
    table.takeFirst test = none ↔ forall stored, stored ∈ table -> test stored = false := by
  rw [takeFirst]
  constructor
  · intro missing stored member
    split at missing
    · cases missing
    · rename_i other
      cases outcome : table.update (fun slot => slot.any test) (fun _ => none) with
      | none => exact update_eq_none.mp outcome (some stored) member
      | some pair =>
          rcases pair with ⟨found, result⟩
          rcases update_eq_some outcome with ⟨-, -, -, -, passes, -⟩
          cases found with
          | none => cases passes
          | some entry => exact absurd outcome (other entry result)
  · intro fails
    have missing : table.update (fun slot => slot.any test) (fun _ => none) = none := by
      rw [update_eq_none]
      intro slot member
      cases slot with
      | none => rfl
      | some stored => exact fails stored member
    rw [missing]

theorem takeFirst_eq_some {table result : SlotTable α size} {test : α -> Bool} {entry : α}
    (taken : table.takeFirst test = some (entry, result)) :
    exists before after, table.slots = before ++ some entry :: after ∧
      result.slots = before ++ none :: after ∧ test entry = true ∧
      forall stored, some stored ∈ before -> test stored = false := by
  rw [takeFirst] at taken
  split at taken
  · rename_i found rest stopped
    simp only [Option.some.injEq, Prod.mk.injEq] at taken
    rcases taken with ⟨rfl, rfl⟩
    rcases update_eq_some stopped with ⟨before, after, split, resultSplit, passes, earlier⟩
    refine ⟨before, after, split, resultSplit, passes, ?_⟩
    intro stored member
    exact earlier (some stored) member
  · cases taken

/-! ## Which records remain -/

theorem mem_of_modifyFirst {table result : SlotTable α size} {test : α -> Bool}
    {change : α -> α} (modified : table.modifyFirst test change = some result) :
    exists old, table.first test = some old ∧ old ∈ table ∧ test old = true ∧
      change old ∈ result ∧ (forall stored, stored ∈ table -> stored = old ∨ stored ∈ result) ∧
      forall stored, stored ∈ result -> stored = change old ∨ stored ∈ table := by
  rcases modifyFirst_eq_some modified with ⟨before, old, after, split, resultSplit, passes, earlier⟩
  have found := first_eq_of_split split passes earlier
  simp only [mem_iff, split, resultSplit, List.mem_append, List.mem_cons, Option.some.injEq]
  exact ⟨old, found, by simp, passes, by simp, by tauto, by tauto⟩

theorem mem_of_insertFree {table result : SlotTable α size} {entry : α}
    (inserted : table.insertFree entry = some result) :
    entry ∈ result ∧ (forall stored, stored ∈ table -> stored ∈ result) ∧
      forall stored, stored ∈ result -> stored = entry ∨ stored ∈ table := by
  rcases insertFree_eq_some inserted with ⟨before, after, split, resultSplit⟩
  simp only [mem_iff, split, resultSplit, List.mem_append, List.mem_cons, Option.some.injEq,
    reduceCtorEq, false_or]
  exact ⟨by simp, by tauto, by tauto⟩

theorem mem_of_takeFirst {table result : SlotTable α size} {test : α -> Bool} {entry : α}
    (taken : table.takeFirst test = some (entry, result)) :
    table.first test = some entry ∧ entry ∈ table ∧ test entry = true ∧
      (forall stored, stored ∈ table -> stored = entry ∨ stored ∈ result) ∧
      forall stored, stored ∈ result -> stored ∈ table := by
  rcases takeFirst_eq_some taken with ⟨before, after, split, resultSplit, passes, earlier⟩
  have found := first_eq_of_split split passes earlier
  simp only [mem_iff, split, resultSplit, List.mem_append, List.mem_cons, Option.some.injEq,
    reduceCtorEq, false_or]
  exact ⟨found, by simp, passes, by tauto, by tauto⟩

/-! ## What a search finds afterwards -/

theorem first_of_slots {table : SlotTable α size} {before after : List (Option α)}
    {slot : Option α} {test : α -> Bool} (split : table.slots = before ++ slot :: after)
    (fails : slot.filter test = none) :
    table.first test = (before ++ after).findSome? fun slot => slot.filter test := by
  rw [first, split, List.findSome?_append, List.findSome?_append, List.findSome?_cons, fails]

/-- Searches that do not look at the changed record. -/
theorem first_modifyFirst_of_ne {table result : SlotTable α size} {test other : α -> Bool}
    {change : α -> α} (modified : table.modifyFirst test change = some result)
    (apart : forall entry, test entry = true ->
      other entry = false ∧ other (change entry) = false) :
    result.first other = table.first other := by
  rcases modifyFirst_eq_some modified with ⟨before, old, after, split, resultSplit, passes, -⟩
  have misses := apart old passes
  rw [first_of_slots split (by simp [Option.filter, misses.1]),
    first_of_slots resultSplit (by simp [Option.filter, misses.2])]

theorem first_modifyFirst_self {table result : SlotTable α size} {test : α -> Bool}
    {change : α -> α} (modified : table.modifyFirst test change = some result)
    (stays : forall entry, test entry = true -> test (change entry) = true) :
    result.first test = (table.first test).map change := by
  rcases modifyFirst_eq_some modified with ⟨before, old, after, split, resultSplit, passes, earlier⟩
  rw [first_eq_of_split split passes earlier,
    first_eq_of_split resultSplit (stays old passes) earlier]
  rfl

theorem first_insertFree_of_ne {table result : SlotTable α size} {other : α -> Bool} {entry : α}
    (inserted : table.insertFree entry = some result) (apart : other entry = false) :
    result.first other = table.first other := by
  rcases insertFree_eq_some inserted with ⟨before, after, split, resultSplit⟩
  rw [first_of_slots split rfl, first_of_slots resultSplit (by simp [Option.filter, apart])]

/-- The only record that passes is the new one. -/
theorem first_insertFree_self {table result : SlotTable α size} {test : α -> Bool} {entry found : α}
    (inserted : table.insertFree entry = some result) (none : table.first test = none)
    (isFound : result.first test = some found) : found = entry := by
  rcases mem_of_insertFree inserted with ⟨-, -, origins⟩
  rcases mem_of_first isFound with ⟨member, passes⟩
  rcases origins found member with new | old
  · exact new
  · rw [first_eq_none.mp none found old] at passes
    cases passes

/-! ## The room that is left -/

def room (table : SlotTable α size) : Nat :=
  table.slots.countP Option.isNone

theorem room_empty : (empty α size).room = size := by
  rw [room, empty, List.countP_replicate]
  rfl

theorem insertFree_eq_none_iff_room {table : SlotTable α size} {entry : α} :
    table.insertFree entry = none ↔ table.room = 0 := by
  rw [insertFree_eq_none, room, List.countP_eq_zero]
  constructor
  · intro full slot member isNone
    rw [Option.isNone_iff_eq_none.mp isNone] at member
    exact full member
  · exact fun full member => full none member rfl

theorem room_insertFree {table result : SlotTable α size} {entry : α}
    (inserted : table.insertFree entry = some result) : result.room + 1 = table.room := by
  rcases insertFree_eq_some inserted with ⟨before, after, split, resultSplit⟩
  rw [room, room, split, resultSplit, List.countP_append, List.countP_append, List.countP_cons,
    List.countP_cons, Option.isNone_some, Option.isNone_none, if_neg Bool.false_ne_true, if_pos rfl]
  omega

theorem room_modifyFirst {table result : SlotTable α size} {test : α -> Bool} {change : α -> α}
    (modified : table.modifyFirst test change = some result) : result.room = table.room := by
  rcases modifyFirst_eq_some modified with ⟨before, old, after, split, resultSplit, -, -⟩
  rw [room, room, split, resultSplit, List.countP_append, List.countP_append, List.countP_cons,
    List.countP_cons, Option.isNone_some, Option.isNone_some]

end SlotTable
end Library
end Imx6Gateway
