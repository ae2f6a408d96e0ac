import Mathlib.Data.List.Basic

namespace Imx6Gateway
namespace Library

/-!
# Maps sorted by their keys

An association list that keeps its keys in order, for programs that iterate
over a sorted map.  The lookup laws need no order, so lists built by
insertions carry no further proof.
-/

namespace SortedMap

variable {Key Value : Type} [DecidableEq Key]

theorem lookup_cons (key : Key) (entry : Key × Value) (entries : List (Key × Value)) :
    (entry :: entries).lookup key =
      if key = entry.1 then some entry.2 else entries.lookup key := by
  by_cases same : key = entry.1
  · rw [List.lookup_cons, if_pos same, beq_iff_eq.mpr same]
  · rw [List.lookup_cons, if_neg same, beq_eq_false_iff_ne.mpr same]

variable [LT Key] [DecidableLT Key]

def insert (key : Key) (value : Value) : List (Key × Value) -> List (Key × Value)
  | [] => [(key, value)]
  | entry :: entries =>
      if key = entry.1 then (key, value) :: entries
      else if key < entry.1 then (key, value) :: entry :: entries
      else entry :: insert key value entries

def insertAll (entries added : List (Key × Value)) : List (Key × Value) :=
  added.foldl (fun entries entry => insert entry.1 entry.2 entries) entries

theorem lookup_insert (key other : Key) (value : Value) (entries : List (Key × Value)) :
    (insert key value entries).lookup other =
      if other = key then some value else entries.lookup other := by
  induction entries with
  | nil => rw [insert, lookup_cons]
  | cons entry entries ih =>
      unfold insert
      split
      · rename_i first
        rw [lookup_cons, lookup_cons]
        by_cases same : other = key
        · rw [if_pos same, if_pos same]
        · rw [if_neg same, if_neg same, if_neg (first ▸ same)]
      · split
        · rw [lookup_cons]
        · rename_i different _
          rw [lookup_cons, ih, lookup_cons]
          by_cases same : other = key
          · rw [if_pos same, if_pos same, if_neg (same ▸ different)]
          · rw [if_neg same, if_neg same]

/-- Later entries win. -/
theorem lookup_insertAll (entries added : List (Key × Value)) (key : Key) :
    (insertAll entries added).lookup key =
      (added.reverse.lookup key).or (entries.lookup key) := by
  induction added generalizing entries with
  | nil => rfl
  | cons entry added ih =>
      rw [insertAll, List.foldl_cons, ← insertAll, ih, lookup_insert, List.reverse_cons,
        List.lookup_append, Option.or_assoc, lookup_cons]
      by_cases same : key = entry.1
      · rw [if_pos same, if_pos same, Option.some_or]
      · rw [if_neg same, if_neg same, List.lookup_nil, Option.none_or]

theorem mem_insert {key : Key} {value : Value} {entry : Key × Value} {entries : List (Key × Value)}
    (inside : entry ∈ insert key value entries) : entry = (key, value) ∨ entry ∈ entries := by
  induction entries with
  | nil => exact Or.inl (List.mem_singleton.mp inside)
  | cons first entries ih =>
      unfold insert at inside
      split at inside
      · exact (List.mem_cons.mp inside).imp_right (List.mem_cons_of_mem first)
      · split at inside
        · exact List.mem_cons.mp inside
        · rcases List.mem_cons.mp inside with rfl | later
          · exact Or.inr List.mem_cons_self
          · exact (ih later).imp_right (List.mem_cons_of_mem first)

theorem mem_insertAll {entries added : List (Key × Value)} {entry : Key × Value}
    (inside : entry ∈ insertAll entries added) : entry ∈ added ∨ entry ∈ entries := by
  induction added generalizing entries with
  | nil => exact Or.inr inside
  | cons first added ih =>
      rcases ih inside with later | earlier
      · exact Or.inl (List.mem_cons_of_mem first later)
      · rcases mem_insert earlier with rfl | old
        · exact Or.inl List.mem_cons_self
        · exact Or.inr old

/-- A key that is not there yet adds one entry. -/
theorem mem_insert_of_absent {key : Key} {entries : List (Key × Value)}
    (absent : forall entry, entry ∈ entries -> entry.1 ≠ key) (value : Value)
    (entry : Key × Value) :
    entry ∈ insert key value entries ↔ entry = (key, value) ∨ entry ∈ entries := by
  induction entries with
  | nil => simp [insert]
  | cons first entries ih =>
      have later := ih fun other inside => absent other (List.mem_cons_of_mem first inside)
      rw [insert, if_neg (absent first List.mem_cons_self).symm]
      split
      · exact List.mem_cons
      · rw [List.mem_cons, List.mem_cons, later]
        exact or_left_comm

def erase (key : Key) (entries : List (Key × Value)) : List (Key × Value) :=
  entries.filter fun entry => entry.1 ≠ key

omit [LT Key] [DecidableLT Key] in
theorem mem_erase {key : Key} {entries : List (Key × Value)} {entry : Key × Value} :
    entry ∈ erase key entries ↔ entry ∈ entries ∧ entry.1 ≠ key := by
  rw [erase, List.mem_filter, decide_eq_true_iff]

/-- The entries are the graph of the function. -/
def Tabulates (entries : List (Key × Value)) (graph : Key -> Option Value) : Prop :=
  forall key value, graph key = some value ↔ (key, value) ∈ entries

omit [LT Key] [DecidableLT Key] in
theorem mem_of_lookup {entries : List (Key × Value)} {key : Key} {value : Value}
    (found : entries.lookup key = some value) : (key, value) ∈ entries := by
  induction entries with
  | nil => cases found
  | cons entry entries ih =>
      rw [lookup_cons] at found
      split at found
      · rename_i same
        rw [same, ← Option.some.inj found]
        exact List.mem_cons_self
      · exact List.mem_cons_of_mem entry (ih found)

omit [LT Key] [DecidableLT Key] in
theorem lookup_of_tabulates {entries : List (Key × Value)} {graph : Key -> Option Value}
    (tabulates : Tabulates entries graph) (key : Key) : entries.lookup key = graph key := by
  cases found : entries.lookup key with
  | some value => exact ((tabulates key value).mpr (mem_of_lookup found)).symm
  | none =>
      cases expected : graph key with
      | none => rfl
      | some value =>
          have absent := List.lookup_eq_none_iff.mp found _ ((tabulates key value).mp expected)
          simp at absent

/-- The inserted table goes before what was there. -/
theorem lookup_insertAll_of_tabulates {added : List (Key × Value)} {graph : Key -> Option Value}
    (tabulates : Tabulates added graph) (entries : List (Key × Value)) (key : Key) :
    (insertAll entries added).lookup key = (graph key).or (entries.lookup key) := by
  have reversed : Tabulates added.reverse graph := fun key value => by
    rw [List.mem_reverse]
    exact tabulates key value
  rw [lookup_insertAll, lookup_of_tabulates reversed]

/-- Inserting a table into the empty map keeps it. -/
theorem tabulates_insertAll {added : List (Key × Value)} {graph : Key -> Option Value}
    (tabulates : Tabulates added graph) : Tabulates (insertAll [] added) graph := by
  intro key value
  constructor
  · intro expected
    apply mem_of_lookup
    rw [lookup_insertAll_of_tabulates tabulates, expected]
    rfl
  · intro inside
    rcases mem_insertAll inside with old | none
    · exact (tabulates key value).mpr old
    · cases none

end SortedMap
end Library
end Imx6Gateway
