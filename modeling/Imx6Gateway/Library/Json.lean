import Imx6Gateway.Library.BinaryFloat
import Mathlib.Data.List.Induction

namespace Imx6Gateway
namespace Library

/-!
# JSON trees and JSON libraries

The programs of this development exchange JSON texts but compute with trees.
A tree separates integers from other numbers, as the C and C++ libraries do,
and a non-integer carries the value of a finite `double`.  A library is a
printer with a parser that reads the printed trees back.  The law is stated
only for the trees that a library can hold (`Wire`): distinct keys, numbers of
the machine's types, and a bounded nesting.
-/

inductive Json where
  | null
  | bool (value : Bool)
  | int (value : Int)
  | real (value : Rat)
  | str (text : String)
  | arr (items : List Json)
  | obj (members : List (String × Json))
deriving Inhabited

namespace Json

/-- The value stored under a key.  Only objects have members. -/
def lookup (key : String) : Json -> Option Json
  | obj members => members.lookup key
  | _ => none

/-- Remove the members with the key.  Trees that are not objects stay. -/
def erase (key : String) : Json -> Json
  | obj members => obj (members.filter fun member => member.1 ≠ key)
  | other => other

/-- Append a member at the end of an object. -/
def append (json : Json) (key : String) (value : Json) : Json :=
  match json with
  | obj members => obj (members ++ [(key, value)])
  | other => other

/-- A member that is written only when the condition holds. -/
def memberIf (written : Bool) (key : String) (value : Json) : List (String × Json) :=
  if written then [(key, value)] else []

def isObj : Json -> Bool
  | obj _ => true
  | _ => false

@[simp]
theorem lookup_obj (key : String) (members : List (String × Json)) :
    (obj members).lookup key = members.lookup key := rfl

theorem isObj_iff {json : Json} : json.isObj = true ↔ exists members, json = obj members := by
  cases json <;> simp [isObj]

@[simp]
theorem isObj_erase (key : String) (json : Json) : (json.erase key).isObj = json.isObj := by
  cases json <;> rfl

@[simp]
theorem isObj_append (json : Json) (key : String) (value : Json) :
    (json.append key value).isObj = json.isObj := by
  cases json <;> rfl

/-- Deepest nesting below the outermost value. -/
def maxDepth : Nat := 31

/-- A library can hold the tree with `depth` levels of nesting left.  An empty
container needs no level for its content. -/
def Wire : Nat -> Json -> Prop
  | _, null | _, bool _ | _, str _ => True
  | _, int value => -2 ^ 63 ≤ value ∧ value < 2 ^ 64
  | _, real value => FloatFormat.binary64.Representable value
  | 0, arr items => items = []
  | 0, obj members => members = []
  | depth + 1, arr items => forall item, item ∈ items -> Wire depth item
  | depth + 1, obj members =>
      (members.map Prod.fst).Nodup ∧ forall member, member ∈ members -> Wire depth member.2

theorem wire_obj_succ (depth : Nat) (members : List (String × Json)) :
    Wire (depth + 1) (obj members) ↔ (members.map Prod.fst).Nodup ∧
      forall member, member ∈ members -> Wire depth member.2 := Iff.rfl

theorem wire_arr_succ (depth : Nat) (items : List Json) :
    Wire (depth + 1) (arr items) ↔ forall item, item ∈ items -> Wire depth item := Iff.rfl

@[simp] theorem wire_null (depth : Nat) : Wire depth null := by cases depth <;> trivial

@[simp] theorem wire_bool (depth : Nat) (value : Bool) : Wire depth (bool value) := by
  cases depth <;> trivial

@[simp] theorem wire_str (depth : Nat) (text : String) : Wire depth (str text) := by
  cases depth <;> trivial

@[simp] theorem wire_int (depth : Nat) (value : Int) :
    Wire depth (int value) ↔ -2 ^ 63 ≤ value ∧ value < 2 ^ 64 := by
  cases depth <;> exact Iff.rfl

@[simp] theorem wire_real (depth : Nat) (value : Rat) :
    Wire depth (real value) ↔ FloatFormat.binary64.Representable value := by
  cases depth <;> exact Iff.rfl

theorem wire_nodup {depth : Nat} {members : List (String × Json)}
    (wire : Wire depth (obj members)) : (members.map Prod.fst).Nodup := by
  cases depth with
  | zero =>
      have none : members = [] := wire
      rw [none]
      exact List.nodup_nil
  | succ depth => exact wire.1

instance wireDecidable : forall depth json, Decidable (Wire depth json)
  | _, null => isTrue (wire_null _)
  | _, bool _ => isTrue (wire_bool _ _)
  | _, str _ => isTrue (wire_str _ _)
  | _, int _ => decidable_of_iff _ (wire_int _ _).symm
  | _, real _ => decidable_of_iff _ (wire_real _ _).symm
  | 0, arr [] => isTrue rfl
  | 0, arr (_ :: _) => isFalse (fun empty => by cases (show (_ :: _ : List Json) = [] from empty))
  | 0, obj [] => isTrue rfl
  | 0, obj (_ :: _) =>
      isFalse (fun empty => by cases (show (_ :: _ : List (String × Json)) = [] from empty))
  | depth + 1, arr items =>
      haveI := wireDecidable depth
      decidable_of_iff _ (wire_arr_succ depth items).symm
  | depth + 1, obj members =>
      haveI := wireDecidable depth
      decidable_of_iff _ (wire_obj_succ depth members).symm

/-- Replacing members by scalars stays within the bounds. -/
theorem wire_append {depth : Nat} {key : String} {value json : Json}
    (wire : Wire (depth + 1) json) (scalar : Wire depth value)
    (fresh : json.lookup key = none) : Wire (depth + 1) (json.append key value) := by
  cases json with
  | obj members =>
      rw [wire_obj_succ] at wire
      rw [append, wire_obj_succ]
      constructor
      · rw [List.map_append, List.nodup_append]
        refine ⟨wire.1, by simp, ?_⟩
        rintro known member _ added rfl
        rw [List.map_cons, List.map_nil, List.mem_singleton] at added
        subst added
        rcases List.mem_map.mp member with ⟨pair, inside, same⟩
        rw [lookup_obj, List.lookup_eq_none_iff] at fresh
        have different := fresh pair inside
        rw [bne_iff_ne] at different
        exact different same.symm
      · intro member inside
        rcases List.mem_append.mp inside with old | added
        · exact wire.2 member old
        · rw [List.mem_singleton.mp added]
          exact scalar
  | _ => exact wire

theorem wire_erase {depth : Nat} {key : String} {json : Json}
    (wire : Wire (depth + 1) json) : Wire (depth + 1) (json.erase key) := by
  cases json with
  | obj members =>
      rw [wire_obj_succ] at wire
      rw [erase, wire_obj_succ]
      constructor
      · exact wire.1.sublist (List.filter_sublist.map _)
      · intro member inside
        exact wire.2 member (List.mem_of_mem_filter inside)
  | _ => exact wire

theorem lookup_erase_self (key : String) (json : Json) : (json.erase key).lookup key = none := by
  cases json with
  | obj members =>
      rw [erase, lookup_obj, List.lookup_eq_none_iff]
      intro member inside
      have kept := (List.mem_filter.mp inside).2
      rw [decide_eq_true_iff] at kept
      rw [bne_iff_ne]
      exact kept.symm
  | _ => rfl

/-- `erase` then `append`: the last value given for a key wins. -/
theorem lookup_append_self (key : String) (value json : Json) (isObj : json.isObj = true)
    (fresh : json.lookup key = none) : (json.append key value).lookup key = some value := by
  rcases isObj_iff.mp isObj with ⟨members, rfl⟩
  rw [lookup_obj] at fresh
  rw [append, lookup_obj, List.lookup_append, fresh]
  simp

theorem lookup_append_of_ne {key other : String} (value : Json) (json : Json)
    (different : key ≠ other) : (json.append other value).lookup key = json.lookup key := by
  cases json with
  | obj members =>
      rw [append, lookup_obj, lookup_obj, List.lookup_append]
      have absent : (key == other) = false := by simpa using different
      simp [List.lookup_cons, absent]
  | _ => rfl

theorem lookup_erase_of_ne {key other : String} (json : Json) (different : key ≠ other) :
    (json.erase other).lookup key = json.lookup key := by
  cases json with
  | obj members =>
      rw [erase, lookup_obj, lookup_obj]
      induction members with
      | nil => rfl
      | cons head tail ih =>
          by_cases dropped : head.1 = other
          · have absent : (key == head.1) = false := by simpa [dropped] using different
            rw [List.filter_cons_of_neg (by simpa using dropped), ih, List.lookup_cons, absent]
          · rw [List.filter_cons_of_pos (by simpa using dropped), List.lookup_cons, List.lookup_cons, ih]
  | _ => rfl

theorem erase_append_self (json : Json) (key : String) (value : Json) :
    (json.append key value).erase key = json.erase key := by
  cases json with
  | obj members => simp [append, erase, List.filter_append]
  | _ => rfl

theorem erase_append_of_ne (json : Json) {key other : String} (value : Json)
    (different : other ≠ key) :
    (json.append other value).erase key = (json.erase key).append other value := by
  cases json with
  | obj members => simp [append, erase, List.filter_append, different]
  | _ => rfl

theorem erase_erase (key : String) (json : Json) :
    (json.erase key).erase key = json.erase key := by
  cases json with
  | obj members => simp [erase, List.filter_filter]
  | _ => rfl

theorem erase_comm (first second : String) (json : Json) :
    (json.erase first).erase second = (json.erase second).erase first := by
  cases json with
  | obj members => simp [erase, List.filter_filter, Bool.and_comm]
  | _ => rfl

end Json

namespace Json

/-! ## Objects that are filled member by member -/

/-- Replace the value of a key where it stands, or add the member at the end. -/
def putMember (key : String) (value : Json) : List (String × Json) -> List (String × Json)
  | [] => [(key, value)]
  | head :: tail =>
      if head.1 = key then (key, value) :: tail else head :: putMember key value tail

def put (json : Json) (key : String) (value : Json) : Json :=
  match json with
  | obj members => obj (putMember key value members)
  | other => other

/-- The object that is filled with the members in their order. -/
def filled (members : List (String × Json)) : List (String × Json) :=
  members.foldl (fun object member => putMember member.1 member.2 object) []

theorem lookup_putMember (key other : String) (value : Json) (members : List (String × Json)) :
    (putMember key value members).lookup other =
      if other = key then some value else members.lookup other := by
  induction members with
  | nil =>
      by_cases same : other = key
      · simp [putMember, same]
      · have different : (other == key) = false := by simpa using same
        simp [putMember, List.lookup_cons, same, different]
  | cons head tail ih =>
      rw [putMember]
      by_cases here : head.1 = key
      · rw [if_pos here]
        by_cases same : other = key
        · simp [same]
        · have different : (other == key) = false := by simpa using same
          have absent : (other == head.1) = false := by rw [here]; exact different
          rw [List.lookup_cons, List.lookup_cons, different, absent, if_neg same]
      · rw [if_neg here, List.lookup_cons, List.lookup_cons, ih]
        by_cases found : other = head.1
        · have different : other ≠ key := fun same => here (found.symm.trans same)
          rw [if_neg different, if_neg different]
        · have absent : (other == head.1) = false := by simpa using found
          rw [absent]

theorem mem_keys_putMember {key other : String} {value : Json} {members : List (String × Json)}
    (inside : other ∈ (putMember key value members).map Prod.fst) :
    other = key ∨ other ∈ members.map Prod.fst := by
  induction members with
  | nil => exact .inl (by simpa [putMember] using inside)
  | cons head tail ih =>
      rw [putMember] at inside
      split at inside
      · rw [List.map_cons, List.mem_cons] at inside
        exact inside.imp_right (List.mem_cons_of_mem head.1)
      · rw [List.map_cons, List.mem_cons] at inside
        rcases inside with same | deeper
        · exact .inr (same ▸ List.mem_cons_self)
        · exact (ih deeper).imp_right (List.mem_cons_of_mem head.1)

theorem nodup_putMember {key : String} {value : Json} {members : List (String × Json)}
    (nodup : (members.map Prod.fst).Nodup) :
    ((putMember key value members).map Prod.fst).Nodup := by
  induction members with
  | nil => simp [putMember]
  | cons head tail ih =>
      rw [List.map_cons, List.nodup_cons] at nodup
      rw [putMember]
      by_cases here : head.1 = key
      · rw [if_pos here, List.map_cons, List.nodup_cons, ← here]
        exact nodup
      · rw [if_neg here, List.map_cons, List.nodup_cons]
        refine ⟨?_, ih nodup.2⟩
        intro inside
        rcases mem_keys_putMember inside with same | deeper
        · exact here same
        · exact nodup.1 deeper

theorem mem_putMember {key : String} {value : Json} {member : String × Json}
    {members : List (String × Json)} (inside : member ∈ putMember key value members) :
    member = (key, value) ∨ member ∈ members := by
  induction members with
  | nil => exact .inl (by simpa [putMember] using inside)
  | cons head tail ih =>
      rw [putMember] at inside
      split at inside
      · exact (List.mem_cons.mp inside).imp_right (List.mem_cons_of_mem head)
      · rcases List.mem_cons.mp inside with same | deeper
        · exact .inr (same ▸ List.mem_cons_self)
        · exact (ih deeper).imp_right (List.mem_cons_of_mem head)

section Filling

/-- Filling goes on from the members that are there already. -/
theorem filled_append (first second : List (String × Json)) :
    filled (first ++ second) =
      second.foldl (fun object member => putMember member.1 member.2 object) (filled first) :=
  List.foldl_append

theorem filled_concat (members : List (String × Json)) (member : String × Json) :
    filled (members ++ [member]) = putMember member.1 member.2 (filled members) := by
  rw [filled_append]
  rfl

/-- The last value given for a key stays. -/
theorem lookup_filled (key : String) (members : List (String × Json)) :
    (filled members).lookup key = members.reverse.lookup key := by
  induction members using List.reverseRecOn with
  | nil => rfl
  | append_singleton members member ih =>
      rw [filled_concat, lookup_putMember, ih, List.reverse_append, List.reverse_singleton,
        List.singleton_append, List.lookup_cons]
      by_cases same : key = member.1
      · simp [same]
      · have different : (key == member.1) = false := by simpa using same
        rw [if_neg same, different]

theorem mem_filled {member : String × Json} {members : List (String × Json)}
    (inside : member ∈ filled members) : member ∈ members := by
  induction members using List.reverseRecOn with
  | nil => cases inside
  | append_singleton members last ih =>
      rw [filled_concat] at inside
      rcases mem_putMember inside with same | before
      · exact List.mem_append_right _ (List.mem_singleton.mpr same)
      · exact List.mem_append_left _ (ih before)

theorem nodup_filled (members : List (String × Json)) : ((filled members).map Prod.fst).Nodup := by
  induction members using List.reverseRecOn with
  | nil => exact List.nodup_nil
  | append_singleton members last ih =>
      rw [filled_concat]
      exact nodup_putMember ih

/-- A filled object can be held if its values can. -/
theorem wire_filled {depth : Nat} {members : List (String × Json)}
    (values : forall member, member ∈ members -> member.2.Wire depth) :
    (obj (filled members)).Wire (depth + 1) := by
  rw [wire_obj_succ]
  exact ⟨nodup_filled members, fun member inside => values member (mem_filled inside)⟩

/-- The first member stays first as long as its key is not given again. -/
theorem filled_cons (first : String × Json) (members : List (String × Json))
    (fresh : forall member, member ∈ members -> member.1 ≠ first.1) :
    exists rest, filled (first :: members) = first :: rest := by
  induction members using List.reverseRecOn with
  | nil => exact ⟨[], rfl⟩
  | append_singleton members last ih =>
      rcases ih (fun member inside => fresh member (List.mem_append_left _ inside)) with ⟨rest, shape⟩
      refine ⟨putMember last.1 last.2 rest, ?_⟩
      have different : first.1 ≠ last.1 := fun same =>
        fresh last (List.mem_append_right _ (List.mem_singleton.mpr rfl)) same.symm
      rw [← List.cons_append, filled_concat, shape, putMember, if_neg different]

end Filling
end Json

/-- A printer and a parser of one JSON library.  Any tree the library can hold
is read back from its own text; the empty text is no JSON value. -/
structure JsonCodec where
  print : Json -> String
  parse : String -> Option Json
  parse_print : forall json, json.Wire Json.maxDepth -> parse (print json) = some json
  parse_wire : forall text json, parse text = some json -> json.Wire Json.maxDepth
  parse_empty : parse "" = none

theorem JsonCodec.print_ne_empty (codec : JsonCodec) {json : Json}
    (wire : json.Wire Json.maxDepth) : codec.print json ≠ "" := by
  intro empty
  have readBack := codec.parse_print json wire
  rw [empty, codec.parse_empty] at readBack
  cases readBack

/-! ## The beginning of a printed object

Programs that look for a member in the text of an object rely on how a
compact printer begins. -/

/-- A text that is printed between quotes as it is. -/
def Plain (text : String) : Prop :=
  forall character, character ∈ text.toList ->
    character ≠ '"' ∧ character ≠ '\\' ∧ character ≠ '/' ∧ 32 ≤ character.toNat

instance plainDecidable (text : String) : Decidable (Plain text) :=
  List.decidableBAll
    (fun character => character ≠ '"' ∧ character ≠ '\\' ∧ character ≠ '/' ∧
      32 ≤ character.toNat) text.toList

def quoted (text : String) : List Char :=
  '"' :: (text.toList ++ ['"'])

def stringMemberText (member : String × String) : List Char :=
  quoted member.1 ++ ':' :: quoted member.2

/-- Members with plain texts, separated by commas. -/
def frontText (first : String × String) (others : List (String × String)) : List Char :=
  stringMemberText first ++ others.flatMap fun member => ',' :: stringMemberText member

def stringMember (member : String × String) : String × Json :=
  (member.1, .str member.2)

/-- An object that starts with plain members is printed without white space. -/
def JsonCodec.Compact (codec : JsonCodec) : Prop :=
  forall (first : String × String) (others : List (String × String)) (more : List (String × Json)),
    (forall member, member ∈ first :: others -> Plain member.1 ∧ Plain member.2) ->
    exists rest, (codec.print (.obj (stringMember first :: (others.map stringMember ++ more)))).toList =
      '\x7b' :: (frontText first others ++ rest)

end Library
end Imx6Gateway
