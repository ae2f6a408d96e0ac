import Imx6Gateway.Library.Table

namespace Imx6Gateway
namespace Library

/-!
# Stores that file every value under its own key

A hash map of records that carry their key.  The store keeps the proof that
each record is filed under the key it carries, and that it is one of the
records the store is meant for.  Programs go through such a store with loops
that read and write only what is under the key of the record they are at;
`foldl_members` describes such a loop by what it makes of one key.
-/

namespace Table

variable {Key Value Other : Type} [DecidableEq Key]

/-- Tables that agree, key by key, on which values count have the same count. -/
theorem countP_values_eq {table : Table Key Value} {others : Table Key Other}
    {counted : Value -> Bool} {countedOther : Other -> Bool}
    (agree : forall key, (table.get key).any counted = (others.get key).any countedOther) :
    table.values.countP counted = others.values.countP countedOther := by
  have keys : forall {Entry : Type} (entries : Table Key Entry) (marked : Entry -> Bool),
      entries.values.countP marked = (AList.keys (entries.keepIf fun _ => marked)).length := by
    intro Entry entries marked
    rw [values, List.countP_map, List.countP_eq_length_filter, AList.keys, List.keys,
      List.length_map]
    rfl
  have listed : forall {Entry : Type} (entries : Table Key Entry) (marked : Entry -> Bool) key,
      key ∈ AList.keys (entries.keepIf fun _ => marked) ↔
        (entries.get key).any marked = true := by
    intro Entry entries marked key
    change key ∈ entries.keepIf _ ↔ _
    rw [← AList.lookup_isSome]
    change (get _ key).isSome = true ↔ _
    rw [get_keepIf]
    cases entries.get key with
    | none => simp
    | some entry => cases marked entry <;> simp
  rw [keys, keys]
  apply List.Perm.length_eq
  refine (List.perm_ext_iff_of_nodup (AList.keys_nodup _) (AList.keys_nodup _)).mpr ?_
  intro key
  rw [listed, listed, agree]

end Table

/-- A table whose values are proper and lie under the key they carry. -/
structure KeyedStore {Key Value : Type} [DecidableEq Key] (key : Value -> Key)
    (Proper : Value -> Prop) where
  table : Table Key Value
  filed : forall own value, table.get own = some value -> key value = own ∧ Proper value

namespace KeyedStore

variable {Key Value : Type} [DecidableEq Key] {key : Value -> Key} {Proper : Value -> Prop}

def get (store : KeyedStore key Proper) (own : Key) : Option Value :=
  store.table.get own

def values (store : KeyedStore key Proper) : List Value :=
  store.table.values

theorem key_of_get {store : KeyedStore key Proper} {own : Key} {value : Value}
    (found : store.get own = some value) : key value = own :=
  (store.filed own value found).1

theorem proper_of_get {store : KeyedStore key Proper} {own : Key} {value : Value}
    (found : store.get own = some value) : Proper value :=
  (store.filed own value found).2

theorem mem_values {store : KeyedStore key Proper} {value : Value} :
    value ∈ store.values ↔ store.get (key value) = some value := by
  rw [values, Table.mem_values]
  constructor
  · rintro ⟨own, found⟩
    rw [key_of_get found]
    exact found
  · exact fun found => ⟨key value, found⟩

/-- The values with the proof that they are proper. -/
def members (store : KeyedStore key Proper) : List { value : Value // Proper value } :=
  store.values.attach.map fun value => ⟨value.1, proper_of_get (mem_values.mp value.2)⟩

def empty : KeyedStore key Proper where
  table := ∅
  filed own value found := by
    rw [Table.get_empty] at found
    cases found

def insert (store : KeyedStore key Proper) (value : { value : Value // Proper value }) :
    KeyedStore key Proper where
  table := store.table.put (key value.1) value.1
  filed own found inside := by
    rw [Table.get_put] at inside
    split at inside
    · rename_i same
      cases inside
      exact ⟨same.symm, value.2⟩
    · exact store.filed own found inside

def insertAll (store : KeyedStore key Proper) (values : List { value : Value // Proper value }) :
    KeyedStore key Proper :=
  values.foldl insert store

def keepIf (store : KeyedStore key Proper) (keep : Value -> Bool) : KeyedStore key Proper where
  table := store.table.keepIf fun _ => keep
  filed own value found := by
    rw [Table.get_keepIf, Option.filter_eq_some_iff] at found
    exact store.filed own value found.1

/-- A change of a record that leaves it proper and under its key. -/
def Keeps (key : Value -> Key) (Proper : Value -> Prop) (change : Value -> Value) : Prop :=
  forall value, Proper value -> key (change value) = key value ∧ Proper (change value)

/-- Changes the values that meet a condition. -/
def updateWhere (store : KeyedStore key Proper) (condition : Value -> Bool)
    (change : Value -> Value) (keeps : Keeps key Proper change) : KeyedStore key Proper where
  table := store.table.updateWhere (fun _ => condition) change
  filed own value found := by
    rw [Table.get_updateWhere, Option.map_eq_some_iff] at found
    rcases found with ⟨old, there, rfl⟩
    have filed := store.filed own old there
    split
    · rw [← filed.1]
      exact keeps old filed.2
    · exact filed

/-- Changes what is under one key, if anything is. -/
def update (store : KeyedStore key Proper) (own : Key) (change : Value -> Value)
    (keeps : Keeps key Proper change) : KeyedStore key Proper :=
  match found : store.get own with
  | some value => store.insert ⟨change value, (keeps value (proper_of_get found)).2⟩
  | none => store

@[simp]
theorem get_empty (own : Key) : (empty : KeyedStore key Proper).get own = none :=
  Table.get_empty own

theorem get_insert (store : KeyedStore key Proper) (value : { value : Value // Proper value })
    (own : Key) :
    (store.insert value).get own = if own = key value.1 then some value.1 else store.get own :=
  Table.get_put store.table (key value.1) own value.1

theorem get_insert_self (store : KeyedStore key Proper) (value : { value : Value // Proper value }) :
    (store.insert value).get (key value.1) = some value.1 := by
  rw [get_insert, if_pos rfl]

theorem get_insert_ne (store : KeyedStore key Proper) {value : { value : Value // Proper value }}
    {own : Key} (different : own ≠ key value.1) : (store.insert value).get own = store.get own := by
  rw [get_insert, if_neg different]

theorem get_keepIf (store : KeyedStore key Proper) (keep : Value -> Bool) (own : Key) :
    (store.keepIf keep).get own = (store.get own).filter keep :=
  Table.get_keepIf (fun _ => keep) store.table own

theorem get_updateWhere (store : KeyedStore key Proper) (condition : Value -> Bool)
    (change : Value -> Value) (keeps : Keeps key Proper change) (own : Key) :
    (store.updateWhere condition change keeps).get own =
      (store.get own).map fun value => if condition value then change value else value :=
  Table.get_updateWhere (fun _ => condition) change store.table own

theorem get_update (store : KeyedStore key Proper) (here own : Key) (change : Value -> Value)
    (keeps : Keeps key Proper change) :
    (store.update here change keeps).get own =
      if own = here then (store.get own).map change else store.get own := by
  unfold update
  split
  · rename_i value found
    rw [get_insert, (keeps value (proper_of_get found)).1, key_of_get found]
    by_cases same : own = here
    · rw [if_pos same, if_pos same, same]
      exact (congrArg (Option.map change) found).symm
    · rw [if_neg same, if_neg same]
  · rename_i absent
    by_cases same : own = here
    · rw [if_pos same, same, absent, Option.map_none]
    · rw [if_neg same]

/-- The rule for a loop through a store: if the body, at a record, makes of the
view under the record's key what `result` says and leaves the view under every
other key, then so does the loop. -/
theorem foldl_members {State View : Type} (step : State -> { value : Value // Proper value } -> State)
    (view : State -> Key -> View) (result : View -> Value -> View)
    (here : forall state value, view (step state value) (key value.1) =
      result (view state (key value.1)) value.1)
    (elsewhere : forall state value own, own ≠ key value.1 ->
      view (step state value) own = view state own)
    (store : KeyedStore key Proper) (state : State) (own : Key) :
    view (store.members.foldl step state) own =
      ((store.get own).map (result (view state own))).getD (view state own) := by
  have entries : forall (entries : List (Sigma fun _ : Key => Value))
      (members : List { value : Value // Proper value }) (state : State), entries.NodupKeys ->
      members.map Subtype.val = entries.map Sigma.snd ->
      (forall entry, entry ∈ entries -> key entry.2 = entry.1) ->
      view (members.foldl step state) own =
        ((entries.dlookup own).map (result (view state own))).getD (view state own) := by
    intro entries
    induction entries with
    | nil =>
        intro members state _ same _
        rw [List.map_nil, List.map_eq_nil_iff] at same
        rw [same]
        rfl
    | cons entry entries ih =>
        intro members state distinct same filed
        have rest := List.nodupKeys_cons.mp distinct
        have at_key := filed entry List.mem_cons_self
        have later := fun other inside => filed other (List.mem_cons_of_mem entry inside)
        cases members with
        | nil => cases same
        | cons member members =>
            rw [List.map_cons, List.map_cons, List.cons.injEq] at same
            rw [← same.1] at at_key
            rw [List.foldl_cons, ih members (step state member) rest.2 same.2 later]
            by_cases own_key : own = entry.1
            · subst own_key
              rw [List.dlookup_eq_none.mpr rest.1, List.dlookup_cons_eq, Option.map_none,
                Option.getD_none, Option.map_some, Option.getD_some, ← at_key, here, same.1]
            · rw [List.dlookup_cons_ne _ entry own_key,
                elsewhere state member own fun equal => own_key (equal.trans at_key)]
  refine entries store.table.entries store.members state store.table.nodupKeys ?_ ?_
  · rw [members, List.map_map]
    exact List.attach_map_subtype_val store.values
  · intro entry inside
    exact (store.filed entry.1 entry.2 (Table.get_eq_some_iff.mpr inside)).1

/-- Inserting the values of a store replaces what was under their keys. -/
theorem get_insertAll_members (store target : KeyedStore key Proper) (own : Key) :
    (target.insertAll store.members).get own = (store.get own).or (target.get own) := by
  have rule := foldl_members insert get (fun _ value => some value) get_insert_self
    (fun target _ _ different => target.get_insert_ne different) store target own
  rw [insertAll, rule]
  cases store.get own with
  | none => rfl
  | some value => rfl

end KeyedStore
end Library
end Imx6Gateway
