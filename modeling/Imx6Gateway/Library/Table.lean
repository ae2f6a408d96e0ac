import Mathlib.Data.List.AList

namespace Imx6Gateway
namespace Library

/-!
# Tables with a key

A finite map whose entries can be gone through: the hash maps of a program,
or the rows of a database table with a unique key.  A table is an association
list of distinct keys.  Every operation is described by what it makes of the
value under each key, so that a proof never looks at the order of the entries.
-/

abbrev Table (Key Value : Type) : Type :=
  AList fun _ : Key => Value

namespace Table

variable {Key Value : Type} [DecidableEq Key]

def get (table : Table Key Value) (key : Key) : Option Value :=
  table.lookup key

def put (table : Table Key Value) (key : Key) (value : Value) : Table Key Value :=
  table.insert key value

/-- The entries that meet a condition. -/
def keepIf (keep : Key -> Value -> Bool) (table : Table Key Value) : Table Key Value where
  entries := table.entries.filter fun entry => keep entry.1 entry.2
  nodupKeys := table.nodupKeys.sublist List.filter_sublist

/-- Changes the values of the entries that meet a condition. -/
def updateWhere (condition : Key -> Value -> Bool) (change : Value -> Value)
    (table : Table Key Value) : Table Key Value where
  entries := table.entries.map fun entry =>
    ⟨entry.1, if condition entry.1 entry.2 then change entry.2 else entry.2⟩
  nodupKeys := by
    rw [List.NodupKeys, List.keys, List.map_map]
    exact table.nodupKeys

def any (table : Table Key Value) (condition : Key -> Value -> Bool) : Bool :=
  table.entries.any fun entry => condition entry.1 entry.2

def values (table : Table Key Value) : List Value :=
  table.entries.map Sigma.snd

/-- One entry for each record; a later record replaces an earlier one. -/
def putAll {Record : Type} (key : Record -> Key) (value : Record -> Value) (records : List Record)
    (table : Table Key Value) : Table Key Value :=
  records.foldl (fun table record => table.put (key record) (value record)) table

@[simp]
theorem get_empty (key : Key) : get (∅ : Table Key Value) key = none :=
  AList.lookup_empty key

/-- The entries as an association list of pairs. -/
def pairs (table : Table Key Value) : List (Key × Value) :=
  table.entries.map fun entry => (entry.1, entry.2)

theorem lookup_pairs (table : Table Key Value) (key : Key) :
    table.pairs.lookup key = table.get key := by
  rw [pairs, get, AList.lookup]
  induction table.entries with
  | nil => rfl
  | cons entry entries ih =>
      by_cases same : key = entry.1
      · subst same
        rw [List.map_cons, List.lookup_cons_self, List.dlookup_cons_eq]
      · rw [List.map_cons, List.lookup_cons, beq_false_of_ne same, ih,
          List.dlookup_cons_ne _ _ same]

theorem get_eq_some_iff {table : Table Key Value} {key : Key} {value : Value} :
    table.get key = some value ↔ Sigma.mk key value ∈ table.entries :=
  AList.mem_lookup_iff

theorem get_put (table : Table Key Value) (key other : Key) (value : Value) :
    (table.put key value).get other = if other = key then some value else table.get other := by
  unfold get put
  split
  · rename_i same
    rw [same]
    exact AList.lookup_insert table
  · rename_i different
    exact AList.lookup_insert_ne different

theorem get_erase (table : Table Key Value) (key other : Key) :
    get (AList.erase key table) other = if other = key then none else table.get other := by
  unfold get
  split
  · rename_i same
    rw [same]
    exact AList.lookup_erase key table
  · rename_i different
    exact AList.lookup_erase_ne different

theorem get_keepIf (keep : Key -> Value -> Bool) (table : Table Key Value) (key : Key) :
    (table.keepIf keep).get key = (table.get key).filter (keep key) := by
  ext value
  rw [get_eq_some_iff, keepIf, List.mem_filter, Option.filter_eq_some_iff, get_eq_some_iff]

/-- Where the condition only looks at the key. -/
theorem get_keepIf_key (keep : Key -> Bool) (table : Table Key Value) (key : Key) :
    (table.keepIf fun key _ => keep key).get key = if keep key then table.get key else none := by
  rw [get_keepIf]
  cases table.get key with
  | none => rw [Option.filter_none, ite_self]
  | some value => rw [Option.filter_some]

theorem get_keepIf_of_forall {keep : Key -> Value -> Bool} {table : Table Key Value} {key : Key}
    (kept : forall value, table.get key = some value -> keep key value = true) :
    (table.keepIf keep).get key = table.get key := by
  rw [get_keepIf]
  cases found : table.get key with
  | none => rfl
  | some value => rw [Option.filter_some, if_pos (kept value found)]

/-- Erasing a key and keeping some of the entries can be done in either order. -/
theorem keepIf_erase (keep : Key -> Value -> Bool) (table : Table Key Value) (key : Key) :
    keepIf keep (AList.erase key table) = AList.erase key (table.keepIf keep) := by
  have entries : forall entries : List (Sigma fun _ : Key => Value), entries.NodupKeys ->
      (List.kerase key entries).filter (fun entry => keep entry.1 entry.2) =
        List.kerase key (entries.filter fun entry => keep entry.1 entry.2) := by
    intro entries distinct
    induction entries with
    | nil => rfl
    | cons entry entries ih =>
        have rest := List.nodupKeys_cons.mp distinct
        by_cases same : key = entry.1
        · rw [List.kerase_cons_eq same, List.filter_cons]
          split
          · rw [List.kerase_cons_eq same]
          · symm
            apply List.kerase_of_notMem_keys
            intro listed
            rcases List.mem_map.mp listed with ⟨other, kept, named⟩
            have inside : other ∈ entries := (List.mem_filter.mp kept).1
            exact rest.1 (same ▸ named ▸ List.mem_map_of_mem inside)
        · rw [List.kerase_cons_ne same, List.filter_cons, List.filter_cons, ih rest.2]
          split
          · rw [List.kerase_cons_ne same]
          · rfl
  apply AList.ext
  exact entries table.entries table.nodupKeys

theorem get_updateWhere (condition : Key -> Value -> Bool) (change : Value -> Value)
    (table : Table Key Value) (key : Key) :
    (table.updateWhere condition change).get key =
      (table.get key).map fun value => if condition key value then change value else value := by
  ext value
  rw [get_eq_some_iff, updateWhere, List.mem_map, Option.map_eq_some_iff]
  constructor
  · rintro ⟨⟨other, old⟩, inside, same⟩
    cases same
    exact ⟨old, get_eq_some_iff.mpr inside, rfl⟩
  · rintro ⟨old, found, rfl⟩
    exact ⟨⟨key, old⟩, get_eq_some_iff.mp found, rfl⟩

theorem any_iff {table : Table Key Value} {condition : Key -> Value -> Bool} :
    table.any condition = true ↔
      exists key value, table.get key = some value ∧ condition key value = true := by
  rw [any, List.any_eq_true]
  constructor
  · rintro ⟨⟨key, value⟩, inside, holds⟩
    exact ⟨key, value, get_eq_some_iff.mpr inside, holds⟩
  · rintro ⟨key, value, found, holds⟩
    exact ⟨⟨key, value⟩, get_eq_some_iff.mp found, holds⟩

theorem mem_values {table : Table Key Value} {value : Value} :
    value ∈ table.values ↔ exists key, table.get key = some value := by
  rw [values, List.mem_map]
  constructor
  · rintro ⟨⟨key, value⟩, inside, rfl⟩
    exact ⟨key, get_eq_some_iff.mpr inside⟩
  · rintro ⟨key, found⟩
    exact ⟨⟨key, value⟩, get_eq_some_iff.mp found, rfl⟩

theorem values_put (table : Table Key Value) (key : Key) (value : Value) :
    (table.put key value).values = value :: values (AList.erase key table) := rfl

theorem erase_of_get_none {table : Table Key Value} {key : Key} (absent : table.get key = none) :
    AList.erase key table = table := by
  apply AList.ext
  apply List.kerase_of_notMem_keys
  exact AList.lookup_eq_none.mp absent

/-- A value is replaced if its key was there. -/
theorem length_values_put (table : Table Key Value) (key : Key) (value : Value) :
    (table.put key value).values.length =
      if table.get key = none then table.values.length + 1 else table.values.length := by
  rw [values_put, List.length_cons]
  split
  · rename_i absent
    rw [erase_of_get_none absent]
  · rename_i present
    rcases Option.ne_none_iff_exists'.mp present with ⟨old, found⟩
    have inside : key ∈ AList.keys table := by
      by_contra missing
      exact present (AList.lookup_eq_none.mpr missing)
    have keys : (AList.erase key table).keys.length + 1 = (AList.keys table).length := by
      rw [AList.keys_erase, List.length_erase_add_one inside]
    simpa only [values, AList.keys, List.keys, List.length_map] using keys

section PutAll

variable {Record : Type} (key : Record -> Key) (value : Record -> Value)

theorem isSome_get_put (table : Table Key Value) (here other : Key) (value : Value) :
    ((table.put here value).get other).isSome = true ↔
      other = here ∨ (table.get other).isSome = true := by
  rw [get_put]
  by_cases same : other = here
  · simp [same]
  · simp [same]

/-- A key is there afterwards if it was there or if a record has it. -/
theorem isSome_get_putAll (records : List Record) (table : Table Key Value) (other : Key) :
    ((putAll key value records table).get other).isSome = true ↔
      (exists record, record ∈ records ∧ key record = other) ∨ (table.get other).isSome = true := by
  induction records generalizing table with
  | nil => simp [putAll]
  | cons record records ih =>
      rw [putAll, List.foldl_cons, ← putAll, ih, isSome_get_put, List.exists_mem_cons_iff, or_assoc,
        or_left_comm, eq_comm]

theorem get_putAll_of_forall {records : List Record} {table : Table Key Value} {other : Key}
    (absent : forall record, record ∈ records -> key record ≠ other) :
    (putAll key value records table).get other = table.get other := by
  unfold putAll
  induction records generalizing table with
  | nil => rfl
  | cons record records ih =>
      have here := absent record List.mem_cons_self
      rw [List.foldl_cons, ih fun later inside => absent later (List.mem_cons_of_mem record inside),
        get_put, if_neg fun same => here same.symm]

/-- What is under a key afterwards is the value of a record or was there. -/
theorem get_putAll {records : List Record} {table : Table Key Value} {other : Key} {found : Value}
    (present : (putAll key value records table).get other = some found) :
    (exists record, record ∈ records ∧ key record = other ∧ value record = found) ∨
      table.get other = some found := by
  induction records generalizing table with
  | nil => exact Or.inr present
  | cons record records ih =>
      rcases ih present with ⟨later, inside, fits⟩ | old
      · exact Or.inl ⟨later, List.mem_cons_of_mem record inside, fits⟩
      · rw [get_put] at old
        split at old
        · rename_i same
          injection old with stored
          exact Or.inl ⟨record, List.mem_cons_self, same.symm, stored⟩
        · exact Or.inr old

/-- Every record has a key of its own, and none that the table has. -/
def Fresh : List Record -> Table Key Value -> Prop
  | [], _ => True
  | record :: records, table =>
      table.get (key record) = none ∧ Fresh records (table.put (key record) (value record))

instance freshDecidable [DecidableEq Value] : forall (records : List Record)
    (table : Table Key Value), Decidable (Fresh key value records table)
  | [], _ => isTrue trivial
  | record :: records, table =>
      haveI := freshDecidable records (table.put (key record) (value record))
      inferInstanceAs (Decidable (table.get (key record) = none ∧ _))

theorem fresh_iff (records : List Record) (table : Table Key Value) :
    Fresh key value records table ↔ (records.map key).Nodup ∧
      forall record, record ∈ records -> table.get (key record) = none := by
  induction records generalizing table with
  | nil => simp [Fresh]
  | cons record records ih =>
      rw [Fresh, ih, List.map_cons, List.nodup_cons, List.forall_mem_cons]
      constructor
      · rintro ⟨absent, nodup, others⟩
        have apart : forall other, other ∈ records -> key other ≠ key record := by
          intro other inside same
          have found := others other inside
          rw [same, get_put, if_pos rfl] at found
          exact absurd found (Option.some_ne_none _)
        refine ⟨⟨?_, nodup⟩, absent, ?_⟩
        · intro listed
          rcases List.mem_map.mp listed with ⟨other, inside, same⟩
          exact apart other inside same
        · intro other inside
          have found := others other inside
          rwa [get_put, if_neg (apart other inside)] at found
      · rintro ⟨⟨unlisted, nodup⟩, absent, others⟩
        refine ⟨absent, nodup, ?_⟩
        intro other inside
        rw [get_put, if_neg, others other inside]
        intro same
        exact unlisted (List.mem_map.mpr ⟨other, inside, same⟩)

theorem length_values_putAll_le (records : List Record) (table : Table Key Value) :
    (putAll key value records table).values.length ≤ table.values.length + records.length := by
  induction records generalizing table with
  | nil => exact le_rfl
  | cons record records ih =>
      have rest := ih (table.put (key record) (value record))
      have first := length_values_put table (key record) (value record)
      rw [putAll, List.foldl_cons, ← putAll, List.length_cons]
      split at first
      · omega
      · omega

/-- Nothing is replaced exactly if the records are fresh. -/
theorem length_values_putAll_iff (records : List Record) (table : Table Key Value) :
    (putAll key value records table).values.length = table.values.length + records.length ↔
      Fresh key value records table := by
  induction records generalizing table with
  | nil => simp [putAll, Fresh]
  | cons record records ih =>
      have rest := length_values_putAll_le key value records (table.put (key record) (value record))
      have first := length_values_put table (key record) (value record)
      rw [putAll, List.foldl_cons, ← putAll, Fresh, ← ih, List.length_cons]
      split at first
      · rename_i absent
        rw [first]
        refine ⟨fun same => ⟨absent, by omega⟩, fun same => by omega⟩
      · rename_i present
        refine ⟨fun same => by omega, fun same => absurd same.1 present⟩

theorem values_putAll_perm {records : List Record} {table : Table Key Value}
    (fresh : Fresh key value records table) :
    (putAll key value records table).values.Perm (table.values ++ records.map value) := by
  induction records generalizing table with
  | nil =>
      rw [List.map_nil, List.append_nil]
      exact List.Perm.refl _
  | cons record records ih =>
      refine (ih fresh.2).trans ?_
      rw [values_put, erase_of_get_none fresh.1, List.map_cons]
      exact List.perm_middle.symm

/-- The last record of a key decides what is under it. -/
theorem get_putAll_last (records : List Record) (table : Table Key Value) (other : Key) :
    (putAll key value records table).get other =
      ((records.reverse.find? fun record => key record = other).map value).or
        (table.get other) := by
  induction records generalizing table with
  | nil => rfl
  | cons record records ih =>
      rw [putAll, List.foldl_cons, ← putAll, ih, get_put, List.reverse_cons, List.find?_append]
      cases records.reverse.find? fun record => key record = other with
      | some last => rfl
      | none =>
          rw [Option.none_or, List.find?_cons, List.find?_nil]
          by_cases same : key record = other
          · simp [same]
          · simp [same, Ne.symm same]

end PutAll
end Table
end Library
end Imx6Gateway
