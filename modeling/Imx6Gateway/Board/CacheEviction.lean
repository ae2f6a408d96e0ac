import Imx6Gateway.Board.OfflineCache
import Imx6Gateway.Library.Eviction

namespace Imx6Gateway
namespace Board

open Library

/-!
# The limit of the offline cache

`enforceMaxRecords` counts the rows once and then keeps a total of its own,
from which it takes what every statement says it has deleted.  Here the loops
run as they are written, on any table with its primary key; the function of
the queue's model, which looks at the table instead, is the same.
-/

instance : Std.Total CacheRow.Older where
  total first second := le_total first.timestampMs second.timestampMs

instance : IsTrans CacheRow CacheRow.Older where
  trans _ _ _ := le_trans

/-- The table `offline_publish_queue`. -/
structure OfflineTable where
  rows : List CacheRow
  primaryKey : (rows.map CacheRow.id).Nodup

namespace OfflineTable

theorem nodup (table : OfflineTable) : table.rows.Nodup :=
  List.Nodup.of_map CacheRow.id table.primaryKey

theorem eq_of_rows {first second : OfflineTable} (same : first.rows = second.rows) :
    first = second := by
  cases first
  cases second
  cases same
  rfl

/-! ## The statements and the loops -/

/-- `SELECT COUNT(*)`. -/
def countAllRecords (table : OfflineTable) : Int :=
  table.rows.length

/-- `deleteOldByPriority`, and the number that `sqlite3_changes` gives. -/
def deleteOldByPriority (table : OfflineTable) (priority : Int) (limit : Nat) :
    Int × OfflineTable :=
  let kept := Board.deleteOldByPriority table.rows priority limit
  (table.rows.length - kept.length,
    ⟨kept, table.primaryKey.sublist (List.filter_sublist.map CacheRow.id)⟩)

/-- The inner loop for a priority.  The total decreases as long as it runs. -/
def deleteWhileExceeding (priority : Int) (total : Int) (table : OfflineTable) :
    Int × OfflineTable :=
  if kMaxOfflineRecords < total then
    let deleted := table.deleteOldByPriority priority kCleanupBatchSize
    if deleted.1 ≤ 0 then (total, deleted.2)
    else deleteWhileExceeding priority (total - deleted.1) deleted.2
  else (total, table)
termination_by total.toNat
decreasing_by
  rename_i exceeds deletes
  have fewer : 0 < (table.deleteOldByPriority priority kCleanupBatchSize).1 := not_le.mp deletes
  omega

/-- The outer loop over the priorities that may be deleted. -/
def deletePriorities : List Int -> Int -> OfflineTable -> Int × OfflineTable
  | [], total, table => (total, table)
  | priority :: rest, total, table =>
      if kMaxOfflineRecords < total then
        let next := deleteWhileExceeding priority total table
        deletePriorities rest next.1 next.2
      else (total, table)

def enforceMaxRecords (table : OfflineTable) : OfflineTable :=
  let total := table.countAllRecords
  if total ≤ kMaxOfflineRecords then table else (deletePriorities [0, 1] total table).2

/-! ## One statement -/

/-- The rows of a priority, for the class that a statement deletes from. -/
def ofPriority (priority : Int) (row : CacheRow) : Bool :=
  row.message.priority = priority

/-- The key tells the rows of the batch from the others. -/
theorem rows_deleteOldByPriority (table : OfflineTable) (priority : Int) (limit : Nat) :
    (table.deleteOldByPriority priority limit).2.rows =
      table.rows.filter fun row =>
        row ∉ Eviction.leastOf (ofPriority priority) CacheRow.Older limit table.rows := by
  apply List.filter_congr
  intro row present
  apply decide_eq_decide.mpr
  apply not_congr
  constructor
  · intro named
    rcases List.mem_map.mp named with ⟨other, taken, same⟩
    have stored := (Eviction.mem_of_mem_leastOf (ofPriority priority) CacheRow.Older taken).1
    rw [← List.inj_on_of_nodup_map table.primaryKey stored present same]
    exact taken
  · exact fun taken => List.mem_map_of_mem taken

theorem takesLeast_deleteOldByPriority (table : OfflineTable) (priority : Int) (limit : Nat) :
    Eviction.TakesLeast (fun row : CacheRow => row.message.priority = priority) CacheRow.Older
      table.rows (table.deleteOldByPriority priority limit).2.rows := by
  have batch := Eviction.takesLeast_batch (ofPriority priority) CacheRow.Older limit table.rows
  rw [← rows_deleteOldByPriority] at batch
  exact ⟨batch.sublist, fun row present absent => of_decide_eq_true (batch.ofClass row present absent),
    fun row present absent other kept same =>
      batch.least row present absent other kept (decide_eq_true same)⟩

/-- A statement deletes the whole priority or as many rows as it may. -/
theorem deleted_deleteOldByPriority (table : OfflineTable) (priority : Int) (limit : Nat) :
    (table.deleteOldByPriority priority limit).1 =
      min limit (table.rows.filter (ofPriority priority)).length := by
  have count := Eviction.length_batch (ofPriority priority) CacheRow.Older limit table.nodup
  rw [← rows_deleteOldByPriority] at count
  have counted : (table.deleteOldByPriority priority limit).1 =
      (table.rows.length : Int) - (table.deleteOldByPriority priority limit).2.rows.length := rfl
  omega

theorem deleted_add_length (table : OfflineTable) (priority : Int) (limit : Nat) :
    (table.deleteOldByPriority priority limit).1 +
      (table.deleteOldByPriority priority limit).2.rows.length = table.rows.length :=
  sub_add_cancel _ _

/-- A statement that deletes nothing has found no row. -/
theorem none_of_deleted_le_zero {table : OfflineTable} {priority : Int} {limit : Nat}
    (positive : 0 < limit) (nothing : (table.deleteOldByPriority priority limit).1 ≤ 0) :
    forall row, row ∈ table.rows -> row.message.priority ≠ priority := by
  rw [deleted_deleteOldByPriority] at nothing
  have empty : (table.rows.filter (ofPriority priority)).length = 0 := by omega
  intro row present same
  have found : row ∈ table.rows.filter (ofPriority priority) :=
    List.mem_filter.mpr ⟨present, decide_eq_true same⟩
  rw [List.length_eq_zero_iff.mp empty] at found
  exact absurd found List.not_mem_nil

/-! ## The loops -/

/-- What the inner loop makes of a table that its total counts. -/
structure Trimmed (priority : Int) (before : OfflineTable) (result : Int × OfflineTable) : Prop where
  counted : result.1 = result.2.countAllRecords
  takes : Eviction.TakesLeast (fun row : CacheRow => row.message.priority = priority)
    CacheRow.Older before.rows result.2.rows
  limited : result.1 ≤ kMaxOfflineRecords ∨
    forall row, row ∈ result.2.rows -> row.message.priority ≠ priority
  overshoot : kMaxOfflineRecords < before.countAllRecords ->
    kMaxOfflineRecords < result.1 + kCleanupBatchSize

theorem trimmed_deleteWhileExceeding (priority total : Int) (table : OfflineTable)
    (counted : total = table.countAllRecords) :
    Trimmed priority table (deleteWhileExceeding priority total table) := by
  fun_induction deleteWhileExceeding priority total table with
  | case1 total table many deleted nothing =>
      have sum := table.deleted_add_length priority kCleanupBatchSize
      have none := none_of_deleted_le_zero (by decide) nothing
      have exactly := table.deleted_deleteOldByPriority priority kCleanupBatchSize
      have takes := table.takesLeast_deleteOldByPriority priority kCleanupBatchSize
      have size : deleted.1 + deleted.2.rows.length = table.rows.length := sum
      have least : (0 : Int) ≤ deleted.1 := by
        rw [show deleted.1 = _ from exactly]
        exact Int.natCast_nonneg _
      have all : total = table.rows.length := counted
      refine ⟨?_, takes, Or.inr ?_, ?_⟩
      · rw [countAllRecords]
        dsimp only
        omega
      · exact fun row kept => none row (takes.sublist.subset kept)
      · intro _
        dsimp only
        omega
  | case2 total table many deleted some ih =>
      have sum := table.deleted_add_length priority kCleanupBatchSize
      have exactly := table.deleted_deleteOldByPriority priority kCleanupBatchSize
      have takes := table.takesLeast_deleteOldByPriority priority kCleanupBatchSize
      have size : deleted.1 + deleted.2.rows.length = table.rows.length := sum
      have all : total = table.rows.length := counted
      have next : total - deleted.1 = deleted.2.countAllRecords := by
        rw [countAllRecords]
        omega
      have trimmed := ih next
      refine ⟨trimmed.counted, takes.trans trimmed.takes, trimmed.limited, ?_⟩
      intro _
      by_cases still : kMaxOfflineRecords < deleted.2.countAllRecords
      · exact trimmed.overshoot still
      · -- The last statement: the loop does not run again.
        have bounded : deleted.1 ≤ kCleanupBatchSize := by
          rw [show deleted.1 = _ from exactly]
          omega
        rw [deleteWhileExceeding, if_neg (by omega)]
        omega
  | case3 total table few =>
      refine ⟨counted, .refl table.rows, Or.inl (not_lt.mp few), ?_⟩
      intro many
      exact absurd (counted ▸ many) few

/-- What may happen to a table when its size is limited. -/
structure Evicted (before after : List CacheRow) : Prop where
  sublist : after.Sublist before
  limited : after.length ≤ kMaxOfflineRecords ∨ forall row, row ∈ after ->
    row.message.priority ≠ 0 ∧ row.message.priority ≠ 1
  lowOnly : forall row, row ∈ before -> row ∉ after ->
    row.message.priority = 0 ∨ row.message.priority = 1
  lowestFirst : forall row, row ∈ before -> row ∉ after -> row.message.priority = 1 ->
    forall other, other ∈ after -> other.message.priority ≠ 0
  oldestFirst : forall row, row ∈ before -> row ∉ after ->
    forall other, other ∈ after -> other.message.priority = row.message.priority ->
      row.timestampMs ≤ other.timestampMs
  idle : before.length ≤ kMaxOfflineRecords -> after = before
  overshoot : kMaxOfflineRecords < before.length -> kMaxOfflineRecords ≤ after.length + 99

theorem evicted_self {rows : List CacheRow} (few : rows.length ≤ kMaxOfflineRecords) :
    Evicted rows rows where
  sublist := List.Sublist.refl rows
  limited := Or.inl few
  lowOnly := fun _ present absent => absurd present absent
  lowestFirst := fun _ present absent => absurd present absent
  oldestFirst := fun _ present absent => absurd present absent
  idle := fun _ => rfl
  overshoot := fun many => absurd few (not_le.mpr many)

/-- The rows of priority 0 alone have made room. -/
theorem evicted_of_lowest {table : OfflineTable} {result : Int × OfflineTable}
    (many : kMaxOfflineRecords < table.countAllRecords) (trimmed : Trimmed 0 table result)
    (few : result.1 ≤ kMaxOfflineRecords) : Evicted table.rows result.2.rows where
  sublist := trimmed.takes.sublist
  limited := by
    have size := trimmed.counted
    rw [countAllRecords] at size
    exact Or.inl (by omega)
  lowOnly := fun row present absent => Or.inl (trimmed.takes.ofClass row present absent)
  lowestFirst := by
    intro row present absent one
    have zero := trimmed.takes.ofClass row present absent
    omega
  oldestFirst := by
    intro row present absent other kept same
    have zero := trimmed.takes.ofClass row present absent
    exact trimmed.takes.least row present absent other kept (same.trans zero)
  idle := by
    intro few
    rw [countAllRecords] at many
    omega
  overshoot := by
    intro _
    have close := trimmed.overshoot many
    have size := trimmed.counted
    rw [countAllRecords] at size
    simp only [kCleanupBatchSize] at close
    omega

/-- No row of priority 0 was left when the rows of priority 1 were looked at. -/
theorem evicted_of_both {table : OfflineTable} {first second : Int × OfflineTable}
    (many : kMaxOfflineRecords < table.countAllRecords) (trimmed : Trimmed 0 table first)
    (still : kMaxOfflineRecords < first.1) (again : Trimmed 1 first.2 second) :
    Evicted table.rows second.2.rows := by
  have noLowest : forall row, row ∈ first.2.rows -> row.message.priority ≠ 0 :=
    trimmed.limited.resolve_left (not_le.mpr still)
  have size := again.counted
  rw [countAllRecords] at size
  refine ⟨again.takes.sublist.trans trimmed.takes.sublist, ?_, ?_, ?_, ?_, ?_, ?_⟩
  · rcases again.limited with few | noLow
    · exact Or.inl (by omega)
    · exact Or.inr fun row kept =>
        ⟨noLowest row (again.takes.sublist.subset kept), noLow row kept⟩
  · intro row present absent
    by_cases between : row ∈ first.2.rows
    · exact Or.inr (again.takes.ofClass row between absent)
    · exact Or.inl (trimmed.takes.ofClass row present between)
  · intro _ _ _ _ other kept
    exact noLowest other (again.takes.sublist.subset kept)
  · intro row present absent other kept same
    by_cases between : row ∈ first.2.rows
    · have one := again.takes.ofClass row between absent
      exact again.takes.least row between absent other kept (same.trans one)
    · have zero := trimmed.takes.ofClass row present between
      exact trimmed.takes.least row present between other (again.takes.sublist.subset kept)
        (same.trans zero)
  · intro few
    rw [countAllRecords] at many
    omega
  · intro _
    have close := again.overshoot (trimmed.counted ▸ still)
    simp only [kCleanupBatchSize] at close
    omega

/-- The cleanup of any table. -/
theorem evicted_enforceMaxRecords (table : OfflineTable) :
    Evicted table.rows table.enforceMaxRecords.rows := by
  unfold enforceMaxRecords
  dsimp only
  split
  · rename_i few
    rw [countAllRecords] at few
    exact evicted_self (by omega)
  · rename_i exceeds
    have many : kMaxOfflineRecords < table.countAllRecords := not_le.mp exceeds
    have trimmed := trimmed_deleteWhileExceeding 0 table.countAllRecords table rfl
    rw [deletePriorities, if_pos many, deletePriorities]
    dsimp only
    split
    · rename_i still
      exact evicted_of_both many trimmed still
        (trimmed_deleteWhileExceeding 1 _ _ trimmed.counted)
    · rename_i enough
      exact evicted_of_lowest many trimmed (not_lt.mp enough)

/-! ## The model of the queue -/

theorem rows_deleteWhileExceeding (priority total : Int) (table : OfflineTable)
    (counted : total = table.countAllRecords) :
    (deleteWhileExceeding priority total table).2.rows = trimPriority priority table.rows := by
  fun_induction deleteWhileExceeding priority total table with
  | case1 total table many deleted nothing =>
      have size : deleted.1 + deleted.2.rows.length = table.rows.length :=
        table.deleted_add_length priority kCleanupBatchSize
      have all : total = table.rows.length := counted
      have kept : deleted.2.rows.Sublist table.rows :=
        (table.takesLeast_deleteOldByPriority priority kCleanupBatchSize).sublist
      have longer : ¬deleted.2.rows.length < table.rows.length := by omega
      have same : Board.deleteOldByPriority table.rows priority kCleanupBatchSize =
          deleted.2.rows := rfl
      rw [trimPriority, if_pos (by omega)]
      dsimp only
      rw [same, if_neg longer]
      exact kept.eq_of_length (le_antisymm kept.length_le (not_lt.mp longer))
  | case2 total table many deleted some ih =>
      have size : deleted.1 + deleted.2.rows.length = table.rows.length :=
        table.deleted_add_length priority kCleanupBatchSize
      have all : total = table.rows.length := counted
      have next : total - deleted.1 = deleted.2.countAllRecords := by
        rw [countAllRecords]
        omega
      have shorter : deleted.2.rows.length < table.rows.length := by omega
      have same : Board.deleteOldByPriority table.rows priority kCleanupBatchSize =
          deleted.2.rows := rfl
      rw [ih next, trimPriority.eq_def priority table.rows, if_pos (by omega)]
      dsimp only
      rw [same, if_pos shorter]
  | case3 total table few =>
      have all : total = table.rows.length := counted
      rw [trimPriority, if_neg (by omega)]

/-- The total never departs from the table. -/
theorem rows_enforceMaxRecords (table : OfflineTable) :
    table.enforceMaxRecords.rows = Board.enforceMaxRecords table.rows := by
  unfold enforceMaxRecords Board.enforceMaxRecords
  dsimp only
  by_cases few : table.countAllRecords ≤ kMaxOfflineRecords
  · have fewRows : table.rows.length ≤ kMaxOfflineRecords := by
      rw [countAllRecords] at few
      omega
    rw [if_pos few, if_pos fewRows]
  · have manyRows : ¬table.rows.length ≤ kMaxOfflineRecords := by
      rw [countAllRecords] at few
      omega
    have trimmed := trimmed_deleteWhileExceeding 0 table.countAllRecords table rfl
    rw [if_neg few, if_neg manyRows, deletePriorities, if_pos (not_le.mp few), deletePriorities,
      ← rows_deleteWhileExceeding 0 table.countAllRecords table rfl]
    dsimp only
    split
    · rw [deletePriorities]
      exact rows_deleteWhileExceeding 1 _ _ trimmed.counted
    · rename_i enough
      have size : (deleteWhileExceeding 0 table.countAllRecords table).1 =
          (deleteWhileExceeding 0 table.countAllRecords table).2.rows.length := trimmed.counted
      rw [trimPriority, if_neg (by omega)]

end OfflineTable
end Board
end Imx6Gateway
