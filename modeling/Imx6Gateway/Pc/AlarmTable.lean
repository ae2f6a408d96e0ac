import Imx6Gateway.Library.Transition
import Imx6Gateway.Pc.AlarmEvent
import Mathlib.Data.List.Nodup

namespace Imx6Gateway
namespace Pc

open Library

/-!
# The alarms in the database of Pc_data

The table `alarm_event` of `PcDatabase.cpp`.  An alarm has one row for each
time it was raised, under the same `point_id` and `alarm_type`.  The row that
is still open is updated in place, and a new row is only inserted if there is
no open one.  The statements run on an open database and succeed; one that
fails changes nothing.
-/

/-- An alarm with the two times that are zero unless they are known. -/
structure TimedAlarmEvent extends AlarmEvent where
  ackTimeMs : Int
  recoverTimeMs : Int
deriving DecidableEq

structure AlarmRow where
  alarmId : Int
  pointId : String
  factoryId : String
  factoryName : String
  areaId : String
  areaName : String
  gatewayId : String
  gatewayName : String
  portId : String
  portName : String
  deviceId : Int
  deviceName : String
  deviceType : String
  pointKey : String
  pointName : String
  alarmType : String
  alarmLevel : String
  alarmMessage : String
  startTimeMs : Int
  recoverTimeMs : Option Int
  ackTimeMs : Option Int
  status : String
  state : Option String
  acked : Bool
  triggerValue : Rat
  thresholdValue : Rat
  errorMessage : String
deriving DecidableEq

/-- The statuses the update of `saveAlarmEvent` looks for. -/
def isOpenStatus (status : String) : Bool :=
  status = "active" || status = "acked" || status = "acknowledged"

structure AlarmTable where
  rows : List AlarmRow
  nextAlarmId : Int
deriving DecidableEq

namespace AlarmTable

def empty : AlarmTable where
  rows := []
  nextAlarmId := 1

section Save

variable (currentMs : Int) (event : TimedAlarmEvent)

def savedState : String := orElse event.state "active"

def savedType : String := orElse event.alarmType "emergency"

def savedTime : Int := if 0 < event.timestampMs then event.timestampMs else currentMs

def savedAckTime : Option Int :=
  if 0 < event.ackTimeMs then some event.ackTimeMs
  else if (savedState event = "acked" ∨ savedState event = "acknowledged") ∧
      0 < savedTime currentMs event then some (savedTime currentMs event)
  else none

/-- `updateSql` on a row it finds; `startTimeMs` and the identifiers stay. -/
def updateRow (row : AlarmRow) : AlarmRow :=
  { row with
    factoryId := event.factoryId
    factoryName := event.factoryName
    areaId := event.areaId
    areaName := event.areaName
    gatewayId := event.gatewayId
    gatewayName := event.gatewayName
    portId := event.portId
    portName := event.portName
    deviceId := event.deviceId
    deviceName := event.deviceName
    deviceType := event.deviceType
    pointKey := event.pointKey
    pointName := event.pointName
    alarmLevel := orElse event.level "warning"
    alarmMessage := event.message
    recoverTimeMs := if savedState event = "recovered" then some (savedTime currentMs event)
      else none
    ackTimeMs := savedAckTime currentMs event
    status := savedState event
    acked := savedState event = "acked" || savedState event = "acknowledged"
    triggerValue := event.value
    thresholdValue := event.threshold
    errorMessage := event.alarmId }

/-- The row of `insertSql`: the columns of the update, and those it leaves. -/
def insertedRow (alarmId : Int) : AlarmRow :=
  updateRow currentMs event
    { alarmId
      pointId := event.alarmId
      factoryId := ""
      factoryName := ""
      areaId := ""
      areaName := ""
      gatewayId := ""
      gatewayName := ""
      portId := ""
      portName := ""
      deviceId := 0
      deviceName := ""
      deviceType := ""
      pointKey := ""
      pointName := ""
      alarmType := savedType event
      alarmLevel := ""
      alarmMessage := ""
      startTimeMs := savedTime currentMs event
      recoverTimeMs := none
      ackTimeMs := none
      status := ""
      state := none
      acked := false
      triggerValue := 0
      thresholdValue := 0
      errorMessage := "" }

/-- The `WHERE` of the update. -/
def isUpdated (row : AlarmRow) : Bool :=
  row.pointId = event.alarmId && row.alarmType = savedType event && isOpenStatus row.status

def saveAlarmEvent (table : AlarmTable) : AlarmTable × Bool :=
  if event.alarmId = "" ∨ event.gatewayId = "" then (table, false)
  else if table.rows.any (isUpdated event) then
    ({ table with
      rows := table.rows.map fun row =>
        if isUpdated event row then updateRow currentMs event row else row }, true)
  else
    ({ rows := table.rows ++ [insertedRow currentMs event table.nextAlarmId]
       nextAlarmId := table.nextAlarmId + 1 }, true)

end Save

def clearRecoveredAlarms (table : AlarmTable) : AlarmTable × Bool :=
  ({ table with
    rows := table.rows.filter fun row => !(row.status = "recovered" || row.status = "已恢复") }, true)

def clearAcknowledgedAlarms (table : AlarmTable) : AlarmTable × Bool :=
  ({ table with
    rows := table.rows.filter fun row => !(row.status = "acked" || row.status = "acknowledged" ||
      row.status = "已确认" || row.acked) }, true)

def acknowledgeRow (nowMs : Int) (row : AlarmRow) : AlarmRow :=
  { row with
    status := "acknowledged"
    state := some "acknowledged"
    acked := true
    ackTimeMs := some nowMs }

/-- Every row of the alarm is acknowledged, whatever its status. -/
def acknowledgeAlarm (table : AlarmTable) (currentMs : Int) (alarmId : String) (ackTimeMs : Int) :
    AlarmTable × Bool :=
  if alarmId = "" then (table, false)
  else
    ({ table with
      rows := table.rows.map fun row =>
        if row.pointId = alarmId then
          acknowledgeRow (if 0 < ackTimeMs then ackTimeMs else currentMs) row
        else row },
      table.rows.any fun row => row.pointId = alarmId)

/-- The event of a row, as `queryAlarmEvents` reads it. -/
def readRow (row : AlarmRow) : TimedAlarmEvent where
  alarmId := row.pointId
  timestampMs := row.startTimeMs
  ackTimeMs := row.ackTimeMs.getD 0
  recoverTimeMs := row.recoverTimeMs.getD 0
  factoryId := row.factoryId
  factoryName := row.factoryName
  areaId := row.areaId
  areaName := row.areaName
  gatewayId := row.gatewayId
  gatewayName := row.gatewayName
  portId := row.portId
  portName := row.portName
  deviceId := row.deviceId
  deviceName := row.deviceName
  deviceType := row.deviceType
  pointKey := row.pointKey
  pointName := row.pointName
  alarmType := row.alarmType
  level := row.alarmLevel
  message := row.alarmMessage
  state := if row.status = "acked" then "acknowledged" else row.status
  value := row.triggerValue
  threshold := row.thresholdValue

/-- `ORDER BY start_time_ms DESC, alarm_id DESC`. -/
def comesBefore (first second : AlarmRow) : Bool :=
  second.startTimeMs < first.startTimeMs ||
    second.startTimeMs = first.startTimeMs && second.alarmId ≤ first.alarmId

def orderedRows (table : AlarmTable) : List AlarmRow :=
  table.rows.mergeSort comesBefore

def queryAlarmEvents (table : AlarmTable) : List TimedAlarmEvent :=
  table.orderedRows.map readRow

end AlarmTable

/-! ## Runs -/

inductive AlarmTableEvent where
  | save (currentMs : Int) (event : TimedAlarmEvent)
  | acknowledge (currentMs : Int) (alarmId : String) (ackTimeMs : Int)
  | clearRecovered
  | clearAcknowledged
deriving DecidableEq

/-- The table, and the rows that have been recovered at some time. -/
structure AlarmHistory where
  table : AlarmTable
  recovered : List Int
deriving DecidableEq

namespace AlarmHistory

def change (table : AlarmTable) : AlarmTableEvent -> AlarmTable
  | .save currentMs event => (table.saveAlarmEvent currentMs event).1
  | .acknowledge currentMs alarmId ackTimeMs =>
      (table.acknowledgeAlarm currentMs alarmId ackTimeMs).1
  | .clearRecovered => table.clearRecoveredAlarms.1
  | .clearAcknowledged => table.clearAcknowledgedAlarms.1

def recoveredIn (table : AlarmTable) : List Int :=
  (table.rows.filter fun row => row.status = "recovered").map AlarmRow.alarmId

def step (history : AlarmHistory) (event : AlarmTableEvent) : AlarmHistory where
  table := change history.table event
  recovered := history.recovered ++ recoveredIn (change history.table event)

end AlarmHistory

def alarmSystem : TransitionSystem AlarmHistory AlarmTableEvent where
  initial := ⟨AlarmTable.empty, []⟩
  step := AlarmHistory.step

/-! ## Open and recovered rows -/

/-- Not both are open rows of one alarm. -/
def Apart (first second : AlarmRow) : Prop :=
  ¬(isOpenStatus first.status = true ∧ isOpenStatus second.status = true ∧
    first.pointId = second.pointId ∧ first.alarmType = second.alarmType)

instance (first second : AlarmRow) : Decidable (Apart first second) :=
  inferInstanceAs (Decidable (¬_))

/-- An alarm has at most one open row, and what has been recovered is not open. -/
structure LifeCycle (history : AlarmHistory) : Prop where
  oneOpen : history.table.rows.Pairwise Apart
  stays : forall row, row ∈ history.table.rows -> row.alarmId ∈ history.recovered ->
    isOpenStatus row.status = false

/-- The states an event may carry; an empty one is taken for `active`. -/
def KnownState (_history : AlarmHistory) : AlarmTableEvent -> Prop
  | .save _ event => isOpenStatus (AlarmTable.savedState event) = true ∨
      AlarmTable.savedState event = "recovered"
  | _ => True

/-- No recovered row is under the alarm that is acknowledged. -/
def AcknowledgesOpen (history : AlarmHistory) : AlarmTableEvent -> Prop
  | .acknowledge _ alarmId _ => forall row, row ∈ history.table.rows -> row.pointId = alarmId ->
      row.status ≠ "recovered"
  | _ => True

instance (history : AlarmHistory) (event : AlarmTableEvent) :
    Decidable (KnownState history event) := by
  unfold KnownState
  split
  · infer_instance
  · infer_instance

instance (history : AlarmHistory) (event : AlarmTableEvent) :
    Decidable (AcknowledgesOpen history event) := by
  unfold AcknowledgesOpen
  split
  · infer_instance
  · infer_instance

/-- The rows have identifiers of their own, and name their alarm. -/
structure Identified (table : AlarmTable) : Prop where
  ids : (table.rows.map AlarmRow.alarmId).Nodup
  below : forall row, row ∈ table.rows -> row.alarmId < table.nextAlarmId
  named : forall row, row ∈ table.rows -> row.pointId ≠ ""

/-- The statuses are known, and the recovered rows have been recorded. -/
structure Numbered (history : AlarmHistory) : Prop extends Identified history.table where
  seen : forall alarmId, alarmId ∈ history.recovered -> alarmId < history.table.nextAlarmId
  statuses : forall row, row ∈ history.table.rows ->
    isOpenStatus row.status = true ∨ row.status = "recovered"
  recorded : forall row, row ∈ history.table.rows -> row.status = "recovered" ->
    row.alarmId ∈ history.recovered

theorem isOpenStatus_recovered : isOpenStatus "recovered" = false := by decide

theorem isOpenStatus_acknowledged : isOpenStatus "acknowledged" = true := by decide

theorem mem_recoveredIn {table : AlarmTable} {alarmId : Int} :
    alarmId ∈ AlarmHistory.recoveredIn table ↔
      exists row, row ∈ table.rows ∧ row.status = "recovered" ∧ row.alarmId = alarmId := by
  simp [AlarmHistory.recoveredIn, and_assoc]

/-! ### Changes that open nothing -/

section Change

variable {history : AlarmHistory}

theorem row_eq_of_id {rows : List AlarmRow} (ids : (rows.map AlarmRow.alarmId).Nodup)
    {first second : AlarmRow} (left : first ∈ rows) (right : second ∈ rows)
    (same : first.alarmId = second.alarmId) : first = second :=
  List.inj_on_of_nodup_map ids left right same

/-- A change of the rows one by one that keeps what identifies them. -/
structure Keeps (change : AlarmRow -> AlarmRow) : Prop where
  alarmId : forall row, (change row).alarmId = row.alarmId
  pointId : forall row, (change row).pointId = row.pointId
  alarmType : forall row, (change row).alarmType = row.alarmType

theorem keeps_if (found : AlarmRow -> Prop) [DecidablePred found] {change : AlarmRow -> AlarmRow} (keeps : Keeps change) :
    Keeps fun row => if found row then change row else row := by
  refine ⟨?_, ?_, ?_⟩
  · intro row
    split
    · exact keeps.alarmId row
    · rfl
  · intro row
    split
    · exact keeps.pointId row
    · rfl
  · intro row
    split
    · exact keeps.alarmType row
    · rfl

/-- Rows that are open afterwards were open before. -/
theorem oneOpen_map {rows : List AlarmRow} {change : AlarmRow -> AlarmRow} (keeps : Keeps change)
    (opens : forall row, row ∈ rows -> isOpenStatus (change row).status = true ->
      isOpenStatus row.status = true)
    (oneOpen : rows.Pairwise Apart) : (rows.map change).Pairwise Apart := by
  rw [List.pairwise_map]
  refine oneOpen.imp_of_mem ?_
  rintro first second left right apart ⟨firstOpen, secondOpen, point, type⟩
  rw [keeps.pointId, keeps.pointId] at point
  rw [keeps.alarmType, keeps.alarmType] at type
  exact apart ⟨opens first left firstOpen, opens second right secondOpen, point, type⟩

/-- A row that is open after a step, and was open or is new, was not recovered. -/
theorem stays_step (numbered : Numbered history) (life : LifeCycle history) {table : AlarmTable}
    (ids : (table.rows.map AlarmRow.alarmId).Nodup)
    (opens : forall row, row ∈ table.rows -> isOpenStatus row.status = true ->
      (exists old, old ∈ history.table.rows ∧ old.alarmId = row.alarmId ∧
        isOpenStatus old.status = true) ∨ history.table.nextAlarmId ≤ row.alarmId)
    {row : AlarmRow} (inside : row ∈ table.rows)
    (seen : row.alarmId ∈ history.recovered ++ AlarmHistory.recoveredIn table) :
    isOpenStatus row.status = false := by
  rw [← Bool.not_eq_true]
  intro stillOpen
  rcases List.mem_append.mp seen with before | now
  · rcases opens row inside stillOpen with ⟨old, among, same, wasOpen⟩ | new
    · rw [← same] at before
      rw [life.stays old among before] at wasOpen
      exact absurd wasOpen Bool.false_ne_true
    · exact absurd (numbered.seen row.alarmId before) (not_lt.mpr new)
  · rcases mem_recoveredIn.mp now with ⟨other, among, status, same⟩
    rw [← row_eq_of_id ids among inside same, status, isOpenStatus_recovered] at stillOpen
    exact absurd stillOpen Bool.false_ne_true

theorem numbered_step (numbered : Numbered history) {table : AlarmTable}
    (identified : Identified table) (later : history.table.nextAlarmId ≤ table.nextAlarmId)
    (statuses : forall row, row ∈ table.rows ->
      isOpenStatus row.status = true ∨ row.status = "recovered") :
    Numbered ⟨table, history.recovered ++ AlarmHistory.recoveredIn table⟩ := by
  refine { identified with seen := ?_, statuses := statuses, recorded := ?_ }
  · intro alarmId seen
    rcases List.mem_append.mp seen with before | now
    · exact lt_of_lt_of_le (numbered.seen alarmId before) later
    · rcases mem_recoveredIn.mp now with ⟨row, inside, -, rfl⟩
      exact identified.below row inside
  · intro row inside status
    exact List.mem_append_right _ (mem_recoveredIn.mpr ⟨row, inside, status, rfl⟩)

/-- The rows are changed one by one. -/
theorem Identified.map {table : AlarmTable} (identified : Identified table)
    {change : AlarmRow -> AlarmRow} (keeps : Keeps change) :
    Identified { table with rows := table.rows.map change } := by
  have ids : (table.rows.map change).map AlarmRow.alarmId = table.rows.map AlarmRow.alarmId := by
    rw [List.map_map]
    exact List.map_congr_left fun row _ => keeps.alarmId row
  refine ⟨?_, ?_, ?_⟩
  · rw [ids]
    exact identified.ids
  · intro row inside
    rcases List.mem_map.mp inside with ⟨old, among, rfl⟩
    rw [keeps.alarmId]
    exact identified.below old among
  · intro row inside
    rcases List.mem_map.mp inside with ⟨old, among, rfl⟩
    rw [keeps.pointId]
    exact identified.named old among

theorem Identified.filter {table : AlarmTable} (identified : Identified table)
    (keep : AlarmRow -> Bool) : Identified { table with rows := table.rows.filter keep } where
  ids := identified.ids.sublist (List.filter_sublist.map _)
  below := fun row inside => identified.below row (List.mem_filter.mp inside).1
  named := fun row inside => identified.named row (List.mem_filter.mp inside).1

theorem lifeCycle_map (numbered : Numbered history) (life : LifeCycle history)
    {change : AlarmRow -> AlarmRow} (keeps : Keeps change)
    (opens : forall row, row ∈ history.table.rows -> isOpenStatus (change row).status = true ->
      isOpenStatus row.status = true) :
    LifeCycle ⟨{ history.table with rows := history.table.rows.map change },
      history.recovered ++ AlarmHistory.recoveredIn
        { history.table with rows := history.table.rows.map change }⟩ := by
  refine ⟨oneOpen_map keeps opens life.oneOpen, fun row inside seen => ?_⟩
  refine stays_step numbered life ?_ ?_ inside seen
  · rw [List.map_map, show AlarmRow.alarmId ∘ change = AlarmRow.alarmId from funext keeps.alarmId]
    exact numbered.ids
  · intro row inside stillOpen
    rcases List.mem_map.mp inside with ⟨old, among, rfl⟩
    exact Or.inl ⟨old, among, (keeps.alarmId old).symm, opens old among stillOpen⟩

theorem lifeCycle_filter (numbered : Numbered history) (life : LifeCycle history)
    (keep : AlarmRow -> Bool) :
    LifeCycle ⟨{ history.table with rows := history.table.rows.filter keep },
      history.recovered ++ AlarmHistory.recoveredIn
        { history.table with rows := history.table.rows.filter keep }⟩ := by
  refine ⟨life.oneOpen.sublist List.filter_sublist, fun row inside seen => ?_⟩
  refine stays_step numbered life (numbered.ids.sublist (List.filter_sublist.map _)) ?_ inside seen
  intro row inside stillOpen
  exact Or.inl ⟨row, (List.mem_filter.mp inside).1, rfl, stillOpen⟩

end Change

/-! ### The steps -/

section Save

variable {history : AlarmHistory} (currentMs : Int) (event : TimedAlarmEvent)

open AlarmTable

theorem keeps_updateRow : Keeps (updateRow currentMs event) :=
  ⟨fun _ => rfl, fun _ => rfl, fun _ => rfl⟩

/-- The update finds a row, or a row is inserted where no row is open. -/
theorem saveAlarmEvent_cases (table : AlarmTable) :
    (table.saveAlarmEvent currentMs event).1 = table ∨
      (table.saveAlarmEvent currentMs event).1 = { table with
        rows := table.rows.map fun row =>
          if isUpdated event row then updateRow currentMs event row else row } ∨
      (event.alarmId ≠ "" ∧ (forall row, row ∈ table.rows -> isUpdated event row = false) ∧
        (table.saveAlarmEvent currentMs event).1 =
          { rows := table.rows ++ [insertedRow currentMs event table.nextAlarmId]
            nextAlarmId := table.nextAlarmId + 1 }) := by
  unfold saveAlarmEvent
  by_cases refused : event.alarmId = "" ∨ event.gatewayId = ""
  · rw [if_pos refused]
    exact Or.inl rfl
  · rw [if_neg refused]
    by_cases found : table.rows.any (isUpdated event) = true
    · rw [if_pos found]
      exact Or.inr (Or.inl rfl)
    · rw [if_neg found]
      refine Or.inr (Or.inr ⟨fun empty => refused (Or.inl empty), ?_, rfl⟩)
      rw [Bool.not_eq_true, List.any_eq_false] at found
      intro row inside
      exact Bool.eq_false_iff.mpr (found row inside)

theorem of_isUpdated {row : AlarmRow} (found : isUpdated event row = true) :
    isOpenStatus row.status = true := by
  rw [isUpdated, Bool.and_eq_true] at found
  exact found.2

theorem Identified.insert {table : AlarmTable} (identified : Identified table)
    (named : event.alarmId ≠ "") :
    Identified ⟨table.rows ++ [insertedRow currentMs event table.nextAlarmId],
      table.nextAlarmId + 1⟩ := by
  refine ⟨?_, ?_, ?_⟩
  · rw [List.map_append, List.nodup_append]
    refine ⟨identified.ids, List.nodup_singleton _, ?_⟩
    rintro alarmId old new here rfl
    rcases List.mem_map.mp old with ⟨row, inside, rfl⟩
    exact (identified.below row inside).ne (List.mem_singleton.mp here)
  · intro row inside
    rcases List.mem_append.mp inside with old | new
    · exact Int.lt_add_one_of_le (identified.below row old).le
    · rw [List.mem_singleton.mp new]
      exact Int.lt_succ _
  · intro row inside
    rcases List.mem_append.mp inside with old | new
    · exact identified.named row old
    · rw [List.mem_singleton.mp new]
      exact named

theorem identified_save {table : AlarmTable} (identified : Identified table) :
    Identified (table.saveAlarmEvent currentMs event).1 := by
  rcases saveAlarmEvent_cases currentMs event table with same | updated | ⟨named, -, inserted⟩
  · rw [same]
    exact identified
  · rw [updated]
    exact identified.map (keeps_if _ (keeps_updateRow currentMs event))
  · rw [inserted]
    exact identified.insert currentMs event named

theorem numbered_save (numbered : Numbered history)
    (known : KnownState history (.save currentMs event)) :
    Numbered (history.step (.save currentMs event)) := by
  have identified := identified_save currentMs event numbered.toIdentified
  rcases saveAlarmEvent_cases currentMs event history.table with same | updated | inserted
  · rw [AlarmHistory.step, AlarmHistory.change, same]
    exact numbered_step numbered numbered.toIdentified le_rfl numbered.statuses
  · rw [updated] at identified
    rw [AlarmHistory.step, AlarmHistory.change, updated]
    apply numbered_step numbered identified le_rfl
    intro row inside
    rcases List.mem_map.mp inside with ⟨old, among, rfl⟩
    split
    · exact known
    · exact numbered.statuses old among
  · rcases inserted with ⟨named, -, result⟩
    rw [result] at identified
    rw [AlarmHistory.step, AlarmHistory.change, result]
    apply numbered_step numbered identified (Int.le_add_one le_rfl)
    intro row inside
    rcases List.mem_append.mp inside with old | new
    · exact numbered.statuses row old
    · rw [List.mem_singleton.mp new]
      exact known

theorem lifeCycle_save (numbered : Numbered history) (life : LifeCycle history) :
    LifeCycle (history.step (.save currentMs event)) := by
  rcases saveAlarmEvent_cases currentMs event history.table with same | updated | inserted
  · rw [AlarmHistory.step, AlarmHistory.change, same]
    refine ⟨life.oneOpen, fun row inside seen => ?_⟩
    exact stays_step numbered life numbered.ids
      (fun row inside stillOpen => Or.inl ⟨row, inside, rfl, stillOpen⟩) inside seen
  · rw [AlarmHistory.step, AlarmHistory.change, updated]
    apply lifeCycle_map numbered life (keeps_if _ (keeps_updateRow currentMs event))
    intro row inside stillOpen
    split at stillOpen
    · exact of_isUpdated event ‹_›
    · exact stillOpen
  · rcases inserted with ⟨named, unfound, result⟩
    rw [AlarmHistory.step, AlarmHistory.change, result]
    refine ⟨?_, fun row inside seen => ?_⟩
    · rw [List.pairwise_append]
      refine ⟨life.oneOpen, List.pairwise_singleton _ _, ?_⟩
      -- the new row is open only if the update has found no open row
      rintro row inside new last ⟨firstOpen, -, point, type⟩
      rw [List.mem_singleton.mp last] at point type
      have missed := unfound row inside
      rw [isUpdated, firstOpen, Bool.and_true, Bool.and_eq_false_iff] at missed
      rcases missed with other | other
      · exact of_decide_eq_false other point
      · exact of_decide_eq_false other type
    · have identified := numbered.toIdentified.insert currentMs event named
      refine stays_step numbered life identified.ids ?_ inside seen
      intro row among stillOpen
      rcases List.mem_append.mp among with old | new
      · exact Or.inl ⟨row, old, rfl, stillOpen⟩
      · rw [List.mem_singleton.mp new]
        exact Or.inr le_rfl

end Save

section Acknowledge

variable {history : AlarmHistory} (currentMs : Int) (alarmId : String) (ackTimeMs : Int)

open AlarmTable

theorem keeps_acknowledgeRow (nowMs : Int) : Keeps (acknowledgeRow nowMs) :=
  ⟨fun _ => rfl, fun _ => rfl, fun _ => rfl⟩

/-- On tables whose rows are named, the empty identifier needs no check. -/
theorem acknowledgeAlarm_rows {table : AlarmTable} (identified : Identified table) :
    exists nowMs, (table.acknowledgeAlarm currentMs alarmId ackTimeMs).1 =
      { table with
        rows := table.rows.map fun row =>
          if row.pointId = alarmId then acknowledgeRow nowMs row else row } := by
  refine ⟨if 0 < ackTimeMs then ackTimeMs else currentMs, ?_⟩
  unfold acknowledgeAlarm
  split
  · rename_i empty
    have untouched : (table.rows.map fun row => if row.pointId = alarmId then
        acknowledgeRow (if 0 < ackTimeMs then ackTimeMs else currentMs) row else row) =
          table.rows.map id := by
      apply List.map_congr_left
      intro row inside
      rw [if_neg (by rw [empty]; exact identified.named row inside)]
      rfl
    rw [untouched, List.map_id]
  · rfl

theorem identified_acknowledge {table : AlarmTable} (identified : Identified table) :
    Identified (table.acknowledgeAlarm currentMs alarmId ackTimeMs).1 := by
  rcases acknowledgeAlarm_rows currentMs alarmId ackTimeMs identified with ⟨nowMs, result⟩
  rw [result]
  exact identified.map (keeps_if (fun row => row.pointId = alarmId) (keeps_acknowledgeRow nowMs))

theorem numbered_acknowledge (numbered : Numbered history) :
    Numbered (history.step (.acknowledge currentMs alarmId ackTimeMs)) := by
  have identified := identified_acknowledge currentMs alarmId ackTimeMs numbered.toIdentified
  rcases acknowledgeAlarm_rows currentMs alarmId ackTimeMs numbered.toIdentified with
    ⟨nowMs, result⟩
  rw [result] at identified
  rw [AlarmHistory.step, AlarmHistory.change, result]
  apply numbered_step numbered identified le_rfl
  intro row inside
  rcases List.mem_map.mp inside with ⟨old, among, rfl⟩
  split
  · exact Or.inl isOpenStatus_acknowledged
  · exact numbered.statuses old among

/-- An acknowledgement keeps the life cycle exactly if it finds no recovered row. -/
theorem lifeCycle_acknowledge_iff (numbered : Numbered history) (life : LifeCycle history) :
    LifeCycle (history.step (.acknowledge currentMs alarmId ackTimeMs)) ↔
      AcknowledgesOpen history (.acknowledge currentMs alarmId ackTimeMs) := by
  rcases acknowledgeAlarm_rows currentMs alarmId ackTimeMs numbered.toIdentified with
    ⟨nowMs, result⟩
  rw [AlarmHistory.step, AlarmHistory.change, result]
  constructor
  · intro after row inside here recovered
    have seen := numbered.recorded row inside recovered
    have touched : acknowledgeRow nowMs row ∈ history.table.rows.map fun row =>
        if row.pointId = alarmId then acknowledgeRow nowMs row else row :=
      List.mem_map.mpr ⟨row, inside, if_pos here⟩
    have closed := after.stays _ touched (List.mem_append_left _ seen)
    exact absurd (closed.symm.trans isOpenStatus_acknowledged) Bool.false_ne_true
  · intro opens
    apply lifeCycle_map numbered life
      (keeps_if (fun row => row.pointId = alarmId) (keeps_acknowledgeRow nowMs))
    intro row inside stillOpen
    split at stillOpen
    · rename_i here
      rcases numbered.statuses row inside with isOpen | recovered
      · exact isOpen
      · exact absurd recovered (opens row inside here)
    · exact stillOpen

end Acknowledge

theorem empty_identified : Identified AlarmTable.empty where
  ids := List.nodup_nil
  below := fun _ inside => absurd inside List.not_mem_nil
  named := fun _ inside => absurd inside List.not_mem_nil

theorem start_numbered : Numbered alarmSystem.initial where
  toIdentified := empty_identified
  seen := fun _ inside => absurd inside List.not_mem_nil
  statuses := fun _ inside => absurd inside List.not_mem_nil
  recorded := fun _ inside => absurd inside List.not_mem_nil

theorem identified_change {table : AlarmTable} (identified : Identified table)
    (event : AlarmTableEvent) : Identified (AlarmHistory.change table event) := by
  cases event with
  | save currentMs event => exact identified_save currentMs event identified
  | acknowledge currentMs alarmId ackTimeMs =>
      exact identified_acknowledge currentMs alarmId ackTimeMs identified
  | clearRecovered => exact identified.filter _
  | clearAcknowledged => exact identified.filter _

theorem run_identified (events : List AlarmTableEvent) :
    Identified (alarmSystem.run events).table := by
  have kept : forall history event, Identified history.table ->
      Identified (alarmSystem.step history event).table :=
    fun _ event identified => identified_change identified event
  exact @TransitionSystem.invariant_everywhere _ _ alarmSystem
    (fun history => Identified history.table) empty_identified kept events

theorem start_lifeCycle : LifeCycle alarmSystem.initial where
  oneOpen := List.Pairwise.nil
  stays := fun _ inside => absurd inside List.not_mem_nil

theorem alarm_numbered_step {history : AlarmHistory} (event : AlarmTableEvent)
    (numbered : Numbered history) (known : KnownState history event) :
    Numbered (history.step event) := by
  cases event with
  | save currentMs event => exact numbered_save currentMs event numbered known
  | acknowledge currentMs alarmId ackTimeMs =>
      exact numbered_acknowledge currentMs alarmId ackTimeMs numbered
  | clearRecovered =>
      exact numbered_step numbered (numbered.toIdentified.filter _) le_rfl
        fun row inside => numbered.statuses row (List.mem_filter.mp inside).1
  | clearAcknowledged =>
      exact numbered_step numbered (numbered.toIdentified.filter _) le_rfl
        fun row inside => numbered.statuses row (List.mem_filter.mp inside).1

theorem alarm_lifeCycle_step {history : AlarmHistory} (event : AlarmTableEvent)
    (numbered : Numbered history) (life : LifeCycle history) :
    LifeCycle (history.step event) ↔ AcknowledgesOpen history event := by
  cases event with
  | save currentMs event =>
      exact ⟨fun _ => trivial, fun _ => lifeCycle_save currentMs event numbered life⟩
  | acknowledge currentMs alarmId ackTimeMs =>
      exact lifeCycle_acknowledge_iff currentMs alarmId ackTimeMs numbered life
  | clearRecovered => exact ⟨fun _ => trivial, fun _ => lifeCycle_filter numbered life _⟩
  | clearAcknowledged => exact ⟨fun _ => trivial, fun _ => lifeCycle_filter numbered life _⟩

/-- An alarm has one open row at most and recovered rows stay closed, all
through a run, exactly if no acknowledgement finds a recovered row. -/
theorem alarm_life_cycle_iff {events : List AlarmTableEvent}
    (known : alarmSystem.Admissible KnownState events) :
    (forall before after, events = before ++ after -> LifeCycle (alarmSystem.run before)) ↔
      alarmSystem.Admissible AcknowledgesOpen events :=
  alarmSystem.everywhere_iff start_numbered start_lifeCycle
    (fun _ event numbered known => alarm_numbered_step event numbered known)
    (fun _ event numbered _ life => alarm_lifeCycle_step event numbered life) known

/-- The temperature of a sensor, raised or recovered. -/
def temperatureAlarm (state : String) (timestampMs : Int) : TimedAlarmEvent where
  alarmId := "gateway_001.port_001.1.temperature.threshold_high"
  timestampMs := timestampMs
  factoryId := "factory_001"
  factoryName := ""
  areaId := "area_001"
  areaName := ""
  gatewayId := "gateway_001"
  gatewayName := ""
  portId := "port_001"
  portName := ""
  deviceId := 1
  deviceName := "sensor"
  deviceType := "temperature_humidity"
  pointKey := "temperature"
  pointName := ""
  alarmType := "threshold_high"
  level := "warning"
  state := state
  value := 40
  threshold := 30
  message := "temperature high"
  ackTimeMs := 0
  recoverTimeMs := 0

/-- Raised and recovered twice, and then acknowledged. -/
def acknowledgedTooLate : List AlarmTableEvent :=
  [.save 1 (temperatureAlarm "active" 1000), .save 2 (temperatureAlarm "recovered" 2000),
    .save 3 (temperatureAlarm "active" 3000), .save 4 (temperatureAlarm "recovered" 4000),
    .acknowledge 5 "gateway_001.port_001.1.temperature.threshold_high" 5000]

/-- Raised, acknowledged and recovered. -/
def acknowledgedInTime : List AlarmTableEvent :=
  [.save 1 (temperatureAlarm "active" 1000),
    .acknowledge 2 "gateway_001.port_001.1.temperature.threshold_high" 2000,
    .save 3 (temperatureAlarm "recovered" 3000)]

theorem acknowledgedInTime_lifeCycle :
    (forall before after, acknowledgedInTime = before ++ after ->
        LifeCycle (alarmSystem.run before)) ↔
      alarmSystem.Admissible AcknowledgesOpen acknowledgedInTime :=
  alarm_life_cycle_iff (by decide +kernel)

/-- Both recovered rows are open again. -/
theorem acknowledgedTooLate_reopened :
    alarmSystem.Admissible KnownState acknowledgedTooLate ∧
      ¬((alarmSystem.run acknowledgedTooLate).table.rows.Pairwise Apart) ∧
      exists row, row ∈ (alarmSystem.run acknowledgedTooLate).table.rows ∧
        row.alarmId ∈ (alarmSystem.run acknowledgedTooLate).recovered ∧
        isOpenStatus row.status = true := by
  decide +kernel

end Pc
end Imx6Gateway
