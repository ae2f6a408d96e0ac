import Imx6Gateway.Library.Table
import Imx6Gateway.Pc.AlarmTable
import Imx6Gateway.Ui.RelayCommand
import Mathlib.Data.Finset.Card
import Mathlib.Data.List.Find

namespace Imx6Gateway
namespace Ui

open Library

/-!
# The alarms the user sees

Pc_data sends the rows of its alarm table, the newest first, and
`AlarmManager` puts them into a map with one entry for each alarm.  The rows
of an alarm that was raised several times therefore overwrite each other.  How
a number with a fraction is written and the time of reading are parameters.
-/

structure AlarmRecord where
  alarmId : String
  factoryId : String
  areaId : String
  areaName : String
  gatewayId : String
  portId : String
  masterSlot : Int
  slaveAddr : Int
  deviceName : String
  deviceType : String
  pointKey : String
  alarmType : String
  level : String
  message : String
  value : Rat
  threshold : Rat
  state : String
  startTime : Int
  ackTime : Int
  recoverTime : Int
deriving DecidableEq

/-! ## The message -/

section Message

variable (double : Rat -> Rat)

def alarmEventMembers (event : Pc.TimedAlarmEvent) : List (String × Json) :=
  [("alarm_id", .str event.alarmId), ("alarmId", .str event.alarmId),
    ("timestampMs", .int event.timestampMs), ("ack_time_ms", .int event.ackTimeMs),
    ("ackTimeMs", .int event.ackTimeMs), ("recover_time_ms", .int event.recoverTimeMs),
    ("recoverTimeMs", .int event.recoverTimeMs), ("factoryId", .str event.factoryId),
    ("factory_id", .str event.factoryId), ("areaId", .str event.areaId),
    ("area_id", .str event.areaId), ("areaName", .str event.areaName),
    ("area_name", .str event.areaName), ("gatewayId", .str event.gatewayId),
    ("gateway_id", .str event.gatewayId), ("portId", .str event.portId),
    ("port_id", .str event.portId), ("deviceId", .int event.deviceId),
    ("device_id", .int event.deviceId), ("deviceName", .str event.deviceName),
    ("device_name", .str event.deviceName), ("deviceType", .str event.deviceType),
    ("device_type", .str event.deviceType), ("pointKey", .str event.pointKey),
    ("point_key", .str event.pointKey), ("pointName", .str event.pointName),
    ("point_name", .str event.pointName), ("alarmType", .str event.alarmType),
    ("alarm_type", .str event.alarmType), ("level", .str event.level),
    ("alarm_level", .str event.level), ("message", .str event.message),
    ("alarm_message", .str event.message), ("state", .str event.state),
    ("status", .str event.state), ("value", .real (double event.value)),
    ("trigger_value", .real (double event.value)), ("threshold", .real (double event.threshold)),
    ("threshold_value", .real (double event.threshold))]

def buildAlarmEventsSnapshotJson (events : List Pc.TimedAlarmEvent) : Json :=
  .obj [("type", .str "alarm_events_snapshot"), ("count", .int events.length),
    ("alarms", .arr (events.map fun event => .obj (alarmEventMembers double event)))]

end Message

/-! ## The map of the interface -/

def textOr (value : Option Json) (other : String) : String :=
  match value with
  | some (.str text) => text
  | _ => other

def stringValue (object : Json) (snakeKey camelKey : String) : String :=
  Pc.orElse (textOr (object.lookup snakeKey) "") (textOr (object.lookup camelKey) "")

def doubleOr (value : Option Json) (other : Rat) : Rat :=
  match value with
  | some (.int number) => Pc.doubleOfInt number
  | some (.real number) => number
  | _ => other

def int64Value (object : Json) (key : String) (defaultValue : Int) : Int :=
  match object.lookup key with
  | some (.int number) => (Pc.doubleOfInt number).num.tdiv (Pc.doubleOfInt number).den
  | some (.real number) => number.num.tdiv number.den
  | _ => defaultValue

/-- `toInt` with a default: only integral numbers of the machine's range count. -/
def intOr (value : Option Json) (other : Int) : Int :=
  match value with
  | some (.int number) => if -2 ^ 31 ≤ number ∧ number < 2 ^ 31 then number else other
  | some (.real number) =>
      if number.den = 1 ∧ -2 ^ 31 ≤ number.num ∧ number.num < 2 ^ 31 then number.num else other
  | _ => other

/-- Like the function of `DataManager`, but an unknown port has no slot. -/
def alarmSlotFromPortId (portId : String) : Int :=
  let portNumber := ((portDigits portId).map digitsToInt).getD 0
  if portNumber ≤ 0 then -1 else portNumber - 1

def builtAlarmId (alarm : AlarmRecord) : String :=
  Pc.orElse alarm.gatewayId "unknown_gateway" ++ "." ++ Pc.orElse alarm.portId "unknown_port" ++
    "." ++ toString alarm.slaveAddr ++ "." ++ Pc.orElse alarm.pointKey "unknown" ++ "." ++
    Pc.orElse alarm.alarmType "emergency"

def alarmState (object : Json) : String :=
  let state := textOr (object.lookup "state") (textOr (object.lookup "status") "active")
  if state = "acked" then "acknowledged" else state

def alarmRecordFromJson (nowMs : Int) (object : Json) : AlarmRecord :=
  let portId := stringValue object "port_id" "portId"
  let alarm : AlarmRecord :=
    { alarmId := stringValue object "alarm_id" "alarmId"
      factoryId := stringValue object "factory_id" "factoryId"
      areaId := stringValue object "area_id" "areaId"
      areaName := stringValue object "area_name" "areaName"
      gatewayId := stringValue object "gateway_id" "gatewayId"
      portId := portId
      masterSlot := intOr (object.lookup "master_slot") (alarmSlotFromPortId portId)
      slaveAddr := intOr (object.lookup "slave_addr")
        (intOr (object.lookup "deviceId") (intOr (object.lookup "device_id") 0))
      deviceName := stringValue object "device_name" "deviceName"
      deviceType := stringValue object "device_type" "deviceType"
      pointKey := stringValue object "point_key" "pointKey"
      alarmType := stringValue object "alarm_type" "alarmType"
      level := textOr (object.lookup "level") (textOr (object.lookup "alarm_level") "warning")
      message := textOr (object.lookup "message") (textOr (object.lookup "alarm_message") "")
      value := doubleOr (object.lookup "value") (doubleOr (object.lookup "trigger_value") 0)
      threshold := doubleOr (object.lookup "threshold")
        (doubleOr (object.lookup "threshold_value") 0)
      state := alarmState object
      startTime := int64Value object "timestampMs" (int64Value object "timestamp" nowMs)
      ackTime := int64Value object "ackTimeMs" (int64Value object "ack_time_ms" 0)
      recoverTime := int64Value object "recoverTimeMs" (int64Value object "recover_time_ms" 0) }
  { alarm with alarmId := Pc.orElse alarm.alarmId (builtAlarmId alarm) }

/-- The alarms of `AlarmManager`, under their identifiers. -/
abbrev Alarms : Type := Table String AlarmRecord

def onAlarmSnapshot (nowMs : Int) (alarms : List Json) : Alarms :=
  Table.putAll AlarmRecord.alarmId id
    ((alarms.filter Json.isObj).map (alarmRecordFromJson nowMs)) ∅

/-- What the main window does with a snapshot. -/
def showSnapshot (nowMs : Int) (root : Json) : Alarms :=
  onAlarmSnapshot nowMs ((Pc.memberArray root "alarms").getD [])

def activeAlarmCount (alarms : Alarms) : Nat :=
  alarms.values.countP fun alarm => alarm.state = "active"

/-- The alarms that the interface holds as active. -/
def activeAlarms (alarms : Alarms) : Finset String :=
  ((alarms.entries.filter fun entry => entry.2.state = "active").map Sigma.fst).toFinset

theorem mem_activeAlarms {alarms : Alarms} {alarmId : String} :
    alarmId ∈ activeAlarms alarms ↔
      exists alarm, alarms.get alarmId = some alarm ∧ alarm.state = "active" := by
  rw [activeAlarms, List.mem_toFinset, List.mem_map]
  constructor
  · rintro ⟨⟨key, alarm⟩, inside, rfl⟩
    rcases List.mem_filter.mp inside with ⟨among, active⟩
    exact ⟨alarm, Table.get_eq_some_iff.mpr among, of_decide_eq_true active⟩
  · rintro ⟨alarm, found, active⟩
    exact ⟨⟨alarmId, alarm⟩,
      List.mem_filter.mpr ⟨Table.get_eq_some_iff.mp found, decide_eq_true active⟩, rfl⟩

/-- The count is the number of alarms, since the map has one entry for each. -/
theorem activeAlarmCount_eq (alarms : Alarms) :
    activeAlarmCount alarms = (activeAlarms alarms).card := by
  have nodup : ((alarms.entries.filter fun entry => entry.2.state = "active").map
      Sigma.fst).Nodup :=
    List.Nodup.sublist (List.filter_sublist.map _) alarms.nodupKeys
  rw [activeAlarms, List.toFinset_card_of_nodup nodup, List.length_map, activeAlarmCount,
    Table.values, List.countP_map, List.countP_eq_length_filter]
  rfl

/-! ## The view and the table -/

section View

variable (double : Rat -> Rat) (nowMs : Int)

theorem alarmId_of_members {event : Pc.TimedAlarmEvent} (named : event.alarmId ≠ "") :
    (alarmRecordFromJson nowMs (.obj (alarmEventMembers double event))).alarmId =
      event.alarmId := by
  simp [alarmRecordFromJson, stringValue, alarmEventMembers, textOr, Pc.orElse, named]

theorem state_of_members (event : Pc.TimedAlarmEvent) :
    (alarmRecordFromJson nowMs (.obj (alarmEventMembers double event))).state =
      if event.state = "acked" then "acknowledged" else event.state := by
  simp [alarmRecordFromJson, alarmState, alarmEventMembers, textOr, List.lookup_cons]

/-- What the interface holds of the row. -/
def shownRow (row : Pc.AlarmRow) : AlarmRecord :=
  alarmRecordFromJson nowMs (.obj (alarmEventMembers double (Pc.AlarmTable.readRow row)))

theorem shownRow_alarmId {row : Pc.AlarmRow} (named : row.pointId ≠ "") :
    (shownRow double nowMs row).alarmId = row.pointId :=
  alarmId_of_members double nowMs named

theorem shownRow_active (row : Pc.AlarmRow) :
    (shownRow double nowMs row).state = "active" ↔ row.status = "active" := by
  rw [shownRow, state_of_members]
  unfold Pc.AlarmTable.readRow
  dsimp only
  by_cases acked : row.status = "acked"
  · simp [acked]
  · simp [acked]

/-- The interface after it has asked for the alarms. -/
def alarmView (table : Pc.AlarmTable) : Alarms :=
  showSnapshot nowMs (buildAlarmEventsSnapshotJson double table.queryAlarmEvents)

theorem alarmView_eq (table : Pc.AlarmTable) :
    alarmView double nowMs table = Table.putAll AlarmRecord.alarmId id
      (table.orderedRows.map (shownRow double nowMs)) ∅ := by
  have rows : ((Pc.memberArray
      (buildAlarmEventsSnapshotJson double table.queryAlarmEvents) "alarms").getD []) =
        table.orderedRows.map fun row =>
          Json.obj (alarmEventMembers double (Pc.AlarmTable.readRow row)) := by
    rw [Pc.AlarmTable.queryAlarmEvents, buildAlarmEventsSnapshotJson, List.map_map]
    rfl
  rw [alarmView, showSnapshot, onAlarmSnapshot, rows, List.filter_map, List.map_map]
  have objects : (table.orderedRows.filter (Json.isObj ∘ fun row =>
      Json.obj (alarmEventMembers double (Pc.AlarmTable.readRow row)))) = table.orderedRows :=
    List.filter_eq_self.mpr fun _ _ => rfl
  rw [objects]
  rfl

/-! ### The oldest row of an alarm -/

/-- The last row of the alarm in the order of the query. -/
def Oldest (table : Pc.AlarmTable) (row : Pc.AlarmRow) : Prop :=
  row ∈ table.rows ∧ forall other, other ∈ table.rows -> other.pointId = row.pointId ->
    Pc.AlarmTable.comesBefore other row = true

/-- Of every alarm with an active row, the oldest row is active. -/
def OldestActive (table : Pc.AlarmTable) : Prop :=
  forall row oldest, row ∈ table.rows -> row.status = "active" -> Oldest table oldest ->
    oldest.pointId = row.pointId -> oldest.status = "active"

instance (table : Pc.AlarmTable) (row : Pc.AlarmRow) : Decidable (Oldest table row) :=
  inferInstanceAs (Decidable (_ ∧ _))

theorem comesBefore_trans (first second third : Pc.AlarmRow)
    (left : Pc.AlarmTable.comesBefore first second = true)
    (right : Pc.AlarmTable.comesBefore second third = true) :
    Pc.AlarmTable.comesBefore first third = true := by
  simp only [Pc.AlarmTable.comesBefore, Bool.or_eq_true, Bool.and_eq_true,
    decide_eq_true_eq] at left right ⊢
  omega

theorem comesBefore_total (first second : Pc.AlarmRow) :
    (Pc.AlarmTable.comesBefore first second || Pc.AlarmTable.comesBefore second first) = true := by
  simp only [Pc.AlarmTable.comesBefore, Bool.or_eq_true, Bool.and_eq_true, decide_eq_true_eq]
  omega

theorem comesBefore_antisymm {first second : Pc.AlarmRow}
    (left : Pc.AlarmTable.comesBefore first second = true)
    (right : Pc.AlarmTable.comesBefore second first = true) : first.alarmId = second.alarmId := by
  simp only [Pc.AlarmTable.comesBefore, Bool.or_eq_true, Bool.and_eq_true,
    decide_eq_true_eq] at left right
  omega

variable {table : Pc.AlarmTable}

theorem mem_orderedRows {row : Pc.AlarmRow} : row ∈ table.orderedRows ↔ row ∈ table.rows :=
  List.mem_mergeSort

theorem oldest_unique (identified : Pc.Identified table) {first second : Pc.AlarmRow}
    (left : Oldest table first) (right : Oldest table second)
    (same : first.pointId = second.pointId) : first = second :=
  Pc.row_eq_of_id identified.ids left.1 right.1
    (comesBefore_antisymm (right.2 first left.1 same) (left.2 second right.1 same.symm))

/-- The row that the map keeps is the oldest one. -/
theorem oldest_of_last {alarmId : String} {row : Pc.AlarmRow}
    (last : (table.orderedRows.reverse.find? fun row => row.pointId = alarmId) = some row) :
    Oldest table row ∧ row.pointId = alarmId := by
  rcases List.find?_eq_some_iff_append.mp last with ⟨here, later, earlier, split, none⟩
  have point := of_decide_eq_true here
  have ordered : table.orderedRows = earlier.reverse ++ row :: later.reverse := by
    have back := congrArg List.reverse split
    rwa [List.reverse_reverse, List.reverse_append, List.reverse_cons, List.append_assoc] at back
  have sorted : table.orderedRows.Pairwise fun first second =>
      Pc.AlarmTable.comesBefore first second = true :=
    List.pairwise_mergeSort comesBefore_trans comesBefore_total table.rows
  rw [ordered, List.pairwise_append] at sorted
  have inside : row ∈ table.orderedRows := by
    rw [ordered]
    exact List.mem_append_right _ List.mem_cons_self
  refine ⟨⟨mem_orderedRows.mp inside, ?_⟩, point⟩
  intro other among same
  have placed := mem_orderedRows.mpr among
  rw [ordered, List.mem_append, List.mem_cons, List.mem_reverse] at placed
  rcases placed with before | rfl | after
  · exact sorted.2.2 other (List.mem_reverse.mpr before) row List.mem_cons_self
  · rcases Bool.or_eq_true_iff.mp (comesBefore_total other other) with holds | holds
    · exact holds
    · exact holds
  · have passed := none other (List.mem_reverse.mp after)
    rw [Bool.not_eq_true', decide_eq_false_iff_not] at passed
    exact absurd (same.trans point) passed

theorem alarmView_get (identified : Pc.Identified table) (alarmId : String) :
    (alarmView double nowMs table).get alarmId =
      (table.orderedRows.reverse.find? fun row => row.pointId = alarmId).map
        (shownRow double nowMs) := by
  have same : table.orderedRows.reverse.find?
      ((fun alarm : AlarmRecord => alarm.alarmId = alarmId) ∘ shownRow double nowMs) =
        table.orderedRows.reverse.find? fun row => row.pointId = alarmId := by
    apply List.find?_congr
    intro row inside
    have named := identified.named row (mem_orderedRows.mp (List.mem_reverse.mp inside))
    rw [Function.comp_apply, shownRow_alarmId double nowMs named]
  rw [alarmView_eq, Table.get_putAll_last, Table.get_empty, Option.or_none, ← List.map_reverse,
    List.find?_map, same, Option.map_map]
  rfl

/-- The interface shows an alarm as active if its oldest row is. -/
theorem mem_activeAlarms_view (identified : Pc.Identified table) (alarmId : String) :
    alarmId ∈ activeAlarms (alarmView double nowMs table) ↔
      exists row, Oldest table row ∧ row.pointId = alarmId ∧ row.status = "active" := by
  rw [mem_activeAlarms]
  rw [alarmView_get double nowMs identified]
  constructor
  · rintro ⟨alarm, found, active⟩
    rcases Option.map_eq_some_iff.mp found with ⟨row, last, rfl⟩
    rcases oldest_of_last last with ⟨oldest, point⟩
    exact ⟨row, oldest, point, (shownRow_active double nowMs row).mp active⟩
  · rintro ⟨row, oldest, point, active⟩
    cases last : table.orderedRows.reverse.find? fun row => row.pointId = alarmId with
    | none =>
        have missing := List.find?_eq_none.mp last row
          (List.mem_reverse.mpr (mem_orderedRows.mpr oldest.1))
        exact absurd (decide_eq_true point) missing
    | some kept =>
        rcases oldest_of_last last with ⟨old, same⟩
        have here := oldest_unique identified old oldest (same.trans point.symm)
        refine ⟨shownRow double nowMs kept, rfl, ?_⟩
        rw [shownRow_active, here]
        exact active

end View

/-- The alarms with an active row. -/
def activeInTable (table : Pc.AlarmTable) : Finset String :=
  ((table.rows.filter fun row => row.status = "active").map Pc.AlarmRow.pointId).toFinset

theorem mem_activeInTable {table : Pc.AlarmTable} {alarmId : String} :
    alarmId ∈ activeInTable table ↔
      exists row, row ∈ table.rows ∧ row.status = "active" ∧ row.pointId = alarmId := by
  simp [activeInTable, and_assoc]

/-- Every alarm has an oldest row. -/
theorem exists_oldest {table : Pc.AlarmTable} {row : Pc.AlarmRow} (inside : row ∈ table.rows) :
    exists oldest, Oldest table oldest ∧ oldest.pointId = row.pointId := by
  cases last : table.orderedRows.reverse.find? fun other => other.pointId = row.pointId with
  | none =>
      have missing := List.find?_eq_none.mp last row
        (List.mem_reverse.mpr (mem_orderedRows.mpr inside))
      exact absurd (decide_eq_true rfl) missing
  | some oldest => exact ⟨oldest, oldest_of_last last⟩

/-- After any run the interface shows the alarms with an active row as active,
and their number, exactly if of each of them the oldest row is active. -/
theorem alarm_view_agrees_iff (double : Rat -> Rat) (nowMs : Int)
    (events : List Pc.AlarmTableEvent) :
    (activeAlarms (alarmView double nowMs (Pc.alarmSystem.run events).table) =
        activeInTable (Pc.alarmSystem.run events).table ∧
      activeAlarmCount (alarmView double nowMs (Pc.alarmSystem.run events).table) =
        (activeInTable (Pc.alarmSystem.run events).table).card) ↔
      OldestActive (Pc.alarmSystem.run events).table := by
  have identified := Pc.run_identified events
  rw [activeAlarmCount_eq]
  constructor
  · rintro ⟨same, -⟩ row oldest inside active old point
    have listed := mem_activeInTable.mpr ⟨row, inside, active, rfl⟩
    rw [← same, mem_activeAlarms_view double nowMs identified] at listed
    rcases listed with ⟨kept, first, here, shown⟩
    rw [oldest_unique identified old first (point.trans here.symm)]
    exact shown
  · intro oldestActive
    have same : activeAlarms (alarmView double nowMs (Pc.alarmSystem.run events).table) =
        activeInTable (Pc.alarmSystem.run events).table := by
      ext alarmId
      rw [mem_activeAlarms_view double nowMs identified, mem_activeInTable]
      constructor
      · rintro ⟨row, oldest, point, active⟩
        exact ⟨row, oldest.1, active, point⟩
      · rintro ⟨row, inside, active, rfl⟩
        rcases exists_oldest inside with ⟨oldest, old, point⟩
        exact ⟨oldest, old, point, oldestActive row oldest inside active old point⟩
    exact ⟨same, congrArg _ same⟩

/-- Raised, recovered and raised again: the interface is left with the old row. -/
def raisedAgain : List Pc.AlarmTableEvent :=
  [.save 1 (Pc.temperatureAlarm "active" 1000), .save 2 (Pc.temperatureAlarm "recovered" 2000),
    .save 3 (Pc.temperatureAlarm "active" 3000)]

theorem raisedAgain_not_shown :
    activeInTable (Pc.alarmSystem.run raisedAgain).table =
        {"gateway_001.port_001.1.temperature.threshold_high"} ∧
      ¬(activeAlarms (alarmView id 0 (Pc.alarmSystem.run raisedAgain).table) =
        activeInTable (Pc.alarmSystem.run raisedAgain).table) := by
  have only : activeInTable (Pc.alarmSystem.run raisedAgain).table =
      {"gateway_001.port_001.1.temperature.threshold_high"} := by
    decide +kernel
  refine ⟨only, ?_⟩
  intro same
  have shown := Finset.mem_singleton_self "gateway_001.port_001.1.temperature.threshold_high"
  rw [← only, ← same, mem_activeAlarms_view id 0 (Pc.run_identified raisedAgain)] at shown
  rcases shown with ⟨row, oldest, -, active⟩
  have closed : forall row, row ∈ (Pc.alarmSystem.run raisedAgain).table.rows ->
      Oldest (Pc.alarmSystem.run raisedAgain).table row -> row.status ≠ "active" := by
    decide +kernel
  exact closed row oldest.1 oldest active

end Ui
end Imx6Gateway
