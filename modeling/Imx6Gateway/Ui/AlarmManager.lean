import Imx6Gateway.Library.JsonDocument
import Imx6Gateway.Ui.AlarmView

namespace Imx6Gateway
namespace Ui

open Library

/-!
# Single alarms

Between two snapshots `AlarmManager` takes alarms one by one, changes their
states and drops them.  Each operation returns, with the alarms, whether it has
emitted `alarmsChanged`, by which the others learn of it.
-/

def onAlarmMessage (nowMs : Int) (object : Json) (alarms : Alarms) : Alarms × Bool :=
  (alarms.put (alarmRecordFromJson nowMs object).alarmId (alarmRecordFromJson nowMs object), true)

/-- Changes the alarm if there is one. -/
def updateAlarm (change : AlarmRecord -> AlarmRecord) (alarmId : String) (alarms : Alarms) :
    Alarms × Bool :=
  match alarms.get alarmId with
  | none => (alarms, false)
  | some alarm => (alarms.put alarmId (change alarm), true)

def acknowledgeAlarm (nowSecs : Int) (alarmId : String) (alarms : Alarms) : Alarms × Bool :=
  updateAlarm (fun alarm => { alarm with state := "acknowledged", ackTime := nowSecs })
    alarmId alarms

def recoverAlarm (nowSecs : Int) (alarmId : String) (alarms : Alarms) : Alarms × Bool :=
  updateAlarm (fun alarm => { alarm with state := "recovered", recoverTime := nowSecs })
    alarmId alarms

/-- Drops alarms and says so if there were any. -/
def dropAlarms (drop : AlarmRecord -> Bool) (alarms : Alarms) : Alarms × Bool :=
  (alarms.keepIf fun _ alarm => !drop alarm, alarms.any fun _ alarm => drop alarm)

/-- An unknown port stands for all of them. -/
def alarmOfDevice (gatewayId portId : String) (deviceId : Int) (alarm : AlarmRecord) : Bool :=
  alarm.gatewayId = gatewayId && alarm.slaveAddr = deviceId &&
    (alarmSlotFromPortId portId < 0 || alarm.masterSlot = alarmSlotFromPortId portId)

def removeDeviceAlarms (gatewayId portId : String) (deviceId : Int) (alarms : Alarms) :
    Alarms × Bool :=
  if gatewayId = "" ∨ deviceId ≤ 0 then (alarms, false)
  else dropAlarms (alarmOfDevice gatewayId portId deviceId) alarms

def clearRecoveredAlarms (alarms : Alarms) : Alarms × Bool :=
  dropAlarms (fun alarm => alarm.state = "recovered") alarms

def clearAllAlarms (alarms : Alarms) : Alarms × Bool :=
  if alarms.entries.isEmpty then (alarms, false) else (∅, true)

/-- What can happen to the alarms. -/
inductive AlarmOperation where
  | message (nowMs : Int) (object : Json)
  | snapshot (nowMs : Int) (alarms : List Json)
  | acknowledged (nowSecs : Int) (alarmId : String)
  | recovered (nowSecs : Int) (alarmId : String)
  | deviceRemoved (gatewayId portId : String) (deviceId : Int)
  | recoveredCleared
  | allCleared

def AlarmOperation.apply : AlarmOperation -> Alarms -> Alarms × Bool
  | .message nowMs object, alarms => onAlarmMessage nowMs object alarms
  | .snapshot nowMs objects, _ => (onAlarmSnapshot nowMs objects, true)
  | .acknowledged nowSecs alarmId, alarms => acknowledgeAlarm nowSecs alarmId alarms
  | .recovered nowSecs alarmId, alarms => recoverAlarm nowSecs alarmId alarms
  | .deviceRemoved gatewayId portId deviceId, alarms =>
      removeDeviceAlarms gatewayId portId deviceId alarms
  | .recoveredCleared, alarms => clearRecoveredAlarms alarms
  | .allCleared, alarms => clearAllAlarms alarms

/-- What the main window does to the alarms with a message, if anything. -/
def alarmOperation (nowMs : Int) (frame : String) : Option AlarmOperation :=
  match JsonDocument.parse frame with
  | none => none
  | some root =>
      if !root.isObj then none
      else if textOr (root.lookup "type") "" = "alarm_event" then some (.message nowMs root)
      else if textOr (root.lookup "type") "" = "alarm_events_snapshot" then
        some (.snapshot nowMs ((Pc.memberArray root "alarms").getD []))
      else none

/-! ## No change is kept from the others -/

theorem dropAlarms_silent {drop : AlarmRecord -> Bool} {alarms : Alarms}
    (silent : (dropAlarms drop alarms).2 = false) : (dropAlarms drop alarms).1 = alarms := by
  apply AList.ext
  apply List.filter_eq_self.mpr
  intro entry inside
  have kept := List.any_eq_false.mp silent entry inside
  simpa using kept

theorem updateAlarm_silent {change : AlarmRecord -> AlarmRecord} {alarmId : String}
    {alarms : Alarms} (silent : (updateAlarm change alarmId alarms).2 = false) :
    (updateAlarm change alarmId alarms).1 = alarms := by
  unfold updateAlarm at silent ⊢
  cases held : alarms.get alarmId with
  | none => rfl
  | some alarm =>
      rw [held] at silent
      cases silent

theorem removeDeviceAlarms_silent {gatewayId portId : String} {deviceId : Int} {alarms : Alarms}
    (silent : (removeDeviceAlarms gatewayId portId deviceId alarms).2 = false) :
    (removeDeviceAlarms gatewayId portId deviceId alarms).1 = alarms := by
  unfold removeDeviceAlarms at silent ⊢
  by_cases refused : gatewayId = "" ∨ deviceId ≤ 0
  · rw [if_pos refused]
  · rw [if_neg refused] at silent ⊢
    exact dropAlarms_silent silent

theorem clearAllAlarms_silent {alarms : Alarms} (silent : (clearAllAlarms alarms).2 = false) :
    (clearAllAlarms alarms).1 = alarms := by
  unfold clearAllAlarms at silent ⊢
  by_cases empty : alarms.entries.isEmpty = true
  · rw [if_pos empty]
  · rw [if_neg empty] at silent
    cases silent

/-- An operation without a signal has left the alarms as they were. -/
theorem AlarmOperation.silent {operation : AlarmOperation} {alarms : Alarms}
    (silent : (operation.apply alarms).2 = false) : (operation.apply alarms).1 = alarms := by
  cases operation with
  | message nowMs object => cases silent
  | snapshot nowMs objects => cases silent
  | acknowledged nowSecs alarmId => exact updateAlarm_silent silent
  | recovered nowSecs alarmId => exact updateAlarm_silent silent
  | deviceRemoved gatewayId portId deviceId => exact removeDeviceAlarms_silent silent
  | recoveredCleared => exact dropAlarms_silent silent
  | allCleared => exact clearAllAlarms_silent silent

/-! ## Each alarm is under its identifier -/

def KeyedAlarms (alarms : Alarms) : Prop :=
  forall alarmId alarm, alarms.get alarmId = some alarm -> alarm.alarmId = alarmId

theorem keyedAlarms_empty : KeyedAlarms ∅ := by
  intro alarmId alarm found
  rw [Table.get_empty] at found
  cases found

namespace KeyedAlarms

variable {alarms : Alarms} (keyed : KeyedAlarms alarms)
include keyed

theorem put {alarm : AlarmRecord} {alarmId : String} (here : alarm.alarmId = alarmId) :
    KeyedAlarms (alarms.put alarmId alarm) := by
  intro other found inside
  rw [Table.get_put] at inside
  split at inside
  · rename_i same
    rw [← Option.some.inj inside, same, here]
  · exact keyed other found inside

theorem keepIf (keep : String -> AlarmRecord -> Bool) : KeyedAlarms (alarms.keepIf keep) := by
  intro alarmId alarm inside
  rw [Table.get_keepIf, Option.filter_eq_some_iff] at inside
  exact keyed alarmId alarm inside.1

theorem updateAlarm {change : AlarmRecord -> AlarmRecord}
    (same : forall alarm, (change alarm).alarmId = alarm.alarmId) (alarmId : String) :
    KeyedAlarms (Ui.updateAlarm change alarmId alarms).1 := by
  unfold Ui.updateAlarm
  cases held : alarms.get alarmId with
  | none => exact keyed
  | some alarm => exact keyed.put ((same alarm).trans (keyed alarmId alarm held))

theorem putAll (records : List AlarmRecord) :
    KeyedAlarms (Table.putAll AlarmRecord.alarmId id records alarms) := by
  unfold Table.putAll
  induction records generalizing alarms with
  | nil => exact keyed
  | cons record records ih => exact ih (keyed.put rfl)

theorem removeDeviceAlarms {gatewayId portId : String} {deviceId : Int} :
    KeyedAlarms (Ui.removeDeviceAlarms gatewayId portId deviceId alarms).1 := by
  unfold Ui.removeDeviceAlarms
  split
  · exact keyed
  · exact keyed.keepIf _

theorem clearAllAlarms : KeyedAlarms (Ui.clearAllAlarms alarms).1 := by
  unfold Ui.clearAllAlarms
  split
  · exact keyed
  · exact keyedAlarms_empty

theorem apply (operation : AlarmOperation) : KeyedAlarms (operation.apply alarms).1 := by
  cases operation with
  | message nowMs object => exact keyed.put rfl
  | snapshot nowMs objects => exact keyedAlarms_empty.putAll _
  | acknowledged nowSecs alarmId =>
      apply keyed.updateAlarm
      intro alarm
      rfl
  | recovered nowSecs alarmId =>
      apply keyed.updateAlarm
      intro alarm
      rfl
  | deviceRemoved gatewayId portId deviceId => exact keyed.removeDeviceAlarms
  | recoveredCleared => exact keyed.keepIf _
  | allCleared => exact keyed.clearAllAlarms

/-- The list of the alarms names each of them once. -/
theorem nodup_values : (alarms.values.map AlarmRecord.alarmId).Nodup := by
  have keys : alarms.values.map AlarmRecord.alarmId = alarms.keys := by
    rw [Table.values, List.map_map]
    apply List.map_congr_left
    intro entry inside
    exact keyed entry.1 entry.2 (Table.get_eq_some_iff.mpr inside)
  rw [keys]
  exact alarms.nodupKeys

theorem mem_values {alarm : AlarmRecord} :
    alarm ∈ alarms.values ↔ alarms.get alarm.alarmId = some alarm := by
  rw [Table.mem_values]
  constructor
  · rintro ⟨alarmId, found⟩
    rw [keyed alarmId alarm found]
    exact found
  · intro found
    exact ⟨alarm.alarmId, found⟩

end KeyedAlarms

end Ui
end Imx6Gateway
