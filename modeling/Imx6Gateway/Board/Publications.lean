import Imx6Gateway.Board.OfflineCache
import Imx6Gateway.Board.MqttTopic
import Imx6Gateway.Library.SlotTable

namespace Imx6Gateway
namespace Board

open Library

/-!
# What the producers of the board tell the offline cache

Each producer fills in an `offline_publish_meta_t` of its own before it calls
`offline_publish_or_cache`.  The type, the priority and the flags decide what
becomes of the message while the link is down.
-/

/-- `fill_base_meta`. -/
def fillBaseMeta (messageType : String) (priority timestampMs nowMs : Int) : PublishMeta where
  messageType := messageType
  gatewayId := defaultGatewayId
  portId := defaultPortId
  deviceId := -1
  priority := priority
  timestampMs := if 0 < timestampMs then timestampMs else nowMs

/-- The acknowledgements of `data_ack.c`; those of the gateway name no port. -/
def ackMeta (portId : String) (timestampMs : Int) : PublishMeta where
  messageType := "ack"
  gatewayId := defaultGatewayId
  portId := portId
  priority := 3
  timestampMs := timestampMs

/-- `publishThresholdAlarm`. -/
def alarmMeta (slot deviceId : Int) (pointKey : String) (nowMs : Int) : PublishMeta where
  messageType := "alarm_event"
  gatewayId := defaultGatewayId
  portId := portIdFromSlot slot
  deviceId := deviceId
  pointKey := pointKey
  priority := 3
  hasAlarm := true
  timestampMs := nowMs

/-- `publishThresholdConfig`. -/
def thresholdConfigMeta (slot deviceId nowMs : Int) : PublishMeta where
  messageType := "threshold_config"
  gatewayId := defaultGatewayId
  portId := portIdFromSlot slot
  deviceId := deviceId
  priority := 0
  timestampMs := nowMs

/-- `sendPortStatus`. -/
def portStatusMeta (slot : Int) (connected : Bool) (nowMs : Int) : PublishMeta where
  messageType := "port_status"
  gatewayId := defaultGatewayId
  portId := portIdFromSlot slot
  priority := if connected then 1 else 2
  timestampMs := nowMs

def gatewayRegisterMeta (nowMs : Int) : PublishMeta :=
  fillBaseMeta "gateway_register" 0 nowMs nowMs

def portRegisterMeta (slot nowMs : Int) : PublishMeta :=
  { fillBaseMeta "port_register" 0 nowMs nowMs with portId := portIdFromSlot slot }

def deviceRegisterMeta (slot slaveId nowMs : Int) : PublishMeta :=
  { fillBaseMeta "device_register" 0 nowMs nowMs with
    portId := portIdFromSlot slot
    deviceId := slaveId }

/-- `data_config_sync_publish_latest_snapshot`. -/
def configSnapshotMeta (timestampMs : Int) : PublishMeta where
  messageType := "config_snapshot"
  gatewayId := defaultGatewayId
  portId := defaultPortId
  priority := 0
  timestampMs := timestampMs

/-! ## Device states -/

/-- `device_status_cache_t`; an unused entry is an empty slot. -/
structure DeviceStatus where
  slot : Int
  deviceId : Int
  valid : Bool
deriving DecidableEq

def statusCacheSize : Nat := 64

abbrev StatusCache : Type := SlotTable DeviceStatus statusCacheSize

/-- The entry of a device. -/
def DeviceStatus.isFor (slot deviceId : Int) (entry : DeviceStatus) : Bool :=
  entry.slot = slot && entry.deviceId = deviceId

/-- `check_device_status_changed`: a device is new once, and a device that
finds the table full is never noticed. -/
def checkDeviceStatusChanged (cache : StatusCache) (slot deviceId : Int) (valid : Bool) :
    Bool × StatusCache :=
  match cache.first (DeviceStatus.isFor slot deviceId) with
  | some entry =>
      (entry.valid != valid,
        (cache.modifyFirst (DeviceStatus.isFor slot deviceId)
          fun entry => { entry with valid := valid }).getD cache)
  | none => (false, (cache.insertFree ⟨slot, deviceId, valid⟩).getD cache)

/-- The metadata of `data_publish_device_status_for_slot`. -/
def deviceStatusMeta (slot deviceId : Int) (pointKey : String) (valid statusChanged : Bool)
    (timestampMs nowMs : Int) : PublishMeta :=
  { fillBaseMeta "telemetry_pack" (if !valid || statusChanged then 2 else 1) timestampMs nowMs with
    portId := portIdFromSlot slot
    deviceId := deviceId
    pointKey := pointKey
    hasInvalidData := !valid
    statusChanged := statusChanged }

/-- The table of device states beside the validity that was last published
for each device.  The table agrees with it where it has an entry. -/
structure StatusLog where
  statuses : StatusCache
  lastValid : Int -> Int -> Option Bool
  current : forall slot deviceId entry,
    statuses.first (DeviceStatus.isFor slot deviceId) = some entry ->
      lastValid slot deviceId = some entry.valid

namespace StatusLog

def start : StatusLog where
  statuses := .empty DeviceStatus statusCacheSize
  lastValid := fun _ _ => none
  current := by
    intro slot deviceId entry found
    exact absurd (SlotTable.mem_of_first found).1 (SlotTable.not_mem_empty entry)

theorem isFor_of_ne {slot deviceId slot' deviceId' : Int}
    (apart : ¬ (slot' = slot ∧ deviceId' = deviceId)) {entry : DeviceStatus}
    (isFor : entry.isFor slot deviceId = true) : entry.isFor slot' deviceId' = false := by
  unfold DeviceStatus.isFor at isFor ⊢
  rw [Bool.and_eq_true, decide_eq_true_iff, decide_eq_true_iff] at isFor
  rw [isFor.1, isFor.2, Bool.and_eq_false_iff, decide_eq_false_iff_not, decide_eq_false_iff_not]
  by_contra same
  rw [not_or, not_not, not_not] at same
  exact apart ⟨same.1.symm, same.2.symm⟩

/-- Every publication of a device state passes the table. -/
def note (log : StatusLog) (slot deviceId : Int) (valid : Bool) : StatusLog where
  statuses := (checkDeviceStatusChanged log.statuses slot deviceId valid).2
  lastValid := fun slot' deviceId' =>
    if slot' = slot ∧ deviceId' = deviceId then some valid else log.lastValid slot' deviceId'
  current := by
    intro slot' deviceId' entry found
    unfold checkDeviceStatusChanged at found
    cases known : log.statuses.first (DeviceStatus.isFor slot deviceId) with
    | some old =>
        rw [known] at found
        have changes : ∃ result, log.statuses.modifyFirst (DeviceStatus.isFor slot deviceId)
            (fun entry => { entry with valid := valid }) = some result := by
          apply Option.ne_none_iff_exists'.mp
          intro none
          rw [SlotTable.modifyFirst_eq_none_iff_first.mp none] at known
          cases known
        rcases changes with ⟨result, modified⟩
        simp only [modified, Option.getD_some] at found
        by_cases same : slot' = slot ∧ deviceId' = deviceId
        · rcases same with ⟨rfl, rfl⟩
          rw [SlotTable.first_modifyFirst_self modified (fun _ isFor => isFor), known] at found
          rw [if_pos ⟨rfl, rfl⟩, ← Option.some.inj found]
        · rw [SlotTable.first_modifyFirst_of_ne modified
            (fun entry isFor => ⟨isFor_of_ne same isFor, isFor_of_ne same isFor⟩)] at found
          rw [if_neg same]
          exact log.current slot' deviceId' entry found
    | none =>
        rw [known] at found
        cases inserted : log.statuses.insertFree ⟨slot, deviceId, valid⟩ with
        | some result =>
            simp only [inserted, Option.getD_some] at found
            by_cases same : slot' = slot ∧ deviceId' = deviceId
            · rcases same with ⟨rfl, rfl⟩
              rw [if_pos ⟨rfl, rfl⟩, SlotTable.first_insertFree_self inserted known found]
            · have isFor : DeviceStatus.isFor slot deviceId ⟨slot, deviceId, valid⟩ = true := by
                rw [DeviceStatus.isFor, decide_eq_true rfl, decide_eq_true rfl, Bool.and_true]
              rw [SlotTable.first_insertFree_of_ne inserted (isFor_of_ne same isFor)] at found
              rw [if_neg same]
              exact log.current slot' deviceId' entry found
        | none =>
            simp only [inserted, Option.getD_none] at found
            by_cases same : slot' = slot ∧ deviceId' = deviceId
            · rcases same with ⟨rfl, rfl⟩
              rw [known] at found
              cases found
            · rw [if_neg same]
              exact log.current slot' deviceId' entry found

end StatusLog

end Board
end Imx6Gateway
