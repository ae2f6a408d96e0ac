import Imx6Gateway.Board.ThresholdMessage
import Imx6Gateway.Link.Exchange
import Imx6Gateway.Pc.PointConfigPack
import Imx6Gateway.Pc.SnapshotRows

namespace Imx6Gateway
namespace Link

open Library Board Pc

/-!
# Thresholds by message and by snapshot

Pc_data learns the thresholds of a sensor from the board's threshold message
and from its configuration snapshot.  The message has the flag of a point and
that of the sensor together; the snapshot has both, and the reader of the
snapshot looks at the flag of the point alone.  The theorem says when the two
ways agree.

json-c prints a limit that is no number as a word that Pc_data refuses.
-/

instance snapshotFiniteDecidable (snapshot : ExportedSnapshot) : Decidable snapshot.Finite :=
  inferInstanceAs (Decidable (forall port, port ∈ snapshot.ports -> forall device,
    device ∈ port.devices -> forall config, config ∈ device.thresholds -> config.Finite))

/-- The text of a message, if all its numbers are. -/
def finiteText (link : Exchange) (finite : Bool) (root : Json) : String :=
  if finite then link.board.print root else link.boardNonFinite root

/-- What an alarm setting is about: the point, the flag and the two limits. -/
def alarmSetting (config : PointConfig) : String × Bool × Option Rat × Option Rat :=
  (config.pointId, config.enableAlarm, config.alarmLow, config.alarmHigh)

/-- Pc_data's entries for one device of the board. -/
def ofDevice (slot : Slot) (slaveId : Int32) (config : PointConfig) : Bool :=
  config.portId = portIdForSlot slot && config.deviceId = slaveId.toInt

section Agreement

variable (link : Exchange) (pcNowMs : Int)

/-- The settings that Pc_data reads from the threshold message of a sensor. -/
def messageSettings (nowMs : Int64) (slot : Slot) (channel : PortChannel) (device : ManagedDevice) :
    Option (List (String × Bool × Option Rat × Option Rat)) :=
  (thresholdConfigMessage nowMs slot channel device).bind fun message =>
    ((link.pc.parse (finiteText link
        (device.thresholdConfig.all fun config => decide config.Finite) message)).bind
      (parsePointConfigPack pcNowMs)).map (List.map alarmSetting)

/-- The settings of one device that Pc_data reads from a snapshot. -/
def snapshotSettings (snapshot : ExportedSnapshot) (selected : List SyncSelectedDevice)
    (slot : Slot) (device : ManagedDevice) :
    Option (List (String × Bool × Option Rat × Option Rat)) :=
  ((link.pc.parse (finiteText link (decide snapshot.Finite) snapshot.toJson)).bind fun root =>
    parseConfigSnapshot pcNowMs root defaultGatewayId selected).map fun parsed =>
      (parsed.pointConfigs.filter (ofDevice slot device.slaveId)).map alarmSetting

end Agreement

/-! ## The settings of one point -/

/-- The limit as a number of Pc_data. -/
def limitValue : Option Limit -> Option Rat
  | some (some value) => some value.1
  | _ => none

def pointSetting (slot : Slot) (slaveId : Int32) (key : String) (enableAlarm : Bool)
    (point : RequestedPoint) : String × Bool × Option Rat × Option Rat :=
  (fillDefaultSite.factoryId ++ "." ++ fillDefaultSite.areaId ++ "." ++ defaultGatewayId ++ "." ++
      portIdForSlot slot ++ "." ++ toString slaveId.toInt ++ "." ++ key,
    enableAlarm, limitValue point.alarmLow, limitValue point.alarmHigh)

theorem portIdForSlot_ne_empty (slot : Slot) : portIdForSlot slot ≠ "" := by
  match slot with
  | 0 => decide
  | 1 => decide

section Message

variable (pcNowMs : Int) (nowMs : Int64) (slot : Slot) (channel : PortChannel)
  {device : ManagedDevice} {config : RequestedThresholds}

theorem getOptionalDouble_limitJson {object : Json} {key : String} {limit : Option Limit}
    (found : object.lookup key = some (limitJson limit)) :
    Pc.getOptionalDouble object key = limitValue limit := by
  rw [Pc.getOptionalDouble, found]
  rcases limit with _ | _ | value <;> rfl

theorem getOptionalDoubleAny_limitJson {object : Json} {first second : String}
    {limit : Option Limit} (one : object.lookup first = some (limitJson limit))
    (other : object.lookup second = some (limitJson limit)) :
    getOptionalDoubleAny object [first, second] = limitValue limit := by
  rw [getOptionalDoubleAny, List.findSome?_cons, List.findSome?_cons, List.findSome?_nil,
    getOptionalDouble_limitJson one, getOptionalDouble_limitJson other]
  cases limitValue limit <;> rfl

theorem getOptionalDoubleAny_null (keys : List String) : getOptionalDoubleAny .null keys = none := by
  rw [getOptionalDoubleAny, List.findSome?_eq_none_iff]
  exact fun _ _ => rfl

/-- What the entries of the message share. -/
def messageSource (slot : Slot) (device : ManagedDevice) (config : RequestedThresholds)
    (timestampMs : Int) : ThresholdSource where
  site := siteToJson (thresholdSite slot)
  deviceId := device.slaveId.toInt
  deviceName := ""
  deviceType := deviceTypeName device.deviceType
  thresholdEnabled := config.thresholdEnabled
  thresholdConfig := .null
  thresholds := .null
  timestampMs := timestampMs

variable {slot} {timestampMs : Int}

theorem legacyLimit_messageSource (key : String) :
    legacyLimit (messageSource slot device config timestampMs) key = none := by
  rw [legacyLimit, messageSource, getOptionalDoubleAny_null]
  rfl

theorem alarmSetting_listed (key name unit : String) (point : RequestedPoint) :
    alarmSetting (listedPointConfig (messageSource slot device config timestampMs)
        (thresholdPointEntry config key name unit point)) =
      pointSetting slot device.slaveId key (config.thresholdEnabled && point.enableAlarm) point := by
  have low : getOptionalDoubleAny (thresholdPointEntry config key name unit point)
      ["alarmLow", "alarm_low"] = limitValue point.alarmLow :=
    getOptionalDoubleAny_limitJson rfl rfl
  have high : getOptionalDoubleAny (thresholdPointEntry config key name unit point)
      ["alarmHigh", "alarm_high"] = limitValue point.alarmHigh :=
    getOptionalDoubleAny_limitJson rfl rfl
  have named : Pc.getString (thresholdPointEntry config key name unit point) "pointKey" "" = key := rfl
  unfold listedPointConfig
  dsimp only
  rw [low, high, named, legacyLimit_messageSource, Option.or_none]
  rfl

theorem identified_listed {key : String} (name unit : String) (point : RequestedPoint)
    (nonempty : key ≠ "") (positive : 0 < device.slaveId.toInt) :
    (listedPointConfig (messageSource slot device config timestampMs)
      (thresholdPointEntry config key name unit point)).identified = true := by
  have factory : fillDefaultSite.factoryId ≠ "" := by decide
  have area : fillDefaultSite.areaId ≠ "" := by decide
  have gateway : defaultGatewayId ≠ "" := by decide
  exact decide_eq_true ⟨nonempty, factory, area, gateway, portIdForSlot_ne_empty slot, positive⟩

variable (slot)

theorem toInt_slaveId (device : ManagedDevice) : Pc.toInt device.slaveId.toInt = device.slaveId.toInt :=
  toInt_of_range device.slaveId.le_toInt device.slaveId.toInt_lt

theorem deviceThresholds_entry :
    deviceThresholds (siteToJson (thresholdSite slot)) timestampMs
        (thresholdDeviceEntry slot channel device config) =
      ((thresholdPointEntries config).map
        (listedPointConfig (messageSource slot device config timestampMs))).filter
          PointConfig.identified := by
  rw [messageSource, ← toInt_slaveId device]
  rcases device with ⟨slaveId, interval, type, thresholds, first, second⟩
  cases type <;> rfl

/-- What Pc_data reads from the message of a sensor. -/
theorem messageSettings_eq (link : Exchange) (held : device.thresholdConfig = some config)
    (finite : config.Finite) (positive : 0 < device.slaveId.toInt) :
    messageSettings link pcNowMs nowMs slot channel device =
      some [pointSetting slot device.slaveId "temperature"
          (config.thresholdEnabled && config.temperature.enableAlarm) config.temperature,
        pointSetting slot device.slaveId "humidity"
          (config.thresholdEnabled && config.humidity.enableAlarm) config.humidity] := by
  cases sent : thresholdConfigMessage nowMs slot channel device with
  | none =>
      rw [thresholdConfigMessage, held] at sent
      cases sent
  | some message =>
      have text : finiteText link (device.thresholdConfig.all fun config => decide config.Finite)
          message = link.board.print message := by
        rw [held]
        exact if_pos (decide_eq_true finite)
      have read : parsePointConfigPack pcNowMs message =
          some (deviceThresholds (siteToJson (thresholdSite slot))
            (getJsonInt64Any message ["timestampMs", "timestamp", "time"] pcNowMs)
            (thresholdDeviceEntry slot channel device config) ++ []) := by
        rw [thresholdConfigMessage, held] at sent
        cases sent
        rfl
      rw [messageSettings, sent, Option.bind_some, text,
        link.pc_reads message (wire_thresholdConfigMessage sent), Option.bind_some, read, deviceThresholds_entry,
        List.append_nil, Option.map_some, thresholdPointEntries, List.map_cons, List.map_cons,
        List.map_nil, List.filter_cons_of_pos (identified_listed _ _ _ (by decide) positive),
        List.filter_cons_of_pos (identified_listed _ _ _ (by decide) positive), List.filter_nil,
        List.map_cons, List.map_cons, List.map_nil, alarmSetting_listed, alarmSetting_listed]

end Message

/-! ## The snapshot -/

/-- Of items that differ in a key, one contributes. -/
theorem flatMap_ite_key {Item Key Value : Type} [DecidableEq Key] {items : List Item}
    (key : Item -> Key) (distinct : (items.map key).Nodup) (values : Item -> List Value)
    {item : Item} (inside : item ∈ items) :
    (items.flatMap fun other => if key other = key item then values other else []) =
      values item := by
  induction items with
  | nil => cases inside
  | cons first items ih =>
      rw [List.map_cons, List.nodup_cons] at distinct
      rw [List.flatMap_cons]
      rcases List.mem_cons.mp inside with rfl | later
      · rw [if_pos rfl]
        have others : (items.flatMap fun other =>
            if key other = key item then values other else []) = [] := by
          rw [List.flatMap_eq_nil_iff]
          intro other member
          refine if_neg fun same => distinct.1 ?_
          rw [← same]
          exact List.mem_map_of_mem member
        rw [others, List.append_nil]
      · have different : key first ≠ key item := by
          intro same
          rw [same] at distinct
          exact distinct.1 (List.mem_map_of_mem later)
        rw [if_neg different, List.nil_append, ih distinct.2 later]

section Snapshot

variable (pcNowMs : Int) (snapshot : ExportedSnapshot)

/-- The entry that Pc_data makes of a device in the message. -/
def snapshotEntry (port : ExportedPort) (device : ExportedDevice) : SnapshotEntry where
  device := snapshotDevice pcNowMs snapshot.toJson
    (snapshotPort pcNowMs snapshot.gatewayId (port.toJson snapshot.gatewayId))
    (device.toJson snapshot.gatewayId port.slot)
  value := device.toJson snapshot.gatewayId port.slot

def entryConfigs (entry : SnapshotEntry) : List PointConfig :=
  snapshotPointConfigs (getJsonInt64 snapshot.toJson "timestampMs" pcNowMs) entry.device entry.value

def chosen (selected : List SyncSelectedDevice) (port : ExportedPort) (device : ExportedDevice) :
    Bool :=
  selected.isEmpty || selected.contains ⟨portIdForSlot port.slot, device.deviceId.toInt⟩

theorem snapshotDeviceId_toJson (gatewayId : String) (slot : Slot) (device : ExportedDevice) :
    snapshotDeviceId (device.toJson gatewayId slot) = device.deviceId.toInt :=
  (rfl : _ = Pc.toInt device.deviceId.toInt).trans
    (toInt_of_range device.deviceId.le_toInt device.deviceId.toInt_lt)

theorem portEntries_toJson (selected : List SyncSelectedDevice) (port : ExportedPort) :
    portEntries pcNowMs selected snapshot.gatewayId snapshot.toJson
        (port.toJson snapshot.gatewayId) =
      (port.devices.filter (chosen selected port)).map (snapshotEntry pcNowMs snapshot port) := by
  have read : portEntries pcNowMs selected snapshot.gatewayId snapshot.toJson
      (port.toJson snapshot.gatewayId) =
      ((port.devices.map (ExportedDevice.toJson snapshot.gatewayId port.slot)).filter fun value =>
        value.isObj && (selected.isEmpty ||
          selected.contains ⟨portIdForSlot port.slot, snapshotDeviceId value⟩)).map fun value =>
        ⟨snapshotDevice pcNowMs snapshot.toJson
          (snapshotPort pcNowMs snapshot.gatewayId (port.toJson snapshot.gatewayId)) value,
          value⟩ := rfl
  have same : ((fun value : Json => value.isObj && (selected.isEmpty ||
        selected.contains ⟨portIdForSlot port.slot, snapshotDeviceId value⟩)) ∘
      ExportedDevice.toJson snapshot.gatewayId port.slot) = chosen selected port := by
    funext device
    rw [Function.comp_apply, snapshotDeviceId_toJson]
    rfl
  rw [read, List.filter_map, List.map_map, same]
  rfl

/-- The point configurations of the whole snapshot. -/
theorem parseConfigSnapshot_toJson (selected : List SyncSelectedDevice)
    (own : snapshot.gatewayId = defaultGatewayId) :
    (parseConfigSnapshot pcNowMs snapshot.toJson defaultGatewayId selected).map
        Pc.ConfigSnapshot.pointConfigs =
      some (snapshot.ports.flatMap fun port =>
        (port.devices.filter (chosen selected port)).flatMap fun device =>
          entryConfigs pcNowMs snapshot (snapshotEntry pcNowMs snapshot port device)) := by
  have ports : memberArray snapshot.toJson "ports" =
      some (snapshot.ports.map (ExportedPort.toJson snapshot.gatewayId)) := rfl
  have gateway : snapshotGatewayId snapshot.toJson = defaultGatewayId := by
    have named : snapshotGatewayId snapshot.toJson = orElse snapshot.gatewayId
        (getJsonString (siteOf snapshot.toJson) "gatewayId") := rfl
    rw [named, own]
    rfl
  have objects : (snapshot.ports.map (ExportedPort.toJson snapshot.gatewayId)).filter Json.isObj =
      snapshot.ports.map (ExportedPort.toJson snapshot.gatewayId) := by
    rw [List.filter_eq_self]
    intro item inside
    rcases List.mem_map.mp inside with ⟨port, -, rfl⟩
    rfl
  have factory : getJsonString (siteOf snapshot.toJson) "factoryId" ≠ "" := by
    have named : getJsonString (siteOf snapshot.toJson) "factoryId" = fillDefaultSite.factoryId := rfl
    rw [named]
    decide
  have area : getJsonString (siteOf snapshot.toJson) "areaId" ≠ "" := by
    have named : getJsonString (siteOf snapshot.toJson) "areaId" = fillDefaultSite.areaId := rfl
    rw [named]
    decide
  have type : getJsonString snapshot.toJson "type" = "config_snapshot" := rfl
  unfold parseConfigSnapshot
  dsimp only
  rw [ports, gateway]
  dsimp only
  rw [if_neg, Option.map_some, objects, ← own, List.flatMap_map, List.flatMap_assoc]
  · refine congrArg some (List.flatMap_congr fun port _ => ?_)
    have site : siteOf snapshot.toJson = snapshot.toJson := rfl
    rw [site, portEntries_toJson, List.flatMap_map]
    rfl
  · rintro (⟨otherType, -⟩ | otherGateway | noFactory | noArea)
    · exact otherType type
    · exact otherGateway rfl
    · exact factory noFactory
    · exact area noArea

/-- A configuration of an entry names its port and its device. -/
theorem entryConfigs_named {port : ExportedPort} {device : ExportedDevice} {config : PointConfig}
    (inside : config ∈ entryConfigs pcNowMs snapshot (snapshotEntry pcNowMs snapshot port device)) :
    config.portId = portIdForSlot port.slot ∧ config.deviceId = device.deviceId.toInt := by
  rcases (mem_snapshotPointConfigs inside).2 with ⟨key, own, same⟩
  have entry := deviceKey?_eq_some_iff.mp own
  have made := deviceKey?_eq_some_iff.mp same
  have address := snapshotDeviceId_toJson snapshot.gatewayId port.slot device
  exact ⟨made.2.1.symm.trans entry.2.1, (made.2.2.symm.trans entry.2.2).trans address⟩

theorem portIdForSlot_injective : Function.Injective portIdForSlot := by
  have apart : forall first second, portIdForSlot first = portIdForSlot second -> first = second := by
    decide
  exact fun first second same => apart first second same

theorem filter_entryConfigs (slot : Slot) (slaveId : Int32) (port : ExportedPort)
    (device : ExportedDevice) :
    (entryConfigs pcNowMs snapshot (snapshotEntry pcNowMs snapshot port device)).filter
        (ofDevice slot slaveId) =
      if port.slot = slot ∧ device.deviceId = slaveId then
        entryConfigs pcNowMs snapshot (snapshotEntry pcNowMs snapshot port device)
      else [] := by
  split
  · rename_i same
    rw [List.filter_eq_self]
    intro config inside
    have named := entryConfigs_named pcNowMs snapshot inside
    rw [ofDevice, named.1, named.2, same.1, same.2, decide_eq_true rfl, decide_eq_true rfl]
    rfl
  · rename_i different
    rw [List.filter_eq_nil_iff]
    intro config inside kept
    have named := entryConfigs_named pcNowMs snapshot inside
    rw [ofDevice, named.1, named.2, Bool.and_eq_true, decide_eq_true_eq, decide_eq_true_eq] at kept
    exact different ⟨portIdForSlot_injective kept.1, Int32.toInt_inj.mp kept.2⟩

/-- One entry of the snapshot is the one of the device. -/
theorem filter_pointConfigs {selected : List SyncSelectedDevice} {port : ExportedPort}
    {device : ExportedDevice} (slots : (snapshot.ports.map ExportedPort.slot).Nodup)
    (listed : port ∈ snapshot.ports) (distinct : (port.devices.map ExportedDevice.deviceId).Nodup)
    (inside : device ∈ port.devices) (asked : chosen selected port device = true) :
    (snapshot.ports.flatMap fun port =>
        (port.devices.filter (chosen selected port)).flatMap fun device =>
          entryConfigs pcNowMs snapshot (snapshotEntry pcNowMs snapshot port device)).filter
        (ofDevice port.slot device.deviceId) =
      entryConfigs pcNowMs snapshot (snapshotEntry pcNowMs snapshot port device) := by
  have each : forall other : ExportedPort,
      ((other.devices.filter (chosen selected other)).flatMap fun device =>
          entryConfigs pcNowMs snapshot (snapshotEntry pcNowMs snapshot other device)).filter
          (ofDevice port.slot device.deviceId) =
        if other.slot = port.slot then
          (other.devices.filter (chosen selected other)).flatMap fun item =>
            if item.deviceId = device.deviceId then
              entryConfigs pcNowMs snapshot (snapshotEntry pcNowMs snapshot other item)
            else []
        else [] := by
    intro other
    rw [List.filter_flatMap]
    split
    · rename_i same
      refine List.flatMap_congr fun item _ => ?_
      rw [filter_entryConfigs]
      exact if_congr (and_iff_right same) rfl rfl
    · rename_i different
      rw [List.flatMap_eq_nil_iff]
      intro item _
      rw [filter_entryConfigs]
      exact if_neg fun same => different same.1
  rw [List.filter_flatMap, List.flatMap_congr fun other _ => each other,
    flatMap_ite_key ExportedPort.slot slots _ listed]
  exact flatMap_ite_key ExportedDevice.deviceId (distinct.sublist (List.filter_sublist.map _)) _
    (List.mem_filter.mpr ⟨inside, asked⟩)

theorem getOptionalSnapshotDouble_limitJson {object : Json} {snakeKey camelKey : String}
    {limit : Option Limit} (found : object.lookup snakeKey = some (limitJson limit)) :
    getOptionalSnapshotDouble object snakeKey camelKey = limitValue limit := by
  rw [getOptionalSnapshotDouble, found]
  rcases limit with _ | _ | value <;> rfl

/-- An entry of the snapshot has the flag of its point alone. -/
theorem alarmSetting_snapshot {timestampMs : Int} {device : DeviceRecord} (point : RequestedPoint)
    (key unit : String) (factory : device.factoryId ≠ "") (area : device.areaId ≠ "")
    (gateway : device.gatewayId ≠ "") (port : device.portId ≠ "") (positive : 0 < device.deviceId) :
    (thresholdPointConfig timestampMs device (thresholdPointToJson point) key unit).map
        alarmSetting =
      some (buildSnapshotPointId device key, point.enableAlarm, limitValue point.alarmLow,
        limitValue point.alarmHigh) := by
  have low : getOptionalSnapshotDouble (thresholdPointToJson point) "alarm_low" "alarmLow" =
      limitValue point.alarmLow :=
    getOptionalSnapshotDouble_limitJson rfl
  have high : getOptionalSnapshotDouble (thresholdPointToJson point) "alarm_high" "alarmHigh" =
      limitValue point.alarmHigh :=
    getOptionalSnapshotDouble_limitJson rfl
  rw [thresholdPointConfig, low, high, if_neg, Option.map_some]
  · rfl
  · rintro (noObject | noFactory | noArea | noGateway | noPort | noDevice)
    · cases noObject
    · exact factory noFactory
    · exact area noArea
    · exact gateway noGateway
    · exact port noPort
    · exact absurd positive (not_lt.mpr noDevice)

/-- What Pc_data reads from the snapshot for a sensor. -/
theorem entrySettings_eq (own : snapshot.gatewayId = defaultGatewayId) (port : ExportedPort)
    (connected : Bool) {device : ManagedDevice} {config : RequestedThresholds}
    (sensor : device.deviceType = .sensorTh) (held : device.thresholdConfig = some config)
    (positive : 0 < device.slaveId.toInt) :
    (entryConfigs pcNowMs snapshot
        (snapshotEntry pcNowMs snapshot port (device.exported connected))).map alarmSetting =
      [pointSetting port.slot device.slaveId "temperature" config.temperature.enableAlarm
          config.temperature,
        pointSetting port.slot device.slaveId "humidity" config.humidity.enableAlarm
          config.humidity] := by
  have address : (snapshotEntry pcNowMs snapshot port
      (device.exported connected)).device.deviceId = device.slaveId.toInt :=
    snapshotDeviceId_toJson snapshot.gatewayId port.slot (device.exported connected)
  have gateway : (snapshotEntry pcNowMs snapshot port
      (device.exported connected)).device.gatewayId = defaultGatewayId := own
  have setting : forall (point : RequestedPoint) (key unit : String),
      (thresholdPointConfig (getJsonInt64 snapshot.toJson "timestampMs" pcNowMs)
          (snapshotEntry pcNowMs snapshot port (device.exported connected)).device
          (thresholdPointToJson point) key unit).map alarmSetting =
        some (pointSetting port.slot device.slaveId key point.enableAlarm point) := by
    intro point key unit
    rw [alarmSetting_snapshot, buildSnapshotPointId, address, gateway]
    · rfl
    · exact (by decide : fillDefaultSite.factoryId ≠ "")
    · exact (by decide : fillDefaultSite.areaId ≠ "")
    · rw [gateway]
      decide
    · exact portIdForSlot_ne_empty port.slot
    · rw [address]
      exact positive
  have listed : entryConfigs pcNowMs snapshot
      (snapshotEntry pcNowMs snapshot port (device.exported connected)) =
      (thresholdPointConfig (getJsonInt64 snapshot.toJson "timestampMs" pcNowMs)
          (snapshotEntry pcNowMs snapshot port (device.exported connected)).device
          (thresholdPointToJson config.temperature) "temperature" "c").toList ++
        (thresholdPointConfig (getJsonInt64 snapshot.toJson "timestampMs" pcNowMs)
          (snapshotEntry pcNowMs snapshot port (device.exported connected)).device
          (thresholdPointToJson config.humidity) "humidity" "%").toList := by
    rcases device with ⟨slaveId, interval, type, thresholds, first, second⟩
    cases sensor
    cases held
    rfl
  rw [listed, List.map_append, ← Option.toList_map, ← Option.toList_map, setting, setting]
  rfl

end Snapshot

/-! ## The two ways -/

theorem snapshotSettings_eq (link : Exchange) (pcNowMs : Int) {snapshot : ExportedSnapshot}
    {selected : List SyncSelectedDevice} {port : ExportedPort} {connected : Bool}
    {device : ManagedDevice} {config : RequestedThresholds} (finite : snapshot.Finite)
    (own : snapshot.gatewayId = defaultGatewayId)
    (slots : (snapshot.ports.map ExportedPort.slot).Nodup) (listed : port ∈ snapshot.ports)
    (distinct : (port.devices.map ExportedDevice.deviceId).Nodup)
    (inside : device.exported connected ∈ port.devices)
    (asked : chosen selected port (device.exported connected) = true)
    (sensor : device.deviceType = .sensorTh) (held : device.thresholdConfig = some config)
    (positive : 0 < device.slaveId.toInt) :
    snapshotSettings link pcNowMs snapshot selected port.slot device =
      some [pointSetting port.slot device.slaveId "temperature" config.temperature.enableAlarm
          config.temperature,
        pointSetting port.slot device.slaveId "humidity" config.humidity.enableAlarm
          config.humidity] := by
  have text : finiteText link (decide snapshot.Finite) snapshot.toJson =
      link.board.print snapshot.toJson :=
    if_pos (decide_eq_true finite)
  have parsed := parseConfigSnapshot_toJson pcNowMs snapshot selected own
  rw [snapshotSettings, text, link.pc_reads _ (wire_exportedSnapshot snapshot), Option.bind_some]
  cases read : parseConfigSnapshot pcNowMs snapshot.toJson defaultGatewayId selected with
  | none =>
      rw [read] at parsed
      cases parsed
  | some known =>
      rw [read, Option.map_some, Option.some.injEq] at parsed
      have filtered := filter_pointConfigs pcNowMs snapshot slots listed distinct inside asked
      have settings := entrySettings_eq pcNowMs snapshot own port connected sensor held positive
      rw [Option.map_some, parsed]
      exact congrArg some ((congrArg (List.map alarmSetting) filtered).trans settings)

/-- The flag of the sensor counts for both points. -/
theorem settings_eq_iff (slot : Slot) (slaveId : Int32) (config : RequestedThresholds) :
    [pointSetting slot slaveId "temperature"
        (config.thresholdEnabled && config.temperature.enableAlarm) config.temperature,
      pointSetting slot slaveId "humidity"
        (config.thresholdEnabled && config.humidity.enableAlarm) config.humidity] =
      [pointSetting slot slaveId "temperature" config.temperature.enableAlarm config.temperature,
        pointSetting slot slaveId "humidity" config.humidity.enableAlarm config.humidity] ↔
    config.thresholdEnabled = true ∨
      (config.temperature.enableAlarm = false ∧ config.humidity.enableAlarm = false) := by
  cases config.thresholdEnabled <;> cases config.temperature.enableAlarm <;>
    cases config.humidity.enableAlarm <;> simp [pointSetting]

section Runs

variable (link : Exchange) (getFloat : Json -> Limit)

theorem settings_agree_of_exported {state saved : PortManager} {snapshot : ExportedSnapshot}
    {targetJson : Option String} {selected : List SyncSelectedDevice} {slot : Slot}
    {device : ManagedDevice} {config : RequestedThresholds} (messageMs : Int64)
    (pcMessageMs pcSnapshotMs : Int)
    (exact : ExportsExactly getFloat link.board state saved targetJson snapshot)
    (own : snapshot.gatewayId = defaultGatewayId) (finite : snapshot.Finite)
    (inMemory : device ∈ (state.channels slot).devices) (positive : 0 < device.slaveId.toInt)
    (sensor : device.deviceType = .sensorTh) (held : device.thresholdConfig = some config)
    (accepted : Accepts link.board targetJson (slot, device.slaveId))
    (asked : selected = [] ∨ ⟨portIdForSlot slot, device.slaveId.toInt⟩ ∈ selected) :
    messageSettings link pcMessageMs messageMs slot (state.channels slot) device =
        snapshotSettings link pcSnapshotMs snapshot selected slot device ↔
      config.thresholdEnabled = true ∨
        (config.temperature.enableAlarm = false ∧ config.humidity.enableAlarm = false) := by
  rcases (exact.devices slot (device.exported (state.channels slot).connected)).mpr
    (.memory device inMemory accepted) with ⟨port, listed, rfl, inside⟩
  have number : config.Finite := finite port listed _ inside config held
  have choice : chosen selected port
      (device.exported (state.channels port.slot).connected) = true := by
    rw [chosen, Bool.or_eq_true]
    rcases asked with none | named
    · rw [none]
      exact Or.inl rfl
    · exact Or.inr (List.contains_iff_mem.mpr named)
  rw [messageSettings_eq pcMessageMs messageMs port.slot _ link held number positive,
    snapshotSettings_eq link pcSnapshotMs finite own exact.slots listed (exact.once port listed)
      inside choice sensor held positive, Option.some.injEq]
  exact settings_eq_iff port.slot device.slaveId config

/-- The snapshot that the board exports; another state wrote the config file. -/
def boardSnapshot (state saved : PortManager) (writtenMs : Int64) (seq : UInt32)
    (targetJson : Option String) (nowMs : Int64) : ExportedSnapshot :=
  exportedSnapshot getFloat link.board state
    (saved.writeConfigLocked (.written writtenMs)).2.file seq (some defaultGatewayId) targetJson nowMs

/-- Some run of the port manager leads to the state. -/
def Reached (state : PortManager) : Prop :=
  exists file events, state = (portSystem getFloat link.board file).run events

theorem Reached.consistent {link : Exchange} {getFloat : Json -> Limit} {state : PortManager}
    (reached : Reached link getFloat state) : state.Consistent := by
  rcases reached with ⟨file, events, rfl⟩
  exact ports_consistent_run getFloat link.board file events

variable {state saved : PortManager} (reached : Reached link getFloat state)
  (written : Reached link getFloat saved)
include reached written

theorem exportsExactly_boardSnapshot (writtenMs : Int64) (seq : UInt32)
    (targetJson : Option String) (nowMs : Int64) :
    ExportsExactly getFloat link.board state saved targetJson
      (boardSnapshot link getFloat state saved writtenMs seq targetJson nowMs) := by
  have memory := reached.consistent
  have stored := written.consistent
  apply exportsExactly
  · exact fun slot => (memory.channel slot).devices.distinct
  · exact fun slot => (stored.channel slot).devices.distinct
  · exact fun slot device inside =>
      ((stored.channel slot).devices.pollable device inside).address

/-- The thresholds of a sensor as the message tells them and as a snapshot of
the same state does. -/
theorem thresholds_agree_iff (writtenMs : Int64) (seq : UInt32) (targetJson : Option String)
    (nowMs messageMs : Int64) (pcMessageMs pcSnapshotMs : Int) (selected : List SyncSelectedDevice)
    {slot : Slot} {device : ManagedDevice} {config : RequestedThresholds}
    (inMemory : device ∈ (state.channels slot).devices)
    (sensor : device.deviceType = .sensorTh) (held : device.thresholdConfig = some config)
    (accepted : Accepts link.board targetJson (slot, device.slaveId))
    (asked : selected = [] ∨ ⟨portIdForSlot slot, device.slaveId.toInt⟩ ∈ selected)
    (finite : (boardSnapshot link getFloat state saved writtenMs seq targetJson nowMs).Finite) :
    messageSettings link pcMessageMs messageMs slot (state.channels slot) device =
        snapshotSettings link pcSnapshotMs
          (boardSnapshot link getFloat state saved writtenMs seq targetJson nowMs) selected slot
          device ↔
      config.thresholdEnabled = true ∨
        (config.temperature.enableAlarm = false ∧ config.humidity.enableAlarm = false) := by
  have exact := exportsExactly_boardSnapshot link getFloat reached written writtenMs seq targetJson
    nowMs
  have positive := ((reached.consistent.channel slot).devices.pollable device inMemory).address
  exact settings_agree_of_exported link getFloat messageMs pcMessageMs pcSnapshotMs exact rfl finite
    inMemory positive sensor held accepted asked

end Runs

theorem mutedLimit_small : (30 : Int).natAbs < 2 ^ 24 := by decide

/-- Thresholds that are switched off as a whole, with the temperature alarm
left on. -/
def mutedThresholds : RequestedThresholds :=
  ⟨false, ⟨true, none, some (some (wholeSingle 30 mutedLimit_small))⟩, noThreshold⟩

def mutedSensor : ManagedDevice := ⟨1, 500, .sensorTh, some mutedThresholds, false, false⟩

def mutedEvents : List PortEvent :=
  [.connectPort 0 (some "/dev/ttymxc1") 9600 ⟨true, .written 0⟩,
    .addDevice 0 ⟨1, some "sensor_th", 500, some mutedThresholds, true⟩ (.written 0)]

def mutedState : PortManager :=
  (portSystem exactFloat JsonC.jsonText none).run mutedEvents

theorem mutedSensor_inMemory : mutedSensor ∈ (mutedState.channels 0).devices := by
  decide

theorem mutedState_reached : Reached .jsonText exactFloat mutedState :=
  ⟨none, mutedEvents, rfl⟩

theorem mutedSnapshot_finite :
    (boardSnapshot .jsonText exactFloat mutedState mutedState 0 1 none 0).Finite := by
  decide

theorem mutedSensor_agree_iff :
    messageSettings .jsonText 0 0 0 (mutedState.channels 0) mutedSensor =
        snapshotSettings .jsonText 0
          (boardSnapshot .jsonText exactFloat mutedState mutedState 0 1 none 0) [] 0 mutedSensor ↔
      mutedThresholds.thresholdEnabled = true ∨
        (mutedThresholds.temperature.enableAlarm = false ∧
          mutedThresholds.humidity.enableAlarm = false) :=
  thresholds_agree_iff .jsonText exactFloat mutedState_reached mutedState_reached 0 1 none 0 0 0 0 []
    mutedSensor_inMemory rfl rfl (Or.inl rfl) (Or.inl rfl) mutedSnapshot_finite

/-- The message switches the alarm off and the snapshot switches it on. -/
theorem mutedSensor_disagrees :
    messageSettings .jsonText 0 0 0 (mutedState.channels 0) mutedSensor ≠
      snapshotSettings .jsonText 0
        (boardSnapshot .jsonText exactFloat mutedState mutedState 0 1 none 0) [] 0 mutedSensor := by
  intro same
  have exact := exportsExactly_boardSnapshot .jsonText exactFloat mutedState_reached
    mutedState_reached 0 1 none 0
  have agree := (settings_agree_of_exported .jsonText exactFloat 0 0 0 exact rfl
    mutedSnapshot_finite mutedSensor_inMemory (by decide) rfl rfl (Or.inl rfl) (Or.inl rfl)).mp same
  rcases agree with enabled | ⟨temperature, -⟩
  · cases enabled
  · cases temperature

end Link
end Imx6Gateway
