import Imx6Gateway.Board.ConfigRoundTrip
import Imx6Gateway.Board.Telemetry

namespace Imx6Gateway
namespace Board

open Library

/-!
# The exported configuration

`exportConfigSnapshotJson` writes the devices of both slots into one message:
first those in memory, then those of the config file that memory does not
have.  A target may select single devices.  The file is read after the lock
is released, so it may be the file of another state.

json-c prints a limit that is no number as a word that is no JSON; such a
message is not told apart here, and `Finite` excludes it where the text is
read again.
-/

attribute [local instance] slots_neZero slotKeys_lawful

def portIdForSlot (slot : Slot) : String :=
  if slot = 0 then "port_001" else "port_002"

def portNameForSlot (slot : Slot) : String :=
  if slot = 0 then "RS485-1" else "RS485-2"

/-! ## The filter -/

structure ConfigSnapshotFilter where
  hasDevices : Bool
  devices : List (Slot × Int32)
  slots : List Slot

namespace ConfigSnapshotFilter

def acceptsSlot (filter : ConfigSnapshotFilter) (slot : Slot) : Bool :=
  !filter.hasDevices || filter.slots.contains slot

def acceptsDevice (filter : ConfigSnapshotFilter) (slot : Slot) (deviceId : Int32) : Bool :=
  !filter.hasDevices || filter.devices.contains (slot, deviceId)

def empty : ConfigSnapshotFilter := ⟨false, [], []⟩

def insert (filter : ConfigSnapshotFilter) (key : Slot × Int32) : ConfigSnapshotFilter :=
  ⟨true, filter.devices ++ [key], filter.slots ++ [key.1]⟩

/-- The filter that selects these devices. -/
def ofKeys (keys : List (Slot × Int32)) : ConfigSnapshotFilter :=
  ⟨!keys.isEmpty, keys, keys.map Prod.fst⟩

theorem insert_ofKeys (keys : List (Slot × Int32)) (key : Slot × Int32) :
    (ofKeys keys).insert key = ofKeys (keys ++ [key]) := by
  rw [insert, ofKeys, ofKeys, List.map_append, List.map_singleton]
  simp

theorem acceptsDevice_ofKeys {keys : List (Slot × Int32)} {slot : Slot} {deviceId : Int32} :
    (ofKeys keys).acceptsDevice slot deviceId = true ↔ keys = [] ∨ (slot, deviceId) ∈ keys := by
  simp [acceptsDevice, ofKeys]

theorem acceptsSlot_of_acceptsDevice {keys : List (Slot × Int32)} {slot : Slot} {deviceId : Int32}
    (accepted : (ofKeys keys).acceptsDevice slot deviceId = true) :
    (ofKeys keys).acceptsSlot slot = true := by
  rcases acceptsDevice_ofKeys.mp accepted with none | selected
  · rw [none]
    rfl
  · have named : slot ∈ keys.map Prod.fst := List.mem_map_of_mem selected
    rw [acceptsSlot, ofKeys, List.contains_iff_mem.mpr named, Bool.or_true]

end ConfigSnapshotFilter

section Filter

variable (library : JsonC)

/-- The device that an item of the target selects; `slotFromPortId` of
`port_manager.cpp` knows the ports by the same names as `slot_from_port_id`. -/
def targetDevice (item : Json) : Option (Slot × Int32) :=
  let own := savedInt item "deviceId" 0
  let deviceId := if own.toInt ≤ 0 then savedInt item "slaveAddress" own else own
  ((slotFromPortId (savedString library item "portId" "")).bind validSlot).bind fun slot =>
    if 0 < deviceId.toInt then some (slot, deviceId) else none

def insertTarget (filter : ConfigSnapshotFilter) (item : Json) : ConfigSnapshotFilter :=
  match targetDevice library item with
  | some key => filter.insert key
  | none => filter

def targetItems (targetJson : Option String) : List Json :=
  let target := targetJson.bind fun text => if text = "" then none else library.parse text
  (savedItems target "devices").getD []

def parseConfigSnapshotFilter (targetJson : Option String) : ConfigSnapshotFilter :=
  (targetItems library targetJson).foldl (insertTarget library) .empty

/-- The devices that a target selects. -/
def selectedDevices (targetJson : Option String) : List (Slot × Int32) :=
  (targetItems library targetJson).filterMap (targetDevice library)

theorem foldl_insertTarget (items : List Json) (keys : List (Slot × Int32)) :
    items.foldl (insertTarget library) (.ofKeys keys) =
      .ofKeys (keys ++ items.filterMap (targetDevice library)) := by
  induction items generalizing keys with
  | nil => rw [List.foldl_nil, List.filterMap_nil, List.append_nil]
  | cons item items ih =>
      rw [List.foldl_cons, List.filterMap_cons, insertTarget]
      cases targetDevice library item with
      | none => exact ih keys
      | some key =>
          dsimp only
          rw [ConfigSnapshotFilter.insert_ofKeys, ih, List.append_assoc, List.singleton_append]

theorem parseConfigSnapshotFilter_eq (targetJson : Option String) :
    parseConfigSnapshotFilter library targetJson =
      .ofKeys (selectedDevices library targetJson) :=
  foldl_insertTarget library _ []

end Filter

/-! ## The message -/

/-- One entry of `devices[]`; its slot is that of the port object it stands in. -/
structure ExportedDevice where
  deviceId : Int32
  deviceType : String
  pollIntervalMs : Int32
  status : String
  thresholds : Option RequestedThresholds
deriving DecidableEq

/-- One entry of `ports[]`. -/
structure ExportedPort where
  slot : Slot
  port : String
  baud : Int32
  connected : Bool
  devices : List ExportedDevice
deriving DecidableEq

structure ExportedSnapshot where
  seq : UInt32
  fullSnapshot : Bool
  gatewayId : String
  timestampMs : Int64
  ports : List ExportedPort

def exportedThresholds : Option RequestedThresholds -> List (String × Json)
  | some config =>
      [("thresholdEnabled", .bool config.thresholdEnabled),
        ("thresholdConfig", thresholdConfigToJson config),
        ("threshold_config", thresholdConfigToJson config)]
  | none => [("thresholdEnabled", .bool false)]

def ExportedDevice.toJson (gatewayId : String) (slot : Slot) (device : ExportedDevice) : Json :=
  .obj ([("deviceId", jsonInt device.deviceId), ("slave_id", jsonInt device.deviceId),
      ("gatewayId", .str gatewayId), ("portId", .str (portIdForSlot slot)),
      ("deviceType", .str device.deviceType), ("pollIntervalMs", jsonInt device.pollIntervalMs),
      ("poll_interval_ms", jsonInt device.pollIntervalMs), ("status", .str device.status)] ++
    exportedThresholds device.thresholds)

def ExportedPort.toJson (gatewayId : String) (port : ExportedPort) : Json :=
  .obj [("slot", jsonInt (slotNumber port.slot)), ("portId", .str (portIdForSlot port.slot)),
    ("portName", .str (portNameForSlot port.slot)), ("port", .str port.port),
    ("baud", jsonInt port.baud), ("connected", .bool port.connected),
    ("devicePath", .str port.port),
    ("status", .str (if port.connected then "connected" else "disconnected")),
    ("devices", .arr (port.devices.map (ExportedDevice.toJson gatewayId port.slot)))]

def ExportedSnapshot.toJson (snapshot : ExportedSnapshot) : Json :=
  .obj [("type", .str "config_snapshot"), ("seq", .int snapshot.seq.toNat),
    ("fullSnapshot", .bool snapshot.fullSnapshot), ("full_snapshot", .bool snapshot.fullSnapshot),
    ("factoryId", .str fillDefaultSite.factoryId), ("factoryName", .str fillDefaultSite.factoryName),
    ("areaId", .str fillDefaultSite.areaId), ("areaName", .str fillDefaultSite.areaName),
    ("gatewayId", .str snapshot.gatewayId), ("gatewayName", .str fillDefaultSite.gatewayName),
    ("timestampMs", .int snapshot.timestampMs.toInt),
    ("ports", .arr (snapshot.ports.map (ExportedPort.toJson snapshot.gatewayId)))]

/-- Every limit in the message is a number. -/
def ExportedSnapshot.Finite (snapshot : ExportedSnapshot) : Prop :=
  forall port, port ∈ snapshot.ports -> forall device, device ∈ port.devices ->
    forall config, device.thresholds = some config -> config.Finite

/-! json-c can hold the message, so its reader gets the same tree. -/

@[simp]
theorem wire_limitJson (depth : Nat) (limit : Option Limit) : (limitJson limit).Wire depth := by
  rcases limit with _ | _ | value
  · exact Json.wire_null depth
  · exact Json.wire_null depth
  · exact wire_jsonSingle depth value

theorem wire_thresholdConfigToJson (depth : Nat) (config : RequestedThresholds) :
    (thresholdConfigToJson config).Wire (depth + 3) := by
  have point : forall point, (thresholdPointToJson point).Wire (depth + 1) := by
    intro point
    simp [thresholdPointToJson, Json.wire_obj_succ]
  simp [thresholdConfigToJson, Json.wire_obj_succ, point]

theorem wire_exportedDevice (depth : Nat) (gatewayId : String) (slot : Slot)
    (device : ExportedDevice) : (device.toJson gatewayId slot).Wire (depth + 4) := by
  rw [ExportedDevice.toJson, Json.wire_obj_succ]
  cases device.thresholds with
  | none => simp [exportedThresholds]
  | some config => simp [exportedThresholds, wire_thresholdConfigToJson]

theorem wire_exportedPort (depth : Nat) (gatewayId : String) (port : ExportedPort) :
    (port.toJson gatewayId).Wire (depth + 6) := by
  have devices : (Json.arr (port.devices.map
      (ExportedDevice.toJson gatewayId port.slot))).Wire (depth + 5) := by
    rw [Json.wire_arr_succ]
    intro item inside
    rcases List.mem_map.mp inside with ⟨device, -, rfl⟩
    exact wire_exportedDevice depth gatewayId port.slot device
  simp [ExportedPort.toJson, Json.wire_obj_succ, devices]

theorem wire_exportedSnapshot (snapshot : ExportedSnapshot) :
    snapshot.toJson.Wire Json.maxDepth := by
  have ports : (Json.arr (snapshot.ports.map
      (ExportedPort.toJson snapshot.gatewayId))).Wire 30 := by
    rw [Json.wire_arr_succ]
    intro item inside
    rcases List.mem_map.mp inside with ⟨port, -, rfl⟩
    exact wire_exportedPort 23 snapshot.gatewayId port
  have seq : (Json.int snapshot.seq.toNat).Wire 30 := by
    have bound := snapshot.seq.toNat_lt
    rw [Json.wire_int]
    omega
  have time : (Json.int snapshot.timestampMs.toInt).Wire 30 := by
    have low := snapshot.timestampMs.le_toInt
    have high := snapshot.timestampMs.toInt_lt
    rw [Json.wire_int]
    omega
  simp [ExportedSnapshot.toJson, Json.maxDepth, Json.wire_obj_succ, ports, seq, time]

/-! ## The two sources -/

/-- A device in memory, on a port that is open or not. -/
def ManagedDevice.exported (connected : Bool) (device : ManagedDevice) : ExportedDevice where
  deviceId := device.slaveId
  deviceType := deviceTypeName device.deviceType
  pollIntervalMs := device.pollIntervalMs
  status := if connected then "online" else "unknown"
  thresholds := device.thresholdConfig

def exportedChannel (filter : ConfigSnapshotFilter) (slot : Slot) (channel : PortChannel) :
    ExportedPort where
  slot := slot
  port := channel.port
  baud := channel.baud
  connected := channel.connected
  devices := (channel.devices.filter fun device =>
    filter.acceptsDevice slot device.slaveId).map (ManagedDevice.exported channel.connected)

def exportedChannels (filter : ConfigSnapshotFilter) (state : PortManager) : List ExportedPort :=
  (([0, 1] : List Slot).filter filter.acceptsSlot).map fun slot =>
    exportedChannel filter slot (state.channels slot)

/-- `exported_devices` after the devices in memory. -/
def exportedKeys (ports : List ExportedPort) : List (Slot × Int32) :=
  ports.flatMap fun port => port.devices.map fun device => (port.slot, device.deviceId)

def ExportedPort.add (port : ExportedPort) (device : ExportedDevice) : ExportedPort :=
  { port with devices := port.devices ++ [device] }

/-- The device goes to the first port object of the slot, or to a new one at
the end. -/
def addExported (created : ExportedPort) (device : ExportedDevice) :
    List ExportedPort -> List ExportedPort
  | [] => [created.add device]
  | port :: ports =>
      if port.slot = created.slot then port.add device :: ports
      else port :: addExported created device ports

section Export

variable (getFloat : Json -> Limit) (library : JsonC)

/-- The device of a saved item that is to be exported, with the port object
that is made if its slot has none. -/
def savedExport (filter : ConfigSnapshotFilter) (exported : List (Slot × Int32)) (item : Json) :
    Option (ExportedPort × ExportedDevice) :=
  (validSlot (savedInt item "slot" (-1))).bind fun slot =>
    let slaveId := savedInt item "slave_id" 0
    if ¬filter.acceptsSlot slot then none
    else if slaveId.toInt ≤ 0 ∨ ¬filter.acceptsDevice slot slaveId then none
    else if (slot, slaveId) ∈ exported then none
    else some
      (⟨slot, (savedString library item "port" "").getD "", savedInt item "baud" 0, false, []⟩,
        { deviceId := slaveId
          deviceType := (savedString library item "device_type" "unknown").getD ""
          pollIntervalMs := savedInt item "poll_interval_ms" 1000
          status := "unknown"
          thresholds := (item.lookup "threshold_config").map (thresholdConfigFromJson getFloat) })

def exportSaved (filter : ConfigSnapshotFilter) (exported : List (Slot × Int32))
    (ports : List ExportedPort) (item : Json) : List ExportedPort :=
  match savedExport getFloat library filter exported item with
  | some (created, device) => addExported created device ports
  | none => ports

/-- The message that is built; the lock is held for the devices in memory only. -/
def exportedSnapshot (state : PortManager) (file : Option Json) (seq : UInt32)
    (gatewayId targetJson : Option String) (nowMs : Int64) : ExportedSnapshot :=
  let filter := parseConfigSnapshotFilter library targetJson
  let memory := exportedChannels filter state
  { seq := seq
    fullSnapshot := !filter.hasDevices
    gatewayId := if gatewayId.getD "" = "" then defaultGatewayId else gatewayId.getD ""
    timestampMs := nowMs
    ports := ((savedItems file "devices").getD []).foldl
      (exportSaved getFloat library filter (exportedKeys memory)) memory }

/-- `exportConfigSnapshotJson`: the text in the buffer, if the result is zero. -/
def exportConfigSnapshotJson (state : PortManager) (file : Option Json) (seq : UInt32)
    (gatewayId targetJson : Option String) (nowMs : Int64) (bufferSize : Nat) : Option String :=
  let text := library.print
    (exportedSnapshot getFloat library state file seq gatewayId targetJson nowMs).toJson
  if bufferSize = 0 ∨ bufferSize < textBytes text + 1 then none else some text

end Export

/-! ## Adding to a port object -/

theorem exportSaved_eq (getFloat : Json -> Limit) (library : JsonC) (filter : ConfigSnapshotFilter)
    (exported : List (Slot × Int32)) (items : List Json) (ports : List ExportedPort) :
    items.foldl (exportSaved getFloat library filter exported) ports =
      (items.filterMap (savedExport getFloat library filter exported)).foldl
        (fun ports entry => addExported entry.1 entry.2 ports) ports := by
  induction items generalizing ports with
  | nil => rfl
  | cons item items ih =>
      rw [List.foldl_cons, List.filterMap_cons, ih, exportSaved]
      cases savedExport getFloat library filter exported item with
      | none => rfl
      | some entry => rw [List.foldl_cons]

theorem addExported_present {created : ExportedPort} (device : ExportedDevice)
    {ports : List ExportedPort} (distinct : (ports.map ExportedPort.slot).Nodup)
    (present : created.slot ∈ ports.map ExportedPort.slot) :
    addExported created device ports = ports.map fun port =>
      if port.slot = created.slot then port.add device else port := by
  induction ports with
  | nil => exact absurd present List.not_mem_nil
  | cons port ports ih =>
      rw [List.map_cons, List.nodup_cons] at distinct
      rw [addExported, List.map_cons]
      split
      · rename_i here
        have untouched : ports.map (fun port =>
            if port.slot = created.slot then port.add device else port) = ports := by
          refine (List.map_congr_left fun other inside => if_neg ?_).trans (List.map_id' ports)
          intro same
          exact distinct.1 (by rw [here, ← same]; exact List.mem_map_of_mem inside)
        rw [untouched]
      · rename_i elsewhere
        have later := (List.mem_cons.mp present).resolve_left (Ne.symm elsewhere)
        rw [ih distinct.2 later]

/-- A port object with the devices that are added to its slot. -/
def ExportedPort.gain (port : ExportedPort) (entries : List (ExportedPort × ExportedDevice)) :
    ExportedPort :=
  { port with devices := port.devices ++
      (entries.filter fun entry => port.slot = entry.1.slot).map Prod.snd }

theorem ExportedPort.gain_cons (port : ExportedPort) (entry : ExportedPort × ExportedDevice)
    (entries : List (ExportedPort × ExportedDevice)) :
    port.gain (entry :: entries) =
      (if port.slot = entry.1.slot then port.add entry.2 else port).gain entries := by
  by_cases same : port.slot = entry.1.slot
  · simp [ExportedPort.gain, ExportedPort.add, same]
  · simp [ExportedPort.gain, same]

theorem foldl_addExported (entries : List (ExportedPort × ExportedDevice))
    {ports : List ExportedPort} (distinct : (ports.map ExportedPort.slot).Nodup)
    (present : forall entry, entry ∈ entries -> entry.1.slot ∈ ports.map ExportedPort.slot) :
    entries.foldl (fun ports entry => addExported entry.1 entry.2 ports) ports =
      ports.map fun port => port.gain entries := by
  induction entries generalizing ports with
  | nil =>
      refine ((List.map_congr_left fun port _ => ?_).trans (List.map_id' ports)).symm
      rw [ExportedPort.gain, List.filter_nil, List.map_nil, List.append_nil]
  | cons entry entries ih =>
      have slots : ((ports.map fun port =>
            if port.slot = entry.1.slot then port.add entry.2 else port).map ExportedPort.slot) =
          ports.map ExportedPort.slot := by
        rw [List.map_map]
        refine List.map_congr_left fun port _ => ?_
        rw [Function.comp_apply]
        split <;> rfl
      rw [List.foldl_cons, addExported_present entry.2 distinct (present entry List.mem_cons_self),
        ih (by rw [slots]; exact distinct)
          (fun other inside => by rw [slots]; exact present other (List.mem_cons_of_mem _ inside)),
        List.map_map]
      exact List.map_congr_left fun port _ => (port.gain_cons entry entries).symm

/-! ## What is exported -/

/-- A device as the file gives it back. -/
def ManagedDevice.reread (getFloat : Json -> Limit) (device : ManagedDevice) : ManagedDevice :=
  { device with
    thresholdConfig := device.thresholdConfig.map fun config =>
      thresholdConfigFromJson getFloat (thresholdConfigToJson config) }

section Contents

variable (getFloat : Json -> Limit) (library : JsonC)

theorem savedExport_deviceItem (filter : ConfigSnapshotFilter) (exported : List (Slot × Int32))
    (slot : Slot) {device : ManagedDevice} (positive : 0 < device.slaveId.toInt) :
    savedExport getFloat library filter exported (deviceItem slot device) =
      if filter.acceptsSlot slot = true ∧ filter.acceptsDevice slot device.slaveId = true ∧
          (slot, device.slaveId) ∉ exported then
        some (⟨slot, "", 0, false, []⟩, (device.reread getFloat).exported false)
      else none := by
  have named : savedInt (deviceItem slot device) "slot" (-1) = slotNumber slot :=
    getInt_jsonInt (slotNumber slot)
  have address : savedInt (deviceItem slot device) "slave_id" 0 = device.slaveId :=
    getInt_jsonInt device.slaveId
  have interval : savedInt (deviceItem slot device) "poll_interval_ms" 1000 =
      device.pollIntervalMs :=
    getInt_jsonInt device.pollIntervalMs
  have port : savedString library (deviceItem slot device) "port" "" = some "" := by
    rw [savedString, lookup_deviceItem_port]
  have baud : savedInt (deviceItem slot device) "baud" 0 = 0 := by
    have absent : (deviceItem slot device).lookup "baud" = none := by
      rw [deviceItem]
      cases device.thresholdConfig <;> rfl
    rw [savedInt, absent]
    rfl
  have type : savedString library (deviceItem slot device) "device_type" "unknown" =
      some (deviceTypeName device.deviceType) := rfl
  have thresholds : ((deviceItem slot device).lookup "threshold_config").map
      (thresholdConfigFromJson getFloat) = (device.reread getFloat).thresholdConfig := by
    rw [lookup_deviceItem_threshold, Option.map_map]
    rfl
  unfold savedExport
  dsimp only
  rw [named, address, interval, port, baud, type, thresholds, validSlot_eq_some_iff.mpr rfl,
    Option.bind_some]
  by_cases slots : filter.acceptsSlot slot = true
  · by_cases accepted : filter.acceptsDevice slot device.slaveId = true
    · by_cases known : (slot, device.slaveId) ∈ exported
      · simp [slots, accepted, known]
      · simp [slots, accepted, known, positive]
        rfl
    · simp [slots, accepted]
  · simp [slots]

variable (filter : ConfigSnapshotFilter) (state saved : PortManager)

theorem slots_exportedChannels :
    (exportedChannels filter state).map ExportedPort.slot =
      ([0, 1] : List Slot).filter filter.acceptsSlot := by
  rw [exportedChannels, List.map_map]
  exact List.map_id _

theorem mem_slots_exportedChannels {slot : Slot} :
    slot ∈ (exportedChannels filter state).map ExportedPort.slot ↔
      filter.acceptsSlot slot = true := by
  have listed : forall slot : Slot, slot ∈ ([0, 1] : List Slot) := by decide
  rw [slots_exportedChannels, List.mem_filter]
  exact and_iff_right (listed slot)

theorem mem_exportedKeys {slot : Slot} {deviceId : Int32} :
    (slot, deviceId) ∈ exportedKeys (exportedChannels filter state) ↔
      filter.acceptsSlot slot = true ∧ filter.acceptsDevice slot deviceId = true ∧
        state.live (slot, deviceId) = true := by
  rw [exportedKeys, List.mem_flatMap, PortManager.live_iff]
  constructor
  · rintro ⟨port, inside, listed⟩
    rcases List.mem_map.mp inside with ⟨own, slots, rfl⟩
    rcases List.mem_map.mp listed with ⟨device, exported, same⟩
    rcases List.mem_map.mp exported with ⟨memory, accepted, rfl⟩
    cases same
    rw [List.mem_filter] at accepted slots
    exact ⟨slots.2, accepted.2, memory, accepted.1, rfl⟩
  · rintro ⟨slots, accepted, device, inside, rfl⟩
    have port := (mem_slots_exportedChannels filter state).mpr slots
    refine ⟨exportedChannel filter slot (state.channels slot), ?_, ?_⟩
    · rw [slots_exportedChannels] at port
      exact List.mem_map_of_mem port
    · refine List.mem_map.mpr ⟨device.exported (state.channels slot).connected, ?_, rfl⟩
      exact List.mem_map_of_mem (List.mem_filter.mpr ⟨inside, accepted⟩)

/-- The devices of the file that are exported under their slot. -/
def savedDevices (slot : Slot) : List ManagedDevice :=
  (saved.channels slot).devices.filter fun device =>
    filter.acceptsSlot slot && filter.acceptsDevice slot device.slaveId &&
      !(exportedKeys (exportedChannels filter state)).contains (slot, device.slaveId)

theorem filterMap_savedExport (slot : Slot) {devices : List ManagedDevice}
    (positive : forall device, device ∈ devices -> 0 < device.slaveId.toInt)
    (exported : List (Slot × Int32)) :
    (devices.map (deviceItem slot)).filterMap (savedExport getFloat library filter exported) =
      (devices.filter fun device =>
        filter.acceptsSlot slot && filter.acceptsDevice slot device.slaveId &&
          !exported.contains (slot, device.slaveId)).map fun device =>
        ((⟨slot, "", 0, false, []⟩ : ExportedPort), (device.reread getFloat).exported false) := by
  induction devices with
  | nil => rfl
  | cons device devices ih =>
      have rest := ih fun other inside => positive other (List.mem_cons_of_mem _ inside)
      rw [List.map_cons, List.filterMap_cons, List.filter_cons,
        savedExport_deviceItem getFloat library filter exported slot
          (positive device List.mem_cons_self), rest]
      by_cases kept : filter.acceptsSlot slot = true ∧
          filter.acceptsDevice slot device.slaveId = true ∧ (slot, device.slaveId) ∉ exported
      · rw [if_pos kept, if_pos (by simpa [and_assoc] using kept), List.map_cons]
      · rw [if_neg kept, if_neg (by simpa [and_assoc] using kept)]

end Contents

/-- Of entries that are listed slot by slot, those of one slot. -/
theorem filter_flatMap_slots {entry : Slot -> ManagedDevice -> ExportedPort × ExportedDevice}
    (named : forall own device, (entry own device).1.slot = own)
    (devices : Slot -> List ManagedDevice) (slot : Slot) :
    (([0, 1] : List Slot).flatMap fun own => (devices own).map (entry own)).filter
        (fun listed => slot = listed.1.slot) =
      (devices slot).map (entry slot) := by
  have own : forall own, ((devices own).map (entry own)).filter (fun listed => slot = listed.1.slot) =
      if slot = own then (devices own).map (entry own) else [] := by
    intro own
    by_cases same : slot = own
    · rw [if_pos same, List.filter_eq_self]
      intro listed inside
      rcases List.mem_map.mp inside with ⟨device, -, rfl⟩
      exact decide_eq_true (same.trans (named own device).symm)
    · rw [if_neg same, List.filter_eq_nil_iff]
      intro listed inside
      rcases List.mem_map.mp inside with ⟨device, -, rfl⟩
      rw [named, decide_eq_false same]
      exact Bool.false_ne_true
  rw [List.filter_flatMap, List.flatMap_congr fun slot _ => own slot]
  match slot with
  | 0 => simp
  | 1 => simp

section Ports

variable (getFloat : Json -> Limit) (library : JsonC) (keys : List (Slot × Int32))
  (state saved : PortManager) (nowMs : Int64)

def savedExports (filter : ConfigSnapshotFilter) (slot : Slot) : List ExportedDevice :=
  (savedDevices filter state saved slot).map fun device =>
    (device.reread getFloat).exported false

/-- The port objects of the message. -/
def exportedPorts (filter : ConfigSnapshotFilter) : List ExportedPort :=
  ((savedItems (saved.writeConfigLocked (.written nowMs)).2.file "devices").getD []).foldl
    (exportSaved getFloat library filter (exportedKeys (exportedChannels filter state)))
    (exportedChannels filter state)

/-- The object of a slot: the devices in memory, and then those of the file. -/
def exportedPort (filter : ConfigSnapshotFilter) (slot : Slot) : ExportedPort :=
  let memory := exportedChannel filter slot (state.channels slot)
  { memory with devices := memory.devices ++ savedExports getFloat state saved filter slot }

theorem exportedPorts_eq (filter : ConfigSnapshotFilter)
    (positive : forall slot device, device ∈ (saved.channels slot).devices ->
      0 < device.slaveId.toInt) :
    exportedPorts getFloat library state saved nowMs filter =
      (([0, 1] : List Slot).filter filter.acceptsSlot).map
        (exportedPort getFloat state saved filter) := by
  have items : savedItems (saved.writeConfigLocked (.written nowMs)).2.file "devices" =
      some ([0, 1].flatMap fun own => (saved.channels own).devices.map (deviceItem own)) := rfl
  have entries : ([0, 1].flatMap fun own =>
        (saved.channels own).devices.map (deviceItem own)).filterMap
        (savedExport getFloat library filter (exportedKeys (exportedChannels filter state))) =
      [0, 1].flatMap fun own => (savedDevices filter state saved own).map fun device =>
        ((⟨own, "", 0, false, []⟩ : ExportedPort), (device.reread getFloat).exported false) := by
    rw [List.filterMap_flatMap]
    exact List.flatMap_congr fun own _ =>
      filterMap_savedExport getFloat library filter own (positive own) _
  rw [exportedPorts, items, Option.getD_some, exportSaved_eq, entries, foldl_addExported]
  · rw [exportedChannels, List.map_map]
    refine List.map_congr_left fun slot _ => ?_
    rw [Function.comp_apply, ExportedPort.gain, exportedPort, savedExports,
      filter_flatMap_slots (fun _ _ => rfl), List.map_map]
    rfl
  · rw [slots_exportedChannels]
    exact List.Nodup.filter _ (by decide)
  · intro entry inside
    rcases List.mem_flatMap.mp inside with ⟨own, -, kept⟩
    rcases List.mem_map.mp kept with ⟨device, accepted, rfl⟩
    have checks := (List.mem_filter.mp accepted).2
    rw [Bool.and_eq_true, Bool.and_eq_true] at checks
    exact (mem_slots_exportedChannels filter state).mpr checks.1.1

end Ports

/-! ## The exported devices are those of memory and of the file -/

section Exactness

variable (getFloat : Json -> Limit) (library : JsonC)

/-- What a target lets through. -/
def Accepts (targetJson : Option String) (key : Slot × Int32) : Prop :=
  selectedDevices library targetJson = [] ∨ key ∈ selectedDevices library targetJson

/-- Memory has the device. -/
inductive Exported (state saved : PortManager) (targetJson : Option String) (slot : Slot) :
    ExportedDevice -> Prop where
  | memory (device : ManagedDevice) : device ∈ (state.channels slot).devices ->
      Accepts library targetJson (slot, device.slaveId) ->
      Exported state saved targetJson slot (device.exported (state.channels slot).connected)
  | file (device : ManagedDevice) : device ∈ (saved.channels slot).devices ->
      Accepts library targetJson (slot, device.slaveId) ->
      state.live (slot, device.slaveId) = false ->
      Exported state saved targetJson slot ((device.reread getFloat).exported false)

/-- A message has the devices of memory and of the file that another state
wrote, each once and in the object of its slot. -/
structure ExportsExactly (state saved : PortManager) (targetJson : Option String)
    (snapshot : ExportedSnapshot) : Prop where
  fullSnapshot : snapshot.fullSnapshot = true ↔ selectedDevices library targetJson = []
  slots : (snapshot.ports.map ExportedPort.slot).Nodup
  once : forall port, port ∈ snapshot.ports ->
    (port.devices.map ExportedDevice.deviceId).Nodup
  devices : forall slot device,
    (exists port, port ∈ snapshot.ports ∧ port.slot = slot ∧ device ∈ port.devices) ↔
      Exported getFloat library state saved targetJson slot device

variable {getFloat library} {state saved : PortManager} {keys : List (Slot × Int32)}

theorem mem_savedDevices {slot : Slot} {device : ManagedDevice} :
    device ∈ savedDevices (.ofKeys keys) state saved slot ↔
      device ∈ (saved.channels slot).devices ∧
        (keys = [] ∨ (slot, device.slaveId) ∈ keys) ∧
        state.live (slot, device.slaveId) = false := by
  rw [savedDevices, List.mem_filter]
  refine and_congr_right fun _ => ?_
  rw [Bool.and_eq_true, Bool.and_eq_true, Bool.not_eq_true', ← Bool.not_eq_true,
    List.contains_iff_mem, mem_exportedKeys, ← ConfigSnapshotFilter.acceptsDevice_ofKeys,
    ← Bool.not_eq_true]
  constructor
  · rintro ⟨⟨slots, accepted⟩, unlisted⟩
    exact ⟨accepted, fun live => unlisted ⟨slots, accepted, live⟩⟩
  · rintro ⟨accepted, absent⟩
    exact ⟨⟨ConfigSnapshotFilter.acceptsSlot_of_acceptsDevice accepted, accepted⟩,
      fun listed => absent listed.2.2⟩

theorem mem_exportedChannel {slot : Slot} {channel : PortChannel} {device : ExportedDevice} :
    device ∈ (exportedChannel (.ofKeys keys) slot channel).devices ↔
      exists own, own ∈ channel.devices ∧ (keys = [] ∨ (slot, own.slaveId) ∈ keys) ∧
        own.exported channel.connected = device := by
  rw [exportedChannel, List.mem_map]
  refine exists_congr fun own => ?_
  rw [List.mem_filter, ConfigSnapshotFilter.acceptsDevice_ofKeys, and_assoc]

/-- The slot of a device that is let through has its object. -/
theorem mem_exportedPorts {targetJson : Option String} {slot : Slot} {slaveId : Int32}
    (accepted : Accepts library targetJson (slot, slaveId)) :
    exportedPort getFloat state saved (.ofKeys (selectedDevices library targetJson)) slot ∈
      (([0, 1] : List Slot).filter (ConfigSnapshotFilter.ofKeys
        (selectedDevices library targetJson)).acceptsSlot).map
        (exportedPort getFloat state saved (.ofKeys (selectedDevices library targetJson))) := by
  have each : forall slot : Slot, slot ∈ ([0, 1] : List Slot) := by decide
  refine List.mem_map_of_mem (List.mem_filter.mpr ⟨each slot, ?_⟩)
  exact ConfigSnapshotFilter.acceptsSlot_of_acceptsDevice
    (ConfigSnapshotFilter.acceptsDevice_ofKeys.mpr accepted)

variable (distinct : forall slot, ((state.channels slot).devices.map ManagedDevice.slaveId).Nodup)
  (savedDistinct : forall slot, ((saved.channels slot).devices.map ManagedDevice.slaveId).Nodup)
include distinct savedDistinct

/-- Memory has each device once and the file has each device once, and a
device of the file is taken only if memory does not have it. -/
theorem nodup_exported (slot : Slot) :
    (((exportedChannel (.ofKeys keys) slot (state.channels slot)).devices ++
        savedExports getFloat state saved (.ofKeys keys) slot).map
      ExportedDevice.deviceId).Nodup := by
  have memory : ((exportedChannel (.ofKeys keys) slot (state.channels slot)).devices.map
      ExportedDevice.deviceId).Sublist
        ((state.channels slot).devices.map ManagedDevice.slaveId) := by
    rw [exportedChannel, List.map_map]
    exact List.filter_sublist.map _
  have file : ((savedExports getFloat state saved (.ofKeys keys) slot).map
      ExportedDevice.deviceId).Sublist
        ((saved.channels slot).devices.map ManagedDevice.slaveId) := by
    rw [savedExports, List.map_map]
    exact List.filter_sublist.map _
  rw [List.map_append]
  refine (memory.nodup (distinct slot)).append (file.nodup (savedDistinct slot)) ?_
  intro deviceId inMemory inFile
  rcases List.mem_map.mp inFile with ⟨exported, listed, rfl⟩
  rcases List.mem_map.mp listed with ⟨device, kept, rfl⟩
  have absent := (mem_savedDevices.mp kept).2.2
  rcases List.mem_map.mp (memory.subset inMemory) with ⟨own, inside, same⟩
  have live : state.live (slot, device.slaveId) = true :=
    PortManager.live_iff.mpr ⟨own, inside, same⟩
  rw [live] at absent
  cases absent

theorem exportsExactly (targetJson : Option String) (seq : UInt32) (gatewayId : Option String)
    (writtenMs nowMs : Int64)
    (positive : forall slot device, device ∈ (saved.channels slot).devices ->
      0 < device.slaveId.toInt) :
    ExportsExactly getFloat library state saved targetJson
      (exportedSnapshot getFloat library state (saved.writeConfigLocked (.written writtenMs)).2.file
        seq gatewayId targetJson nowMs) := by
  have filter := parseConfigSnapshotFilter_eq library targetJson
  have ports := exportedPorts_eq getFloat library state saved writtenMs
    (.ofKeys (selectedDevices library targetJson)) positive
  have listed : (exportedSnapshot getFloat library state
      (saved.writeConfigLocked (.written writtenMs)).2.file seq gatewayId targetJson nowMs).ports =
      exportedPorts getFloat library state saved writtenMs
        (.ofKeys (selectedDevices library targetJson)) := by
    rw [← filter]
    rfl
  constructor
  · have full : (exportedSnapshot getFloat library state
        (saved.writeConfigLocked (.written writtenMs)).2.file seq gatewayId targetJson
          nowMs).fullSnapshot = !(parseConfigSnapshotFilter library targetJson).hasDevices := rfl
    rw [full, filter, ConfigSnapshotFilter.ofKeys, Bool.not_not, List.isEmpty_iff]
  · rw [listed, ports, List.map_map]
    have slots : ExportedPort.slot ∘ exportedPort getFloat state saved
        (.ofKeys (selectedDevices library targetJson)) = id := rfl
    rw [slots, List.map_id]
    exact List.Nodup.filter _ (by decide)
  · intro port inside
    rw [listed, ports] at inside
    rcases List.mem_map.mp inside with ⟨slot, -, rfl⟩
    exact nodup_exported distinct savedDistinct slot
  · intro slot device
    rw [listed, ports]
    constructor
    · rintro ⟨port, inside, rfl, member⟩
      rcases List.mem_map.mp inside with ⟨own, -, rfl⟩
      rcases List.mem_append.mp member with memory | file
      · rcases mem_exportedChannel.mp memory with ⟨kept, held, accepted, rfl⟩
        exact .memory kept held accepted
      · rcases List.mem_map.mp file with ⟨kept, held, rfl⟩
        have checks := mem_savedDevices.mp held
        exact .file kept checks.1 checks.2.1 checks.2.2
    · intro exported
      cases exported with
      | memory own held accepted =>
          refine ⟨_, mem_exportedPorts accepted, rfl, List.mem_append.mpr (Or.inl ?_)⟩
          exact mem_exportedChannel.mpr ⟨own, held, accepted, rfl⟩
      | file own held accepted absent =>
          refine ⟨_, mem_exportedPorts accepted, rfl, List.mem_append.mpr (Or.inr ?_)⟩
          exact List.mem_map_of_mem (mem_savedDevices.mpr ⟨held, accepted, absent⟩)

end Exactness

section Runs

variable (getFloat : Json -> Limit) (library : JsonC)

/-- What is in the buffer when the result is zero, for a state and a config
file of any two runs. -/
theorem exportConfigSnapshotJson_exact (file earlierFile : Option Json)
    (events earlierEvents : List PortEvent) (writtenMs : Int64) (seq : UInt32)
    (gatewayId targetJson : Option String) (nowMs : Int64) (bufferSize : Nat) {text : String}
    (done : exportConfigSnapshotJson getFloat library
      ((portSystem getFloat library file).run events)
      (((portSystem getFloat library earlierFile).run earlierEvents).writeConfigLocked
        (.written writtenMs)).2.file seq gatewayId targetJson nowMs bufferSize = some text) :
    exists snapshot : ExportedSnapshot, text = library.print snapshot.toJson ∧
      (snapshot.Finite -> library.parse text = some snapshot.toJson) ∧
      ExportsExactly getFloat library ((portSystem getFloat library file).run events)
        ((portSystem getFloat library earlierFile).run earlierEvents) targetJson snapshot := by
  have memory := ports_consistent_run getFloat library file events
  have saved := ports_consistent_run getFloat library earlierFile earlierEvents
  unfold exportConfigSnapshotJson at done
  dsimp only at done
  split at done
  · cases done
  · cases done
    refine ⟨_, rfl, fun _ => library.parse_print _ (wire_exportedSnapshot _), ?_⟩
    apply exportsExactly
    · exact fun slot => (memory.channel slot).devices.distinct
    · exact fun slot => (saved.channel slot).devices.distinct
    · exact fun slot device inside =>
        ((saved.channel slot).devices.pollable device inside).address

/-- A port with two relays, of which the second was added after the file was
written; the target selects that one. -/
def relayEvents : List PortEvent :=
  [.connectPort 0 (some "/dev/ttymxc1") 9600 ⟨true, .written 0⟩,
    .addDevice 0 ⟨3, some "relay", 500, none, true⟩ (.written 0)]

def laterRelayEvents : List PortEvent :=
  relayEvents ++ [.addDevice 0 ⟨5, some "relay", 500, none, true⟩ (.written 0)]

theorem exportConfigSnapshotJson_fits (state : PortManager) (file : Option Json) (seq : UInt32)
    (gatewayId targetJson : Option String) (nowMs : Int64) :
    let text := library.print
      (exportedSnapshot getFloat library state file seq gatewayId targetJson nowMs).toJson
    exportConfigSnapshotJson getFloat library state file seq gatewayId targetJson nowMs
      (textBytes text + 1) = some text := by
  refine if_neg (not_or.mpr ⟨Nat.succ_ne_zero _, not_lt.mpr (le_refl _)⟩)

/-- The target that selects the second relay. -/
def secondRelay : Option String :=
  some "\x7b\"devices\":[\x7b\"portId\":\"port_001\",\"deviceId\":5\x7d]\x7d"

theorem relays_exported :
    exists snapshot : ExportedSnapshot,
      JsonC.jsonText.print (exportedSnapshot exactFloat JsonC.jsonText
        ((portSystem exactFloat JsonC.jsonText none).run laterRelayEvents)
        (((portSystem exactFloat JsonC.jsonText none).run relayEvents).writeConfigLocked
          (.written 0)).2.file 1 none secondRelay 0).toJson =
        JsonC.jsonText.print snapshot.toJson ∧
      (snapshot.Finite -> JsonC.jsonText.parse (JsonC.jsonText.print
        (exportedSnapshot exactFloat JsonC.jsonText
          ((portSystem exactFloat JsonC.jsonText none).run laterRelayEvents)
          (((portSystem exactFloat JsonC.jsonText none).run relayEvents).writeConfigLocked
            (.written 0)).2.file 1 none secondRelay 0).toJson) = some snapshot.toJson) ∧
      ExportsExactly exactFloat JsonC.jsonText
        ((portSystem exactFloat JsonC.jsonText none).run laterRelayEvents)
        ((portSystem exactFloat JsonC.jsonText none).run relayEvents) secondRelay snapshot :=
  exportConfigSnapshotJson_exact exactFloat JsonC.jsonText none none laterRelayEvents relayEvents 0 1
    none secondRelay 0 _ (exportConfigSnapshotJson_fits exactFloat JsonC.jsonText _ _ 1 none
      secondRelay 0)

end Runs

end Board
end Imx6Gateway
