import Imx6Gateway.Link.RegisterSequence
import Imx6Gateway.Link.ThresholdAgreement
import Imx6Gateway.Pc.SyncIsolation

namespace Imx6Gateway
namespace Link

open Library Board Pc

/-!
# What Pc_data makes of a snapshot of the board

A snapshot of the board is full and nobody has asked for it.  Where Pc_data
stores it, the devices of the gateway that are registered afterwards are those
of the message, and the answer is positive; where it does not, nothing in the
memory changes, and the answer is negative.  Both answers name the version of
the message.
-/

/-- A message that the board sends for these ports, with a version.  What the
reader looks for first stands at the front. -/
structure SnapshotMessage (ports : List ExportedPort) (version : Nat) (root : Json) : Prop where
  front : exists members, root = .obj (("type", .str "config_snapshot") :: members)
  wire : root.Wire Json.maxDepth
  version : root.lookup "configVersion" = some (.int version)
  fullSnapshot : root.lookup "fullSnapshot" = some (.bool true)
  gatewayId : root.lookup "gatewayId" = some (.str defaultGatewayId)
  site : root.lookup "site" = none
  factoryId : root.lookup "factoryId" = some (.str fillDefaultSite.factoryId)
  areaId : root.lookup "areaId" = some (.str fillDefaultSite.areaId)
  ports : root.lookup "ports" = some (.arr (ports.map (ExportedPort.toJson defaultGatewayId)))

/-- The devices of the board's gateway that are registered are these. -/
def RegistersExactly (service : DataService) (devices : List (Slot × Int32)) : Prop :=
  forall key : DeviceKey, key.gatewayId = defaultGatewayId ->
    (service.deviceRegistered key.gatewayId key.portId key.deviceId = true ↔
      exists device, device ∈ devices ∧ key.portId = portIdForSlot device.1 ∧
        key.deviceId = device.2.toInt)

theorem RegistersExactly.perm {service : DataService} {devices others : List (Slot × Int32)}
    (registers : RegistersExactly service devices) (same : devices.Perm others) :
    RegistersExactly service others := by
  intro key own
  rw [registers key own]
  simp only [same.mem_iff]

/-- No request of a user waits for a snapshot, and each record of a device is
under its own text, with a gateway whose name has no slash. -/
structure Unasked (service : DataService) : Prop where
  waiting : forall seq, service.findSyncPending seq = none
  filed : forall text device, service.deviceRegistry.get text = some device ->
    device.text = text ∧ '/' ∉ device.gatewayId.toList

/-! ## The reading of the message -/

section Reading

variable {ports : List ExportedPort} {version : Nat} {root : Json}

theorem SnapshotMessage.parsed (message : SnapshotMessage ports version root) (link : Exchange) :
    parseObject link.pc (link.board.print root) = some root := by
  have read := link.pc_reads root message.wire
  rcases message.front with ⟨members, rfl⟩
  exact parseObject_of_parse read

/-- The type is found in the text. -/
theorem SnapshotMessage.type_found (message : SnapshotMessage ports version root)
    (link : Exchange) :
    extractJsonStringValue (link.board.print root) "type" = "config_snapshot" := by
  rcases message.front with ⟨members, rfl⟩
  have plain : forall member, member ∈ [(("type", "config_snapshot") : String × String)] ->
      Plain member.1 ∧ Plain member.2 := by
    decide
  rcases link.board_compact ("type", "config_snapshot") [] members plain with ⟨rest, shape⟩
  exact extract_first [] (by decide) shape

theorem SnapshotMessage.type_member (message : SnapshotMessage ports version root) :
    root.lookup "type" = some (.str "config_snapshot") := by
  rcases message.front with ⟨members, rfl⟩
  rfl

theorem SnapshotMessage.gateway_read (message : SnapshotMessage ports version root) :
    extractGatewayIdCompat root = defaultGatewayId := by
  have member := getJsonString_of_lookup message.gatewayId
  rw [gateway_of_member (by rw [member]; decide), member]

theorem SnapshotMessage.version_read (message : SnapshotMessage ports version root)
    (small : version < 2 ^ 32) : messageConfigVersion root = version := by
  have present : firstMember root ["configVersion", "config_version"] = some "configVersion" := by
    rw [firstMember, List.find?_cons_of_pos (by rw [message.version]; rfl)]
  have read : getJsonInt64 root "configVersion" 0 = version := by
    rw [getJsonInt64, message.version]
    exact toInt64_of_range (by omega) (by omega)
  rw [messageConfigVersion, getJsonInt64Any, present]
  exact read

theorem SnapshotMessage.full (message : SnapshotMessage ports version root) :
    PcData.isFullSnapshot root = true := by
  rw [PcData.isFullSnapshot, getJsonBool_of_lookup _ message.fullSnapshot]

/-- The record that Pc_data makes of a device. -/
def readDevice (nowMs : Int) (root : Json) (port : ExportedPort) (device : ExportedDevice) :
    DeviceRecord :=
  snapshotDevice nowMs root (snapshotPort nowMs defaultGatewayId (port.toJson defaultGatewayId))
    (device.toJson defaultGatewayId port.slot)

theorem gatewayId_readDevice (nowMs : Int) (root : Json) (port : ExportedPort)
    (device : ExportedDevice) :
    (readDevice nowMs root port device).gatewayId = defaultGatewayId := rfl

theorem portId_readDevice (nowMs : Int) (root : Json) (port : ExportedPort)
    (device : ExportedDevice) :
    (readDevice nowMs root port device).portId = portIdForSlot port.slot := rfl

theorem deviceId_readDevice (nowMs : Int) (root : Json) (port : ExportedPort)
    (device : ExportedDevice) :
    (readDevice nowMs root port device).deviceId = device.deviceId.toInt :=
  snapshotDeviceId_toJson defaultGatewayId port.slot device

def readDevices (nowMs : Int) (root : Json) (ports : List ExportedPort) : List DeviceRecord :=
  ports.flatMap fun port => port.devices.map (readDevice nowMs root port)

theorem length_readDevices (nowMs : Int) (root : Json) (ports : List ExportedPort) :
    (readDevices nowMs root ports).length = (exportedKeys ports).length := by
  unfold readDevices exportedKeys
  simp only [List.length_flatMap, List.length_map]

theorem portEntries_port (nowMs : Int) (root : Json) (port : ExportedPort) :
    portEntries nowMs [] defaultGatewayId root (port.toJson defaultGatewayId) =
      port.devices.map fun device => SnapshotEntry.mk (readDevice nowMs root port device)
        (device.toJson defaultGatewayId port.slot) := by
  have listed : memberArray (port.toJson defaultGatewayId) "devices" =
      some (port.devices.map (ExportedDevice.toJson defaultGatewayId port.slot)) := rfl
  rw [portEntries, listed, Option.getD_some, List.filter_eq_self.mpr, List.map_map]
  · rfl
  · intro value inside
    rcases List.mem_map.mp inside with ⟨device, -, rfl⟩
    rfl

theorem length_snapshotPointConfigs (timestampMs : Int) (device : DeviceRecord) (value : Json) :
    (snapshotPointConfigs timestampMs device value).length ≤ 2 := by
  have entry : forall found : Option PointConfig, found.toList.length ≤ 1 := by
    intro found
    cases found with
    | none => exact Nat.zero_le 1
    | some config => exact le_refl 1
  unfold snapshotPointConfigs
  split
  · exact Nat.zero_le 2
  · split
    · exact Nat.zero_le 2
    · split
      · exact Nat.zero_le 2
      · rw [List.length_append]
        exact Nat.add_le_add (entry _) (entry _)

theorem length_flatMap_le {Item Result : Type} {items : List Item} {results : Item -> List Result}
    {bound : Nat} (each : forall item, (results item).length ≤ bound) :
    (items.flatMap results).length ≤ bound * items.length := by
  induction items with
  | nil => exact Nat.zero_le _
  | cons item items ih =>
      have first := each item
      rw [List.flatMap_cons, List.length_append, List.length_cons, Nat.mul_succ]
      omega

/-- What the parser finds in the message. -/
theorem SnapshotMessage.entries (message : SnapshotMessage ports version root) (nowMs : Int) :
    exists snapshot, parseConfigSnapshot nowMs root defaultGatewayId [] = some snapshot ∧
      snapshot.devices = readDevices nowMs root ports ∧
      snapshot.pointConfigs.length ≤ 2 * (exportedKeys ports).length := by
  have listed : memberArray root "ports" =
      some (ports.map (ExportedPort.toJson defaultGatewayId)) := by
    rw [memberArray, message.ports]
  have site : siteOf root = root := by
    rw [siteOf, memberObject, message.site]
    rfl
  have gateway : snapshotGatewayId root = defaultGatewayId := by
    rw [snapshotGatewayId, getJsonString_of_lookup message.gatewayId]
    rfl
  have objects : (ports.map (ExportedPort.toJson defaultGatewayId)).filter Json.isObj =
      ports.map (ExportedPort.toJson defaultGatewayId) := by
    rw [List.filter_eq_self]
    intro item inside
    rcases List.mem_map.mp inside with ⟨port, -, rfl⟩
    rfl
  have entries : (ports.map (ExportedPort.toJson defaultGatewayId)).flatMap
      (portEntries nowMs [] defaultGatewayId root) =
      ports.flatMap fun port => port.devices.map fun device =>
        SnapshotEntry.mk (readDevice nowMs root port device)
          (device.toJson defaultGatewayId port.slot) := by
    rw [List.flatMap_map]
    exact List.flatMap_congr fun port _ => portEntries_port nowMs root port
  unfold parseConfigSnapshot
  dsimp only
  rw [listed, gateway, site]
  dsimp only
  rw [if_neg, objects, entries]
  · refine ⟨_, rfl, ?_, ?_⟩
    · dsimp only
      rw [List.map_flatMap, readDevices]
      simp only [List.map_map]
      rfl
    · dsimp only
      refine (length_flatMap_le fun entry => length_snapshotPointConfigs _ _ _).trans ?_
      unfold exportedKeys
      simp only [List.length_flatMap, List.length_map, le_refl]
  · rw [getJsonString_of_lookup message.type_member, getJsonString_of_lookup message.factoryId,
      getJsonString_of_lookup message.areaId]
    decide

end Reading

/-! ## What is registered afterwards -/

/-- Two texts of devices whose gateways have no slash are of one gateway. -/
theorem gatewayId_of_text {gatewayId portId otherGateway otherPort : String}
    {deviceId otherDevice : Int} (plain : '/' ∉ gatewayId.toList)
    (other : '/' ∉ otherGateway.toList)
    (same : registryDeviceKey gatewayId portId deviceId =
      registryDeviceKey otherGateway otherPort otherDevice) : gatewayId = otherGateway := by
  have texts := congrArg String.toList same
  rw [toList_registryDeviceKey, toList_registryDeviceKey,
    append_first_separator_inj plain other] at texts
  exact String.toList_injective texts.1

theorem plain_readDevice (nowMs : Int) (root : Json) (port : ExportedPort)
    (device : ExportedDevice) :
    PlainName (readDevice nowMs root port device).gatewayId
      (readDevice nowMs root port device).portId := by
  have plain : forall slot : Slot, PlainName defaultGatewayId (portIdForSlot slot) := by decide
  exact plain port.slot

section Registered

variable {nowMs : Int} {root : Json} {ports : List ExportedPort}

/-- The records that are entered are those of the devices with an address. -/
theorem text_entered_iff (key : DeviceKey) (own : key.gatewayId = defaultGatewayId) :
    (exists device, device ∈ (readDevices nowMs root ports).filter
        (Database.ownEntry defaultGatewayId) ∧ device.text = key.text) ↔
      exists device, device ∈ exportedKeys ports ∧ key.portId = portIdForSlot device.1 ∧
        key.deviceId = device.2.toInt := by
  constructor
  · rintro ⟨record, inside, same⟩
    rcases List.mem_flatMap.mp (List.mem_filter.mp inside).1 with ⟨port, listed, member⟩
    rcases List.mem_map.mp member with ⟨device, held, rfl⟩
    have parts := (registryDeviceKey_inj (plain_readDevice nowMs root port device)).mp same
    refine ⟨(port.slot, device.deviceId), ?_, parts.2.1.symm, ?_⟩
    · exact List.mem_flatMap.mpr ⟨port, listed, List.mem_map_of_mem held⟩
    · rw [← parts.2.2, deviceId_readDevice]
  · rintro ⟨device, inside, portId, deviceId⟩
    rcases List.mem_flatMap.mp inside with ⟨port, listed, member⟩
    rcases List.mem_map.mp member with ⟨exported, held, rfl⟩
    have address := deviceId_readDevice nowMs root port exported
    refine ⟨readDevice nowMs root port exported, List.mem_filter.mpr ⟨?_, ?_⟩, ?_⟩
    · exact List.mem_flatMap.mpr ⟨port, listed, List.mem_map_of_mem held⟩
    · have positive := key.positive
      rw [deviceId, ← address] at positive
      rw [Database.ownEntry, gatewayId_readDevice, portId_readDevice, decide_eq_true rfl,
        decide_eq_true (portIdForSlot_ne_empty port.slot), decide_eq_true positive]
      rfl
    · rw [DeviceRecord.text, DeviceKey.text, gatewayId_readDevice, portId_readDevice, address, own,
        portId, deviceId]

/-- After a full snapshot the devices of the gateway are those of the message. -/
theorem registersExactly_of_replaced {service after : DataService}
    (replaced : service.Replaced defaultGatewayId
      ((readDevices nowMs root ports).filter (Database.ownEntry defaultGatewayId)) true after)
    (filed : forall text device, service.deviceRegistry.get text = some device ->
      device.text = text ∧ '/' ∉ device.gatewayId.toList) :
    RegistersExactly after (exportedKeys ports) := by
  have own : '/' ∉ defaultGatewayId.toList := by decide
  intro key gateway
  have entered : _ ↔ _ := @text_entered_iff nowMs root ports key gateway
  rw [← entered, DataService.deviceRegistered, Bool.or_eq_true, ← DeviceKey.text]
  constructor
  · rintro (typed | recorded)
    · rcases (replaced.types key.text).mp typed with listed | ⟨-, kept⟩
      · exact listed
      · have front := startsWith_gateway key.gatewayId key.portId key.deviceId
        rw [gateway] at front
        rw [DeviceKey.text, gateway] at kept
        rw [kept rfl] at front
        cases front
    · rcases Option.isSome_iff_exists.mp recorded with ⟨device, found⟩
      rcases replaced.found key.text device found with listed | ⟨kept, spared⟩
      · exact ⟨device, listed⟩
      · rcases filed key.text device kept with ⟨text, plain⟩
        rw [DeviceKey.text, gateway] at text
        exact absurd (gatewayId_of_text plain own text) (spared rfl)
  · intro listed
    exact Or.inl ((replaced.types key.text).mpr (Or.inl listed))

theorem filed_of_replaced {service after : DataService}
    (replaced : service.Replaced defaultGatewayId
      ((readDevices nowMs root ports).filter (Database.ownEntry defaultGatewayId)) true after)
    (filed : forall text device, service.deviceRegistry.get text = some device ->
      device.text = text ∧ '/' ∉ device.gatewayId.toList) (text : String) (device : DeviceRecord)
    (found : after.deviceRegistry.get text = some device) :
    device.text = text ∧ '/' ∉ device.gatewayId.toList := by
  rcases replaced.found text device found with ⟨inside, same⟩ | ⟨kept, -⟩
  · refine ⟨same, ?_⟩
    rcases List.mem_flatMap.mp (List.mem_filter.mp inside).1 with ⟨port, -, member⟩
    rcases List.mem_map.mp member with ⟨exported, -, rfl⟩
    exact (plain_readDevice nowMs root port exported).1
  · exact filed text device kept

end Registered

/-! ## The handling of the message -/

/-- The memory after a snapshot that is stored, or refused by the database. -/
structure SnapshotHandled (ports : List ExportedPort) (before after : DataService) (ok : Bool) :
    Prop where
  stored : ok = true -> RegistersExactly after (exportedKeys ports)
  refused : ok = false -> after = before
  unasked : Unasked after

section Handling

variable {ports : List ExportedPort} {version : Nat} {root : Json} (state : PcData)

theorem storeSnapshot_waiting (nowMs : Int) (gatewayId : String) (snapshot : ConfigSnapshot)
    (fullSnapshot : Bool) :
    (state.storeSnapshot nowMs gatewayId snapshot fullSnapshot).1.service.syncPendingBySeq =
      state.service.syncPendingBySeq := by
  have same := PcData.storeSnapshot_withWaiting nowMs state state.service.syncPendingBySeq gatewayId
    snapshot fullSnapshot
  exact congrArg (fun result : PcData × Bool => result.1.service.syncPendingBySeq) same

theorem Unasked.of_same {service after : DataService} (unasked : Unasked service)
    (waiting : after.syncPendingBySeq = service.syncPendingBySeq)
    (filed : forall text device, after.deviceRegistry.get text = some device ->
      device.text = text ∧ '/' ∉ device.gatewayId.toList) : Unasked after := by
  refine ⟨?_, filed⟩
  intro seq
  rw [DataService.findSyncPending, waiting]
  exact unasked.waiting seq

theorem storeSnapshot_handled (unasked : Unasked state.service) (nowMs : Int)
    {snapshot : ConfigSnapshot} (devices : snapshot.devices = readDevices nowMs root ports) :
    SnapshotHandled ports state.service
      (state.storeSnapshot nowMs defaultGatewayId snapshot true).1.service
      (state.storeSnapshot nowMs defaultGatewayId snapshot true).2 := by
  have waiting := storeSnapshot_waiting state nowMs defaultGatewayId snapshot true
  unfold PcData.storeSnapshot at waiting ⊢
  dsimp only at waiting ⊢
  split
  · rename_i stored
    rw [if_pos stored] at waiting
    have removed := DataService.removed_shrinks state.service nowMs true
      (state.database.activeKeys.filter (Database.missingFrom defaultGatewayId snapshot.devices))
    rw [if_pos rfl] at removed waiting ⊢
    generalize (state.database.activeKeys.filter (Database.missingFrom defaultGatewayId
      snapshot.devices)).foldl (fun service key =>
        service.removeDeviceData nowMs key.gatewayId key.portId key.deviceId) state.service = service
      at removed waiting ⊢
    have filed : forall text device, service.deviceRegistry.get text = some device ->
        device.text = text ∧ '/' ∉ device.gatewayId.toList := by
      rw [removed.registry]
      exact unasked.filed
    have gateway : defaultGatewayId ≠ "" := by decide
    have replaced := service.replaceGatewayRegistry_replaced gateway snapshot true
      fun device => Database.keyed_own gateway
    rw [devices] at replaced
    refine ⟨fun _ => registersExactly_of_replaced replaced filed, ?_, ?_⟩
    · intro impossible
      cases impossible
    · exact unasked.of_same waiting (filed_of_replaced replaced filed)
  · exact ⟨fun impossible => absurd impossible Bool.false_ne_true, fun _ => rfl, unasked⟩

/-- A message of this type goes to the branch for snapshots. -/
theorem handle_of_type (pc : JsonCodec) (nowMs : Int) (stod : String -> Option Rat)
    {topic payload : String} (type : extractJsonStringValue payload "type" = "config_snapshot") :
    state.handle pc nowMs stod topic payload =
      state.handleConfigSnapshot pc nowMs "config_snapshot" topic payload := by
  have noAlarm : isAlarmMessage payload = false := by
    have register : extractJsonStringValue payload "type" ∈ registerTypes := by
      rw [type]
      decide
    exact not_alarm_of_mem (by decide) (by decide) register
  have noAnswer : isAnswer "config_snapshot" = false := by decide
  unfold PcData.handle
  simp only [type, noAlarm, noAnswer, Bool.false_eq_true, String.reduceEq, or_false, if_false,
    if_true]

/-- Answers to the board's gateway are published. -/
theorem answered_own (pc : JsonCodec) (nowMs : Int) {ack : RegisterAck}
    (own : ack.gatewayId = defaultGatewayId) (port : ack.portId = "") :
    (state.answered pc nowMs ack).2 =
      [⟨registerAckTopic ack, pc.print (buildRegisterAckJson ack nowMs)⟩] := by
  have named : ack.gatewayId ≠ "" := by
    rw [own]
    decide
  have valid : isValidPublishTopic (registerAckTopic ack) = true := by
    rw [registerAckTopic, if_pos port, own]
    decide
  rw [PcData.answered, publishRegisterAck_eq pc nowMs named valid, Option.toList_some]

/-- The answer of Pc_data to a snapshot of the board, and what it leaves. -/
structure SnapshotAnswered (link : Exchange) (clock : Int64) (root : Json)
    (ports : List ExportedPort) (version : Nat) (before : PcData)
    (result : PcData × List Publication) (ack : RegisterAck) : Prop where
  published : result.2 =
    [⟨registerAckTopic ack, link.pc.print (buildRegisterAckJson ack clock.toInt)⟩]
  fits : AckFits ack
  cmd : ack.cmd = "config_snapshot"
  seq : ack.seq = getJsonInt64 root "seq" 0
  version : ack.configVersion = version
  handled : SnapshotHandled ports before.service result.1.service ack.ok

theorem handleSnapshotOf_answered (link : Exchange) (clock : Int64)
    (message : SnapshotMessage ports version root) (small : version < 2 ^ 32)
    (count : (exportedKeys ports).length < 2 ^ 62) (unasked : Unasked state.service) :
    exists ack, SnapshotAnswered link clock root ports version state
      (state.handleSnapshotOf link.pc clock.toInt "config_snapshot" root none defaultGatewayId)
      ack := by
  have seq : IsInt64 (getJsonInt64 root "seq" 0) := isInt64_getJsonInt64 root _
  have versions : IsInt64 (messageConfigVersion root) := isInt64_getJsonInt64Any root _
  rcases message.entries clock.toInt with ⟨snapshot, parsed, devices, points⟩
  have deviceCount : snapshot.devices.length < 2 ^ 63 := by
    rw [devices, length_readDevices]
    omega
  have pointCount : snapshot.pointConfigs.length < 2 ^ 63 := by omega
  unfold PcData.handleSnapshotOf
  dsimp only [Option.map_none, Option.getD_none]
  rw [parsed]
  dsimp only
  cases opened : state.database.isOpen with
  | false =>
      rw [Bool.not_false, if_pos rfl]
      refine ⟨_, answered_own state link.pc clock.toInt rfl rfl,
        ⟨seq, versions, isInt64_absent, isInt64_absent, isInt64_absent⟩, rfl, rfl,
        message.version_read small, ?_⟩
      exact ⟨fun impossible => absurd impossible Bool.false_ne_true, fun _ => rfl, unasked⟩
  | true =>
      rw [Bool.not_true, if_neg Bool.false_ne_true]
      refine ⟨_, answered_own _ link.pc clock.toInt rfl rfl,
        ⟨seq, versions, isInt64_absent, isInt64_count fun _ => deviceCount,
          isInt64_count fun _ => pointCount⟩, rfl, rfl, message.version_read small, ?_⟩
      have handled := storeSnapshot_handled state unasked clock.toInt devices
      rw [← message.full] at handled
      exact handled

/-- A message of the board gets to the part that stores it. -/
theorem handle_of_message (link : Exchange) (stod : String -> Option Rat) (nowMs : Int)
    (message : SnapshotMessage ports version root) (unasked : Unasked state.service) :
    state.handle link.pc nowMs stod mqttGatewayRegisterTopic (link.board.print root) =
      state.handleSnapshotOf link.pc nowMs "config_snapshot" root none defaultGatewayId := by
  have versioned : unversioned root = false := by
    rw [unversioned, message.fullSnapshot]
    simp
  have nobody : waitingRequest state root = none := unasked.waiting _
  have gateway : snapshotGateway state root = defaultGatewayId := by
    rw [snapshotGateway, nobody, Option.map_none, Option.getD_none, message.gateway_read]
  have named : defaultGatewayId ≠ "" := by decide
  rw [handle_of_type state link.pc nowMs stod (message.type_found link),
    handleConfigSnapshot_eq rfl (message.parsed link), versioned, gateway, nobody,
    if_neg Bool.false_ne_true, if_neg named, Option.any_none, if_neg Bool.false_ne_true]

theorem handle_answered_snapshot (link : Exchange) (stod : String -> Option Rat) (clock : Int64)
    (message : SnapshotMessage ports version root) (small : version < 2 ^ 32)
    (count : (exportedKeys ports).length < 2 ^ 62) (unasked : Unasked state.service) :
    exists ack, SnapshotAnswered link clock root ports version state
      (state.handle link.pc clock.toInt stod mqttGatewayRegisterTopic (link.board.print root))
      ack := by
  rw [handle_of_message state link stod clock.toInt message unasked]
  exact handleSnapshotOf_answered state link clock message small count unasked

end Handling

/-! ## What the board reads of the answer -/

theorem lookup_version_buildRegisterAck (nowMs : Int) {ack : RegisterAck}
    (positive : 0 < ack.configVersion) :
    (buildRegisterAckJson ack nowMs).lookup "configVersion" = some (.int ack.configVersion) := by
  unfold buildRegisterAckJson Json.memberIf
  by_cases port : ack.portId = ""
  · by_cases device : 0 < ack.deviceId
    · simp [port, device, positive, List.lookup_cons]
    · simp [port, device, positive, List.lookup_cons]
  · by_cases device : 0 < ack.deviceId
    · simp [port, device, positive, List.lookup_cons]
    · simp [port, device, positive, List.lookup_cons]

/-- The board finds in the answer whether the snapshot was stored, and its version. -/
theorem parseAck_answer (link : Exchange) {ack : RegisterAck} (fits : AckFits ack) (clock : Int64)
    {version : Nat} (cmd : ack.cmd = "config_snapshot") (named : ack.configVersion = version)
    (positive : 0 < version) (small : version < 2 ^ 32) :
    exists read, ConfigSync.parseAck link.board (link.pc.print
        (buildRegisterAckJson ack clock.toInt)) = some read ∧
      read.ok = ack.ok ∧ read.cmd = ack.cmd ∧ read.seq = UInt32.ofInt ack.seq ∧
      read.configVersion.toNat = version := by
  have parsed := link.board_reads _ (wire_buildRegisterAckJson fits clock)
  have type : (buildRegisterAckJson ack clock.toInt).lookup "type" = some (.str "ack") := rfl
  have command : (buildRegisterAckJson ack clock.toInt).lookup "cmd" = some (.str ack.cmd) := rfl
  have seq : (buildRegisterAckJson ack clock.toInt).lookup "seq" = some (.int ack.seq) := rfl
  have ok : (buildRegisterAckJson ack clock.toInt).lookup "ok" = some (.bool ack.ok) := rfl
  have versions := @lookup_version_buildRegisterAck clock.toInt ack (by omega)
  have register : ConfigSync.isRegisterCmd "config_snapshot" = true := by decide
  have number : UInt32.ofInt (version : Int) = UInt32.ofNat version := by
    rw [UInt32.ofInt, Int.emod_eq_of_lt (by omega) (by omega), Int.toNat_natCast]
  unfold ConfigSync.parseAck
  simp only [parsed, ConfigSync.stringMember, type, command, JsonC.getString, cmd, register,
    versions, seq, ok, Option.elim, JsonC.getInt64, clampInt64_of_isInt64 fits.configVersion,
    clampInt64_of_isInt64 fits.seq, bind, Option.bind, guard, if_true, pure]
  refine ⟨_, rfl, rfl, rfl, rfl, ?_⟩
  dsimp only
  rw [named, number, UInt32.toNat_ofNat_of_lt' small]

end Link
end Imx6Gateway
