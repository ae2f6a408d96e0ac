import Imx6Gateway.Pc.CheckedCommand
import Imx6Gateway.Pc.IpcMessageHandler

namespace Imx6Gateway
namespace Pc

open Library

/-!
# The handler of the user interface with its checks

`IpcMessageHandler::handle` up to the point where it knows what to do: every
read of the message is made with the checks of `CheckedJson`.  What is done
then works on values that have been read, and its calls to the database, the
broker and the user interface do not throw.
-/

/-! ## The readers of requests -/

def hasType? (root : Json) (type : String) : Option Bool := do
  let found ← getJsonString? root "type"
  some (found = type)

/-- One entry of `devices`, if it is selected. -/
def readDevice? (deviceValue : Json) : Option (Option SyncSelectedDevice) :=
  if !deviceValue.isObj then some none
  else do
    let portId ← getJsonString? deviceValue "portId"
    let deviceId ← getJsonInt? deviceValue "deviceId" 0
    some (if portId ≠ "" ∧ 0 < deviceId then some ⟨portId, deviceId⟩ else none)

/-- One entry of `targets`, if something is selected in it. -/
def readTarget? (targetValue : Json) : Option (Option SyncGatewaySelection) :=
  if !targetValue.isObj then some none
  else do
    let gatewayId ← getJsonString? targetValue "gatewayId"
    let devices ← memberArray? targetValue "devices"
    if gatewayId = "" then some none
    else do
      let read ← (devices.getD []).mapM readDevice?
      let selected := read.filterMap id
      some (if selected = [] then none else some ⟨gatewayId, selected⟩)

def parseSyncConfigRequest? (root : Json) : Option (List SyncGatewaySelection) := do
  let named ← hasType? root "sync_config_request"
  if !named then some []
  else do
    let targets ← memberArray? root "targets"
    let read ← (targets.getD []).mapM readTarget?
    some (read.filterMap id)

def parseHistoryQuery? (root : Json) : Option (Option HistoryQuery) := do
  let named ← hasType? root "query_history"
  if !named then some none
  else do
    let pointId ← getJsonString? root "pointId"
    let earliest ← getJsonInt64? root "from" 0
    let startMs ← getJsonInt64? root "startMs" earliest
    let latest ← getJsonInt64? root "to" 0
    let endMs ← getJsonInt64? root "endMs" latest
    let limit ← getJsonInt? root "limit" 1000
    some (if pointId = "" then none else some ⟨pointId, startMs, endMs, limit⟩)

def parseAckAlarmRequest? (root : Json) : Option (Option String) := do
  let named ← hasType? root "ack_alarm"
  if !named then some none
  else do
    let alarmId ← getJsonString? root "alarm_id"
    let other ← getJsonString? root "alarmId"
    some (some (orElse alarmId other))

def parseDeleteDeviceRequest? (root : Json) : Option (Option DeviceKey) := do
  let named ← hasType? root "delete_device_data"
  if !named then some none
  else do
    let gatewayId ← getJsonString? root "gatewayId"
    let otherGatewayId ← getJsonString? root "gateway_id"
    let portId ← getJsonString? root "portId"
    let otherPortId ← getJsonString? root "port_id"
    let otherDeviceId ← getJsonInt? root "device_id" 0
    let deviceId ← getJsonInt? root "deviceId" otherDeviceId
    some (deviceKey? (orElse gatewayId otherGatewayId) (orElse portId otherPortId) deviceId)

def parseDeleteMasterRequest? (root : Json) : Option (Option (String × String)) := do
  let named ← hasType? root "delete_master_data"
  let gatewayId ← getJsonString? root "gatewayId"
  let otherGatewayId ← getJsonString? root "gateway_id"
  let portId ← getJsonString? root "portId"
  let otherPortId ← getJsonString? root "port_id"
  some (if !named ∨ orElse gatewayId otherGatewayId = "" ∨ orElse portId otherPortId = "" then none
    else some (orElse gatewayId otherGatewayId, orElse portId otherPortId))

def parseSaveMqttConfigRequest? (root : Json) : Option (Option (Except String (String × Int))) := do
  let named ← hasType? root "save_mqtt_config"
  if !named then some none
  else do
    let host ← getJsonString? root "host"
    let port ← getJsonInt? root "port" 0
    some (some (if host = "" then .error "host_empty"
      else if port < 1 ∨ 65535 < port then .error "port_invalid"
      else .ok (host, port)))

/-! ## When the readers succeed -/

/-- The devices of a target are read if the target names its gateway. -/
def TargetFits (targetValue : Json) : Prop :=
  getJsonString targetValue "gatewayId" ≠ "" ->
    forall devices, memberArray targetValue "devices" = some devices ->
      forall deviceValue, deviceValue ∈ devices -> IntFits deviceValue "deviceId"

def SyncRequestFits (root : Json) : Prop :=
  forall targets, memberArray root "targets" = some targets ->
    forall targetValue, targetValue ∈ targets -> TargetFits targetValue

def HistoryQueryFits (root : Json) : Prop :=
  Int64Fits root "from" ∧ Int64Fits root "startMs" ∧ Int64Fits root "to" ∧
    Int64Fits root "endMs" ∧ IntFits root "limit"

def DeleteDeviceFits (root : Json) : Prop :=
  IntFits root "device_id" ∧ IntFits root "deviceId"

/-- The requests that are recognised by their type. -/
structure RequestFits (root : Json) : Prop where
  sync : hasType root "sync_config_request" = true -> SyncRequestFits root
  history : hasType root "query_history" = true -> HistoryQueryFits root
  deleteDevice : hasType root "delete_device_data" = true -> DeleteDeviceFits root
  saveMqtt : hasType root "save_mqtt_config" = true -> IntFits root "port"

/-! ## The reads -/

@[simp]
theorem hasType?_eq (root : Json) (type : String) :
    hasType? root type = some (hasType root type) := by
  unfold hasType?
  rw [getJsonString?_eq]
  rfl

theorem parseAckAlarmRequest?_runs (root : Json) :
    RunsTo (parseAckAlarmRequest? root) (hasType root "ack_alarm" = true -> True)
      (parseAckAlarmRequest root) := by
  unfold parseAckAlarmRequest? parseAckAlarmRequest
  simp only [hasType?_eq, getJsonString?_eq, RunsTo.some_bind]
  cases hasType root "ack_alarm" with
  | true => exact (RunsTo.of_some _).congr (by simp) fun _ => rfl
  | false => exact (RunsTo.of_some _).congr (by simp) fun _ => rfl

theorem parseDeleteMasterRequest?_runs (root : Json) :
    RunsTo (parseDeleteMasterRequest? root) (hasType root "delete_master_data" = true -> True)
      (parseDeleteMasterRequest root) := by
  unfold parseDeleteMasterRequest? parseDeleteMasterRequest hasType?
  simp only [getJsonString?_eq, RunsTo.some_bind, Bool.not_eq_true', decide_eq_false_iff_not]
  exact (RunsTo.of_some _).congr (by simp) fun _ => rfl

/-- What the parts of a list are made of, in one pass. -/
theorem filter_map_filter {α β : Type} (keep : α -> Bool) (f : α -> β) (accept : β -> Bool)
    (items : List α) :
    ((items.filter keep).map f).filter accept =
      items.filterMap fun item => if keep item && accept (f item) then some (f item) else none := by
  induction items with
  | nil => rfl
  | cons item items ih =>
      rw [List.filterMap_cons, ← ih, List.filter_cons]
      cases keep item with
      | false => rfl
      | true =>
          rw [if_pos rfl, List.map_cons, List.filter_cons, Bool.true_and]
          cases accept (f item) <;> rfl

def selectedDevice (deviceValue : Json) : Option SyncSelectedDevice :=
  if deviceValue.isObj && (getJsonString deviceValue "portId" ≠ "" &&
      0 < getJsonInt deviceValue "deviceId" 0) then
    some ⟨getJsonString deviceValue "portId", getJsonInt deviceValue "deviceId" 0⟩
  else none

theorem readDevice?_runs (deviceValue : Json) :
    RunsTo (readDevice? deviceValue) (IntFits deviceValue "deviceId")
      (selectedDevice deviceValue) := by
  unfold readDevice? selectedDevice
  cases isObj : deviceValue.isObj with
  | false =>
      apply (RunsTo.of_some none).congr
      · refine iff_of_true trivial ?_
        intro value found
        rw [lookup_of_no_obj isObj] at found
        cases found
      · exact fun _ => rfl
  | true =>
      simp only [getJsonString?_eq, RunsTo.some_bind, Bool.not_true, Bool.false_eq_true, if_false]
      apply ((getJsonInt?_runs deviceValue "deviceId" 0).map _).congr Iff.rfl
      intro _
      simp only [Bool.true_and, Bool.and_eq_true, decide_eq_true_eq]

theorem devices_parseSelection (targetValue : Json) :
    (parseSelection targetValue).devices =
      ((memberArray targetValue "devices").getD []).filterMap selectedDevice :=
  filter_map_filter _ _ _ _

def selectedTarget (targetValue : Json) : Option SyncGatewaySelection :=
  if targetValue.isObj && (getJsonString targetValue "gatewayId" ≠ "" &&
      !(parseSelection targetValue).devices.isEmpty) then some (parseSelection targetValue)
  else none

theorem readTarget?_runs (targetValue : Json) :
    RunsTo (readTarget? targetValue) (TargetFits targetValue) (selectedTarget targetValue) := by
  unfold readTarget? selectedTarget TargetFits
  cases isObj : targetValue.isObj with
  | false =>
      apply (RunsTo.of_some none).congr
      · refine iff_of_true trivial ?_
        intro _ devices listed
        rw [memberArray, lookup_of_no_obj isObj] at listed
        cases listed
      · exact fun _ => rfl
  | true =>
      simp only [getJsonString?_eq, memberArray?_eq, RunsTo.some_bind, Bool.not_true,
        Bool.false_eq_true, if_false]
      by_cases unnamed : getJsonString targetValue "gatewayId" = ""
      · rw [if_pos unnamed]
        exact (RunsTo.of_some none).congr (by simp [unnamed]) fun _ => by simp [unnamed]
      · have devices := RunsTo.mapM fun deviceValue
            (_ : deviceValue ∈ (memberArray targetValue "devices").getD []) =>
          readDevice?_runs deviceValue
        rw [if_neg unnamed]
        apply (devices.map _).congr
        · cases memberArray targetValue "devices" with
          | none => simp
          | some devices => simp [unnamed]
        · intro _
          have same : (((memberArray targetValue "devices").getD []).map selectedDevice).filterMap id =
              (parseSelection targetValue).devices := by
            rw [devices_parseSelection, List.filterMap_map]
            rfl
          simp only [same]
          by_cases nothing : (parseSelection targetValue).devices = []
          · rw [if_pos nothing, nothing, if_neg (by simp)]
          · rw [if_neg nothing, if_pos (by simp [unnamed, nothing])]
            rfl

theorem parseSyncConfigRequest?_runs (root : Json) :
    RunsTo (parseSyncConfigRequest? root)
      (hasType root "sync_config_request" = true -> SyncRequestFits root)
      (parseSyncConfigRequest root) := by
  unfold parseSyncConfigRequest? parseSyncConfigRequest
  simp only [hasType?_eq, memberArray?_eq, RunsTo.some_bind]
  cases named : hasType root "sync_config_request" with
  | false =>
      have other : getJsonString root "type" ≠ "sync_config_request" := of_decide_eq_false named
      rw [if_pos other]
      exact (RunsTo.of_some []).congr (by simp) fun _ => rfl
  | true =>
      have same : getJsonString root "type" = "sync_config_request" := of_decide_eq_true named
      rw [if_neg (not_not.mpr same)]
      have targets := RunsTo.mapM fun targetValue
          (_ : targetValue ∈ (memberArray root "targets").getD []) => readTarget?_runs targetValue
      apply (targets.map _).congr
      · unfold SyncRequestFits
        cases memberArray root "targets" <;> simp
      · intro _
        rw [List.filterMap_map]
        exact (filter_map_filter Json.isObj parseSelection
          (fun target => target.gatewayId ≠ "" && !target.devices.isEmpty) _).symm

theorem parseHistoryQuery?_runs (root : Json) :
    RunsTo (parseHistoryQuery? root) (hasType root "query_history" = true -> HistoryQueryFits root)
      (parseHistoryQuery root) := by
  unfold parseHistoryQuery? parseHistoryQuery
  simp only [hasType?_eq, getJsonString?_eq, RunsTo.some_bind]
  cases hasType root "query_history" with
  | false => exact (RunsTo.of_some none).congr (by simp) fun _ => rfl
  | true =>
      apply ((getJsonInt64?_runs root "from" 0).bind ((getJsonInt64?_runs root "startMs" _).bind
        ((getJsonInt64?_runs root "to" 0).bind ((getJsonInt64?_runs root "endMs" _).bind
          ((getJsonInt?_runs root "limit" 1000).map _))))).congr
      · exact ⟨fun fits _ => fits, fun fits => fits rfl⟩
      · intro _
        simp only [Bool.not_true, Bool.false_or, decide_eq_true_eq]

theorem parseDeleteDeviceRequest?_runs (root : Json) :
    RunsTo (parseDeleteDeviceRequest? root)
      (hasType root "delete_device_data" = true -> DeleteDeviceFits root)
      (parseDeleteDeviceRequest root) := by
  unfold parseDeleteDeviceRequest? parseDeleteDeviceRequest
  simp only [hasType?_eq, getJsonString?_eq, RunsTo.some_bind]
  cases named : hasType root "delete_device_data" with
  | false =>
      have other : getJsonString root "type" ≠ "delete_device_data" := of_decide_eq_false named
      rw [if_pos other]
      exact (RunsTo.of_some none).congr (by simp) fun _ => rfl
  | true =>
      have same : getJsonString root "type" = "delete_device_data" := of_decide_eq_true named
      rw [if_neg (not_not.mpr same)]
      apply ((getJsonInt?_runs root "device_id" 0).bind
        ((getJsonInt?_runs root "deviceId" _).map _)).congr
      · exact ⟨fun fits _ => fits, fun fits => fits rfl⟩
      · exact fun _ => rfl

theorem parseSaveMqttConfigRequest?_runs (root : Json) :
    RunsTo (parseSaveMqttConfigRequest? root)
      (hasType root "save_mqtt_config" = true -> IntFits root "port")
      (parseSaveMqttConfigRequest root) := by
  unfold parseSaveMqttConfigRequest? parseSaveMqttConfigRequest
  simp only [hasType?_eq, getJsonString?_eq, RunsTo.some_bind]
  cases hasType root "save_mqtt_config" with
  | false => exact (RunsTo.of_some none).congr (by simp) fun _ => rfl
  | true =>
      apply ((getJsonInt?_runs root "port" 0).map _).congr
      · exact ⟨fun fits _ => fits, fun fits => fits rfl⟩
      · intro _
        simp only [Bool.not_true, Bool.false_eq_true, if_false]
        split_ifs <;> rfl

/-! ## The handler -/

/-- What `handle` does with a message it has read. -/
inductive IpcAction where
  | syncConfig (targets : List SyncGatewaySelection)
  | refuseSync
  | queryHistory (query : HistoryQuery)
  | refuseHistory (pointId : String)
  | getAlarmEvents
  | ackAlarm (alarmId : String)
  | deleteDeviceData (key : DeviceKey)
  | deleteMasterData (gatewayId portId : String)
  | clearRecoveredAlarms
  | clearAcknowledgedAlarms
  | clearAllData
  | getMqttConfig
  | saveMqttConfig (settings : Except String (String × Int))
  | snapshot (request : IpcRequest)
  | command (forward : Forward)
  | unsupported

/-- One of the tests that `handle` makes in turn.  It accepts messages of its
type only, and reads nothing of the others but their type. -/
structure Reader where
  type : String
  read? : Json -> Option (Option IpcAction)
  read : Json -> Option IpcAction
  fits : Json -> Prop
  runs : forall root, RunsTo (read? root) (hasType root type = true -> fits root) (read root)
  typed : forall root, (read root).isSome = true -> hasType root type = true

namespace Reader

/-- A test of the type alone. -/
def ofType (type : String) (action : Json -> IpcAction) : Reader where
  type := type
  read? root := do
    let named ← hasType? root type
    some (if named then some (action root) else none)
  read root := if hasType root type then some (action root) else none
  fits _ := True
  runs root := by
    rw [hasType?_eq, RunsTo.some_bind]
    exact (RunsTo.of_some _).congr (by simp) fun _ => rfl
  typed root accepted := by
    by_contra other
    rw [if_neg other] at accepted
    cases accepted

/-- A parser whose result is put to use. -/
def ofParser {α : Type} (type : String) (parse? : Json -> Option (Option α))
    (parse : Json -> Option α) (action : α -> IpcAction) (fits : Json -> Prop)
    (runs : forall root, RunsTo (parse? root) (hasType root type = true -> fits root) (parse root))
    (typed : forall root, (parse root).isSome = true -> hasType root type = true) : Reader where
  type := type
  read? root := do
    let found ← parse? root
    some (found.map action)
  read root := (parse root).map action
  fits := fits
  runs root := (runs root).map (Option.map action)
  typed root accepted := typed root (by rwa [Option.isSome_map] at accepted)

end Reader

/-- The targets of a request that selects something. -/
def selectedTargets (root : Json) : Option (List SyncGatewaySelection) :=
  if parseSyncConfigRequest root = [] then none else some (parseSyncConfigRequest root)

def selectedTargets? (root : Json) : Option (Option (List SyncGatewaySelection)) := do
  let targets ← parseSyncConfigRequest? root
  some (if targets = [] then none else some targets)

theorem selectedTargets?_runs (root : Json) :
    RunsTo (selectedTargets? root)
      (hasType root "sync_config_request" = true -> SyncRequestFits root) (selectedTargets root) :=
  (parseSyncConfigRequest?_runs root).map _

theorem typed_selectedTargets (root : Json) (accepted : (selectedTargets root).isSome = true) :
    hasType root "sync_config_request" = true := by
  by_contra other
  have unnamed : getJsonString root "type" ≠ "sync_config_request" := by
    intro same
    exact other (decide_eq_true same)
  have nothing : parseSyncConfigRequest root = [] := if_pos unnamed
  rw [selectedTargets, if_pos nothing] at accepted
  cases accepted

theorem typed_parseHistoryQuery (root : Json) (accepted : (parseHistoryQuery root).isSome = true) :
    hasType root "query_history" = true := by
  by_contra other
  rw [parseHistoryQuery, if_pos (by simp [other])] at accepted
  cases accepted

theorem typed_parseAckAlarmRequest (root : Json)
    (accepted : (parseAckAlarmRequest root).isSome = true) : hasType root "ack_alarm" = true := by
  by_contra other
  rw [parseAckAlarmRequest, if_neg other] at accepted
  cases accepted

theorem typed_parseDeleteDeviceRequest (root : Json)
    (accepted : (parseDeleteDeviceRequest root).isSome = true) :
    hasType root "delete_device_data" = true := by
  by_contra other
  rw [parseDeleteDeviceRequest, if_pos (fun same => other (decide_eq_true same))] at accepted
  cases accepted

theorem typed_parseDeleteMasterRequest (root : Json)
    (accepted : (parseDeleteMasterRequest root).isSome = true) :
    hasType root "delete_master_data" = true := by
  by_contra other
  unfold parseDeleteMasterRequest at accepted
  dsimp only at accepted
  rw [if_pos (Or.inl fun same => other (decide_eq_true same))] at accepted
  cases accepted

theorem typed_parseSaveMqttConfigRequest (root : Json)
    (accepted : (parseSaveMqttConfigRequest root).isSome = true) :
    hasType root "save_mqtt_config" = true := by
  rwa [isSome_parseSaveMqttConfigRequest] at accepted

/-- The tests of `handle` in their order. -/
def readers : List Reader :=
  [.ofParser "sync_config_request" selectedTargets? selectedTargets .syncConfig SyncRequestFits
      selectedTargets?_runs typed_selectedTargets,
    .ofType "sync_config_request" fun _ => .refuseSync,
    .ofParser "query_history" parseHistoryQuery? parseHistoryQuery .queryHistory HistoryQueryFits
      parseHistoryQuery?_runs typed_parseHistoryQuery,
    .ofType "query_history" fun root => .refuseHistory (getJsonString root "pointId"),
    .ofType "get_alarm_events" fun _ => .getAlarmEvents,
    .ofParser "ack_alarm" parseAckAlarmRequest? parseAckAlarmRequest .ackAlarm (fun _ => True)
      parseAckAlarmRequest?_runs typed_parseAckAlarmRequest,
    .ofParser "delete_device_data" parseDeleteDeviceRequest? parseDeleteDeviceRequest
      .deleteDeviceData DeleteDeviceFits parseDeleteDeviceRequest?_runs
      typed_parseDeleteDeviceRequest,
    .ofParser "delete_master_data" parseDeleteMasterRequest? parseDeleteMasterRequest
      (fun port => .deleteMasterData port.1 port.2) (fun _ => True) parseDeleteMasterRequest?_runs
      typed_parseDeleteMasterRequest,
    .ofType "clear_recovered_alarms" fun _ => .clearRecoveredAlarms,
    .ofType "clear_acknowledged_alarms" fun _ => .clearAcknowledgedAlarms,
    .ofType "clear_all_data" fun _ => .clearAllData,
    .ofType "get_mqtt_config" fun _ => .getMqttConfig,
    .ofParser "save_mqtt_config" parseSaveMqttConfigRequest? parseSaveMqttConfigRequest
      .saveMqttConfig (fun root => IntFits root "port") parseSaveMqttConfigRequest?_runs
      typed_parseSaveMqttConfigRequest]

def parsedAction? (root : Json) : Option (Option IpcAction) :=
  firstOf? (readers.map fun reader => reader.read? root)

def parsedAction (root : Json) : Option IpcAction :=
  readers.findSome? fun reader => reader.read root

/-- `IpcMessageHandler::handle` up to what it does; `none` is a message at
which it does not return. -/
def handle? (pc : JsonCodec) (context : CommandContext) (msg : String) : Option IpcAction := do
  let parsed ← parsedAction? ((parseObject pc msg).getD .null)
  match parsed with
  | some action => some action
  | none =>
      match searchedRequest msg with
      | some .command => do
          let forward ← handleCommand? context ((pc.parse msg).getD .null)
            (extractJsonStringValue msg "cmd_id")
          some (.command forward)
      | some request => some (.snapshot request)
      | none => some .unsupported

/-- The same without the checks. -/
def handleUnchecked (pc : JsonCodec) (context : CommandContext) (msg : String) : IpcAction :=
  match parsedAction ((parseObject pc msg).getD .null) with
  | some action => action
  | none =>
      match searchedRequest msg with
      | some .command => .command (handleCommand context ((pc.parse msg).getD .null)
          (extractJsonStringValue msg "cmd_id"))
      | some request => .snapshot request
      | none => .unsupported

/-- Everything the handler reads of the message can be read. -/
structure MessageFits (pc : JsonCodec) (context : CommandContext) (msg : String) : Prop where
  request : RequestFits ((parseObject pc msg).getD .null)
  command : handledAs pc msg = some .command ->
    CommandFits context ((pc.parse msg).getD .null) (extractJsonStringValue msg "cmd_id")

/-! ## When the handler returns -/

theorem hasType_unique {root : Json} {first second : String} (one : hasType root first = true)
    (other : hasType root second = true) : first = second :=
  (of_decide_eq_true one).symm.trans (of_decide_eq_true other)

/-- Two tests of one type do not both read integers. -/
theorem readers_alone (root : Json) :
    readers.Pairwise fun earlier later => earlier.type ≠ later.type ∨ later.fits root := by
  simp [readers, Reader.ofParser, Reader.ofType]

theorem readers_fit_iff (root : Json) :
    (forall reader, reader ∈ readers -> hasType root reader.type = true -> reader.fits root) ↔
      RequestFits root := by
  constructor
  · intro fits
    simp only [readers, List.forall_mem_cons, Reader.ofParser] at fits
    rcases fits with ⟨sync, -, history, -, -, -, deleteDevice, -, -, -, -, -, saveMqtt, -⟩
    exact ⟨sync, history, deleteDevice, saveMqtt⟩
  · intro fits
    simp only [readers, List.forall_mem_cons, Reader.ofParser, Reader.ofType]
    exact ⟨fits.sync, fun _ => trivial, fits.history, fun _ => trivial, fun _ => trivial,
      fun _ => trivial, fits.deleteDevice, fun _ => trivial, fun _ => trivial, fun _ => trivial,
      fun _ => trivial, fun _ => trivial, fits.saveMqtt, fun _ inside => absurd inside
        List.not_mem_nil⟩

theorem parsedAction?_runs (root : Json) :
    RunsTo (parsedAction? root) (RequestFits root) (parsedAction root) := by
  apply (RunsTo.firstOf (fun reader _ => reader.runs root) ?_).congr
  · exact readers_fit_iff root
  · exact fun _ => rfl
  · apply (readers_alone root).imp
    intro earlier later alone accepted named
    rcases alone with different | fits
    · exact absurd (hasType_unique (earlier.typed root accepted) named) different
    · exact fits

/-- The request that an action serves. -/
def IpcAction.request : IpcAction -> Option IpcRequest
  | .syncConfig _ => some .syncConfig
  | .refuseSync => some .syncConfig
  | .queryHistory _ => some .queryHistory
  | .refuseHistory _ => some .queryHistory
  | .getAlarmEvents => some .getAlarmEvents
  | .ackAlarm _ => some .ackAlarm
  | .deleteDeviceData _ => some .deleteDeviceData
  | .deleteMasterData _ _ => some .deleteMasterData
  | .clearRecoveredAlarms => some .clearRecoveredAlarms
  | .clearAcknowledgedAlarms => some .clearAcknowledgedAlarms
  | .clearAllData => some .clearAllData
  | .getMqttConfig => some .getMqttConfig
  | .saveMqttConfig _ => some .saveMqttConfig
  | .snapshot request => some request
  | .command _ => some .command
  | .unsupported => none

/-- The request of the first test that accepts the message. -/
def acceptedRequest (tests : List Reader) (root : Json) : Option IpcRequest :=
  (tests.findSome? fun reader => reader.read root).bind IpcAction.request

theorem acceptedRequest_ofType (type : String) (action : Json -> IpcAction)
    (rest : List Reader) (root : Json) :
    acceptedRequest (.ofType type action :: rest) root =
      if hasType root type then (action root).request else acceptedRequest rest root := by
  unfold acceptedRequest
  have here : (Reader.ofType type action).read root =
      if hasType root type then some (action root) else none := rfl
  rw [List.findSome?_cons, here]
  cases hasType root type <;> rfl

theorem acceptedRequest_ofParser {α : Type} {type : String}
    {parse? : Json -> Option (Option α)} {parse : Json -> Option α} {action : α -> IpcAction}
    {fits : Json -> Prop}
    {runs : forall root, RunsTo (parse? root) (hasType root type = true -> fits root) (parse root)}
    {typed : forall root, (parse root).isSome = true -> hasType root type = true}
    (request : IpcRequest) (serves : forall found, (action found).request = some request)
    (rest : List Reader) (root : Json) :
    acceptedRequest (.ofParser type parse? parse action fits runs typed :: rest) root =
      if (parse root).isSome then some request else acceptedRequest rest root := by
  unfold acceptedRequest
  have here : (Reader.ofParser type parse? parse action fits runs typed).read root =
      (parse root).map action := rfl
  rw [List.findSome?_cons, here]
  cases parse root with
  | none => rfl
  | some found => exact serves found

/-- The tests accept a message for the request it is parsed as. -/
theorem request_parsedAction (root : Json) :
    (parsedAction root).bind IpcAction.request = parsedRequest root := by
  change acceptedRequest readers root = parsedRequest root
  have selects : (selectedTargets root).isSome = true ↔ parseSyncConfigRequest root ≠ [] := by
    unfold selectedTargets
    split <;> simp [*]
  unfold readers parsedRequest
  rw [acceptedRequest_ofParser .syncConfig (fun _ => rfl), acceptedRequest_ofType,
    acceptedRequest_ofParser .queryHistory (fun _ => rfl), acceptedRequest_ofType,
    acceptedRequest_ofType, acceptedRequest_ofParser .ackAlarm (fun _ => rfl),
    acceptedRequest_ofParser .deleteDeviceData (fun _ => rfl),
    acceptedRequest_ofParser .deleteMasterData (fun _ => rfl), acceptedRequest_ofType,
    acceptedRequest_ofType, acceptedRequest_ofType, acceptedRequest_ofType,
    acceptedRequest_ofParser .saveMqttConfig (fun _ => rfl)]
  simp only [selects]
  rfl

/-- Every action of the tests serves a request, and none is a command. -/
theorem request_of_parsedAction {root : Json} {action : IpcAction}
    (accepted : parsedAction root = some action) :
    action.request.isSome = true ∧ action.request ≠ some .command := by
  have serves : forall reader, reader ∈ readers -> forall action, reader.read root = some action ->
      action.request.isSome = true ∧ action.request ≠ some .command := by
    simp [readers, Reader.ofParser, Reader.ofType, IpcAction.request]
    rintro action gatewayId portId - rfl
    exact ⟨rfl, fun same => by cases same⟩
  rcases List.exists_of_findSome?_eq_some accepted with ⟨reader, inside, read⟩
  exact serves reader inside action read

theorem request_handleUnchecked (pc : JsonCodec) (context : CommandContext) (msg : String) :
    (handleUnchecked pc context msg).request = handledAs pc msg := by
  unfold handleUnchecked handledAs
  rw [← request_parsedAction]
  cases accepted : parsedAction ((parseObject pc msg).getD .null) with
  | some action =>
      rcases Option.isSome_iff_exists.mp (request_of_parsedAction accepted).1 with
        ⟨request, served⟩
      rw [Option.bind_some, served]
  | none =>
      rw [Option.bind_none]
      cases searchedRequest msg with
      | none => rfl
      | some request => cases request <;> rfl

/-- The handler returns exactly if what it reaches can be read. -/
theorem handle?_runs (pc : JsonCodec) (context : CommandContext) (msg : String) :
    RunsTo (handle? pc context msg) (MessageFits pc context msg)
      (handleUnchecked pc context msg) := by
  have served := request_handleUnchecked pc context msg
  have reached : RunsTo (handle? pc context msg)
      (RequestFits ((parseObject pc msg).getD .null) ∧
        ((handleUnchecked pc context msg).request = some .command ->
          CommandFits context ((pc.parse msg).getD .null) (extractJsonStringValue msg "cmd_id")))
      (handleUnchecked pc context msg) := by
    apply (parsedAction?_runs ((parseObject pc msg).getD .null)).bind
    have passes : forall (action : IpcAction) (fits : Prop), action.request ≠ some .command ->
        RunsTo (some action) (action.request = some .command -> fits) action :=
      fun action fits other =>
        (RunsTo.of_some action).congr (iff_of_true trivial fun same => absurd same other)
          fun _ => rfl
    unfold handleUnchecked
    cases accepted : parsedAction ((parseObject pc msg).getD .null) with
    | some action => exact passes action _ (request_of_parsedAction accepted).2
    | none =>
        dsimp only
        split
        · have command := handleCommand?_runs context ((pc.parse msg).getD .null)
            (extractJsonStringValue msg "cmd_id")
          exact (command.map IpcAction.command).congr
            ⟨fun fits _ => fits, fun fits => fits rfl⟩ fun _ => rfl
        · rename_i request other _
          exact passes (.snapshot request) _ fun same => other (Option.some.inj same)
        · exact passes .unsupported _ fun same => by cases same
  rw [served] at reached
  exact reached.congr ⟨fun both => ⟨both.1, both.2⟩, fun fits => ⟨fits.request, fits.command⟩⟩
    fun _ => rfl

/-- A message is handled to its end exactly if what the handler reaches of it
can be read, and then it is handled as the branches say. -/
theorem returns_iff_readable (pc : JsonCodec) (context : CommandContext) (msg : String) :
    ((handle? pc context msg).isSome = true ↔ MessageFits pc context msg) ∧
      (MessageFits pc context msg ->
        handle? pc context msg = some (handleUnchecked pc context msg)) :=
  ⟨(handle?_runs pc context msg).isSome_iff, (handle?_runs pc context msg).run_eq⟩

/-! ## Messages that end the program -/

def portCommand (cmd portId : String) (more : List (String × Json)) : String :=
  (JsonText.codec true).print (Json.obj ([("type", .str "command"), ("cmd", .str cmd),
    ("cmd_id", .str "c1"), ("seq", .int 1), ("gatewayId", .str "g1"),
    ("portId", .str portId), ("deviceId", .int 1)] ++ more))

/-- `std::stoi` throws on the digits of a port, `GetInt` asserts on a state that
is a text, and an identifier is too large for its type. -/
theorem unreadable_messages :
    (handle? (JsonText.codec true) ⟨false, false, 0⟩
      (portCommand "remove_device" "p99999999999" [])).isSome = false ∧
    (handle? (JsonText.codec true) ⟨false, false, 0⟩
      (portCommand "set_relay" "p1" [("slot", .int 0), ("states", .arr [.str "on"])])).isSome =
        false ∧
    (handle? (JsonText.codec true) ⟨false, false, 0⟩
      ((JsonText.codec true).print (.obj [("type", .str "delete_device_data"),
        ("deviceId", .int 3000000000)]))).isSome = false :=
  ⟨by decide +kernel, by decide +kernel, by decide +kernel⟩

end Pc
end Imx6Gateway
