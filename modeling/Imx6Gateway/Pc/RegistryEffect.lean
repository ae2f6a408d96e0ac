import Imx6Gateway.Pc.Registered
import Imx6Gateway.Pc.UserRequest

namespace Imx6Gateway
namespace Pc

open Library

/-!
# What a step makes of the devices

A step of Pc_data can do one of eight things to the devices and to the latest
points, or nothing.  `effectOf` reads which one from the event and the state
before the step, with the parsers and checks of the branch that takes the
event; `step_effect` says that the step does nothing else to them.
-/

inductive RegistryEffect where
  | none
  | delete (nowMs : Int) (gatewayId portId : String) (deviceId : Int)
  | deleteMaster (nowMs : Int) (gatewayId portId : String)
  | restore (nowMs : Int) (gatewayId portId : String) (deviceId : Int)
  | clear
  | snapshot (nowMs : Int) (gatewayId : String) (entries : ConfigSnapshot) (fullSnapshot : Bool)
  | selection (nowMs : Int) (pending : SyncGatewayPending) (entries : ConfigSnapshot)
  | register (nowMs : Int) (details : DeviceDetails)
  | points (nowMs : Int) (received : List TelemetryPoint)

def RegistryEffect.run (state : PcData) : RegistryEffect -> PcData
  | .none => state
  | .delete nowMs gatewayId portId deviceId => state.deleteDevice nowMs gatewayId portId deviceId
  | .deleteMaster nowMs gatewayId portId => state.deleteMaster nowMs gatewayId portId
  | .restore nowMs gatewayId portId deviceId => state.restoreDevice nowMs gatewayId portId deviceId
  | .clear => state.clearAll
  | .snapshot nowMs gatewayId entries fullSnapshot =>
      (state.storeSnapshot nowMs gatewayId entries fullSnapshot).1
  | .selection nowMs pending entries => (state.storeSelection nowMs pending entries).1
  | .register nowMs details => (state.storeDevice nowMs details).1
  | .points nowMs received =>
      { state with service := state.service.handleTelemetryPoints nowMs received }

namespace Database

/-- The table of devices is that of before, and no outcome has been added. -/
structure SameDevices (database after : Database) : Prop where
  devices : after.devices = database.devices
  isOpen : after.isOpen = database.isOpen
  outcomes : database.outcomes = [] -> after.outcomes = []

theorem SameDevices.refl (database : Database) : database.SameDevices database :=
  ⟨rfl, rfl, id⟩

theorem SameDevices.trans {database between after : Database}
    (first : database.SameDevices between) (second : between.SameDevices after) :
    database.SameDevices after :=
  ⟨second.devices.trans first.devices, second.isOpen.trans first.isOpen,
    fun none => second.outcomes (first.outcomes none)⟩

/-- A transaction on other tables, whether or not it is committed. -/
theorem transact_same (database : Database) (write : Write) {effect : Database -> Database}
    (devices : forall database, (effect database).devices = database.devices)
    (isOpen : forall database, (effect database).isOpen = database.isOpen)
    (outcomes : forall database, (effect database).outcomes = database.outcomes) :
    database.SameDevices (database.transact write effect).1 := by
  have consumed : database.outcomes = [] -> database.outcomes.tail = [] := by
    intro none
    rw [none, List.tail_nil]
  unfold transact
  split
  · exact ⟨devices _, isOpen _, fun none => (outcomes _).trans (consumed none)⟩
  · exact ⟨rfl, rfl, consumed⟩

theorem each_same {Item : Type} {operation : Database -> Item -> Database × Bool}
    (same : forall database item, SameDevices database (operation database item).1)
    (items : List Item) (database : Database) :
    database.SameDevices (database.each operation items).1 := by
  induction items generalizing database with
  | nil => exact SameDevices.refl database
  | cons item items ih =>
      rw [each_cons]
      exact (same database item).trans (ih (operation database item).1)

theorem upsertGatewayRegistry_same (database : Database) (registry : GatewayRegistry) :
    database.SameDevices (database.upsertGatewayRegistry registry).1 := by
  unfold upsertGatewayRegistry
  split
  · exact SameDevices.refl database
  · exact transact_same database _ (fun _ => rfl) (fun _ => rfl) (fun _ => rfl)

theorem upsertGatewayStatus_same (database : Database) (gateway : GatewayStatus) :
    database.SameDevices (database.upsertGatewayStatus gateway).1 := by
  unfold upsertGatewayStatus
  split
  · exact SameDevices.refl database
  · exact transact_same database _ (fun _ => rfl) (fun _ => rfl) (fun _ => rfl)

theorem updateGatewayRegistryHeartbeat_same (database : Database) (nowMs : Int)
    (gatewayId status : String) :
    database.SameDevices (database.updateGatewayRegistryHeartbeat nowMs gatewayId status).1 := by
  unfold updateGatewayRegistryHeartbeat
  split
  · exact SameDevices.refl database
  · exact transact_same database _ (fun _ => rfl) (fun _ => rfl) (fun _ => rfl)

theorem updateGatewayHeartbeat_same (database : Database) (nowMs : Int)
    (gatewayId status : String) :
    database.SameDevices (database.updateGatewayHeartbeat nowMs gatewayId status).1 := by
  unfold updateGatewayHeartbeat
  split
  · exact SameDevices.refl database
  · exact transact_same database _ (fun _ => rfl) (fun _ => rfl) (fun _ => rfl)

theorem upsertGatewayPort_same (database : Database) (port : GatewayPort) :
    database.SameDevices (database.upsertGatewayPort port).1 := by
  unfold upsertGatewayPort
  split
  · exact SameDevices.refl database
  · exact transact_same database _ (fun _ => rfl) (fun _ => rfl) (fun _ => rfl)

theorem saveAlarmEvent_same (database : Database) (event : AlarmEvent) :
    database.SameDevices (database.saveAlarmEvent event).1 := by
  unfold saveAlarmEvent
  split
  · exact SameDevices.refl database
  · exact transact_same database _ (fun _ => rfl) (fun _ => rfl) (fun _ => rfl)

theorem savePointConfigs_same (database : Database) (configs : List PointConfig) :
    database.SameDevices (database.savePointConfigs configs).1 := by
  unfold savePointConfigs
  split
  · exact SameDevices.refl database
  · split
    · exact SameDevices.refl database
    · exact transact_same database _ (fun _ => rfl) (fun _ => rfl) (fun _ => rfl)

theorem clearRuntimeData_same (database : Database) :
    database.SameDevices database.clearRuntimeData.1 := by
  unfold clearRuntimeData
  split
  · exact SameDevices.refl database
  · exact transact_same database _ (fun _ => rfl) (fun _ => rfl) (fun _ => rfl)

/-- Writing a point touches neither the devices nor the outcomes. -/
theorem saveTelemetryPoint_same (nowMs : Int) (database : Database) (point : TelemetryPoint) :
    (saveTelemetryPoint nowMs database point).devices = database.devices ∧
      (saveTelemetryPoint nowMs database point).isOpen = database.isOpen ∧
      (saveTelemetryPoint nowMs database point).outcomes = database.outcomes := by
  unfold saveTelemetryPoint
  split
  · exact ⟨rfl, rfl, rfl⟩
  · exact ⟨rfl, rfl, rfl⟩

theorem saveTelemetryPoints_same (database : Database) (nowMs : Int)
    (points : List TelemetryPoint) :
    database.SameDevices (database.saveTelemetryPoints nowMs points).1 := by
  have general : forall (accepted : List TelemetryPoint) (database : Database),
      (accepted.foldl (saveTelemetryPoint nowMs) database).devices = database.devices ∧
        (accepted.foldl (saveTelemetryPoint nowMs) database).isOpen = database.isOpen ∧
        (accepted.foldl (saveTelemetryPoint nowMs) database).outcomes = database.outcomes := by
    intro accepted
    induction accepted with
    | nil => exact fun _ => ⟨rfl, rfl, rfl⟩
    | cons point accepted ih =>
        intro database
        have first := saveTelemetryPoint_same nowMs database point
        have rest := ih (saveTelemetryPoint nowMs database point)
        exact ⟨rest.1.trans first.1, rest.2.1.trans first.2.1, rest.2.2.trans first.2.2⟩
  unfold saveTelemetryPoints
  split
  · exact SameDevices.refl database
  · split
    · exact SameDevices.refl database
    · exact transact_same database _ (fun _ => (general _ _).1) (fun _ => (general _ _).2.1)
        (fun _ => (general _ _).2.2)

end Database

namespace PcData

section Effects

variable (pc : JsonCodec) (nowMs : Int) (state : PcData)

def followUpEffect (root : Json) (completion : Completion) : RegistryEffect :=
  let target := completion.target
  let command := answeredCommand root target
  if completion.success ∧ command = "remove_device" ∧ target.commandType = "remove_device" then
    .delete nowMs target.gatewayId target.portId target.deviceId
  else if completion.success ∧ command = "add_device" ∧ target.commandType = "add_device" then
    .restore nowMs target.gatewayId target.portId target.deviceId
  else .none

def answerEffect (topic payload : String) : RegistryEffect :=
  match (handleAck pc state.service.pendingCommands topic payload).2, parseObject pc payload with
  | some completion, some root => followUpEffect nowMs root completion
  | _, _ => .none

/-- The snapshot of a message that has passed the checks of the branch. -/
def appliedEffect (root : Json) (waiting : Option SyncGatewayPending) (gatewayId : String) :
    RegistryEffect :=
  match parseConfigSnapshot nowMs root gatewayId
      ((waiting.map SyncGatewayPending.devices).getD []) with
  | none => .none
  | some snapshot =>
      if !state.database.isOpen then .none
      else
        match waiting with
        | some pending => .selection nowMs pending snapshot
        | none => .snapshot nowMs gatewayId snapshot (isFullSnapshot root)

def snapshotEffect (topic payload : String) : RegistryEffect :=
  if !isValidRegisterTopic topic then .none
  else
    match parseObject pc payload with
    | none => .none
    | some root =>
        if messageConfigVersion root ≤ 0 ∧ (root.lookup "fullSnapshot").isNone ∧
            (root.lookup "full_snapshot").isNone then .none
        else
          let waiting := state.service.findSyncPending (getJsonInt64 root "seq" 0)
          let gatewayId := match waiting with
            | some pending => pending.gatewayId
            | none => extractGatewayIdCompat root
          if gatewayId = "" then .none
          else if waiting.any fun pending => pending.devices.isEmpty then .none
          else state.appliedEffect nowMs root waiting gatewayId

def registerEffect (topic payload : String) : RegistryEffect :=
  if !isValidRegisterTopic topic then .none
  else
    match (parseObject pc payload).bind (parseDeviceRegister nowMs) with
    | none => .none
    | some details => .register nowMs details

def messageEffect (topic payload : String) : RegistryEffect :=
  let messageType := extractJsonStringValue payload "type"
  if messageType = "telemetry_pack" then .none
  else if isAlarmMessage payload then .none
  else if messageType = "gateway_register" then .none
  else if messageType = "gateway_heartbeat" ∨ messageType = "gateway_status" then .none
  else if messageType = "port_register" then .none
  else if messageType = "port_status" then .none
  else if isAnswer messageType then state.answerEffect pc nowMs topic payload
  else if messageType = "config_snapshot" ∨ messageType = "device_config_snapshot" then
    state.snapshotEffect pc nowMs topic payload
  else if messageType = "device_register" then registerEffect pc nowMs topic payload
  else .none

def requestEffect (text : String) : RegistryEffect :=
  match parseObject pc text with
  | none => .none
  | some root =>
      if parseSyncConfigRequest root ≠ [] then .none
      else
        match parseDeleteDeviceRequest root with
        | some key => .delete nowMs key.gatewayId key.portId key.deviceId
        | none =>
            match parseDeleteMasterRequest root with
            | some (gatewayId, portId) => .deleteMaster nowMs gatewayId portId
            | none => if parseClearAllDataRequest root then .clear else .none

variable (stod : String -> Option Rat)

def telemetryEffect : RegistryEffect :=
  match state.telemetryQueue with
  | [] => .none
  | message :: _ =>
      match parseJson stod pc nowMs message.payload with
      | .error _ => .none
      | .ok pack =>
          if !acceptsPack state.service message.topic pack then .none
          else .points nowMs (state.receivedPoints pc nowMs pack)

end Effects

def effectOf (pc : JsonCodec) (stod : String -> Option Rat) (state : PcData) :
    PcEvent -> RegistryEffect
  | .message nowMs topic payload => state.messageEffect pc nowMs topic payload
  | .request nowMs text => requestEffect pc nowMs text
  | .telemetryTurn nowMs => state.telemetryEffect pc nowMs stod
  | .command _ => .none
  | .writerTurn _ => .none
  | .syncTimeouts _ => .none

/-! ## The step does nothing else to the devices -/

structure SameDevices (state after : PcData) : Prop where
  database : state.database.SameDevices after.database
  service : state.service.SameDevices after.service

theorem SameDevices.refl (state : PcData) : state.SameDevices state :=
  ⟨Database.SameDevices.refl _, DataService.SameDevices.refl _⟩

theorem SameDevices.trans {state between after : PcData} (first : state.SameDevices between)
    (second : between.SameDevices after) : state.SameDevices after :=
  ⟨first.database.trans second.database, first.service.trans second.service⟩

/-- The effect and the handler take the same branch. -/
theorem SameDevices.ite {test : Prop} [Decidable test] {state : PcData}
    {effect other : RegistryEffect} {next last : PcData × List Publication}
    (holds : (effect.run state).SameDevices next.1)
    (fails : (other.run state).SameDevices last.1) :
    ((if test then effect else other).run state).SameDevices (if test then next else last).1 := by
  by_cases taken : test
  · rw [if_pos taken, if_pos taken]
    exact holds
  · rw [if_neg taken, if_neg taken]
    exact fails

section Branches

variable (pc : JsonCodec) (nowMs : Int) (state : PcData)

theorem storeGateway_same (database : Database) (details : GatewayDetails) :
    database.SameDevices (storeGateway database details).1 := by
  have registry := Database.upsertGatewayRegistry_same database details.registry
  have gateway : database.SameDevices (if (database.upsertGatewayRegistry details.registry).2 then
      (database.upsertGatewayRegistry details.registry).1.upsertGatewayStatus details.gateway
      else ((database.upsertGatewayRegistry details.registry).1, false)).1 := by
    split
    · exact registry.trans (Database.upsertGatewayStatus_same _ _)
    · exact registry
  unfold storeGateway
  split
  · exact Database.SameDevices.refl database
  · dsimp only
    generalize (if (database.upsertGatewayRegistry details.registry).2 then
      (database.upsertGatewayRegistry details.registry).1.upsertGatewayStatus details.gateway
      else ((database.upsertGatewayRegistry details.registry).1, false)) = stored at gateway ⊢
    split
    · exact gateway
    · exact gateway.trans (Database.each_same Database.upsertGatewayPort_same _ _)

theorem handleGatewayRegister_same (topic payload : String) :
    state.SameDevices (state.handleGatewayRegister pc nowMs topic payload).1 := by
  unfold handleGatewayRegister
  split
  · exact SameDevices.refl state
  · split
    · exact SameDevices.refl state
    · rename_i details _
      refine ⟨storeGateway_same state.database details, ?_⟩
      dsimp only [answered]
      split
      · exact ((DataService.rememberGatewayRegistry_same _ _).trans
          (DataService.rememberGatewayPorts_same _ _)).trans
          (DataService.updateGatewayStatus_same _ _)
      · exact DataService.SameDevices.refl _

theorem handleGatewayHeartbeat_same (messageType topic payload : String) :
    state.SameDevices (state.handleGatewayHeartbeat pc nowMs messageType topic payload) := by
  unfold handleGatewayHeartbeat
  dsimp only
  split
  · exact SameDevices.refl state
  · rename_i gateway _
    split
    · exact SameDevices.refl state
    · have registry := Database.updateGatewayRegistryHeartbeat_same state.database nowMs
        gateway.gatewayId gateway.status
      have service : forall stored : Bool, state.service.SameDevices
          (if stored then state.service.updateGatewayStatus gateway else state.service) := by
        intro stored
        cases stored with
        | false => exact DataService.SameDevices.refl _
        | true => exact DataService.updateGatewayStatus_same _ _
      refine ⟨?_, service _⟩
      dsimp only
      split
      · exact registry.trans (Database.updateGatewayHeartbeat_same _ _ _ _)
      · exact registry

theorem storePort_same (database : Database) (port : GatewayPort) (failure : String) :
    database.SameDevices (storePort database port failure).1 := by
  unfold storePort
  split
  · exact Database.SameDevices.refl database
  · exact Database.upsertGatewayPort_same database port

theorem answerPort_same (messageType payload : String) (port : GatewayPort)
    {stored : Database × Refusal} (same : state.database.SameDevices stored.1) :
    state.SameDevices (state.answerPort pc nowMs messageType payload port stored).1 := by
  refine ⟨same, ?_⟩
  dsimp only [answerPort, answered]
  split
  · exact DataService.updateGatewayPort_same _ _
  · exact DataService.SameDevices.refl _

theorem handlePortRegister_same (topic payload : String) :
    state.SameDevices (state.handlePortRegister pc nowMs topic payload).1 := by
  unfold handlePortRegister
  split
  · exact SameDevices.refl state
  · split
    · exact SameDevices.refl state
    · exact answerPort_same pc nowMs state _ _ _ (storePort_same _ _ _)

theorem handlePortStatus_same (topic payload : String) :
    state.SameDevices (state.handlePortStatus pc nowMs topic payload).1 := by
  unfold handlePortStatus
  split
  · exact SameDevices.refl state
  · split
    · exact SameDevices.refl state
    · apply answerPort_same
      split
      · exact Database.SameDevices.refl _
      · split
        · exact Database.SameDevices.refl _
        · exact storePort_same _ _ _

theorem handleThresholdConfig_same (payload : String) :
    state.SameDevices (state.handleThresholdConfig pc nowMs payload) := by
  unfold handleThresholdConfig
  split
  · exact SameDevices.refl state
  · split
    · exact SameDevices.refl state
    · refine ⟨Database.savePointConfigs_same _ _, ?_⟩
      dsimp only
      split
      · exact DataService.rememberPointConfigs_same _ _
      · exact DataService.SameDevices.refl _

theorem handleAlarm_same (stod : String -> Option Rat) (topic payload : String) :
    state.SameDevices (state.handleAlarm pc nowMs stod topic payload) := by
  unfold handleAlarm
  split
  · exact SameDevices.refl state
  · split
    · exact ⟨Database.saveAlarmEvent_same _ _, DataService.SameDevices.refl _⟩
    · exact SameDevices.refl state

theorem enqueueTelemetry_same (message : TelemetryMessage) :
    state.SameDevices (state.enqueueTelemetry message) :=
  ⟨Database.SameDevices.refl _, DataService.SameDevices.refl _⟩

theorem dbWriter_same : state.SameDevices (state.dbWriter nowMs) := by
  unfold dbWriter
  dsimp only
  split
  · exact ⟨Database.SameDevices.refl _, DataService.SameDevices.refl _⟩
  · exact ⟨Database.saveTelemetryPoints_same _ _ _, DataService.SameDevices.refl _⟩

theorem handleSync_same (targets : List SyncGatewaySelection) :
    state.SameDevices (state.handleSync pc nowMs targets).1 := by
  have general : forall (pending : List SyncGatewayPending) (begun : PcData × List Publication),
      begun.1.SameDevices (pending.foldl (requestSync pc) begun).1 := by
    intro pending
    induction pending with
    | nil => exact fun begun => SameDevices.refl begun.1
    | cons first pending ih =>
        intro begun
        have asked : begun.1.SameDevices (requestSync pc begun first).1 := by
          unfold requestSync
          split
          · exact SameDevices.refl begun.1
          · exact ⟨Database.SameDevices.refl _, ⟨rfl, rfl, rfl⟩⟩
        exact asked.trans (ih _)
  have begun := DataService.beginSyncConfigRequest_same state.service nowMs targets
  have first : state.SameDevices
      { state with service := (state.service.beginSyncConfigRequest nowMs targets).1 } :=
    ⟨Database.SameDevices.refl _, begun⟩
  exact first.trans (general (state.service.beginSyncConfigRequest nowMs targets).2
    ({ state with service := (state.service.beginSyncConfigRequest nowMs targets).1 }, []))

/-! ## Answers and snapshots -/

/-- The commands that wait make no difference to what follows from an answer. -/
theorem followUp_same (waiting : List PendingCommandTarget) (root : Json)
    (completion : Completion) :
    ((followUpEffect nowMs root completion).run state).SameDevices
      ({ state with service := { state.service with pendingCommands := waiting } }.followUp pc nowMs
        root completion).1 := by
  unfold followUp followUpEffect
  dsimp only
  split
  · refine ⟨Database.SameDevices.refl _, ?_⟩
    dsimp only [RegistryEffect.run, deleteDevice]
    split
    · unfold DataService.removeDeviceData
      split
      · exact ⟨rfl, rfl, rfl⟩
      · exact ⟨rfl, rfl, rfl⟩
    · exact ⟨rfl, rfl, rfl⟩
  · split
    · refine ⟨Database.SameDevices.refl _, ?_⟩
      dsimp only [RegistryEffect.run, restoreDevice]
      unfold DataService.forgetRemovedDevice
      split
      · exact ⟨rfl, rfl, rfl⟩
      · exact ⟨rfl, rfl, rfl⟩
    · exact ⟨Database.SameDevices.refl _, ⟨rfl, rfl, rfl⟩⟩

theorem handleAnswer_same (topic payload : String) :
    ((state.answerEffect pc nowMs topic payload).run state).SameDevices
      (state.handleAnswer pc nowMs topic payload).1 := by
  have nothing : forall waiting : List PendingCommandTarget, state.SameDevices
      { state with service := { state.service with pendingCommands := waiting } } :=
    fun _ => ⟨Database.SameDevices.refl _, ⟨rfl, rfl, rfl⟩⟩
  unfold handleAnswer answerEffect
  dsimp only
  generalize (handleAck pc state.service.pendingCommands topic payload).1 = waiting
  cases (handleAck pc state.service.pendingCommands topic payload).2 with
  | none => exact nothing waiting
  | some completion =>
      cases parseObject pc payload with
      | none => exact nothing waiting
      | some root => exact followUp_same pc nowMs state waiting root completion

theorem handleSnapshotOf_same (messageType : String) (root : Json)
    (waiting : Option SyncGatewayPending) (gatewayId : String) :
    ((state.appliedEffect nowMs root waiting gatewayId).run state).SameDevices
      (state.handleSnapshotOf pc nowMs messageType root waiting gatewayId).1 := by
  have completed : forall (state : PcData) (seq : Int), state.SameDevices
      (if waiting.isSome then { state with service := state.service.completeSyncConfig seq }
        else state) := by
    intro state seq
    split
    · exact ⟨Database.SameDevices.refl _, ⟨rfl, rfl, rfl⟩⟩
    · exact SameDevices.refl state
  unfold handleSnapshotOf appliedEffect
  dsimp only
  cases parseConfigSnapshot nowMs root gatewayId
      ((waiting.map SyncGatewayPending.devices).getD []) with
  | none => exact completed _ _
  | some snapshot =>
      cases opened : state.database.isOpen with
      | false => exact completed _ _
      | true =>
          cases waiting with
          | none => exact completed _ 0
          | some pending => exact completed _ _

theorem handleConfigSnapshot_same (messageType topic payload : String) :
    ((state.snapshotEffect pc nowMs topic payload).run state).SameDevices
      (state.handleConfigSnapshot pc nowMs messageType topic payload).1 := by
  unfold handleConfigSnapshot snapshotEffect
  split
  · exact SameDevices.refl state
  · cases parseObject pc payload with
    | none => exact SameDevices.refl state
    | some root =>
        dsimp only
        generalize state.service.findSyncPending (getJsonInt64 root "seq" 0) = waiting
        have checked : forall gatewayId : String,
            ((if gatewayId = "" then RegistryEffect.none
              else if waiting.any fun pending => pending.devices.isEmpty then .none
              else state.appliedEffect nowMs root waiting gatewayId).run state).SameDevices
            (if gatewayId = "" then
                state.answered pc nowMs (refusedSnapshot messageType gatewayId
                  (getJsonInt64 root "seq" 0) (messageConfigVersion root)
                  ⟨"missing_field", "config snapshot missing gatewayId"⟩)
              else if waiting.any fun pending => pending.devices.isEmpty then
                state.answered pc nowMs (refusedSnapshot messageType gatewayId
                  (getJsonInt64 root "seq" 0) (messageConfigVersion root)
                  ⟨"invalid_payload", "config snapshot pending devices empty"⟩)
              else state.handleSnapshotOf pc nowMs messageType root waiting gatewayId).1 := by
          intro gatewayId
          split
          · exact SameDevices.refl state
          · split
            · exact SameDevices.refl state
            · exact handleSnapshotOf_same pc nowMs state _ _ _ _
        split
        · exact SameDevices.refl state
        · cases waiting with
          | none => exact checked _
          | some pending => exact checked _

theorem handleDeviceRegister_same (topic payload : String) :
    ((registerEffect pc nowMs topic payload).run state).SameDevices
      (state.handleDeviceRegister pc nowMs topic payload).1 := by
  unfold handleDeviceRegister registerEffect
  split
  · exact SameDevices.refl state
  · cases (parseObject pc payload).bind (parseDeviceRegister nowMs) with
    | none => exact SameDevices.refl state
    | some details => exact SameDevices.refl _

variable (stod : String -> Option Rat)

theorem handle_same (topic payload : String) :
    ((state.messageEffect pc nowMs topic payload).run state).SameDevices
      (state.handle pc nowMs stod topic payload).1 := by
  unfold handle messageEffect
  dsimp only
  refine SameDevices.ite (enqueueTelemetry_same state _) ?_
  refine SameDevices.ite (handleAlarm_same pc nowMs state stod topic payload) ?_
  refine SameDevices.ite (handleGatewayRegister_same pc nowMs state topic payload) ?_
  refine SameDevices.ite (handleGatewayHeartbeat_same pc nowMs state _ topic payload) ?_
  refine SameDevices.ite (handlePortRegister_same pc nowMs state topic payload) ?_
  refine SameDevices.ite (handlePortStatus_same pc nowMs state topic payload) ?_
  refine SameDevices.ite (handleAnswer_same pc nowMs state topic payload) ?_
  refine SameDevices.ite (handleConfigSnapshot_same pc nowMs state _ topic payload) ?_
  refine SameDevices.ite (handleDeviceRegister_same pc nowMs state topic payload) ?_
  split
  · exact handleThresholdConfig_same pc nowMs state payload
  · exact SameDevices.refl state

theorem handleRequest_same (text : String) :
    ((requestEffect pc nowMs text).run state).SameDevices
      (state.handleRequest pc nowMs text).1 := by
  unfold handleRequest requestEffect
  cases parseObject pc text with
  | none => exact SameDevices.refl state
  | some root =>
      dsimp only
      split
      · exact handleSync_same pc nowMs state _
      · cases parseDeleteDeviceRequest root with
        | some key => exact SameDevices.refl _
        | none =>
            cases parseDeleteMasterRequest root with
            | some names => exact SameDevices.refl _
            | none =>
                dsimp only
                split
                · exact SameDevices.refl _
                · exact SameDevices.refl state

theorem telemetryWorker_same :
    ((state.telemetryEffect pc nowMs stod).run state).SameDevices
      (state.telemetryWorker pc nowMs stod).1 := by
  unfold telemetryWorker telemetryEffect
  cases state.telemetryQueue with
  | nil => exact SameDevices.refl state
  | cons message rest =>
      dsimp only [handleTelemetryMessage]
      cases parseJson stod pc nowMs message.payload with
      | error _ => exact ⟨Database.SameDevices.refl _, DataService.SameDevices.refl _⟩
      | ok pack =>
          dsimp only
          split
          · exact ⟨Database.SameDevices.refl _, DataService.SameDevices.refl _⟩
          · exact ⟨Database.SameDevices.refl _, DataService.SameDevices.refl _⟩

end Branches

theorem step_effect (pc : JsonCodec) (stod : String -> Option Rat) (state : PcData)
    (event : PcEvent) :
    ((effectOf pc stod state event).run state).SameDevices (state.step pc stod event).1 := by
  cases event with
  | message nowMs topic payload => exact handle_same pc nowMs state stod topic payload
  | request nowMs text => exact handleRequest_same pc nowMs state text
  | command target =>
      exact ⟨Database.SameDevices.refl _, DataService.rememberPendingCommand_same _ _⟩
  | telemetryTurn nowMs => exact telemetryWorker_same pc nowMs state stod
  | writerTurn nowMs => exact dbWriter_same nowMs state
  | syncTimeouts nowMs => exact ⟨Database.SameDevices.refl _, ⟨rfl, rfl, rfl⟩⟩

/-! ## What the parsers promise -/

theorem enabled_parseConfigSnapshot {nowMs : Int} {root : Json} {pendingGatewayId : String}
    {selected : List SyncSelectedDevice} {snapshot : ConfigSnapshot}
    (parsed : parseConfigSnapshot nowMs root pendingGatewayId selected = some snapshot)
    {device : DeviceRecord} (listed : device ∈ snapshot.devices) : device.enabled = true := by
  unfold parseConfigSnapshot at parsed
  dsimp only at parsed
  split at parsed
  · cases parsed
  · split at parsed
    · cases parsed
    · injection parsed with same
      rw [← same, List.mem_map] at listed
      rcases listed with ⟨entry, inside, rfl⟩
      rcases List.mem_flatMap.mp inside with ⟨port, -, read⟩
      rcases List.mem_map.mp read with ⟨value, -, rfl⟩
      rfl

/-- A registration that is not refused names a device with a type. -/
theorem accepted_parseDeviceRegister {nowMs : Int} {root : Json} {details : DeviceDetails}
    (parsed : parseDeviceRegister nowMs root = some details) (accepted : details.reason = "") :
    details.device.enabled = true ∧ details.device.deviceType ≠ "" ∧
      exists key, details.device.key? = some key := by
  unfold parseDeviceRegister at parsed
  dsimp only at parsed
  split at parsed
  · cases parsed
  · split at parsed
    · injection parsed with same
      rw [← same] at accepted
      exact absurd accepted (by simp)
    · rename_i valid
      injection parsed with same
      rw [not_or, not_or, not_or, not_le] at valid
      rw [← same]
      exact ⟨rfl, valid.2.2.2, ⟨_, _, _, valid.1, valid.2.1, valid.2.2.1⟩,
        deviceKey?_eq_some_iff.mpr ⟨rfl, rfl, rfl⟩⟩

end PcData

/-- The entries come from one of the parsers. -/
def RegistryEffect.WellFormed : RegistryEffect -> Prop
  | .snapshot _ gatewayId entries _ =>
      gatewayId ≠ "" ∧ forall device, device ∈ entries.devices -> device.enabled = true
  | .selection _ pending entries =>
      pending.gatewayId ≠ "" ∧ pending.devices ≠ [] ∧
        forall device, device ∈ entries.devices -> device.enabled = true
  | .register _ details => details.reason = "" -> details.device.enabled = true ∧
      details.device.deviceType ≠ "" ∧ exists key, details.device.key? = some key
  | _ => True

namespace PcData

/-- Where an effect comes from: the event, and the parser that has read its entries. -/
inductive ReadFrom (pc : JsonCodec) (state : PcData) : PcEvent -> RegistryEffect -> Prop where
  | nothing (event : PcEvent) : ReadFrom pc state event .none
  | removed (nowMs : Int) (topic payload gatewayId portId : String) (deviceId : Int) :
      ReadFrom pc state (.message nowMs topic payload) (.delete nowMs gatewayId portId deviceId)
  | added (nowMs : Int) (topic payload gatewayId portId : String) (deviceId : Int) :
      ReadFrom pc state (.message nowMs topic payload) (.restore nowMs gatewayId portId deviceId)
  | snapshot (nowMs : Int) (topic payload : String) {root : Json} {gatewayId : String}
      {entries : ConfigSnapshot} (named : gatewayId ≠ "")
      (parsed : parseConfigSnapshot nowMs root gatewayId [] = some entries) :
      ReadFrom pc state (.message nowMs topic payload)
        (.snapshot nowMs gatewayId entries (isFullSnapshot root))
  | selection (nowMs : Int) (topic payload : String) {root : Json} {pending : SyncGatewayPending}
      {entries : ConfigSnapshot} (named : pending.gatewayId ≠ "") (asked : pending.devices ≠ [])
      (parsed : parseConfigSnapshot nowMs root pending.gatewayId pending.devices = some entries) :
      ReadFrom pc state (.message nowMs topic payload) (.selection nowMs pending entries)
  | registered (nowMs : Int) (topic payload : String) {root : Json} {details : DeviceDetails}
      (parsed : parseDeviceRegister nowMs root = some details) :
      ReadFrom pc state (.message nowMs topic payload) (.register nowMs details)
  | deviceDeleted (nowMs : Int) (text gatewayId portId : String) (deviceId : Int) :
      ReadFrom pc state (.request nowMs text) (.delete nowMs gatewayId portId deviceId)
  | masterDeleted (nowMs : Int) (text gatewayId portId : String) :
      ReadFrom pc state (.request nowMs text) (.deleteMaster nowMs gatewayId portId)
  | cleared (nowMs : Int) (text : String) : ReadFrom pc state (.request nowMs text) .clear
  | telemetry (nowMs : Int) (pack : TelemetryPack) :
      ReadFrom pc state (.telemetryTurn nowMs) (.points nowMs (state.receivedPoints pc nowMs pack))

theorem ReadFrom.ite {pc : JsonCodec} {state : PcData} {event : PcEvent} {test : Prop}
    [Decidable test] {effect other : RegistryEffect} (holds : ReadFrom pc state event effect)
    (fails : ReadFrom pc state event other) :
    ReadFrom pc state event (if test then effect else other) := by
  split
  · exact holds
  · exact fails

section Origins

variable (pc : JsonCodec) (nowMs : Int) (state : PcData) (topic payload : String)

theorem snapshotEffect_readFrom : ReadFrom pc state (.message nowMs topic payload)
    (state.snapshotEffect pc nowMs topic payload) := by
  have nothing := @ReadFrom.nothing pc state (.message nowMs topic payload)
  unfold snapshotEffect
  split
  · exact nothing
  · split
    · exact nothing
    · rename_i root _
      split
      · exact nothing
      · dsimp only
        cases state.service.findSyncPending (getJsonInt64 root "seq" 0) with
        | none =>
            dsimp only
            split_ifs with named unasked
            · exact nothing
            · cases unasked
            · unfold appliedEffect
              split
              · exact nothing
              · rename_i entries parsed
                split
                · exact nothing
                · exact ReadFrom.snapshot nowMs topic payload named parsed
        | some pending =>
            dsimp only
            split_ifs with named asked
            · exact nothing
            · exact nothing
            · unfold appliedEffect
              split
              · exact nothing
              · rename_i entries parsed
                split
                · exact nothing
                · refine ReadFrom.selection nowMs topic payload named ?_ parsed
                  intro empty
                  rw [Option.any_some, empty] at asked
                  exact asked rfl

theorem messageEffect_readFrom : ReadFrom pc state (.message nowMs topic payload)
    (state.messageEffect pc nowMs topic payload) := by
  have nothing := @ReadFrom.nothing pc state (.message nowMs topic payload)
  have answer : ReadFrom pc state (.message nowMs topic payload)
      (state.answerEffect pc nowMs topic payload) := by
    unfold answerEffect
    split
    · unfold followUpEffect
      dsimp only
      split_ifs
      · exact ReadFrom.removed nowMs topic payload _ _ _
      · exact ReadFrom.added nowMs topic payload _ _ _
      · exact nothing
    · exact nothing
  have register : ReadFrom pc state (.message nowMs topic payload)
      (registerEffect pc nowMs topic payload) := by
    unfold registerEffect
    split
    · exact nothing
    · split
      · exact nothing
      · rename_i details parsed
        rcases Option.bind_eq_some_iff.mp parsed with ⟨root, -, read⟩
        exact ReadFrom.registered nowMs topic payload read
  have snapshot := snapshotEffect_readFrom pc nowMs state topic payload
  exact .ite nothing (.ite nothing (.ite nothing (.ite nothing (.ite nothing (.ite nothing
    (.ite answer (.ite snapshot (.ite register nothing))))))))

theorem requestEffect_readFrom (text : String) :
    ReadFrom pc state (.request nowMs text) (requestEffect pc nowMs text) := by
  have nothing := @ReadFrom.nothing pc state (.request nowMs text)
  unfold requestEffect
  split
  · exact nothing
  · split
    · exact nothing
    · split
      · exact ReadFrom.deviceDeleted nowMs text _ _ _
      · split
        · exact ReadFrom.masterDeleted nowMs text _ _
        · split
          · exact ReadFrom.cleared nowMs text
          · exact nothing

/-- The effect of an event is one of those that its branch can read out of it. -/
theorem effectOf_readFrom (stod : String -> Option Rat) (event : PcEvent) :
    ReadFrom pc state event (effectOf pc stod state event) := by
  cases event with
  | message nowMs topic payload => exact messageEffect_readFrom pc nowMs state topic payload
  | request nowMs text => exact requestEffect_readFrom pc nowMs state text
  | telemetryTurn nowMs =>
      change ReadFrom pc state (.telemetryTurn nowMs) (state.telemetryEffect pc nowMs stod)
      unfold telemetryEffect
      split
      · exact ReadFrom.nothing _
      · split
        · exact ReadFrom.nothing _
        · split_ifs
          · exact ReadFrom.nothing _
          · exact ReadFrom.telemetry nowMs _
  | command target => exact ReadFrom.nothing _
  | writerTurn nowMs => exact ReadFrom.nothing _
  | syncTimeouts nowMs => exact ReadFrom.nothing _

end Origins

theorem ReadFrom.wellFormed {pc : JsonCodec} {state : PcData} {event : PcEvent}
    {effect : RegistryEffect} (read : ReadFrom pc state event effect) : effect.WellFormed := by
  cases read with
  | snapshot nowMs topic payload named parsed =>
      exact ⟨named, fun device listed => enabled_parseConfigSnapshot parsed listed⟩
  | selection nowMs topic payload named asked parsed =>
      exact ⟨named, asked, fun device listed => enabled_parseConfigSnapshot parsed listed⟩
  | registered nowMs topic payload parsed => exact accepted_parseDeviceRegister parsed
  | nothing event => trivial
  | removed nowMs topic payload gatewayId portId deviceId => trivial
  | added nowMs topic payload gatewayId portId deviceId => trivial
  | deviceDeleted nowMs text gatewayId portId deviceId => trivial
  | masterDeleted nowMs text gatewayId portId => trivial
  | cleared nowMs text => trivial
  | telemetry nowMs pack => trivial

theorem effectOf_wellFormed (pc : JsonCodec) (stod : String -> Option Rat) (state : PcData)
    (event : PcEvent) : (effectOf pc stod state event).WellFormed :=
  (effectOf_readFrom pc state stod event).wellFormed

end PcData
end Pc
end Imx6Gateway
