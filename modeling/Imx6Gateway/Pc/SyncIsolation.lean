import Imx6Gateway.Pc.RegistryMirror

namespace Imx6Gateway
namespace Pc

open Library

/-!
# Configuration syncs of different gateways

A request for the configuration of a gateway waits under a seq, and a snapshot
is taken for the answer to what waits under the seq it carries.  The snapshots
that a gateway sends by itself are numbered by that gateway.  This module says
when a snapshot leaves the requests to other gateways alone, and is treated as
if there were none.
-/

namespace DataService

/-- The service with other requests for a configuration. -/
def withWaiting (service : DataService) (waiting : Table Int SyncRequest) : DataService :=
  { service with syncPendingBySeq := waiting }

/-! ## What does not look at the requests -/

section Commutes

variable {Item : Type} {operation : DataService -> Item -> DataService}

theorem foldl_withWaiting
    (commutes : forall service item waiting,
      operation (withWaiting service waiting) item = (operation service item).withWaiting waiting)
    (items : List Item) (service : DataService) (waiting : Table Int SyncRequest) :
    items.foldl operation (service.withWaiting waiting) =
      (items.foldl operation service).withWaiting waiting := by
  induction items generalizing service with
  | nil => rfl
  | cons item items ih => rw [List.foldl_cons, List.foldl_cons, commutes, ih]

end Commutes

theorem updateGatewayPort_withWaiting (service : DataService) (port : GatewayPort)
    (waiting : Table Int SyncRequest) :
    (service.withWaiting waiting).updateGatewayPort port =
      (service.updateGatewayPort port).withWaiting waiting := by
  unfold updateGatewayPort
  by_cases refused : port.gatewayId = "" ∨ port.portId = ""
  · rw [if_pos refused, if_pos refused]
  · rw [if_neg refused, if_neg refused]
    rfl

theorem rememberDeviceRegistry_withWaiting (service : DataService) (device : DeviceRecord)
    (waiting : Table Int SyncRequest) :
    (service.withWaiting waiting).rememberDeviceRegistry device =
      (service.rememberDeviceRegistry device).withWaiting waiting := by
  unfold rememberDeviceRegistry
  by_cases refused : device.gatewayId = "" ∨ device.portId = "" ∨ device.deviceId ≤ 0
  · rw [if_pos refused, if_pos refused]
  · rw [if_neg refused, if_neg refused]
    rfl

theorem updatePointConfig_withWaiting (service : DataService) (config : PointConfig)
    (waiting : Table Int SyncRequest) :
    (service.withWaiting waiting).updatePointConfig config =
      (service.updatePointConfig config).withWaiting waiting := by
  unfold updatePointConfig
  by_cases refused : config.gatewayId = "" ∨ config.portId = "" ∨ config.deviceId ≤ 0 ∨
      config.pointKey = ""
  · rw [if_pos refused, if_pos refused]
  · rw [if_neg refused, if_neg refused]
    rfl

theorem removeDeviceData_withWaiting (service : DataService) (nowMs : Int)
    (gatewayId portId : String) (deviceId : Int) (waiting : Table Int SyncRequest) :
    (service.withWaiting waiting).removeDeviceData nowMs gatewayId portId deviceId =
      (service.removeDeviceData nowMs gatewayId portId deviceId).withWaiting waiting := by
  unfold removeDeviceData
  by_cases refused : gatewayId = "" ∨ portId = "" ∨ deviceId ≤ 0
  · rw [if_pos refused, if_pos refused]
  · rw [if_neg refused, if_neg refused]
    rfl

theorem forgetRemovedDevice_withWaiting (service : DataService) (nowMs : Int)
    (gatewayId portId : String) (deviceId : Int) (waiting : Table Int SyncRequest) :
    (service.withWaiting waiting).forgetRemovedDevice nowMs gatewayId portId deviceId =
      (service.forgetRemovedDevice nowMs gatewayId portId deviceId).withWaiting waiting := by
  unfold forgetRemovedDevice
  by_cases refused : gatewayId = "" ∨ portId = "" ∨ deviceId ≤ 0
  · rw [if_pos refused, if_pos refused]
  · rw [if_neg refused, if_neg refused]
    rfl

theorem replaceGatewayRegistry_withWaiting (service : DataService) (gatewayId : String)
    (snapshot : ConfigSnapshot) (fullSnapshot : Bool) (waiting : Table Int SyncRequest) :
    (service.withWaiting waiting).replaceGatewayRegistry gatewayId snapshot fullSnapshot =
      (service.replaceGatewayRegistry gatewayId snapshot fullSnapshot).withWaiting waiting := by
  have entered : forall cleared : DataService,
      (((cleared.withWaiting waiting).rememberGatewayPorts
          (snapshot.ports.filter (Database.ownPort gatewayId))).rememberDeviceRegistries
          (snapshot.devices.filter (Database.ownEntry gatewayId))).rememberPointConfigs
          (snapshot.pointConfigs.filter fun config => config.gatewayId = gatewayId) =
        (((cleared.rememberGatewayPorts
          (snapshot.ports.filter (Database.ownPort gatewayId))).rememberDeviceRegistries
          (snapshot.devices.filter (Database.ownEntry gatewayId))).rememberPointConfigs
          (snapshot.pointConfigs.filter fun config => config.gatewayId = gatewayId)).withWaiting
            waiting := by
    intro cleared
    unfold rememberGatewayPorts rememberDeviceRegistries rememberPointConfigs
    rw [foldl_withWaiting updateGatewayPort_withWaiting,
      foldl_withWaiting rememberDeviceRegistry_withWaiting,
      foldl_withWaiting updatePointConfig_withWaiting]
  unfold replaceGatewayRegistry
  by_cases refused : gatewayId = ""
  · rw [if_pos refused, if_pos refused]
  · rw [if_neg refused, if_neg refused]
    let known : DataService :=
      { service with registeredGateways := insert gatewayId service.registeredGateways }
    cases fullSnapshot with
    | false => exact entered known
    | true => exact entered (known.clearGateway gatewayId)

/-! ## What keeps the requests -/

theorem waiting_of_commutes {service after : DataService}
    (commutes : after = after.withWaiting service.syncPendingBySeq) :
    after.syncPendingBySeq = service.syncPendingBySeq := by
  rw [commutes]
  rfl

theorem waiting_foldl {Item : Type} {operation : DataService -> Item -> DataService}
    (keeps : forall service item, (operation service item).syncPendingBySeq = service.syncPendingBySeq)
    (items : List Item) (service : DataService) :
    (items.foldl operation service).syncPendingBySeq = service.syncPendingBySeq := by
  induction items generalizing service with
  | nil => rfl
  | cons item items ih => exact (ih (operation service item)).trans (keeps service item)

theorem updateGatewayPort_waiting (service : DataService) (port : GatewayPort) :
    (service.updateGatewayPort port).syncPendingBySeq = service.syncPendingBySeq :=
  waiting_of_commutes (service.updateGatewayPort_withWaiting port service.syncPendingBySeq)

theorem rememberGatewayPorts_waiting (service : DataService) (ports : List GatewayPort) :
    (service.rememberGatewayPorts ports).syncPendingBySeq = service.syncPendingBySeq :=
  waiting_foldl updateGatewayPort_waiting ports service

theorem rememberDeviceRegistry_waiting (service : DataService) (device : DeviceRecord) :
    (service.rememberDeviceRegistry device).syncPendingBySeq = service.syncPendingBySeq :=
  waiting_of_commutes (service.rememberDeviceRegistry_withWaiting device service.syncPendingBySeq)

theorem rememberDeviceRegistries_waiting (service : DataService) (devices : List DeviceRecord) :
    (service.rememberDeviceRegistries devices).syncPendingBySeq = service.syncPendingBySeq :=
  waiting_foldl rememberDeviceRegistry_waiting devices service

theorem rememberPointConfigs_waiting (service : DataService) (configs : List PointConfig) :
    (service.rememberPointConfigs configs).syncPendingBySeq = service.syncPendingBySeq :=
  waiting_foldl (fun service config => waiting_of_commutes
    (service.updatePointConfig_withWaiting config service.syncPendingBySeq)) configs service

theorem removeDeviceData_waiting (service : DataService) (nowMs : Int) (gatewayId portId : String)
    (deviceId : Int) :
    (service.removeDeviceData nowMs gatewayId portId deviceId).syncPendingBySeq =
      service.syncPendingBySeq :=
  waiting_of_commutes (service.removeDeviceData_withWaiting nowMs gatewayId portId deviceId
    service.syncPendingBySeq)

theorem forgetRemovedDevice_waiting (service : DataService) (nowMs : Int)
    (gatewayId portId : String) (deviceId : Int) :
    (service.forgetRemovedDevice nowMs gatewayId portId deviceId).syncPendingBySeq =
      service.syncPendingBySeq :=
  waiting_of_commutes (service.forgetRemovedDevice_withWaiting nowMs gatewayId portId deviceId
    service.syncPendingBySeq)

theorem removeMasterData_waiting (service : DataService) (nowMs : Int)
    (gatewayId portId : String) :
    (service.removeMasterData nowMs gatewayId portId).1.syncPendingBySeq =
      service.syncPendingBySeq := by
  unfold removeMasterData
  split
  · rfl
  · rfl

theorem isRemovedDevice_waiting (service : DataService) (nowMs : Int) (gatewayId portId : String)
    (deviceId : Int) :
    (service.isRemovedDevice nowMs gatewayId portId deviceId).1.syncPendingBySeq =
      service.syncPendingBySeq := by
  unfold isRemovedDevice
  split
  · rfl
  · rfl

theorem rememberGatewayRegistry_waiting (service : DataService) (registry : GatewayRegistry) :
    (service.rememberGatewayRegistry registry).syncPendingBySeq = service.syncPendingBySeq := by
  unfold rememberGatewayRegistry
  split
  · rfl
  · rfl

theorem updateGatewayStatus_waiting (service : DataService) (gateway : GatewayStatus) :
    (service.updateGatewayStatus gateway).syncPendingBySeq = service.syncPendingBySeq := by
  unfold updateGatewayStatus
  split
  · rfl
  · rfl

theorem updateGatewayStatuses_waiting (service : DataService) (gateways : List GatewayStatus) :
    (service.updateGatewayStatuses gateways).syncPendingBySeq = service.syncPendingBySeq :=
  waiting_foldl updateGatewayStatus_waiting gateways service

theorem rememberPendingCommand_waiting (service : DataService) (target : PendingCommandTarget) :
    (service.rememberPendingCommand target).syncPendingBySeq = service.syncPendingBySeq := by
  unfold rememberPendingCommand
  split
  · rfl
  · rfl

end DataService

namespace PcData

def withWaiting (state : PcData) (waiting : Table Int SyncRequest) : PcData :=
  { state with service := state.service.withWaiting waiting }

section Snapshots

variable (pc : JsonCodec) (nowMs : Int) (state : PcData) (waiting : Table Int SyncRequest)

theorem storeSnapshot_withWaiting (gatewayId : String) (snapshot : ConfigSnapshot)
    (fullSnapshot : Bool) :
    (state.withWaiting waiting).storeSnapshot nowMs gatewayId snapshot fullSnapshot =
      ((state.storeSnapshot nowMs gatewayId snapshot fullSnapshot).1.withWaiting waiting,
        (state.storeSnapshot nowMs gatewayId snapshot fullSnapshot).2) := by
  unfold storeSnapshot
  dsimp only [withWaiting]
  cases (state.database.upsertGatewayConfigSnapshot nowMs gatewayId snapshot fullSnapshot).2 with
  | false => rfl
  | true =>
      have removed : forall missing : List DeviceKey,
          missing.foldl (fun service key =>
            service.removeDeviceData nowMs key.gatewayId key.portId key.deviceId)
            (state.service.withWaiting waiting) =
          (missing.foldl (fun service key =>
            service.removeDeviceData nowMs key.gatewayId key.portId key.deviceId)
            state.service).withWaiting waiting := by
        intro missing
        apply DataService.foldl_withWaiting
        intro service key waiting
        exact service.removeDeviceData_withWaiting nowMs _ _ _ waiting
      cases fullSnapshot with
      | false =>
          simp only [if_true, Bool.false_eq_true, if_false,
            DataService.replaceGatewayRegistry_withWaiting]
      | true =>
          simp only [if_true, removed, DataService.replaceGatewayRegistry_withWaiting]

theorem storeSelection_withWaiting (pending : SyncGatewayPending) (snapshot : ConfigSnapshot) :
    (state.withWaiting waiting).storeSelection nowMs pending snapshot =
      ((state.storeSelection nowMs pending snapshot).1.withWaiting waiting,
        (state.storeSelection nowMs pending snapshot).2) := by
  unfold storeSelection
  dsimp only [withWaiting]
  cases (state.database.replaceSelectedDeviceConfig pending.gatewayId pending.devices
      snapshot).2 with
  | false => rfl
  | true =>
      have forgotten : snapshot.devices.foldl (fun service device =>
            service.forgetRemovedDevice nowMs device.gatewayId device.portId device.deviceId)
            (state.service.withWaiting waiting) =
          (snapshot.devices.foldl (fun service device =>
            service.forgetRemovedDevice nowMs device.gatewayId device.portId device.deviceId)
            state.service).withWaiting waiting := by
        apply DataService.foldl_withWaiting
        intro service device waiting
        exact service.forgetRemovedDevice_withWaiting nowMs _ _ _ waiting
      simp only [if_true, forgotten, DataService.replaceGatewayRegistry_withWaiting]

theorem applySnapshot_withWaiting (root : Json) (asked : Option SyncGatewayPending)
    (gatewayId : String) (snapshot : ConfigSnapshot) :
    (state.withWaiting waiting).applySnapshot nowMs root asked gatewayId snapshot =
      ((state.applySnapshot nowMs root asked gatewayId snapshot).1.withWaiting waiting,
        (state.applySnapshot nowMs root asked gatewayId snapshot).2) := by
  cases asked with
  | none => exact storeSnapshot_withWaiting nowMs state waiting gatewayId snapshot _
  | some pending => exact storeSelection_withWaiting nowMs state waiting pending snapshot

/-! ## The branch of a snapshot -/

/-- The branch after the look at what waits under the seq. -/
def handleSnapshotFor (messageType : String) (root : Json) (asked : Option SyncGatewayPending) :
    PcData × List Publication :=
  let gatewayId := match asked with
    | some pending => pending.gatewayId
    | none => extractGatewayIdCompat root
  if gatewayId = "" then
    state.answered pc nowMs (refusedSnapshot messageType gatewayId (getJsonInt64 root "seq" 0)
      (messageConfigVersion root) ⟨"missing_field", "config snapshot missing gatewayId"⟩)
  else if asked.any fun pending => pending.devices.isEmpty then
    state.answered pc nowMs (refusedSnapshot messageType gatewayId (getJsonInt64 root "seq" 0)
      (messageConfigVersion root) ⟨"invalid_payload", "config snapshot pending devices empty"⟩)
  else state.handleSnapshotOf pc nowMs messageType root asked gatewayId

/-- The message of a snapshot that comes to the look at what waits under its seq. -/
def readSnapshot (topic payload : String) : Option Json :=
  if !isValidRegisterTopic topic then none
  else
    match parseObject pc payload with
    | none => none
    | some root =>
        if messageConfigVersion root ≤ 0 ∧ (root.lookup "fullSnapshot").isNone ∧
            (root.lookup "full_snapshot").isNone then none
        else some root

theorem handleConfigSnapshot_of_read (messageType : String) {topic payload : String} {root : Json}
    (read : readSnapshot pc topic payload = some root) :
    state.handleConfigSnapshot pc nowMs messageType topic payload =
      state.handleSnapshotFor pc nowMs messageType root
        (state.service.findSyncPending (getJsonInt64 root "seq" 0)) := by
  unfold readSnapshot at read
  unfold handleConfigSnapshot
  by_cases refused : (!isValidRegisterTopic topic) = true
  · rw [if_pos refused] at read
    cases read
  · rw [if_neg refused] at read ⊢
    cases parsed : parseObject pc payload with
    | none =>
        rw [parsed] at read
        cases read
    | some message =>
        rw [parsed] at read
        dsimp only at read ⊢
        split at read
        · cases read
        · rename_i marked
          injection read with same
          rw [if_neg marked, same]
          rfl

/-- A snapshot that does not come so far is answered, and that is all. -/
theorem handleConfigSnapshot_of_unread (messageType : String) {topic payload : String}
    (unread : readSnapshot pc topic payload = none) :
    exists publications, forall state : PcData,
      state.handleConfigSnapshot pc nowMs messageType topic payload = (state, publications) := by
  unfold readSnapshot at unread
  unfold handleConfigSnapshot
  by_cases refused : (!isValidRegisterTopic topic) = true
  · exact ⟨[], fun state => by rw [if_pos refused]⟩
  · rw [if_neg refused] at unread
    simp only [if_neg refused]
    cases parsed : parseObject pc payload with
    | none => exact ⟨_, fun state => rfl⟩
    | some root =>
        rw [parsed] at unread
        dsimp only at unread
        split at unread
        · rename_i unmarked
          simp only [if_pos unmarked]
          exact ⟨_, fun state => rfl⟩
        · cases unread

/-- The request is answered, whether or not the snapshot is stored. -/
def completes (asked : Option SyncGatewayPending) : Bool :=
  asked.any fun pending => pending.gatewayId ≠ "" && !pending.devices.isEmpty

/-- The requests that wait after the branch. -/
def leftWaiting (asked : Option SyncGatewayPending) (root : Json) (waiting : Table Int SyncRequest) :
    Table Int SyncRequest :=
  if completes asked then AList.erase (getJsonInt64 root "seq" 0) waiting else waiting

theorem handleSnapshotOf_withWaiting (messageType : String) (root : Json)
    (asked : Option SyncGatewayPending) (gatewayId : String) :
    (state.withWaiting waiting).handleSnapshotOf pc nowMs messageType root asked gatewayId =
      ((state.handleSnapshotOf pc nowMs messageType root asked gatewayId).1.withWaiting
          (if asked.isSome then AList.erase (getJsonInt64 root "seq" 0) waiting else waiting),
        (state.handleSnapshotOf pc nowMs messageType root asked gatewayId).2) := by
  unfold handleSnapshotOf
  dsimp only
  cases parseConfigSnapshot nowMs root gatewayId
      ((asked.map SyncGatewayPending.devices).getD []) with
  | none =>
      cases asked with
      | none => rfl
      | some pending => rfl
  | some snapshot =>
      cases opened : state.database.isOpen with
      | false =>
          have shut : (state.withWaiting waiting).database.isOpen = false := opened
          simp only [shut, Bool.not_false, if_true]
          cases asked with
          | none => rfl
          | some pending => rfl
      | true =>
          have open' : (state.withWaiting waiting).database.isOpen = true := opened
          simp only [open', Bool.not_true, Bool.false_eq_true, if_false,
            applySnapshot_withWaiting]
          cases asked with
          | none => rfl
          | some pending => rfl

theorem handleSnapshotFor_withWaiting (messageType : String) (root : Json)
    (asked : Option SyncGatewayPending) :
    (state.withWaiting waiting).handleSnapshotFor pc nowMs messageType root asked =
      ((state.handleSnapshotFor pc nowMs messageType root asked).1.withWaiting
          (leftWaiting asked root waiting),
        (state.handleSnapshotFor pc nowMs messageType root asked).2) := by
  unfold handleSnapshotFor leftWaiting
  cases asked with
  | none =>
      dsimp only [completes, Option.any_none]
      split
      · rfl
      · exact handleSnapshotOf_withWaiting pc nowMs state waiting messageType root none _
  | some pending =>
      dsimp only
      by_cases named : pending.gatewayId = ""
      · have stays : completes (some pending) = false := by
          rw [completes, Option.any_some, decide_eq_false (not_not.mpr named), Bool.false_and]
        rw [if_pos named, if_pos named, stays]
        rfl
      · rw [if_neg named, if_neg named, Option.any_some]
        cases selects : pending.devices.isEmpty with
        | true =>
            have stays : completes (some pending) = false := by
              rw [completes, Option.any_some, selects, Bool.not_true, Bool.and_false]
            rw [if_pos rfl, if_pos rfl, stays]
            rfl
        | false =>
            have goes : completes (some pending) = true := by
              rw [completes, Option.any_some, selects, Bool.not_false, Bool.and_true]
              exact decide_eq_true named
            rw [if_neg Bool.false_ne_true, if_neg Bool.false_ne_true, goes]
            exact handleSnapshotOf_withWaiting pc nowMs state waiting messageType root
              (some pending) _

theorem handleSnapshotFor_waiting (messageType : String) (root : Json)
    (asked : Option SyncGatewayPending) :
    (state.handleSnapshotFor pc nowMs messageType root asked).1.service.syncPendingBySeq =
      leftWaiting asked root state.service.syncPendingBySeq := by
  have own : (state.handleSnapshotFor pc nowMs messageType root asked).1 =
      (state.handleSnapshotFor pc nowMs messageType root asked).1.withWaiting
        (leftWaiting asked root state.service.syncPendingBySeq) :=
    congrArg Prod.fst (handleSnapshotFor_withWaiting pc nowMs state
      state.service.syncPendingBySeq messageType root asked)
  rw [own]
  rfl

end Snapshots

/-! ## What waits in a run

Every request that waits names a gateway and selects devices: only
`beginSyncConfigRequest` lets a request wait, and it passes over the others. -/

def StillWaits (state after : PcData) : Prop :=
  forall seq request, after.service.syncPendingBySeq.get seq = some request ->
    state.service.syncPendingBySeq.get seq = some request

theorem StillWaits.of_eq {state after : PcData}
    (same : after.service.syncPendingBySeq = state.service.syncPendingBySeq) :
    StillWaits state after := by
  intro seq request waits
  rwa [same] at waits

theorem StillWaits.ite {test : Prop} [Decidable test] {state : PcData}
    {next last : PcData × List Publication} (holds : StillWaits state next.1)
    (fails : StillWaits state last.1) : StillWaits state (if test then next else last).1 := by
  split
  · exact holds
  · exact fails

def Asked (state : PcData) : Prop :=
  forall seq request, state.service.syncPendingBySeq.get seq = some request ->
    request.pending.gatewayId ≠ "" ∧ request.pending.devices.isEmpty = false

theorem Asked.of_still {state after : PcData} (asked : Asked state) (still : StillWaits state after) :
    Asked after :=
  fun seq request waits => asked seq request (still seq request waits)

section Branches

variable (pc : JsonCodec) (nowMs : Int) (state : PcData)

theorem handleGatewayRegister_waiting (topic payload : String) :
    (state.handleGatewayRegister pc nowMs topic payload).1.service.syncPendingBySeq =
      state.service.syncPendingBySeq := by
  unfold handleGatewayRegister
  split
  · rfl
  · split
    · rfl
    · dsimp only [answered]
      split
      · exact (DataService.updateGatewayStatus_waiting _ _).trans
          ((DataService.rememberGatewayPorts_waiting _ _).trans
            (DataService.rememberGatewayRegistry_waiting _ _))
      · rfl

theorem handleGatewayHeartbeat_waiting (messageType topic payload : String) :
    (state.handleGatewayHeartbeat pc nowMs messageType topic payload).service.syncPendingBySeq =
      state.service.syncPendingBySeq := by
  have updated : forall (stored : Bool) (gateway : GatewayStatus),
      (if stored then state.service.updateGatewayStatus gateway
        else state.service).syncPendingBySeq = state.service.syncPendingBySeq := by
    intro stored gateway
    cases stored with
    | false => rfl
    | true => exact DataService.updateGatewayStatus_waiting _ _
  unfold handleGatewayHeartbeat
  dsimp only
  split
  · rfl
  · split
    · rfl
    · exact updated _ _

theorem answerPort_waiting (messageType payload : String) (port : GatewayPort)
    (stored : Database × Refusal) :
    (state.answerPort pc nowMs messageType payload port stored).1.service.syncPendingBySeq =
      state.service.syncPendingBySeq := by
  dsimp only [answerPort, answered]
  split
  · exact DataService.updateGatewayPort_waiting _ _
  · rfl

theorem handlePortRegister_waiting (topic payload : String) :
    (state.handlePortRegister pc nowMs topic payload).1.service.syncPendingBySeq =
      state.service.syncPendingBySeq := by
  unfold handlePortRegister
  split
  · rfl
  · split
    · rfl
    · exact answerPort_waiting pc nowMs state _ _ _ _

theorem handlePortStatus_waiting (topic payload : String) :
    (state.handlePortStatus pc nowMs topic payload).1.service.syncPendingBySeq =
      state.service.syncPendingBySeq := by
  unfold handlePortStatus
  split
  · rfl
  · split
    · rfl
    · exact answerPort_waiting pc nowMs state _ _ _ _

theorem deleteDevice_waiting (gatewayId portId : String) (deviceId : Int) :
    (state.deleteDevice nowMs gatewayId portId deviceId).service.syncPendingBySeq =
      state.service.syncPendingBySeq := by
  dsimp only [deleteDevice]
  split
  · exact DataService.removeDeviceData_waiting _ _ _ _ _
  · rfl

theorem restoreDevice_waiting (gatewayId portId : String) (deviceId : Int) :
    (state.restoreDevice nowMs gatewayId portId deviceId).service.syncPendingBySeq =
      state.service.syncPendingBySeq :=
  DataService.forgetRemovedDevice_waiting _ _ _ _ _

theorem handleAnswer_waiting (topic payload : String) :
    (state.handleAnswer pc nowMs topic payload).1.service.syncPendingBySeq =
      state.service.syncPendingBySeq := by
  unfold handleAnswer
  dsimp only
  split
  · unfold followUp
    dsimp only
    split
    · exact deleteDevice_waiting nowMs _ _ _ _
    · split
      · exact restoreDevice_waiting nowMs _ _ _ _
      · rfl
  · rfl

theorem handleDeviceRegister_waiting (topic payload : String) :
    (state.handleDeviceRegister pc nowMs topic payload).1.service.syncPendingBySeq =
      state.service.syncPendingBySeq := by
  have checked : forall device : DeviceRecord,
      (state.service.isRemovedDevice nowMs device.gatewayId device.portId
        device.deviceId).1.syncPendingBySeq = state.service.syncPendingBySeq :=
    fun device => DataService.isRemovedDevice_waiting _ _ _ _ _
  unfold handleDeviceRegister
  split
  · rfl
  · split
    · rfl
    · dsimp only [answered, storeDevice]
      split
      · rfl
      · split
        · rfl
        · split
          · exact checked _
          · split
            · exact (DataService.rememberDeviceRegistry_waiting _ _).trans (checked _)
            · exact checked _

theorem handleThresholdConfig_waiting (payload : String) :
    (state.handleThresholdConfig pc nowMs payload).service.syncPendingBySeq =
      state.service.syncPendingBySeq := by
  unfold handleThresholdConfig
  split
  · rfl
  · split
    · rfl
    · dsimp only
      split
      · exact DataService.rememberPointConfigs_waiting _ _
      · rfl

theorem handleAlarm_waiting (stod : String -> Option Rat) (topic payload : String) :
    (state.handleAlarm pc nowMs stod topic payload).service.syncPendingBySeq =
      state.service.syncPendingBySeq := by
  unfold handleAlarm
  split
  · rfl
  · split
    · rfl
    · rfl

theorem handleConfigSnapshot_still (messageType topic payload : String) :
    StillWaits state (state.handleConfigSnapshot pc nowMs messageType topic payload).1 := by
  cases read : readSnapshot pc topic payload with
  | none =>
      rcases handleConfigSnapshot_of_unread pc nowMs messageType read with ⟨publications, same⟩
      rw [same state]
      exact StillWaits.of_eq rfl
  | some root =>
      rw [handleConfigSnapshot_of_read pc nowMs state messageType read]
      intro seq request waits
      rw [handleSnapshotFor_waiting, leftWaiting] at waits
      split at waits
      · rw [Table.get_erase] at waits
        split at waits
        · cases waits
        · exact waits
      · exact waits

theorem handle_still (stod : String -> Option Rat) (topic payload : String) :
    StillWaits state (state.handle pc nowMs stod topic payload).1 := by
  have alarm := handleAlarm_waiting pc nowMs state stod topic payload
  have heartbeat := handleGatewayHeartbeat_waiting pc nowMs state
    (extractJsonStringValue payload "type") topic payload
  unfold handle
  dsimp only
  refine StillWaits.ite (.of_eq rfl) ?_
  refine StillWaits.ite (.of_eq alarm) ?_
  refine StillWaits.ite (.of_eq (handleGatewayRegister_waiting pc nowMs state topic payload)) ?_
  refine StillWaits.ite (.of_eq heartbeat) ?_
  refine StillWaits.ite (.of_eq (handlePortRegister_waiting pc nowMs state topic payload)) ?_
  refine StillWaits.ite (.of_eq (handlePortStatus_waiting pc nowMs state topic payload)) ?_
  refine StillWaits.ite (.of_eq (handleAnswer_waiting pc nowMs state topic payload)) ?_
  refine StillWaits.ite (handleConfigSnapshot_still pc nowMs state _ topic payload) ?_
  refine StillWaits.ite (.of_eq (handleDeviceRegister_waiting pc nowMs state topic payload)) ?_
  exact StillWaits.ite (.of_eq (handleThresholdConfig_waiting pc nowMs state payload))
    (.of_eq rfl)

theorem beginSyncConfigRequest_asked (targets : List SyncGatewaySelection) (asked : Asked state) :
    Asked { state with service := (state.service.beginSyncConfigRequest nowMs targets).1 } := by
  have folds : forall (targets : List SyncGatewaySelection)
      (begun : DataService × List SyncGatewayPending), Asked { state with service := begun.1 } ->
      Asked { state with service :=
        (targets.foldl (DataService.beginSync nowMs state.service.nextSyncRequestId) begun).1 } := by
    intro targets
    induction targets with
    | nil => exact fun begun asked => asked
    | cons target targets ih =>
        intro begun asked
        apply ih
        unfold DataService.beginSync
        split
        · exact asked
        · rename_i valid
          intro seq request waits
          rw [Table.get_put] at waits
          split at waits
          · injection waits with same
            rw [← same]
            exact ⟨fun empty => valid (Or.inl empty),
              Bool.eq_false_iff.mpr fun empty => valid (Or.inr empty)⟩
          · exact asked seq request waits
  exact folds targets _ asked

theorem handleSync_asked (targets : List SyncGatewaySelection) (asked : Asked state) :
    Asked (state.handleSync pc nowMs targets).1 := by
  have sent : forall (pending : List SyncGatewayPending) (begun : PcData × List Publication),
      Asked begun.1 -> Asked (pending.foldl (requestSync pc) begun).1 := by
    intro pending
    induction pending with
    | nil => exact fun begun asked => asked
    | cons first pending ih =>
        intro begun asked
        apply ih
        unfold requestSync
        split
        · exact asked
        · intro seq request waits
          change (Table.get (AList.erase first.seq _) seq) = _ at waits
          rw [Table.get_erase] at waits
          split at waits
          · cases waits
          · exact asked seq request waits
  exact sent _ _ (beginSyncConfigRequest_asked nowMs state targets asked)

theorem handleRequest_asked (text : String) (asked : Asked state) :
    Asked (state.handleRequest pc nowMs text).1 := by
  unfold handleRequest
  cases parseObject pc text with
  | none => exact asked
  | some root =>
      dsimp only
      split
      · exact handleSync_asked pc nowMs state _ asked
      · cases parseDeleteDeviceRequest root with
        | some key =>
            exact asked.of_still (StillWaits.of_eq (deleteDevice_waiting nowMs state _ _ _))
        | none =>
            cases parseDeleteMasterRequest root with
            | some names =>
                exact asked.of_still (StillWaits.of_eq (DataService.removeMasterData_waiting _ _ _ _))
            | none =>
                dsimp only
                split
                · apply asked.of_still
                  apply StillWaits.of_eq
                  dsimp only [clearAll]
                  split
                  · rfl
                  · rfl
                · exact asked

theorem telemetryWorker_waiting (stod : String -> Option Rat) :
    (state.telemetryWorker pc nowMs stod).1.service.syncPendingBySeq =
      state.service.syncPendingBySeq := by
  unfold telemetryWorker
  cases state.telemetryQueue with
  | nil => rfl
  | cons message rest =>
      dsimp only [handleTelemetryMessage]
      split
      · rfl
      · split
        · rfl
        · rfl

theorem dbWriter_waiting :
    (state.dbWriter nowMs).service.syncPendingBySeq = state.service.syncPendingBySeq := by
  unfold dbWriter
  dsimp only
  split
  · rfl
  · rfl

end Branches

theorem Asked.step {state : PcData} (asked : Asked state) (pc : JsonCodec)
    (stod : String -> Option Rat) (event : PcEvent) : Asked (state.step pc stod event).1 := by
  cases event with
  | message nowMs topic payload =>
      exact asked.of_still (handle_still pc nowMs state stod topic payload)
  | request nowMs text => exact handleRequest_asked pc nowMs state text asked
  | command target =>
      exact asked.of_still (StillWaits.of_eq (DataService.rememberPendingCommand_waiting _ _))
  | telemetryTurn nowMs =>
      exact asked.of_still (StillWaits.of_eq (telemetryWorker_waiting pc nowMs state stod))
  | writerTurn nowMs => exact asked.of_still (StillWaits.of_eq (dbWriter_waiting nowMs state))
  | syncTimeouts nowMs =>
      intro seq request waits
      change (Table.get (Table.keepIf _ _) seq) = _ at waits
      rw [Table.get_keepIf, Option.filter_eq_some_iff] at waits
      exact asked seq request waits.1

theorem seeded_waiting (database : Database) (startMs : Int) :
    (seeded database startMs).service.syncPendingBySeq = ∅ := by
  unfold seeded
  dsimp only
  split
  · exact (DataService.rememberPointConfigs_waiting _ _).trans
      ((DataService.rememberDeviceRegistries_waiting _ _).trans
        ((DataService.rememberGatewayPorts_waiting _ _).trans
          (DataService.updateGatewayStatuses_waiting _ _)))
  · rfl

theorem asked_run (pc : JsonCodec) (stod : String -> Option Rat) (database : Database)
    (startMs : Int) (events : List PcEvent) :
    Asked ((pcSystem pc stod database startMs).run events) := by
  refine (pcSystem pc stod database startMs).invariant_everywhere ?_ ?_ events
  · intro seq request waits
    change (seeded database startMs).service.syncPendingBySeq.get seq = _ at waits
    rw [seeded_waiting, Table.get_empty] at waits
    cases waits
  · intro state event asked
    exact asked.step pc stod event

/-! ## Snapshots of another gateway -/

/-- The requests to other gateways are left out. -/
def withoutOthers (gatewayId : String) (state : PcData) : PcData :=
  state.withWaiting (state.service.syncPendingBySeq.keepIf fun _ request =>
    request.pending.gatewayId = gatewayId)

/-- The branch for a snapshot that a gateway sends by itself. -/
def handleOwnSnapshot (pc : JsonCodec) (nowMs : Int) (state : PcData) (messageType : String)
    (root : Json) (gatewayId : String) : PcData × List Publication :=
  if gatewayId = "" then
    state.answered pc nowMs (refusedSnapshot messageType gatewayId (getJsonInt64 root "seq" 0)
      (messageConfigVersion root) ⟨"missing_field", "config snapshot missing gatewayId"⟩)
  else state.handleSnapshotOf pc nowMs messageType root none gatewayId

/-- A configuration snapshot that names the gateway. -/
structure SentBy (pc : JsonCodec) (gatewayId payload : String) : Prop where
  snapshot : extractJsonStringValue payload "type" = "config_snapshot" ∨
    extractJsonStringValue payload "type" = "device_config_snapshot"
  sender : forall root, parseObject pc payload = some root ->
    extractGatewayIdCompat root = gatewayId

section Isolation

variable (pc : JsonCodec) (nowMs : Int) (stod : String -> Option Rat)

/-- What a snapshot of a gateway must not do to the requests to the others,
and what these must not make of it. -/
structure SyncIsolated (gatewayId : String) (state : PcData) (topic payload : String) : Prop where
  kept : forall seq request, state.service.syncPendingBySeq.get seq = some request ->
    request.pending.gatewayId ≠ gatewayId ->
    (state.handle pc nowMs stod topic payload).1.service.syncPendingBySeq.get seq = some request
  unaffected : ((state.handle pc nowMs stod topic payload).1.withoutOthers gatewayId,
    (state.handle pc nowMs stod topic payload).2) =
      (state.withoutOthers gatewayId).handle pc nowMs stod topic payload
  own : forall root, readSnapshot pc topic payload = some root ->
    (forall request,
      state.service.syncPendingBySeq.get (getJsonInt64 root "seq" 0) = some request ->
        request.pending.gatewayId ≠ gatewayId) ->
    state.handle pc nowMs stod topic payload =
      state.handleOwnSnapshot pc nowMs (extractJsonStringValue payload "type") root gatewayId

/-- No request to another gateway waits under the seq of the snapshot. -/
def OwnSeq (gatewayId : String) (state : PcData) (topic payload : String) : Prop :=
  forall root request, readSnapshot pc topic payload = some root ->
    state.service.syncPendingBySeq.get (getJsonInt64 root "seq" 0) = some request ->
    request.pending.gatewayId = gatewayId

variable {pc nowMs stod}

theorem handle_snapshot {payload : String}
    (snapshot : extractJsonStringValue payload "type" = "config_snapshot" ∨
      extractJsonStringValue payload "type" = "device_config_snapshot")
    (state : PcData) (topic : String) :
    state.handle pc nowMs stod topic payload =
      state.handleConfigSnapshot pc nowMs (extractJsonStringValue payload "type") topic payload := by
  unfold handle isAlarmMessage isAnswer
  rcases snapshot with named | named
  · rw [named]
    rfl
  · rw [named]
    rfl

theorem sender_of_read {gatewayId topic payload : String} {root : Json}
    (sent : SentBy pc gatewayId payload) (read : readSnapshot pc topic payload = some root) :
    extractGatewayIdCompat root = gatewayId := by
  unfold readSnapshot at read
  split at read
  · cases read
  · split at read
    · cases read
    · rename_i parsed
      split at read
      · cases read
      · injection read with same
        exact same ▸ sent.sender _ parsed

/-- A request for the same gateway, or none, is found without the others too. -/
theorem findSyncPending_withoutOthers {gatewayId : String} {state : PcData} {seq : Int}
    (own : forall request, state.service.syncPendingBySeq.get seq = some request ->
      request.pending.gatewayId = gatewayId) :
    (state.withoutOthers gatewayId).service.findSyncPending seq =
      state.service.findSyncPending seq := by
  change ((Table.keepIf _ state.service.syncPendingBySeq).get seq).map SyncRequest.pending = _
  rw [Table.get_keepIf, DataService.findSyncPending]
  cases waits : state.service.syncPendingBySeq.get seq with
  | none => rfl
  | some request => rw [Option.filter_some, if_pos (decide_eq_true (own request waits))]

theorem leftWaiting_keepIf (keep : Int -> SyncRequest -> Bool) (asked : Option SyncGatewayPending)
    (root : Json) (waiting : Table Int SyncRequest) :
    (leftWaiting asked root waiting).keepIf keep = leftWaiting asked root (waiting.keepIf keep) := by
  unfold leftWaiting
  split
  · exact Table.keepIf_erase keep waiting _
  · rfl

theorem unaffected_of_ownSeq {gatewayId topic payload : String} {state : PcData}
    (sent : SentBy pc gatewayId payload) (own : OwnSeq pc gatewayId state topic payload) :
    ((state.handle pc nowMs stod topic payload).1.withoutOthers gatewayId,
      (state.handle pc nowMs stod topic payload).2) =
        (state.withoutOthers gatewayId).handle pc nowMs stod topic payload := by
  rw [handle_snapshot sent.snapshot, handle_snapshot sent.snapshot]
  cases read : readSnapshot pc topic payload with
  | none =>
      rcases handleConfigSnapshot_of_unread pc nowMs _ read with ⟨publications, same⟩
      rw [same, same]
  | some root =>
      have found : (state.withoutOthers gatewayId).service.findSyncPending
          (getJsonInt64 root "seq" 0) =
          state.service.findSyncPending (getJsonInt64 root "seq" 0) :=
        findSyncPending_withoutOthers fun request waits => own root request read waits
      rw [handleConfigSnapshot_of_read pc nowMs _ _ read,
        handleConfigSnapshot_of_read pc nowMs _ _ read, found]
      conv_rhs => rw [withoutOthers, handleSnapshotFor_withWaiting, ← leftWaiting_keepIf,
        ← handleSnapshotFor_waiting pc nowMs state (extractJsonStringValue payload "type")]
      rfl

theorem own_of_ownSeq {gatewayId topic payload : String} {state : PcData} {root : Json}
    (sent : SentBy pc gatewayId payload) (own : OwnSeq pc gatewayId state topic payload)
    (read : readSnapshot pc topic payload = some root)
    (spontaneous : forall request,
      state.service.syncPendingBySeq.get (getJsonInt64 root "seq" 0) = some request ->
        request.pending.gatewayId ≠ gatewayId) :
    state.handle pc nowMs stod topic payload =
      state.handleOwnSnapshot pc nowMs (extractJsonStringValue payload "type") root gatewayId := by
  have nobody : state.service.findSyncPending (getJsonInt64 root "seq" 0) = none := by
    rw [DataService.findSyncPending, Option.map_eq_none_iff]
    cases waits : state.service.syncPendingBySeq.get (getJsonInt64 root "seq" 0) with
    | none => rfl
    | some request => exact absurd (own root request read waits) (spontaneous request waits)
  rw [handle_snapshot sent.snapshot, handleConfigSnapshot_of_read pc nowMs _ _ read, nobody,
    ← sender_of_read sent read]
  rfl

/-- The request of another gateway that waits under the seq is gone. -/
theorem not_kept {gatewayId topic payload : String} {state : PcData} {root : Json}
    {request : SyncRequest} (asked : Asked state) (sent : SentBy pc gatewayId payload)
    (read : readSnapshot pc topic payload = some root)
    (waits : state.service.syncPendingBySeq.get (getJsonInt64 root "seq" 0) = some request) :
    (state.handle pc nowMs stod topic payload).1.service.syncPendingBySeq.get
      (getJsonInt64 root "seq" 0) = none := by
  have valid := asked _ _ waits
  have answered : completes (state.service.findSyncPending (getJsonInt64 root "seq" 0)) = true := by
    rw [DataService.findSyncPending, waits, Option.map_some, completes, Option.any_some, valid.2,
      Bool.not_false, Bool.and_true]
    exact decide_eq_true valid.1
  rw [handle_snapshot sent.snapshot, handleConfigSnapshot_of_read pc nowMs _ _ read,
    handleSnapshotFor_waiting, leftWaiting, if_pos answered, Table.get_erase, if_pos rfl]

/-- A snapshot of a gateway keeps apart from the requests to the others exactly
if none of these waits under the seq that the snapshot carries. -/
theorem sync_isolated_iff (pc : JsonCodec) (stod : String -> Option Rat) (database : Database)
    (startMs nowMs : Int) (events : List PcEvent) {gatewayId payload : String} (topic : String)
    (sent : SentBy pc gatewayId payload) :
    SyncIsolated pc nowMs stod gatewayId ((pcSystem pc stod database startMs).run events) topic
        payload ↔
      OwnSeq pc gatewayId ((pcSystem pc stod database startMs).run events) topic payload := by
  have asked := asked_run pc stod database startMs events
  generalize (pcSystem pc stod database startMs).run events = state at asked ⊢
  constructor
  · intro isolated root request read waits
    by_contra other
    have kept := isolated.kept _ request waits other
    rw [not_kept asked sent read waits] at kept
    cases kept
  · intro own
    refine ⟨?_, unaffected_of_ownSeq sent own, ?_⟩
    · intro seq request waits other
      rw [handle_snapshot sent.snapshot]
      cases read : readSnapshot pc topic payload with
      | none =>
          rcases handleConfigSnapshot_of_unread pc nowMs _ read with ⟨publications, same⟩
          rw [same]
          exact waits
      | some root =>
          have apart : seq ≠ getJsonInt64 root "seq" 0 := by
            intro same
            exact other (own root request read (same ▸ waits))
          rw [handleConfigSnapshot_of_read pc nowMs _ _ read, handleSnapshotFor_waiting,
            leftWaiting]
          split
          · rw [Table.get_erase, if_neg apart]
            exact waits
          · exact waits
    · intro root read spontaneous
      exact own_of_ownSeq sent own read spontaneous

end Isolation

/-! ## Two gateways -/

/-- The user asks the first gateway for the configuration of a device. -/
def syncRequest : Json :=
  .obj [("type", .str "sync_config_request"),
    ("targets", .arr [.obj [("gatewayId", .str "gateway_001"),
      ("devices", .arr [.obj [("portId", .str "port_001"), ("deviceId", .int 3)]])]])]

def syncEvent : PcEvent :=
  .request 0 ((JsonText.codec false).print syncRequest)

/-- A snapshot that the second gateway sends by itself. -/
def otherSnapshot (seq : Int) : Json :=
  .obj [("type", .str "config_snapshot"), ("seq", .int seq), ("gatewayId", .str "gateway_002"),
    ("configVersion", .int 1),
    ("site", .obj [("factoryId", .str "factory_001"), ("areaId", .str "area_001")]),
    ("ports", .arr [])]

def otherPayload (seq : Int) : String :=
  (JsonText.codec false).print (otherSnapshot seq)

/-- The state in which the request waits, under the first seq. -/
def awaiting : PcData :=
  (pcSystem (JsonText.codec false) (fun _ => none) soleDatabase 0).run [syncEvent]

def soleSync : SyncRequest :=
  ⟨1, ⟨1, "gateway_001", [⟨"port_001", 3⟩]⟩, 0⟩

theorem sync_step (state : PcData) :
    state.step (JsonText.codec false) (fun _ => none) syncEvent =
      state.handleSync (JsonText.codec false) 0 [⟨"gateway_001", [⟨"port_001", 3⟩]⟩] := by
  have parsed : parseObject (JsonText.codec false) ((JsonText.codec false).print syncRequest) =
      some syncRequest :=
    parseObject_of_parse ((JsonText.codec false).parse_print _ (by decide))
  change state.handleRequest (JsonText.codec false) 0 ((JsonText.codec false).print syncRequest) = _
  rw [handleRequest, parsed]
  rfl

theorem awaiting_eq :
    awaiting = ((seeded soleDatabase 0).handleSync (JsonText.codec false) 0
      [⟨"gateway_001", [⟨"port_001", 3⟩]⟩]).1 := by
  rw [← sync_step, awaiting, TransitionSystem.run, TransitionSystem.runFrom_cons,
    TransitionSystem.runFrom_nil, pcSystem]

theorem awaiting_waits :
    awaiting.service.syncPendingBySeq.get 1 = some soleSync ∧
      awaiting.service.syncPendingBySeq.get 2 = none := by
  rw [awaiting_eq]
  exact ⟨by decide +kernel, by decide +kernel⟩

theorem seq_other :
    getJsonInt64 (otherSnapshot 1) "seq" 0 = 1 ∧ getJsonInt64 (otherSnapshot 2) "seq" 0 = 2 := by
  decide

theorem parse_other {seq : Int} (wire : (otherSnapshot seq).Wire Json.maxDepth) :
    parseObject (JsonText.codec false) (otherPayload seq) = some (otherSnapshot seq) :=
  parseObject_of_parse ((JsonText.codec false).parse_print _ wire)

theorem other_sent {seq : Int} {payload : String}
    (parsed : parseObject (JsonText.codec false) payload = some (otherSnapshot seq))
    (typed : extractJsonStringValue payload "type" = "config_snapshot") :
    SentBy (JsonText.codec false) "gateway_002" payload := by
  refine ⟨Or.inl typed, ?_⟩
  intro root read
  rw [parsed] at read
  injection read with same
  rw [← same]
  rfl

theorem read_other {seq : Int} {payload : String}
    (parsed : parseObject (JsonText.codec false) payload = some (otherSnapshot seq)) :
    readSnapshot (JsonText.codec false) "gateway/register" payload = some (otherSnapshot seq) := by
  rw [readSnapshot, parsed]
  rfl

/-- The second gateway uses a seq under which nothing waits. -/
theorem other_isolated :
    SyncIsolated (JsonText.codec false) 0 (fun _ => none) "gateway_002" awaiting "gateway/register"
      (otherPayload 2) := by
  have parsed : parseObject (JsonText.codec false) (otherPayload 2) = some (otherSnapshot 2) :=
    parse_other (by decide)
  have sent := other_sent parsed (by decide +kernel)
  generalize otherPayload 2 = payload at parsed sent ⊢
  have isolated_iff := sync_isolated_iff (JsonText.codec false) (fun _ => none) soleDatabase 0 0
    [syncEvent] "gateway/register" sent
  rw [← awaiting] at isolated_iff
  apply isolated_iff.mpr
  intro root request read waits
  rw [read_other parsed] at read
  rw [← Option.some.inj read, seq_other.2, awaiting_waits.2] at waits
  cases waits

/-- It uses the seq of the request, and the request is gone. -/
theorem other_completes :
    SentBy (JsonText.codec false) "gateway_002" (otherPayload 1) ∧
      ¬ SyncIsolated (JsonText.codec false) 0 (fun _ => none) "gateway_002" awaiting
        "gateway/register" (otherPayload 1) := by
  have parsed : parseObject (JsonText.codec false) (otherPayload 1) = some (otherSnapshot 1) :=
    parse_other (by decide)
  have sent := other_sent parsed (by decide +kernel)
  generalize otherPayload 1 = payload at parsed sent ⊢
  refine ⟨sent, ?_⟩
  intro isolated
  have kept := isolated.kept 1 soleSync awaiting_waits.1 (by decide)
  have asked : Asked awaiting :=
    asked_run (JsonText.codec false) (fun _ => none) soleDatabase 0 [syncEvent]
  have waits : awaiting.service.syncPendingBySeq.get (getJsonInt64 (otherSnapshot 1) "seq" 0) =
      some soleSync := by
    rw [seq_other.1]
    exact awaiting_waits.1
  have gone := @not_kept (JsonText.codec false) 0 (fun _ => none) _ _ _ _ _ _ asked sent
    (read_other parsed) waits
  rw [seq_other.1, kept] at gone
  cases gone

end PcData
end Pc
end Imx6Gateway
