import Imx6Gateway.Library.JsonText
import Imx6Gateway.Library.Transition
import Imx6Gateway.Pc.MessageHandler

namespace Imx6Gateway
namespace Pc

open Library

/-!
# Gateways in memory and in the database

A registration writes the record of a gateway to its row and to the memory.  A
heartbeat sets three columns of the row, with the clock of Pc_data, but
replaces the record in memory by what the message says, which has no names and
no registration in it.  This file says along which messages both stay equal.
-/

/-! ## Heartbeats -/

/-- The record that a message makes of its gateway. -/
def parsedHeartbeat (pc : JsonCodec) (readMs : Int) (messageType payload : String) :
    Option GatewayStatus :=
  (parseObject pc payload).bind (if messageType = "gateway_heartbeat" then
    parseGatewayHeartbeat readMs else parseGatewayStatus readMs)

/-- The two writes of a heartbeat. -/
def storeHeartbeat (database : Database) (storeMs : Int) (gateway : GatewayStatus) :
    Database × Bool :=
  let registry := database.updateGatewayRegistryHeartbeat storeMs gateway.gatewayId gateway.status
  if registry.2 then registry.1.updateGatewayHeartbeat storeMs gateway.gatewayId gateway.status
  else (registry.1, false)

/-- `handleGatewayHeartbeat` with the clock that the parser reads and the one
that the database reads later. -/
def PcData.heartbeatAt (pc : JsonCodec) (readMs storeMs : Int) (state : PcData)
    (messageType topic payload : String) : PcData :=
  match parsedHeartbeat pc readMs messageType payload with
  | none => state
  | some gateway =>
      if !isValidGatewayUpTopic topic gateway.gatewayId then state
      else
        let stored := storeHeartbeat state.database storeMs gateway
        { state with
          database := stored.1
          service := if stored.2 then state.service.updateGatewayStatus gateway else state.service }

theorem PcData.handleGatewayHeartbeat_eq (pc : JsonCodec) (nowMs : Int) (state : PcData)
    (messageType topic payload : String) :
    state.handleGatewayHeartbeat pc nowMs messageType topic payload =
      state.heartbeatAt pc nowMs nowMs messageType topic payload := rfl

inductive GatewayMessage where
  | register (nowMs : Int) (topic payload : String)
  | heartbeat (readMs storeMs : Int) (topic payload : String)
  | status (readMs storeMs : Int) (topic payload : String)
deriving DecidableEq

/-! ## Runs -/

section Runs

variable (pc : JsonCodec)

def PcData.gatewayStep (state : PcData) : GatewayMessage -> PcData
  | .register nowMs topic payload => (state.handleGatewayRegister pc nowMs topic payload).1
  | .heartbeat readMs storeMs topic payload =>
      state.heartbeatAt pc readMs storeMs "gateway_heartbeat" topic payload
  | .status readMs storeMs topic payload =>
      state.heartbeatAt pc readMs storeMs "gateway_status" topic payload

/-- The program after its start with a database. -/
def gatewaySystem (database : Database) (startMs : Int) :
    TransitionSystem PcData GatewayMessage where
  initial := seeded database startMs
  step := fun state message => state.gatewayStep pc message

/-- A heartbeat that is on the topic of its gateway and is written. -/
def HeartbeatStored (readMs storeMs : Int) (state : PcData) (messageType topic payload : String) :
    Prop :=
  exists gateway, gateway ∈ parsedHeartbeat pc readMs messageType payload ∧
    isValidGatewayUpTopic topic gateway.gatewayId = true ∧
    (storeHeartbeat state.database storeMs gateway).2 = true

/-- The message is stored. -/
def GatewayStored (state : PcData) : GatewayMessage -> Prop
  | .register nowMs topic payload => PcData.isValidRegisterTopic topic = true ∧
      exists details, details ∈ (parseObject pc payload).bind (parseGatewayRegisterDetails nowMs) ∧
        (PcData.storeGateway state.database details).2.reason = ""
  | .heartbeat readMs storeMs topic payload =>
      HeartbeatStored pc readMs storeMs state "gateway_heartbeat" topic payload
  | .status readMs storeMs topic payload =>
      HeartbeatStored pc readMs storeMs state "gateway_status" topic payload

/-- The memory has the row of every gateway. -/
def GatewaysMirrored (state : PcData) : Prop :=
  forall gatewayId, state.service.gatewayStatuses.get gatewayId =
    state.database.gatewayStatuses.get gatewayId

/-- The row has never been given names or a registration, or there is none. -/
def Unregistered (database : Database) (gatewayId : String) : Prop :=
  forall row, database.gatewayStatuses.get gatewayId = some row ->
    row.gatewayName = "" ∧ row.factoryId = "" ∧ row.areaId = "" ∧ row.lastRegisterTimeMs = 0

/-- The heartbeat is for a gateway without a registration and says the time at
which it is stored. -/
def HeartbeatFits (readMs storeMs : Int) (state : PcData) (messageType payload : String) : Prop :=
  forall gateway, parsedHeartbeat pc readMs messageType payload = some gateway ->
    Unregistered state.database gateway.gatewayId ∧ gateway.lastHeartbeatTimeMs = storeMs

def GatewayCondition (state : PcData) : GatewayMessage -> Prop
  | .register _ _ _ => True
  | .heartbeat readMs storeMs _ payload =>
      HeartbeatFits pc readMs storeMs state "gateway_heartbeat" payload
  | .status readMs storeMs _ payload =>
      HeartbeatFits pc readMs storeMs state "gateway_status" payload

instance (readMs storeMs : Int) (state : PcData) (messageType topic payload : String) :
    Decidable (HeartbeatStored pc readMs storeMs state messageType topic payload) :=
  inferInstanceAs (Decidable (exists gateway,
    gateway ∈ parsedHeartbeat pc readMs messageType payload ∧ _))

instance (state : PcData) : forall message, Decidable (GatewayStored pc state message)
  | .register _ _ _ => inferInstanceAs (Decidable (_ ∧ exists details, details ∈ _ ∧ _))
  | .heartbeat readMs storeMs topic payload => inferInstanceAs (Decidable
      (HeartbeatStored pc readMs storeMs state "gateway_heartbeat" topic payload))
  | .status readMs storeMs topic payload => inferInstanceAs (Decidable
      (HeartbeatStored pc readMs storeMs state "gateway_status" topic payload))

end Runs

/-! ## The rows -/

theorem gatewayStatuses_transact (database : Database) (write : Write)
    {effect : Database -> Database}
    {change : Table String GatewayStatus -> Table String GatewayStatus}
    (writes : forall next, (effect next).gatewayStatuses = change next.gatewayStatuses) :
    (database.transact write effect).1.gatewayStatuses =
      if (database.transact write effect).2 then change database.gatewayStatuses
      else database.gatewayStatuses := by
  unfold Database.transact
  dsimp only
  split
  · exact writes { database with outcomes := database.outcomes.tail }
  · rfl

theorem gatewayStatuses_transact_kept (database : Database) (write : Write)
    {effect : Database -> Database}
    (keeps : forall next, (effect next).gatewayStatuses = next.gatewayStatuses) :
    (database.transact write effect).1.gatewayStatuses = database.gatewayStatuses := by
  have written := @gatewayStatuses_transact database write effect id keeps
  rw [id, ite_self] at written
  exact written

theorem gatewayStatuses_upsertGatewayRegistry (database : Database) (registry : GatewayRegistry) :
    (database.upsertGatewayRegistry registry).1.gatewayStatuses = database.gatewayStatuses := by
  unfold Database.upsertGatewayRegistry
  split
  · rfl
  · exact gatewayStatuses_transact_kept database _ fun _ => rfl

theorem gatewayStatuses_upsertGatewayPort (database : Database) (port : GatewayPort) :
    (database.upsertGatewayPort port).1.gatewayStatuses = database.gatewayStatuses := by
  unfold Database.upsertGatewayPort
  split
  · rfl
  · exact gatewayStatuses_transact_kept database _ fun _ => rfl

theorem gatewayStatuses_ports (database : Database) (ports : List GatewayPort) :
    (database.each Database.upsertGatewayPort ports).1.gatewayStatuses =
      database.gatewayStatuses := by
  unfold Database.each
  generalize true = done
  induction ports generalizing database done with
  | nil => rfl
  | cons port ports ih =>
      rw [List.foldl_cons, ih]
      exact gatewayStatuses_upsertGatewayPort database port

theorem gatewayStatuses_upsertGatewayStatus {database : Database} {gateway : GatewayStatus}
    (done : (database.upsertGatewayStatus gateway).2 = true) :
    (database.upsertGatewayStatus gateway).1.gatewayStatuses =
      database.gatewayStatuses.put gateway.gatewayId
        { gateway with status := orElse gateway.status "online" } := by
  unfold Database.upsertGatewayStatus at done ⊢
  split at done
  · cases done
  · rename_i named
    rw [if_neg named, @gatewayStatuses_transact _ _ _
      (fun rows => rows.put gateway.gatewayId
        { gateway with status := orElse gateway.status "online" }) fun _ => rfl, done, if_pos rfl]

/-- A registration that is stored has written its gateway, whatever its ports. -/
theorem gatewayStatuses_storeGateway {database : Database} {details : GatewayDetails}
    (stored : (PcData.storeGateway database details).2.reason = "") :
    (PcData.storeGateway database details).1.gatewayStatuses =
      database.gatewayStatuses.put details.gateway.gatewayId
        { details.gateway with status := orElse details.gateway.status "online" } := by
  have refused : "db_error" ≠ "" := by decide
  unfold PcData.storeGateway at stored ⊢
  cases opened : database.isOpen with
  | false =>
      rw [opened] at stored
      exact absurd stored refused
  | true =>
      rw [opened] at stored
      rw [Bool.not_true, if_neg Bool.false_ne_true] at stored ⊢
      dsimp only at stored ⊢
      have kept := gatewayStatuses_upsertGatewayRegistry database details.registry
      generalize database.upsertGatewayRegistry details.registry = registry at stored kept ⊢
      cases first : registry.2 with
      | false =>
          rw [first] at stored
          exact absurd stored refused
      | true =>
          rw [first, if_pos rfl] at stored
          rw [if_pos rfl]
          cases saved : (registry.1.upsertGatewayStatus details.gateway).2 with
          | false =>
              rw [saved] at stored
              exact absurd stored refused
          | true =>
              rw [Bool.not_true, if_neg Bool.false_ne_true, gatewayStatuses_ports,
                gatewayStatuses_upsertGatewayStatus saved, kept]

/-- The row after a heartbeat: the names and the registration are those before. -/
def beatenRow (storeMs : Int) (gateway : GatewayStatus) (old : Option GatewayStatus) :
    GatewayStatus :=
  { old.getD ⟨gateway.gatewayId, "", "", "", "", 0, 0, 0⟩ with
    status := orElse gateway.status "online"
    lastHeartbeatTimeMs := storeMs
    updateTimeMs := storeMs }

theorem gatewayStatuses_storeHeartbeat {database : Database} {storeMs : Int}
    {gateway : GatewayStatus} (stored : (storeHeartbeat database storeMs gateway).2 = true) :
    (storeHeartbeat database storeMs gateway).1.gatewayStatuses =
      database.gatewayStatuses.put gateway.gatewayId
        (beatenRow storeMs gateway (database.gatewayStatuses.get gateway.gatewayId)) := by
  have registry : (database.updateGatewayRegistryHeartbeat storeMs gateway.gatewayId
      gateway.status).1.gatewayStatuses = database.gatewayStatuses := by
    unfold Database.updateGatewayRegistryHeartbeat
    split
    · rfl
    · exact gatewayStatuses_transact_kept database _ fun _ => rfl
  unfold storeHeartbeat at stored ⊢
  dsimp only at stored ⊢
  generalize database.updateGatewayRegistryHeartbeat storeMs gateway.gatewayId gateway.status = first
    at stored registry ⊢
  split at stored
  · rename_i done
    rw [if_pos done]
    unfold Database.updateGatewayHeartbeat at stored ⊢
    split at stored
    · cases stored
    · rename_i named
      rw [if_neg named, @gatewayStatuses_transact _ _ _
        (fun rows => rows.put gateway.gatewayId
          (beatenRow storeMs gateway (rows.get gateway.gatewayId))) fun _ => rfl, stored, if_pos rfl,
        registry]
  · cases stored

/-! ## The records in memory -/

theorem gatewayStatuses_foldl {Record : Type} {remember : DataService -> Record -> DataService}
    (kept : forall service record,
      (remember service record).gatewayStatuses = service.gatewayStatuses)
    (records : List Record) (service : DataService) :
    (records.foldl remember service).gatewayStatuses = service.gatewayStatuses := by
  induction records generalizing service with
  | nil => rfl
  | cons record records ih => exact (ih (remember service record)).trans (kept service record)

theorem gatewayStatuses_rememberGatewayPorts (service : DataService) (ports : List GatewayPort) :
    (service.rememberGatewayPorts ports).gatewayStatuses = service.gatewayStatuses := by
  apply gatewayStatuses_foldl
  intro service port
  unfold DataService.updateGatewayPort
  split
  · rfl
  · rfl

theorem gatewayStatuses_rememberGatewayRegistry (service : DataService)
    (registry : GatewayRegistry) :
    (service.rememberGatewayRegistry registry).gatewayStatuses = service.gatewayStatuses := by
  unfold DataService.rememberGatewayRegistry
  split
  · rfl
  · rfl

theorem gatewayStatuses_rememberDeviceRegistries (service : DataService)
    (devices : List DeviceRecord) :
    (service.rememberDeviceRegistries devices).gatewayStatuses = service.gatewayStatuses := by
  apply gatewayStatuses_foldl
  intro service device
  unfold DataService.rememberDeviceRegistry
  split
  · rfl
  · rfl

theorem gatewayStatuses_rememberPointConfigs (service : DataService) (configs : List PointConfig) :
    (service.rememberPointConfigs configs).gatewayStatuses = service.gatewayStatuses := by
  apply gatewayStatuses_foldl
  intro service config
  unfold DataService.updatePointConfig
  split
  · rfl
  · rfl

theorem gatewayStatuses_updateGatewayStatus {gateway : GatewayStatus}
    (named : gateway.gatewayId ≠ "") (service : DataService) :
    (service.updateGatewayStatus gateway).gatewayStatuses =
      service.gatewayStatuses.put gateway.gatewayId gateway := by
  unfold DataService.updateGatewayStatus
  rw [if_neg named]

/-- Every row is under the identifier of its gateway, which is not empty. -/
def GatewaysFiled (database : Database) : Prop :=
  forall gatewayId row, database.gatewayStatuses.get gatewayId = some row ->
    row.gatewayId = gatewayId ∧ gatewayId ≠ ""

theorem gatewayStatuses_updateGatewayStatuses {gateways : List GatewayStatus}
    (named : forall gateway, gateway ∈ gateways -> gateway.gatewayId ≠ "") (service : DataService) :
    (service.updateGatewayStatuses gateways).gatewayStatuses =
      Table.putAll GatewayStatus.gatewayId id gateways service.gatewayStatuses := by
  unfold DataService.updateGatewayStatuses
  induction gateways generalizing service with
  | nil => rfl
  | cons gateway gateways ih =>
      have first := gatewayStatuses_updateGatewayStatus
        (named gateway List.mem_cons_self) service
      rw [List.foldl_cons, ih fun other inside => named other (List.mem_cons_of_mem gateway inside),
        first]
      rfl

/-- The rows of a table, put in again under their identifiers. -/
theorem get_putAll_values {rows : Table String GatewayStatus}
    (filed : forall gatewayId row, rows.get gatewayId = some row -> row.gatewayId = gatewayId)
    (gatewayId : String) :
    (Table.putAll GatewayStatus.gatewayId id rows.values ∅).get gatewayId = rows.get gatewayId := by
  cases found : (Table.putAll GatewayStatus.gatewayId id rows.values ∅).get gatewayId with
  | none =>
      symm
      rw [Option.eq_none_iff_forall_not_mem]
      intro row there
      have present := (Table.isSome_get_putAll GatewayStatus.gatewayId id rows.values ∅
        gatewayId).mpr (Or.inl ⟨row, Table.mem_values.mpr ⟨gatewayId, there⟩,
          filed gatewayId row there⟩)
      rw [found] at present
      cases present
  | some other =>
      rcases Table.get_putAll GatewayStatus.gatewayId id found with ⟨row, listed, same, rfl⟩ | absent
      · rcases Table.mem_values.mp listed with ⟨key, there⟩
        have here := (filed key row there).symm.trans same
        rw [here] at there
        exact there.symm
      · rw [Table.get_empty] at absent
        cases absent

theorem gatewaysMirrored_seeded {database : Database} (opened : database.isOpen = true)
    (filed : GatewaysFiled database) (startMs : Int) : GatewaysMirrored (seeded database startMs) := by
  intro gatewayId
  have named : forall gateway, gateway ∈ database.gatewayStatuses.values ->
      gateway.gatewayId ≠ "" := by
    intro gateway listed
    rcases Table.mem_values.mp listed with ⟨key, there⟩
    have under := filed key gateway there
    rw [under.1]
    exact under.2
  have loaded : (seeded database startMs).service.gatewayStatuses =
      Table.putAll GatewayStatus.gatewayId id database.gatewayStatuses.values ∅ := by
    unfold seeded
    rw [opened, if_pos rfl]
    change (DataService.rememberPointConfigs _ _).gatewayStatuses = _
    rw [gatewayStatuses_rememberPointConfigs, gatewayStatuses_rememberDeviceRegistries,
      gatewayStatuses_rememberGatewayPorts, gatewayStatuses_updateGatewayStatuses named]
    rfl
  rw [loaded, get_putAll_values fun key row there => (filed key row there).1]
  rfl

/-! ## Steps -/

theorem orElse_online (status : String) :
    orElse (orElse status "online") "online" = orElse status "online" := by
  have named : orElse status "online" ≠ "" := by
    unfold orElse
    split
    · decide
    · assumption
  exact if_neg named

/-- What no heartbeat says. -/
structure Silent (gateway : GatewayStatus) : Prop where
  gatewayId : gateway.gatewayId ≠ ""
  gatewayName : gateway.gatewayName = ""
  factoryId : gateway.factoryId = ""
  areaId : gateway.areaId = ""
  lastRegisterTimeMs : gateway.lastRegisterTimeMs = 0
  status : orElse gateway.status "online" = gateway.status
  updateTimeMs : gateway.updateTimeMs = gateway.lastHeartbeatTimeMs

theorem silent_of_parsed {pc : JsonCodec} {readMs : Int} {messageType payload : String}
    {gateway : GatewayStatus} (parsed : gateway ∈ parsedHeartbeat pc readMs messageType payload) :
    Silent gateway := by
  rcases Option.bind_eq_some_iff.mp parsed with ⟨root, -, read⟩
  split_ifs at read
  · unfold parseGatewayHeartbeat at read
    dsimp only at read
    split_ifs at read with refused
    cases read
    rw [not_or] at refused
    exact ⟨refused.2, rfl, rfl, rfl, rfl, orElse_online _, rfl⟩
  · unfold parseGatewayStatus at read
    dsimp only at read
    split_ifs at read with refused
    cases read
    exact ⟨refused, rfl, rfl, rfl, rfl, orElse_online _, rfl⟩

theorem beatenRow_eq_iff {storeMs : Int} {gateway : GatewayStatus} (silent : Silent gateway)
    {old : Option GatewayStatus}
    (filed : forall row, old = some row -> row.gatewayId = gateway.gatewayId) :
    gateway = beatenRow storeMs gateway old ↔
      (forall row, old = some row -> row.gatewayName = "" ∧ row.factoryId = "" ∧ row.areaId = "" ∧
        row.lastRegisterTimeMs = 0) ∧ gateway.lastHeartbeatTimeMs = storeMs := by
  rcases silent with ⟨-, name, factory, area, register, status, update⟩
  cases gateway with
  | mk gatewayId gatewayName factoryId areaId gatewayState registerMs heartbeatMs updateMs =>
      dsimp only at name factory area register status update filed
      subst name factory area register update
      cases old with
      | none => simp [beatenRow, status]
      | some row =>
          have here := filed row rfl
          simp only [beatenRow, Option.getD_some, status, here, GatewayStatus.mk.injEq, true_and,
            Option.some.injEq, forall_eq']
          constructor
          · rintro ⟨name, factory, area, register, heartbeat, -⟩
            exact ⟨⟨name.symm, factory.symm, area.symm, register.symm⟩, heartbeat⟩
          · rintro ⟨⟨name, factory, area, register⟩, heartbeat⟩
            exact ⟨name.symm, factory.symm, area.symm, register.symm, heartbeat, heartbeat⟩

section Steps

variable {pc : JsonCodec} {state : PcData}

/-- A registration that is stored writes one record to both places. -/
theorem gatewayStatuses_register {nowMs : Int} {topic payload : String}
    (stored : GatewayStored pc state (.register nowMs topic payload)) :
    exists gateway : GatewayStatus, gateway.gatewayId ≠ "" ∧
      (state.handleGatewayRegister pc nowMs topic payload).1.database.gatewayStatuses =
        state.database.gatewayStatuses.put gateway.gatewayId gateway ∧
      (state.handleGatewayRegister pc nowMs topic payload).1.service.gatewayStatuses =
        state.service.gatewayStatuses.put gateway.gatewayId gateway := by
  rcases stored with ⟨valid, details, parsed, saved⟩
  have read := parsed
  rw [Option.mem_def] at parsed
  rcases Option.bind_eq_some_iff.mp read with ⟨root, -, accepted⟩
  unfold parseGatewayRegisterDetails at accepted
  dsimp only at accepted
  split_ifs at accepted with refused
  rw [not_or] at refused
  have gateway : details.gateway = registeredGateway nowMs root :=
    (congrArg GatewayDetails.gateway (Option.some.inj accepted)).symm
  have named : details.gateway.gatewayId ≠ "" := by
    rw [gateway]
    exact refused.2
  have status : orElse details.gateway.status "online" = details.gateway.status := by
    rw [gateway]
    exact orElse_online _
  refine ⟨details.gateway, named, ?_, ?_⟩
  · unfold PcData.handleGatewayRegister
    rw [valid, Bool.not_true, if_neg Bool.false_ne_true, parsed]
    change (PcData.storeGateway state.database details).1.gatewayStatuses = _
    rw [gatewayStatuses_storeGateway saved, status]
  · unfold PcData.handleGatewayRegister
    rw [valid, Bool.not_true, if_neg Bool.false_ne_true, parsed]
    simp only [saved, if_true, PcData.answered]
    rw [gatewayStatuses_updateGatewayStatus named, gatewayStatuses_rememberGatewayPorts,
      gatewayStatuses_rememberGatewayRegistry]

/-- A heartbeat that is stored writes two different records. -/
theorem gatewayStatuses_heartbeat {readMs storeMs : Int} {messageType topic payload : String}
    (stored : HeartbeatStored pc readMs storeMs state messageType topic payload) :
    exists gateway, parsedHeartbeat pc readMs messageType payload = some gateway ∧ Silent gateway ∧
      (state.heartbeatAt pc readMs storeMs messageType topic payload).database.gatewayStatuses =
        state.database.gatewayStatuses.put gateway.gatewayId (beatenRow storeMs gateway
          (state.database.gatewayStatuses.get gateway.gatewayId)) ∧
      (state.heartbeatAt pc readMs storeMs messageType topic payload).service.gatewayStatuses =
        state.service.gatewayStatuses.put gateway.gatewayId gateway := by
  rcases stored with ⟨gateway, parsed, valid, saved⟩
  have silent := silent_of_parsed parsed
  rw [Option.mem_def] at parsed
  refine ⟨gateway, parsed, silent, ?_, ?_⟩
  · unfold PcData.heartbeatAt
    rw [parsed]
    dsimp only
    rw [valid, Bool.not_true, if_neg Bool.false_ne_true]
    exact gatewayStatuses_storeHeartbeat saved
  · unfold PcData.heartbeatAt
    rw [parsed]
    dsimp only
    rw [valid, Bool.not_true, if_neg Bool.false_ne_true, saved, if_pos rfl]
    exact gatewayStatuses_updateGatewayStatus silent.gatewayId state.service

theorem mirrored_put {before after : PcData} (mirrored : GatewaysMirrored before)
    {gatewayId : String} {row gateway : GatewayStatus}
    (database : after.database.gatewayStatuses = before.database.gatewayStatuses.put gatewayId row)
    (service : after.service.gatewayStatuses = before.service.gatewayStatuses.put gatewayId gateway) :
    GatewaysMirrored after ↔ gateway = row := by
  unfold GatewaysMirrored
  rw [database, service]
  constructor
  · intro same
    have here := same gatewayId
    rw [Table.get_put, Table.get_put, if_pos rfl, if_pos rfl] at here
    exact Option.some.inj here
  · rintro rfl other
    rw [Table.get_put, Table.get_put, mirrored other]

theorem filed_put {before after : PcData} (filed : GatewaysFiled before.database)
    {gatewayId : String} {row : GatewayStatus} (named : gatewayId ≠ "")
    (own : row.gatewayId = gatewayId)
    (database : after.database.gatewayStatuses = before.database.gatewayStatuses.put gatewayId row) :
    GatewaysFiled after.database := by
  intro other found there
  rw [database, Table.get_put] at there
  split at there
  · rename_i here
    cases there
    exact ⟨own.trans here.symm, here ▸ named⟩
  · exact filed other found there

theorem heartbeat_step {readMs storeMs : Int} {messageType topic payload : String}
    (filed : GatewaysFiled state.database) (mirrored : GatewaysMirrored state)
    (stored : HeartbeatStored pc readMs storeMs state messageType topic payload) :
    GatewaysFiled (state.heartbeatAt pc readMs storeMs messageType topic payload).database ∧
      (GatewaysMirrored (state.heartbeatAt pc readMs storeMs messageType topic payload) ↔
        HeartbeatFits pc readMs storeMs state messageType payload) := by
  rcases gatewayStatuses_heartbeat stored with ⟨gateway, parsed, silent, database, service⟩
  have old : forall row, state.database.gatewayStatuses.get gateway.gatewayId = some row ->
      row.gatewayId = gateway.gatewayId :=
    fun row there => (filed gateway.gatewayId row there).1
  have own : (beatenRow storeMs gateway
      (state.database.gatewayStatuses.get gateway.gatewayId)).gatewayId = gateway.gatewayId := by
    cases there : state.database.gatewayStatuses.get gateway.gatewayId with
    | none => rfl
    | some row => exact old row there
  refine ⟨filed_put filed silent.gatewayId own database, ?_⟩
  rw [mirrored_put mirrored database service, beatenRow_eq_iff silent old]
  constructor
  · rintro fits other again
    cases parsed.symm.trans again
    exact fits
  · intro fits
    exact fits gateway parsed

theorem gateway_step {message : GatewayMessage} (filed : GatewaysFiled state.database)
    (mirrored : GatewaysMirrored state) (stored : GatewayStored pc state message) :
    GatewaysFiled (state.gatewayStep pc message).database ∧
      (GatewaysMirrored (state.gatewayStep pc message) ↔ GatewayCondition pc state message) := by
  cases message with
  | register nowMs topic payload =>
      rcases gatewayStatuses_register stored with ⟨gateway, named, database, service⟩
      exact ⟨filed_put filed named rfl database,
        iff_of_true ((mirrored_put mirrored database service).mpr rfl) trivial⟩
  | heartbeat readMs storeMs topic payload => exact heartbeat_step filed mirrored stored
  | status readMs storeMs topic payload => exact heartbeat_step filed mirrored stored

end Steps

/-- Along messages that are all stored, the memory has the row of every gateway
at every moment exactly if each heartbeat is for a gateway without a
registration and says the time at which it is stored. -/
theorem gateways_mirrored_iff (pc : JsonCodec) {database : Database}
    (opened : database.isOpen = true) (filed : GatewaysFiled database) (startMs : Int)
    {messages : List GatewayMessage}
    (stored : (gatewaySystem pc database startMs).Admissible (GatewayStored pc) messages) :
    (forall before after, messages = before ++ after ->
      GatewaysMirrored ((gatewaySystem pc database startMs).run before)) ↔
      (gatewaySystem pc database startMs).Admissible (GatewayCondition pc) messages := by
  refine @TransitionSystem.everywhereFrom_iff_of_kept _ _ (gatewaySystem pc database startMs)
    (GatewayStored pc) (GatewayCondition pc) (fun state => GatewaysFiled state.database)
    GatewaysMirrored ?_ ?_ _ _ filed (gatewaysMirrored_seeded opened filed startMs) stored
  · intro state message filed stored mirrored _
    exact (gateway_step filed mirrored stored).1
  · intro state message filed stored mirrored
    exact (gateway_step filed mirrored stored).2

/-- A database without rows. -/
def blankDatabase : Database where
  isOpen := true
  devices := ∅
  deviceStatuses := ∅
  gatewayRegistries := ∅
  gatewayStatuses := ∅
  gatewayPorts := ∅
  pointConfigs := ∅
  latestPoints := ∅
  telemetryHistory := []
  outcomes := []
  committed := []

theorem blankDatabase_filed : GatewaysFiled blankDatabase := by
  intro gatewayId row there
  cases (Table.get_empty gatewayId).symm.trans there

def gatewayText (messageType : String) (more : List (String × Json)) : String :=
  (JsonText.codec false).print (.obj ([("type", .str messageType),
    ("gatewayId", .str "g1")] ++ more))

/-- A gateway registers, and its first heartbeat carries the time of the board. -/
def registeredThenAlive : List GatewayMessage :=
  [.register 1000 "gateway/register"
      (gatewayText "gateway_register" [("gatewayName", .str "Lab")]),
    .heartbeat 2000 2000 "gateway/g1/up"
      (gatewayText "gateway_heartbeat" [("timestampMs", .int 5)])]

/-- The memory has lost the name, and has the time of the board. -/
theorem heartbeat_forgets_name :
    (gatewaySystem (JsonText.codec false) blankDatabase 0).Admissible
        (GatewayStored (JsonText.codec false)) registeredThenAlive ∧
      ¬ GatewaysMirrored ((gatewaySystem (JsonText.codec false) blankDatabase 0).run
        registeredThenAlive) := by
  refine ⟨by decide +kernel, ?_⟩
  intro mirrored
  have here := mirrored "g1"
  revert here
  decide +kernel

/-- A gateway that never registers, whose heartbeats say no time. -/
theorem alive_only_mirrored :
    (forall before after, [GatewayMessage.status 2000 2000 "gateway/g1/up"
        (gatewayText "gateway_status" [])] = before ++ after ->
      GatewaysMirrored ((gatewaySystem (JsonText.codec false) blankDatabase 0).run before)) ↔
      (gatewaySystem (JsonText.codec false) blankDatabase 0).Admissible
        (GatewayCondition (JsonText.codec false))
        [.status 2000 2000 "gateway/g1/up" (gatewayText "gateway_status" [])] :=
  gateways_mirrored_iff (JsonText.codec false) rfl blankDatabase_filed 0 (by decide +kernel)

end Pc
end Imx6Gateway
