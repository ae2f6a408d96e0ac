import Imx6Gateway.Library.TransactionSeries
import Imx6Gateway.Pc.RegistryEffect

namespace Imx6Gateway
namespace Pc

open Library TransactionSeries

/-!
# What a message stores

The content of a message and the transactions that store it.  The content is
stored if the database is open and its log has grown by these transactions, in
their order.  Every function of the database reports success exactly if it has
committed all that it was given to write.
-/

/-- What a message gives to the database. -/
inductive Content where
  | gateway (details : GatewayDetails)
  | port (port : GatewayPort)
  | device (device : DeviceRecord)
  | snapshot (nowMs : Int) (gatewayId : String) (entries : ConfigSnapshot) (fullSnapshot : Bool)
  | selection (pending : SyncGatewayPending) (entries : ConfigSnapshot)

namespace Database

def isTombstone (database : Database) (device : DeviceRecord) : Bool :=
  database.deviceDeleted device.gatewayId device.portId device.deviceId

/-- An entry of a deleted device is passed over. -/
def deviceWrite (database : Database) (device : DeviceRecord) : Option Write :=
  if database.isTombstone device then none else some (.device device)

/-- The points are written together, if there are any. -/
def configWrites (configs : List PointConfig) : List Write :=
  if configs.isEmpty then [] else [.pointConfigs configs]

/-- The entries of the gateway itself, and the points of the devices that are
known in the end. -/
def entryWrites (after : Database) (gatewayId : String) (entries : ConfigSnapshot) : List Write :=
  (entries.ports.filter (ownPort gatewayId)).map .gatewayPort ++
    (entries.devices.filter (ownEntry gatewayId)).filterMap after.deviceWrite ++
    configWrites (entries.pointConfigs.filter after.knowsConfig)

end Database

open Database

/-- The transactions that store a content. -/
def Content.writes (before after : Database) : Content -> List Write
  | .gateway details =>
      .gatewayRegistry details.registry :: .gatewayStatus details.gateway ::
        details.ports.map .gatewayPort
  | .port row => [.gatewayPort row]
  | .device row => [.device row]
  | .snapshot _ gatewayId entries fullSnapshot =>
      (if fullSnapshot then before.activeKeys.filter (missingFrom gatewayId entries.devices)
        else []).map .deviceDeleted ++ after.entryWrites gatewayId entries
  | .selection pending entries =>
      .selectionCleared (selectedKeys pending.gatewayId pending.devices) ::
        after.entryWrites pending.gatewayId entries

/-- The step from one database to the other has stored the content. -/
def Content.Stored (before after : Database) (content : Content) : Prop :=
  before.isOpen = true ∧ after.committed = before.committed ++ content.writes before after

namespace Database

/-! ## One function -/

/-- What a function has appended to the log of the database. -/
def Logs (before : Database) (result : Database × Bool) (writes : List Write) : Prop :=
  Appends before.committed result.1.committed result.2 writes

theorem transact_logs (database : Database) (write : Write) (effect : Database -> Database) :
    database.Logs (database.transact write effect) [write] := by
  unfold Logs transact
  split
  · exact appends_entry database.committed write
  · exact appends_refused database.committed (List.cons_ne_nil write [])

theorem isOpen_transact (database : Database) (write : Write) {effect : Database -> Database}
    (kept : forall database, (effect database).isOpen = database.isOpen) :
    (database.transact write effect).1.isOpen = database.isOpen := by
  unfold transact
  split
  · exact kept _
  · rfl

theorem logs_refused (database : Database) (write : Write) (writes : List Write) :
    database.Logs (database, false) (write :: writes) :=
  appends_refused database.committed (List.cons_ne_nil write writes)

theorem upsertGatewayRegistry_logs (database : Database) (registry : GatewayRegistry) :
    database.Logs (database.upsertGatewayRegistry registry) [.gatewayRegistry registry] := by
  unfold upsertGatewayRegistry
  split
  · exact database.logs_refused _ []
  · exact database.transact_logs _ _

theorem upsertGatewayStatus_logs (database : Database) (gateway : GatewayStatus) :
    database.Logs (database.upsertGatewayStatus gateway) [.gatewayStatus gateway] := by
  unfold upsertGatewayStatus
  split
  · exact database.logs_refused _ []
  · exact database.transact_logs _ _

theorem upsertGatewayPort_logs (database : Database) (port : GatewayPort) :
    database.Logs (database.upsertGatewayPort port) [.gatewayPort port] := by
  unfold upsertGatewayPort
  split
  · exact database.logs_refused _ []
  · exact database.transact_logs _ _

theorem upsertDevice_logs (database : Database) (device : DeviceRecord)
    (allowDeletedReactivate : Bool) :
    database.Logs (database.upsertDevice device allowDeletedReactivate) [.device device] := by
  unfold upsertDevice
  split
  · exact database.logs_refused _ []
  · split
    · exact database.logs_refused _ []
    · split
      · exact database.logs_refused _ []
      · exact database.transact_logs _ _

theorem deleteDeviceData_logs (database : Database) (nowMs : Int) (key : DeviceKey) :
    database.Logs (database.deleteDeviceData nowMs key.gatewayId key.portId key.deviceId)
      [.deviceDeleted key] := by
  unfold deleteDeviceData
  rw [deviceKey?_key]
  dsimp only
  split
  · exact database.logs_refused _ []
  · exact database.transact_logs _ _

theorem savePointConfigs_logs {database : Database} (isOpen : database.isOpen = true)
    (configs : List PointConfig) :
    database.Logs (database.savePointConfigs configs) (configWrites configs) := by
  unfold savePointConfigs configWrites
  rw [isOpen, if_neg (by decide)]
  split
  · exact appends_nothing database.committed
  · exact database.transact_logs _ _

/-! ## Lists of entries -/

/-- A function that keeps what its writes depend on. -/
theorem each_logs {Item : Type} {operation : Database -> Item -> Database × Bool}
    {write : Item -> Option Write} (kept : Database -> Prop)
    (step : forall database item, kept database -> kept (operation database item).1 ∧
      database.Logs (operation database item) (write item).toList)
    (items : List Item) {database : Database} (start : kept database) :
    kept (database.each operation items).1 ∧
      database.Logs (database.each operation items) (items.filterMap write) := by
  induction items generalizing database with
  | nil => exact ⟨start, appends_nothing database.committed⟩
  | cons item items ih =>
      have first := step database item start
      have rest := ih first.1
      rw [each_cons]
      refine ⟨rest.1, ?_⟩
      have both := Appends.trans first.2 rest.2
      cases written : write item with
      | none =>
          rw [written, Option.toList_none, List.nil_append] at both
          rw [List.filterMap_cons_none written]
          exact both
      | some entry =>
          rw [written, Option.toList_some, List.singleton_append] at both
          rw [List.filterMap_cons_some written]
          exact both

theorem filterMap_some_map {Item : Type} (items : List Item) (write : Item -> Write) :
    items.filterMap (fun item => some (write item)) = items.map write := by
  rw [← List.filterMap_eq_map]
  rfl

theorem each_port_logs (ports : List GatewayPort) (database : Database) :
    database.Logs (database.each upsertGatewayPort ports) (ports.map .gatewayPort) := by
  rw [← filterMap_some_map]
  exact (each_logs (fun _ => True)
    (fun database port _ => ⟨trivial, database.upsertGatewayPort_logs port⟩) ports trivial).2

/-! ## Entries of devices -/

/-- What the functions for entries keep. -/
structure SameGraves (database after : Database) : Prop where
  isOpen : after.isOpen = database.isOpen
  tombstones : forall device, after.isTombstone device = database.isTombstone device

theorem SameGraves.refl (database : Database) : database.SameGraves database :=
  ⟨rfl, fun _ => rfl⟩

theorem SameGraves.trans {database between after : Database}
    (first : database.SameGraves between) (second : between.SameGraves after) :
    database.SameGraves after :=
  ⟨second.isOpen.trans first.isOpen,
    fun device => (second.tombstones device).trans (first.tombstones device)⟩

theorem SameGraves.of_same {database after : Database} (same : database.SameDevices after) :
    database.SameGraves after := by
  refine ⟨same.isOpen, ?_⟩
  intro device
  unfold isTombstone deviceDeleted
  rw [same.devices, same.isOpen]

theorem knowsConfig_of_same {database after : Database} (same : database.SameDevices after) :
    after.knowsConfig = database.knowsConfig := by
  funext config
  unfold knowsConfig deviceExists
  rw [same.devices, same.isOpen]

/-- The row of a device that is not deleted stays one that is not. -/
theorem upsertDevice_graves {database : Database} {device : DeviceRecord}
    (alive : database.isTombstone device = false) (allowDeletedReactivate : Bool) :
    database.SameGraves (database.upsertDevice device allowDeletedReactivate).1 := by
  unfold isTombstone deviceDeleted at alive
  unfold upsertDevice
  split
  case h_1 => exact SameGraves.refl database
  case h_2 key named =>
    split
    · exact SameGraves.refl database
    · split
      · exact SameGraves.refl database
      · unfold transact
        split
        · refine ⟨rfl, ?_⟩
          intro other
          unfold isTombstone deviceDeleted
          cases otherKey : deviceKey? other.gatewayId other.portId other.deviceId with
          | none => rfl
          | some found =>
              change (database.isOpen && ((database.devices.put key _).get found).any
                DeviceRow.tombstoned) = (database.isOpen &&
                  (database.devices.get found).any DeviceRow.tombstoned)
              rw [Table.get_put]
              split
              · rename_i same
                rw [DeviceRecord.key?] at named
                rw [named] at alive
                rw [same]
                exact (Bool.and_false _).trans alive.symm
              · rfl
        · exact ⟨rfl, fun _ => rfl⟩

theorem upsertSnapshotDevice_step (database : Database) (device : DeviceRecord)
    (allowDeletedReactivate : Bool) :
    database.SameGraves (database.upsertSnapshotDevice allowDeletedReactivate device).1 ∧
      database.Logs (database.upsertSnapshotDevice allowDeletedReactivate device)
        (database.deviceWrite device).toList := by
  unfold upsertSnapshotDevice deviceWrite
  change database.SameGraves (if database.isTombstone device then _ else _ : Database × Bool).1 ∧
    database.Logs (if database.isTombstone device then _ else _) _
  split
  · exact ⟨SameGraves.refl database, appends_nothing database.committed⟩
  · rename_i alive
    rw [Bool.not_eq_true] at alive
    exact ⟨upsertDevice_graves alive allowDeletedReactivate,
      database.upsertDevice_logs device allowDeletedReactivate⟩

theorem deviceWrite_of_graves {database after : Database} (same : database.SameGraves after) :
    after.deviceWrite = database.deviceWrite := by
  funext device
  unfold deviceWrite
  rw [same.tombstones device]

theorem each_device_logs (devices : List DeviceRecord) (allowDeletedReactivate : Bool)
    (database : Database) :
    database.SameGraves (database.each (upsertSnapshotDevice allowDeletedReactivate) devices).1 ∧
      database.Logs (database.each (upsertSnapshotDevice allowDeletedReactivate) devices)
        (devices.filterMap database.deviceWrite) := by
  apply each_logs database.SameGraves
  · intro later device same
    have step := later.upsertSnapshotDevice_step device allowDeletedReactivate
    rw [deviceWrite_of_graves same] at step
    exact ⟨same.trans step.1, step.2⟩
  · exact SameGraves.refl database

/-! ## Snapshots -/

theorem upsertSnapshotEntries_step {database : Database} (isOpen : database.isOpen = true)
    (gatewayId : String) (entries : ConfigSnapshot) (allowDeletedReactivate : Bool) :
    database.Logs (database.upsertSnapshotEntries gatewayId entries allowDeletedReactivate)
      ((database.upsertSnapshotEntries gatewayId entries allowDeletedReactivate).1.entryWrites
        gatewayId entries) := by
  have ports := each_port_logs (entries.ports.filter (ownPort gatewayId)) database
  have portGraves := SameGraves.of_same
    (each_same upsertGatewayPort_same (entries.ports.filter (ownPort gatewayId)) database)
  unfold upsertSnapshotEntries entryWrites
  dsimp only
  generalize database.each upsertGatewayPort (entries.ports.filter (ownPort gatewayId)) = stored
    at ports portGraves ⊢
  have devices := each_device_logs (entries.devices.filter (ownEntry gatewayId))
    allowDeletedReactivate stored.1
  generalize stored.1.each (upsertSnapshotDevice allowDeletedReactivate)
    (entries.devices.filter (ownEntry gatewayId)) = entered at devices ⊢
  have written := Appends.trans ports devices.2
  split
  · rename_i none
    rw [List.isEmpty_iff] at none
    rw [none, List.filter_nil, deviceWrite_of_graves devices.1]
    change Appends _ _ _ (_ ++ [])
    rw [List.append_nil]
    exact written
  · have entriesOpen := (devices.1.isOpen.trans portGraves.isOpen).trans isOpen
    have points := savePointConfigs_logs entriesOpen
      (entries.pointConfigs.filter entered.1.knowsConfig)
    have same := entered.1.savePointConfigs_same
      (entries.pointConfigs.filter entered.1.knowsConfig)
    rw [knowsConfig_of_same same, deviceWrite_of_graves (devices.1.trans (SameGraves.of_same same))]
    exact Appends.trans written points

theorem deleteDeviceData_step (database : Database) (nowMs : Int) (key : DeviceKey)
    (isOpen : database.isOpen = true) :
    (database.deleteDeviceData nowMs key.gatewayId key.portId key.deviceId).1.isOpen = true := by
  unfold deleteDeviceData
  rw [deviceKey?_key]
  dsimp only
  split
  · exact isOpen
  · rw [isOpen_transact]
    · exact isOpen
    · exact fun _ => rfl

theorem each_delete_logs {database : Database} (isOpen : database.isOpen = true) (nowMs : Int)
    (keys : List DeviceKey) :
    (database.each (fun database key =>
        database.deleteDeviceData nowMs key.gatewayId key.portId key.deviceId) keys).1.isOpen = true ∧
      database.Logs (database.each (fun database key =>
        database.deleteDeviceData nowMs key.gatewayId key.portId key.deviceId) keys)
        (keys.map .deviceDeleted) := by
  rw [← filterMap_some_map]
  apply each_logs fun database => database.isOpen = true
  · intro later key laterOpen
    exact ⟨later.deleteDeviceData_step nowMs key laterOpen, later.deleteDeviceData_logs nowMs key⟩
  · exact isOpen

theorem upsertGatewayConfigSnapshot_logs {database : Database} (isOpen : database.isOpen = true)
    (nowMs : Int) {gatewayId : String} (named : gatewayId ≠ "") (entries : ConfigSnapshot)
    (fullSnapshot : Bool) :
    database.Logs (database.upsertGatewayConfigSnapshot nowMs gatewayId entries fullSnapshot)
      ((Content.snapshot nowMs gatewayId entries fullSnapshot).writes database
        (database.upsertGatewayConfigSnapshot nowMs gatewayId entries fullSnapshot).1) := by
  have valid : ¬(!database.isOpen ∨ gatewayId = "") := by
    simp [isOpen, named]
  unfold Content.writes upsertGatewayConfigSnapshot
  rw [if_neg valid]
  dsimp only
  cases fullSnapshot with
  | false =>
      simp only [Bool.false_eq_true, if_false, Bool.and_true]
      exact upsertSnapshotEntries_step isOpen gatewayId entries false
  | true =>
      simp only [if_true]
      have deleted := each_delete_logs isOpen nowMs
        (database.activeKeys.filter (missingFrom gatewayId entries.devices))
      exact Appends.trans deleted.2
        (upsertSnapshotEntries_step deleted.1 gatewayId entries false)

theorem replaceSelectedDeviceConfig_logs {database : Database} (isOpen : database.isOpen = true)
    (pending : SyncGatewayPending) (named : pending.gatewayId ≠ "") (selected : pending.devices ≠ [])
    (entries : ConfigSnapshot) :
    database.Logs (database.replaceSelectedDeviceConfig pending.gatewayId pending.devices entries)
      ((Content.selection pending entries).writes database
        (database.replaceSelectedDeviceConfig pending.gatewayId pending.devices entries).1) := by
  have valid : ¬(!database.isOpen ∨ pending.gatewayId = "" ∨ pending.devices.isEmpty = true) := by
    simp [isOpen, named, selected]
  unfold Content.writes replaceSelectedDeviceConfig
  rw [if_neg valid]
  dsimp only
  generalize clearing : (fun database : Database => { database with
      deviceStatuses := database.deviceStatuses.keepIf fun key _ =>
        !(selectedKeys pending.gatewayId pending.devices).contains key
      pointConfigs := database.pointConfigs.keepIf fun _ config =>
        !(selectedKeys pending.gatewayId pending.devices).any fun key =>
          key.gatewayId = config.gatewayId && key.portId = config.portId &&
            key.deviceId = config.deviceId }) = effect
  have kept : forall database, (effect database).isOpen = database.isOpen := by
    intro database
    rw [← clearing]
  have cleared := database.transact_logs
    (.selectionCleared (selectedKeys pending.gatewayId pending.devices)) effect
  have clearedOpen := (database.isOpen_transact
    (.selectionCleared (selectedKeys pending.gatewayId pending.devices)) kept).trans isOpen
  generalize database.transact (.selectionCleared (selectedKeys pending.gatewayId pending.devices))
    effect = result at cleared clearedOpen ⊢
  split
  · rename_i done
    have entered := upsertSnapshotEntries_step clearedOpen pending.gatewayId entries true
    have both := Appends.trans cleared entered
    rw [done, Bool.and_true] at both
    exact both
  · rename_i failed
    rw [Bool.not_eq_true] at failed
    unfold Logs at cleared
    rw [failed] at cleared
    exact Appends.stopped cleared _

end Database

/-! ## The contents -/

/-- A function with a report has stored a content exactly if it reports success. -/
theorem Content.stored_iff {before : Database} {result : Database × Bool} (content : Content)
    (isOpen : before.isOpen = true)
    (logs : before.Logs result (content.writes before result.1)) :
    result.2 = true ↔ content.Stored before result.1 := by
  rw [Appends.ok_iff logs, Content.Stored, isOpen]
  exact (and_iff_right rfl).symm

/-- Nothing is stored without a commit. -/
theorem Content.not_stored {before after : Database} {content : Content}
    (same : after.committed = before.committed) (wanted : content.writes before after ≠ []) :
    ¬content.Stored before after := by
  rintro ⟨-, log⟩
  rw [same, eq_comm] at log
  exact wanted (List.append_right_eq_self.mp log)

theorem Content.not_stored_closed {before after : Database} (content : Content)
    (closed : before.isOpen = false) : ¬content.Stored before after := by
  rintro ⟨isOpen, -⟩
  rw [closed] at isOpen
  cases isOpen

/-- The reason of a refusal says whether it is one. -/
theorem reason_eq_empty_iff (ok : Bool) {reason message : String} (given : reason ≠ "") :
    (if ok then (⟨"", ""⟩ : Refusal) else ⟨reason, message⟩).reason = "" ↔ ok = true := by
  cases ok with
  | true => exact iff_of_true rfl rfl
  | false => exact iff_of_false given Bool.false_ne_true

namespace PcData

/-- The row of the gateway is only written if its topics have been. -/
theorem gatewayRows_logs (database : Database) (details : GatewayDetails) :
    database.Logs (if (database.upsertGatewayRegistry details.registry).2 then
        (database.upsertGatewayRegistry details.registry).1.upsertGatewayStatus details.gateway
      else ((database.upsertGatewayRegistry details.registry).1, false))
      [.gatewayRegistry details.registry, .gatewayStatus details.gateway] := by
  have registry := database.upsertGatewayRegistry_logs details.registry
  generalize database.upsertGatewayRegistry details.registry = stored at registry ⊢
  split
  · rename_i done
    have both := Appends.trans registry (stored.1.upsertGatewayStatus_logs details.gateway)
    rw [done, Bool.and_true] at both
    exact both
  · rename_i failed
    rw [Bool.not_eq_true] at failed
    unfold Logs at registry
    rw [failed] at registry
    exact Appends.stopped registry [.gatewayStatus details.gateway]

theorem storeGateway_stored_iff (database : Database) (details : GatewayDetails) :
    (storeGateway database details).2.reason = "" ↔
      (Content.gateway details).Stored database (storeGateway database details).1 := by
  have rows := gatewayRows_logs database details
  unfold storeGateway
  dsimp only
  generalize (if (database.upsertGatewayRegistry details.registry).2 then
      (database.upsertGatewayRegistry details.registry).1.upsertGatewayStatus details.gateway
    else ((database.upsertGatewayRegistry details.registry).1, false)) = stored at rows ⊢
  split
  · rename_i closed
    rw [Bool.not_eq_true'] at closed
    exact iff_of_false (of_decide_eq_false rfl) (Content.not_stored_closed _ closed)
  · rename_i opened
    rw [Bool.not_eq_true', Bool.not_eq_false] at opened
    split
    · rename_i failed
      rw [Bool.not_eq_true'] at failed
      unfold Logs at rows
      rw [failed] at rows
      have stopped : database.Logs (stored.1, false)
          ((Content.gateway details).writes database stored.1) :=
        rows.stopped (details.ports.map .gatewayPort)
      have stops := Content.stored_iff (.gateway details) opened stopped
      exact iff_of_false (of_decide_eq_false rfl) fun all => Bool.false_ne_true (stops.mpr all)
    · rename_i done
      rw [Bool.not_eq_true', Bool.not_eq_false] at done
      have ports := each_port_logs details.ports stored.1
      have all := Appends.trans rows ports
      rw [done, Bool.and_true] at all
      rw [reason_eq_empty_iff _ (of_decide_eq_false rfl)]
      exact Content.stored_iff (.gateway details) opened all

theorem storePort_stored_iff (database : Database) (port : GatewayPort) {failure : String} :
    (storePort database port failure).2.reason = "" ↔
      (Content.port port).Stored database (storePort database port failure).1 := by
  unfold storePort
  split
  · rename_i closed
    rw [Bool.not_eq_true'] at closed
    exact iff_of_false (of_decide_eq_false rfl) (Content.not_stored_closed _ closed)
  · rename_i opened
    rw [Bool.not_eq_true', Bool.not_eq_false] at opened
    dsimp only
    rw [reason_eq_empty_iff _ (of_decide_eq_false rfl)]
    exact Content.stored_iff (.port port) opened (database.upsertGatewayPort_logs port)

theorem storeDevice_stored_iff (state : PcData) (nowMs : Int) {details : DeviceDetails}
    (valid : details.reason = "") :
    (state.storeDevice nowMs details).2 = "" ↔
      (Content.device details.device).Stored state.database
        (state.storeDevice nowMs details).1.database := by
  have wanted (after : Database) :
      (Content.device details.device).writes state.database after ≠ [] := List.cons_ne_nil _ []
  unfold storeDevice
  dsimp only
  rw [if_neg (not_not.mpr valid)]
  split
  · rename_i closed
    rw [Bool.not_eq_true'] at closed
    exact iff_of_false (of_decide_eq_false rfl) (Content.not_stored_closed _ closed)
  · rename_i opened
    rw [Bool.not_eq_true', Bool.not_eq_false] at opened
    split
    · exact iff_of_false (of_decide_eq_false rfl) (Content.not_stored rfl (wanted _))
    · have stored := Content.stored_iff (.device details.device) opened
        (state.database.upsertDevice_logs details.device false)
      split
      · rename_i done
        exact iff_of_true rfl (stored.mp done)
      · rename_i failed
        exact iff_of_false (of_decide_eq_false rfl) fun all => failed (stored.mpr all)

/-- The content of a snapshot that somebody waits for, or nobody. -/
def snapshotContent (nowMs : Int) (root : Json) (waiting : Option SyncGatewayPending)
    (gatewayId : String) (snapshot : ConfigSnapshot) : Content :=
  match waiting with
  | some pending => .selection pending snapshot
  | none => .snapshot nowMs gatewayId snapshot (isFullSnapshot root)

theorem applySnapshot_stored_iff (state : PcData) {nowMs : Int} {root : Json}
    {waiting : Option SyncGatewayPending} {gatewayId : String} (snapshot : ConfigSnapshot)
    (isOpen : state.database.isOpen = true) (named : gatewayId ≠ "")
    (waits : forall pending, waiting = some pending ->
      pending.gatewayId = gatewayId ∧ pending.devices ≠ []) :
    (state.applySnapshot nowMs root waiting gatewayId snapshot).2 = true ↔
      (snapshotContent nowMs root waiting gatewayId snapshot).Stored state.database
        (state.applySnapshot nowMs root waiting gatewayId snapshot).1.database := by
  cases waiting with
  | none =>
      have stored := Content.stored_iff
        (.snapshot nowMs gatewayId snapshot (isFullSnapshot root)) isOpen
        (upsertGatewayConfigSnapshot_logs isOpen nowMs named snapshot (isFullSnapshot root))
      change (state.storeSnapshot nowMs gatewayId snapshot (isFullSnapshot root)).2 = true ↔
        Content.Stored _ (state.storeSnapshot nowMs gatewayId snapshot (isFullSnapshot root)).1.database _
      unfold storeSnapshot
      dsimp only
      split
      · rename_i done
        exact iff_of_true rfl (stored.mp done)
      · rename_i failed
        exact iff_of_false Bool.false_ne_true fun all => failed (stored.mpr all)
  | some pending =>
      have own := waits pending rfl
      have stored := Content.stored_iff (.selection pending snapshot) isOpen
        (replaceSelectedDeviceConfig_logs isOpen pending (own.1 ▸ named) own.2 snapshot)
      change (state.storeSelection nowMs pending snapshot).2 = true ↔
        Content.Stored _ (state.storeSelection nowMs pending snapshot).1.database _
      unfold storeSelection
      dsimp only
      split
      · rename_i done
        exact iff_of_true rfl (stored.mp done)
      · rename_i failed
        exact iff_of_false Bool.false_ne_true fun all => failed (stored.mpr all)

end PcData
end Pc
end Imx6Gateway
