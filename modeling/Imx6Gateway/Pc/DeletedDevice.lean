import Imx6Gateway.Pc.RegistryMirror

namespace Imx6Gateway
namespace Pc

open Library

/-!
# Deleted devices

The row of a deleted device stays deleted whatever the boards send, because
every function that writes devices asks `deviceDeleted` first.  The memory has
no such rule: `replaceGatewayRegistry` takes every entry of a snapshot that the
database has accepted, also those that the database has passed over, and a
deleted device that is still in `m_deviceRegistry` has never left the memory.
-/

namespace Database

/-! ## The row stays deleted -/

/-- If the row of the device was deleted, it still is. -/
structure Buries (key : DeviceKey) (database after : Database) : Prop where
  isOpen : after.isOpen = database.isOpen
  tombstoned : database.life key = .tombstoned -> after.life key = .tombstoned

namespace Buries

variable {key : DeviceKey}

theorem refl (database : Database) : database.Buries key database :=
  ⟨rfl, id⟩

theorem trans {database between after : Database} (first : Buries key database between)
    (second : Buries key between after) : Buries key database after :=
  ⟨second.isOpen.trans first.isOpen, fun gone => second.tombstoned (first.tombstoned gone)⟩

theorem of_same {database after : Database} (same : database.SameDevices after) :
    Buries key database after := by
  refine ⟨same.isOpen, ?_⟩
  intro gone
  rw [life, same.devices]
  exact gone

theorem transact {database : Database} (write : Write) {effect : Database -> Database}
    (buries : forall next : Database, next.devices = database.devices ->
      next.isOpen = database.isOpen -> Buries key database (effect next)) :
    Buries key database (database.transact write effect).1 := by
  unfold Database.transact
  split
  · have effected := buries { database with outcomes := database.outcomes.tail } rfl rfl
    exact ⟨effected.isOpen, effected.tombstoned⟩
  · exact ⟨rfl, id⟩

theorem each {Item : Type} {operation : Database -> Item -> Database × Bool} {items : List Item}
    (buries : forall database item, item ∈ items ->
      Buries key database (operation database item).1) (database : Database) :
    Buries key database (database.each operation items).1 := by
  induction items generalizing database with
  | nil => exact refl database
  | cons item items ih =>
      rw [each_cons]
      exact (buries database item List.mem_cons_self).trans
        (ih (fun database item inside => buries database item (List.mem_cons_of_mem _ inside)) _)

end Buries

theorem deviceDeleted_eq {database : Database} {key : DeviceKey} {gatewayId portId : String}
    {deviceId : Int} (named : deviceKey? gatewayId portId deviceId = some key)
    (gone : database.life key = .tombstoned) :
    database.deviceDeleted gatewayId portId deviceId = database.isOpen := by
  rw [life] at gone
  rw [deviceDeleted, named]
  cases found : database.devices.get key with
  | none =>
      rw [found] at gone
      cases gone
  | some row =>
      rw [found] at gone
      simp [found, life_eq_tombstoned_iff.mp gone]

theorem deviceExists_of_tombstoned {database : Database} {key : DeviceKey}
    (gone : database.life key = .tombstoned) :
    database.deviceExists key.gatewayId key.portId key.deviceId = false := by
  rw [life] at gone
  rw [deviceExists, deviceKey?_key]
  cases found : database.devices.get key with
  | none =>
      rw [found] at gone
      cases gone
  | some row =>
      rw [found] at gone
      have active : row.active = false := by
        rw [← Bool.not_eq_true]
        intro active
        have alive := life_eq_active_iff.mpr active
        dsimp only at gone
        rw [gone] at alive
        cases alive
      simp [found, active]

/-- A device is not written over a deleted row, unless the caller says so. -/
theorem upsertDevice_buries {database : Database} {device : DeviceRecord}
    {allowDeletedReactivate : Bool} (key : DeviceKey)
    (checked : allowDeletedReactivate = true ->
      database.deviceDeleted device.gatewayId device.portId device.deviceId = false) :
    database.Buries key (database.upsertDevice device allowDeletedReactivate).1 := by
  unfold upsertDevice
  split
  · exact Buries.refl database
  · rename_i own named
    split
    · exact Buries.refl database
    · rename_i valid
      rw [not_or, Bool.not_eq_true', Bool.not_eq_false] at valid
      split
      · exact Buries.refl database
      · rename_i allowed
        apply Buries.transact
        intro next devices isOpen
        refine ⟨isOpen, ?_⟩
        intro gone
        have other : key ≠ own := by
          rintro rfl
          have deleted := deviceDeleted_eq named gone
          rw [valid.1] at deleted
          apply allowed
          refine ⟨deleted, ?_⟩
          cases allowDeletedReactivate with
          | false => rfl
          | true =>
              rw [checked rfl] at deleted
              cases deleted
        rw [life, putDeviceStatus, devices, Table.get_put, if_neg other]
        exact gone

theorem upsertSnapshotDevice_buries (database : Database) (device : DeviceRecord)
    (allowDeletedReactivate : Bool) (key : DeviceKey) :
    database.Buries key (database.upsertSnapshotDevice allowDeletedReactivate device).1 := by
  unfold upsertSnapshotDevice
  split
  · exact Buries.refl database
  · rename_i alive
    rw [Bool.not_eq_true] at alive
    exact upsertDevice_buries key fun _ => alive

/-- Rows that are marked as deleted. -/
theorem markDeleted_buries {database next after : Database} {key : DeviceKey} (nowMs : Int)
    (condition : DeviceKey -> DeviceRow -> Bool) (devices : next.devices = database.devices)
    (isOpen : after.isOpen = database.isOpen)
    (marked : after.devices = next.devices.updateWhere condition (markDeleted nowMs)) :
    database.Buries key after := by
  refine ⟨isOpen, ?_⟩
  intro gone
  rw [life] at gone
  rw [life, marked, devices, Table.get_updateWhere]
  cases found : database.devices.get key with
  | none =>
      rw [found] at gone
      cases gone
  | some row =>
      rw [found] at gone
      rw [Option.map_some]
      dsimp only
      split
      · exact life_markDeleted nowMs row
      · exact gone

theorem deleteDeviceData_buries (database : Database) (nowMs : Int) (gatewayId portId : String)
    (deviceId : Int) (key : DeviceKey) :
    database.Buries key (database.deleteDeviceData nowMs gatewayId portId deviceId).1 := by
  unfold deleteDeviceData
  split
  · exact Buries.refl database
  · rename_i target _
    split
    · exact Buries.refl database
    · apply Buries.transact
      intro next devices isOpen
      exact markDeleted_buries nowMs (fun other _ => other = target) devices isOpen rfl

theorem deleteMasterData_buries (database : Database) (nowMs : Int) (gatewayId portId : String)
    (key : DeviceKey) :
    database.Buries key (database.deleteMasterData nowMs gatewayId portId).1 := by
  unfold deleteMasterData
  split
  · exact Buries.refl database
  · apply Buries.transact
    intro next devices isOpen
    exact markDeleted_buries nowMs
      (fun key row => row.active && key.gatewayId = gatewayId && key.portId = portId) devices isOpen
      rfl

theorem reactivateDeletedDevice_buries (database : Database) (nowMs : Int)
    {gatewayId portId : String} {deviceId : Int} {key : DeviceKey}
    (other : deviceKey? gatewayId portId deviceId ≠ some key) :
    database.Buries key (database.reactivateDeletedDevice nowMs gatewayId portId deviceId).1 := by
  unfold reactivateDeletedDevice
  split
  · exact Buries.refl database
  · rename_i target named
    split
    · exact Buries.refl database
    · apply Buries.transact
      intro next devices isOpen
      refine ⟨isOpen, ?_⟩
      intro gone
      have different : key ≠ target := by
        rintro rfl
        exact other named
      rw [life] at gone
      rw [life, devices, Table.get_updateWhere]
      cases found : database.devices.get key with
      | none =>
          rw [found] at gone
          cases gone
      | some row =>
          rw [found] at gone
          rw [Option.map_some, decide_eq_false different, if_neg Bool.false_ne_true]
          exact gone

theorem upsertSnapshotEntries_buries (database : Database) (gatewayId : String)
    (snapshot : ConfigSnapshot) (allowDeletedReactivate : Bool) (key : DeviceKey) :
    database.Buries key
      (database.upsertSnapshotEntries gatewayId snapshot allowDeletedReactivate).1 := by
  have ports : database.Buries key
      (database.each upsertGatewayPort (snapshot.ports.filter (ownPort gatewayId))).1 :=
    Buries.of_same (each_same upsertGatewayPort_same _ database)
  have devices : database.Buries key
      ((database.each upsertGatewayPort (snapshot.ports.filter (ownPort gatewayId))).1.each
        (upsertSnapshotDevice allowDeletedReactivate)
        (snapshot.devices.filter (ownEntry gatewayId))).1 :=
    ports.trans (Buries.each
      (fun database device _ => upsertSnapshotDevice_buries database device _ key) _)
  unfold upsertSnapshotEntries
  dsimp only
  split
  · exact devices
  · exact devices.trans (Buries.of_same (savePointConfigs_same _ _))

theorem upsertGatewayConfigSnapshot_buries (database : Database) (nowMs : Int) (gatewayId : String)
    (snapshot : ConfigSnapshot) (fullSnapshot : Bool) (key : DeviceKey) :
    database.Buries key
      (database.upsertGatewayConfigSnapshot nowMs gatewayId snapshot fullSnapshot).1 := by
  unfold upsertGatewayConfigSnapshot
  split
  · exact Buries.refl database
  · cases fullSnapshot with
    | false => exact upsertSnapshotEntries_buries database gatewayId snapshot false key
    | true =>
        have removed : database.Buries key (database.each
            (fun database key => database.deleteDeviceData nowMs key.gatewayId key.portId
              key.deviceId)
            (database.activeKeys.filter (missingFrom gatewayId snapshot.devices))).1 :=
          Buries.each (fun database target _ => deleteDeviceData_buries database nowMs
            target.gatewayId target.portId target.deviceId key) database
        exact removed.trans (upsertSnapshotEntries_buries _ gatewayId snapshot false key)

theorem replaceSelectedDeviceConfig_buries (database : Database) (gatewayId : String)
    (selectedDevices : List SyncSelectedDevice) (snapshot : ConfigSnapshot) (key : DeviceKey) :
    database.Buries key
      (database.replaceSelectedDeviceConfig gatewayId selectedDevices snapshot).1 := by
  unfold replaceSelectedDeviceConfig
  split
  · exact Buries.refl database
  · dsimp only
    split
    · refine Buries.trans ?_ (upsertSnapshotEntries_buries _ gatewayId snapshot true key)
      exact Buries.of_same
        (transact_same database _ (fun _ => rfl) (fun _ => rfl) (fun _ => rfl))
    · exact Buries.of_same
        (transact_same database _ (fun _ => rfl) (fun _ => rfl) (fun _ => rfl))

/-- A successful deletion of an active device. -/
theorem transact_committed {database : Database} {write : Write} {effect : Database -> Database}
    (committed : (database.transact write effect).2 = true) :
    exists next : Database, next.devices = database.devices ∧
      (database.transact write effect).1.devices = (effect next).devices := by
  unfold transact at committed ⊢
  split at committed
  · rename_i done
    rw [if_pos done]
    exact ⟨{ database with outcomes := database.outcomes.tail }, rfl, rfl⟩
  · cases committed

theorem life_of_marked {database next after : Database} {key : DeviceKey} (nowMs : Int)
    (condition : DeviceKey -> DeviceRow -> Bool) (devices : next.devices = database.devices)
    (marked : after.devices = next.devices.updateWhere condition (markDeleted nowMs))
    (active : database.life key = .active)
    (chosen : forall row, row.active = true -> condition key row = true) :
    after.life key = .tombstoned := by
  rw [life] at active
  rw [life, marked, devices, Table.get_updateWhere]
  cases found : database.devices.get key with
  | none =>
      rw [found] at active
      cases active
  | some row =>
      rw [found] at active
      rw [Option.map_some, chosen row (life_eq_active_iff.mp active), if_pos rfl]
      exact life_markDeleted nowMs row

theorem deleteDeviceData_tombstones {database : Database} {nowMs : Int} {key : DeviceKey}
    (active : database.life key = .active)
    (deleted : (database.deleteDeviceData nowMs key.gatewayId key.portId key.deviceId).2 = true) :
    (database.deleteDeviceData nowMs key.gatewayId key.portId key.deviceId).1.life key =
      .tombstoned := by
  unfold deleteDeviceData at deleted ⊢
  rw [deviceKey?_key] at deleted ⊢
  dsimp only at deleted ⊢
  split at deleted
  · cases deleted
  · rename_i opened
    rw [if_neg opened]
    rcases transact_committed deleted with ⟨next, devices, after⟩
    exact life_of_marked nowMs (fun other _ => other = key) devices after active
      (fun _ _ => decide_eq_true rfl)

theorem deleteMasterData_tombstones {database : Database} {nowMs : Int} {key : DeviceKey}
    (active : database.life key = .active)
    (deleted : (database.deleteMasterData nowMs key.gatewayId key.portId).2 = true) :
    (database.deleteMasterData nowMs key.gatewayId key.portId).1.life key = .tombstoned := by
  unfold deleteMasterData at deleted ⊢
  split at deleted
  · cases deleted
  · rename_i valid
    rw [if_neg valid]
    rcases transact_committed deleted with ⟨next, devices, after⟩
    apply life_of_marked nowMs
      (fun other row => row.active && other.gatewayId = key.gatewayId && other.portId = key.portId)
      devices after active
    intro row here
    simp [here]

end Database

/-! ## The memory -/

namespace DataService

/-- Neither of the two maps has an entry under the text. -/
structure Absent (service : DataService) (text : String) : Prop where
  registry : service.deviceRegistry.get text = none
  types : (service.registeredDeviceTypes.get text).isSome = false

theorem Absent.not_registered {service : DataService} {key : DeviceKey}
    (absent : service.Absent key.text) :
    service.deviceRegistered key.gatewayId key.portId key.deviceId = false := by
  rw [deviceRegistered_eq_false_iff]
  refine ⟨absent.types, ?_⟩
  have none := absent.registry
  rw [DeviceKey.text] at none
  rw [none]
  rfl

theorem absent_iff {service : DataService} {key : DeviceKey} :
    service.Absent key.text ↔
      service.deviceRegistered key.gatewayId key.portId key.deviceId = false := by
  refine ⟨Absent.not_registered, ?_⟩
  intro unregistered
  rw [deviceRegistered_eq_false_iff] at unregistered
  refine ⟨?_, unregistered.1⟩
  rw [← Option.not_isSome_iff_eq_none, DeviceKey.text, unregistered.2]
  exact Bool.false_ne_true

theorem Absent.shrinks {service after : DataService} {text : String} (absent : service.Absent text)
    (shrinks : service.Shrinks after) : after.Absent text := by
  refine ⟨shrinks.registry ▸ absent.registry, ?_⟩
  rw [← Bool.not_eq_true]
  intro present
  have old := shrinks.types text present
  rw [absent.types] at old
  cases old

/-- A snapshot enters exactly the texts of its entries. -/
theorem Absent.replaced_iff {service after : DataService} {text gatewayId : String}
    {devices : List DeviceRecord} {fullSnapshot : Bool} (absent : service.Absent text)
    (replaced : service.Replaced gatewayId devices fullSnapshot after) :
    after.Absent text ↔ ¬ exists device, device ∈ devices ∧ device.text = text := by
  constructor
  · intro here listed
    have present := replaced.listed text listed
    rw [here.registry] at present
    cases present
  · intro unlisted
    constructor
    · rw [Option.eq_none_iff_forall_ne_some]
      intro device found
      rcases replaced.found text device found with listed | ⟨old, -⟩
      · exact unlisted ⟨device, listed⟩
      · rw [absent.registry] at old
        cases old
    · rw [← Bool.not_eq_true, replaced.types text]
      rintro (listed | ⟨old, -⟩)
      · exact unlisted listed
      · rw [absent.types] at old
        cases old

end DataService

/-! ## Events after a deletion -/

/-- The event deletes the device, and the database has committed it. -/
def RegistryEffect.Deletes (state : PcData) (key : DeviceKey) : RegistryEffect -> Prop
  | .delete nowMs gatewayId portId deviceId => deviceKey? gatewayId portId deviceId = some key ∧
      (state.database.deleteDeviceData nowMs gatewayId portId deviceId).2 = true
  | .deleteMaster nowMs gatewayId portId => gatewayId = key.gatewayId ∧ portId = key.portId ∧
      state.database.isOpen = true ∧
      (state.database.deleteMasterData nowMs gatewayId portId).2 = true
  | _ => False

/-- The event neither adds the device anew nor answers a sync of the user for it. -/
def RegistryEffect.Leaves (key : DeviceKey) : RegistryEffect -> Prop
  | .restore _ gatewayId portId deviceId => deviceKey? gatewayId portId deviceId ≠ some key
  | .selection _ pending _ => ¬ (pending.gatewayId = key.gatewayId ∧
      ⟨key.portId, key.deviceId⟩ ∈ pending.devices)
  | _ => True

/-- The event enters a record under the text into the memory: it lists one
that belongs to its gateway, and the database takes what it lists. -/
def RegistryEffect.Enters (state : PcData) (text : String) : RegistryEffect -> Prop
  | .snapshot nowMs gatewayId entries fullSnapshot =>
      (state.database.upsertGatewayConfigSnapshot nowMs gatewayId entries fullSnapshot).2 = true ∧
        exists device, device ∈ entries.devices.filter (Database.ownEntry gatewayId) ∧
          device.text = text
  | .selection _ pending entries =>
      (state.database.replaceSelectedDeviceConfig pending.gatewayId pending.devices
          entries).2 = true ∧
        exists device, device ∈ entries.devices.filter (Database.ownEntry pending.gatewayId) ∧
          device.text = text
  | .register nowMs details => registers state nowMs details = true ∧
      (state.database.upsertDevice details.device false).2 = true ∧ details.device.text = text
  | _ => False

/-- The points of an event belong to registered devices. -/
def RegistryEffect.Received (state : PcData) : RegistryEffect -> Prop
  | .points _ received => forall point, point ∈ received ->
      state.service.deviceRegistered point.site.gatewayId point.site.portId point.deviceId = true
  | _ => True

theorem effectOf_received (pc : JsonCodec) (stod : String -> Option Rat) (state : PcData)
    (event : PcEvent) : (PcData.effectOf pc stod state event).Received state := by
  have read := PcData.effectOf_readFrom pc state stod event
  generalize PcData.effectOf pc stod state event = effect at read
  cases read with
  | telemetry nowMs pack =>
      intro point received
      exact PcData.registered_of_received pc nowMs received
  | nothing event => trivial
  | removed nowMs topic payload gatewayId portId deviceId => trivial
  | added nowMs topic payload gatewayId portId deviceId => trivial
  | snapshot nowMs topic payload named parsed => trivial
  | selection nowMs topic payload named asked parsed => trivial
  | registered nowMs topic payload parsed => trivial
  | deviceDeleted nowMs text gatewayId portId deviceId => trivial
  | masterDeleted nowMs text gatewayId portId => trivial
  | cleared nowMs text => trivial

/-- The device is gone: it is not registered, its row is not active, and no
latest point is one of its points. -/
structure Gone (state : PcData) (key : DeviceKey) : Prop where
  unregistered : state.service.deviceRegistered key.gatewayId key.portId key.deviceId = false
  inactive : state.database.deviceExists key.gatewayId key.portId key.deviceId = false
  noPoints : state.service.NoPoints key

section Steps

variable {state : PcData} {key : DeviceKey}

/-- A deletion buries the row and takes the points away, but it leaves the
record in the memory. -/
theorem run_deletes {effect : RegistryEffect} (active : state.database.life key = .active)
    (deletes : effect.Deletes state key) :
    (effect.run state).database.life key = .tombstoned ∧
      (effect.run state).service.NoPoints key ∧
      ((effect.run state).service.Absent key.text ↔
        state.service.deviceRegistry.get key.text = none) := by
  have unchanged : forall after : DataService, state.service.Shrinks after ->
      (after.registeredDeviceTypes.get key.text).isSome = false ->
      (after.Absent key.text ↔ state.service.deviceRegistry.get key.text = none) := by
    intro after shrinks types
    constructor
    · intro absent
      rw [← shrinks.registry]
      exact absent.registry
    · intro none
      exact ⟨shrinks.registry ▸ none, types⟩
  cases effect with
  | delete nowMs gatewayId portId deviceId =>
      rcases deletes with ⟨named, deleted⟩
      rcases deviceKey?_eq_some_iff.mp named with ⟨rfl, rfl, rfl⟩
      have removed := state.service.removeDeviceData_removes nowMs key
      dsimp only [RegistryEffect.run, PcData.deleteDevice]
      rw [if_pos deleted]
      exact ⟨Database.deleteDeviceData_tombstones active deleted, removed.2,
        unchanged _ (DataService.removeDeviceData_shrinks _ _ _ _ _) removed.1⟩
  | deleteMaster nowMs gatewayId portId =>
      rcases deletes with ⟨rfl, rfl, opened, deleted⟩
      have removed := state.service.removeMasterData_removes nowMs key
      dsimp only [RegistryEffect.run, PcData.deleteMaster]
      rw [if_pos opened]
      exact ⟨Database.deleteMasterData_tombstones active deleted, removed.2,
        unchanged _ (DataService.removeMasterData_shrinks _ _ _ _) removed.1⟩
  | _ => exact absurd deletes id

/-- The row stays deleted in every event that leaves the device alone. -/
theorem run_buries {effect : RegistryEffect} (leaves : effect.Leaves key) :
    state.database.Buries key (effect.run state).database := by
  cases effect with
  | none => exact Database.Buries.refl _
  | delete nowMs gatewayId portId deviceId =>
      exact Database.deleteDeviceData_buries _ nowMs gatewayId portId deviceId key
  | deleteMaster nowMs gatewayId portId =>
      dsimp only [RegistryEffect.run, PcData.deleteMaster]
      split
      · exact Database.deleteMasterData_buries _ nowMs gatewayId portId key
      · exact Database.Buries.refl _
  | restore nowMs gatewayId portId deviceId =>
      dsimp only [RegistryEffect.run, PcData.restoreDevice]
      split
      · exact Database.reactivateDeletedDevice_buries _ nowMs leaves
      · exact Database.Buries.refl _
  | clear => exact Database.Buries.of_same (Database.clearRuntimeData_same _)
  | snapshot nowMs gatewayId entries fullSnapshot =>
      have stored := Database.upsertGatewayConfigSnapshot_buries state.database nowMs gatewayId
        entries fullSnapshot key
      dsimp only [RegistryEffect.run, PcData.storeSnapshot]
      split
      · exact stored
      · exact stored
  | selection nowMs pending entries =>
      have stored := Database.replaceSelectedDeviceConfig_buries state.database pending.gatewayId
        pending.devices entries key
      dsimp only [RegistryEffect.run, PcData.storeSelection]
      split
      · exact stored
      · exact stored
  | register nowMs details =>
      dsimp only [RegistryEffect.run, PcData.storeDevice]
      have stored : state.database.Buries key (state.database.upsertDevice details.device false).1 :=
        Database.upsertDevice_buries key (fun impossible => absurd impossible Bool.false_ne_true)
      split_ifs
      · exact Database.Buries.refl _
      · exact Database.Buries.refl _
      · exact Database.Buries.refl _
      · exact stored
      · exact stored
  | points nowMs received => exact Database.Buries.refl _

/-- A device that the memory does not know stays unknown unless the event
enters a record under its text. -/
theorem run_absent_iff {effect : RegistryEffect} (valid : effect.WellFormed)
    (absent : state.service.Absent key.text) :
    (effect.run state).service.Absent key.text ↔ ¬ effect.Enters state key.text := by
  have kept : forall after : DataService, state.service.Shrinks after ->
      (after.Absent key.text ↔ ¬ False) :=
    fun after shrinks => iff_of_true (absent.shrinks shrinks) id
  cases effect with
  | none => exact kept _ (DataService.SameDevices.refl _).shrinks
  | delete nowMs gatewayId portId deviceId =>
      apply kept
      dsimp only [RegistryEffect.run, PcData.deleteDevice]
      split
      · exact DataService.removeDeviceData_shrinks _ _ _ _ _
      · exact (DataService.SameDevices.refl _).shrinks
  | deleteMaster nowMs gatewayId portId =>
      exact kept _ (DataService.removeMasterData_shrinks _ _ _ _)
  | restore nowMs gatewayId portId deviceId =>
      exact kept _ (DataService.forgetRemovedDevice_same _ _ _ _ _).shrinks
  | clear =>
      refine iff_of_true ?_ id
      dsimp only [RegistryEffect.run, PcData.clearAll]
      split
      · exact ⟨rfl, rfl⟩
      · exact absent
  | snapshot nowMs gatewayId entries fullSnapshot =>
      have own := Database.entries_own valid.1 valid.2
      dsimp only [RegistryEffect.run, PcData.storeSnapshot, RegistryEffect.Enters]
      split
      · rename_i stored
        rw [(absent.shrinks (DataService.removed_shrinks _ _ _ _)).replaced_iff
          (DataService.replaceGatewayRegistry_replaced _ valid.1 entries fullSnapshot
            fun device inside => (own device inside).2), and_iff_right stored]
      · rename_i refused
        exact iff_of_true absent fun both => refused both.1
  | selection nowMs pending entries =>
      have own := Database.entries_own valid.1 valid.2.2
      dsimp only [RegistryEffect.run, PcData.storeSelection, RegistryEffect.Enters]
      split
      · rename_i stored
        rw [(absent.shrinks (DataService.forgotten_same _ _ _).shrinks).replaced_iff
          (DataService.replaceGatewayRegistry_replaced _ valid.1 entries false
            fun device inside => (own device inside).2), and_iff_right stored]
      · rename_i refused
        exact iff_of_true absent fun both => refused both.1
  | register nowMs details =>
      have pruned := DataService.isRemovedDevice_same state.service nowMs details.device.gatewayId
        details.device.portId details.device.deviceId
      dsimp only [RegistryEffect.run, PcData.storeDevice, RegistryEffect.Enters, registers]
      split_ifs with refused closed known stored
      · exact iff_of_true absent (by simp [refused])
      · exact iff_of_true absent (by simp_all)
      · refine iff_of_true (absent.shrinks pruned.shrinks) ?_
        rintro ⟨accepted, -, -⟩
        rcases known with removed | deleted
        · simp [removed] at accepted
        · simp [deleted] at accepted
      · rw [not_not] at refused
        rcases valid refused with ⟨-, -, own, named⟩
        have entered := DataService.rememberDeviceRegistry_keyed
          (state.service.isRemovedDevice nowMs details.device.gatewayId details.device.portId
            details.device.deviceId).1 named
        rw [not_or, Bool.not_eq_true, Bool.not_eq_true] at known
        rw [Bool.not_eq_true', Bool.not_eq_false] at closed
        simp only [refused, known.1, known.2, closed, stored, decide_true, Bool.true_and,
          Bool.not_false, true_and]
        constructor
        · intro unknown here
          have found := unknown.registry
          rw [entered.1, Table.get_put, if_pos here.symm] at found
          cases found
        · intro other
          have different : key.text ≠ details.device.text := fun same => other same.symm
          constructor
          · rw [entered.1, Table.get_put, if_neg different, pruned.registry]
            exact absent.registry
          · rw [entered.2.1, Table.get_put, if_neg different, pruned.types]
            exact absent.types
      · exact iff_of_true (absent.shrinks pruned.shrinks) fun both => stored both.2.1
  | points nowMs received =>
      have same := DataService.handleTelemetryPoints_registry state.service nowMs received
      exact iff_of_true ⟨same.1 ▸ absent.registry, same.2 ▸ absent.types⟩ id

/-- No point of an unknown device comes in. -/
theorem run_noPoints {effect : RegistryEffect} (valid : effect.WellFormed)
    (received : effect.Received state)
    (absent : state.service.Absent key.text) (none : state.service.NoPoints key) :
    (effect.run state).service.NoPoints key := by
  cases effect with
  | none => exact none
  | delete nowMs gatewayId portId deviceId =>
      dsimp only [RegistryEffect.run, PcData.deleteDevice]
      split
      · exact (DataService.removeDeviceData_shrinks _ _ _ _ _).noPoints none
      · exact none
  | deleteMaster nowMs gatewayId portId =>
      exact (DataService.removeMasterData_shrinks _ _ _ _).noPoints none
  | restore nowMs gatewayId portId deviceId =>
      exact (DataService.forgetRemovedDevice_same _ _ _ _ _).shrinks.noPoints none
  | clear =>
      dsimp only [RegistryEffect.run, PcData.clearAll]
      split
      · intro pointId stored impossible
        cases impossible
      · exact none
  | snapshot nowMs gatewayId entries fullSnapshot =>
      have own := Database.entries_own valid.1 valid.2
      dsimp only [RegistryEffect.run, PcData.storeSnapshot]
      split
      · have replaced := DataService.replaceGatewayRegistry_replaced
          (if fullSnapshot then (state.database.activeKeys.filter
              (Database.missingFrom gatewayId entries.devices)).foldl (fun service key =>
              service.removeDeviceData nowMs key.gatewayId key.portId key.deviceId) state.service
            else state.service) valid.1 entries fullSnapshot
          fun device inside => (own device inside).2
        intro pointId stored found
        rw [replaced.snapshot] at found
        exact (DataService.removed_shrinks _ _ _ _).noPoints none pointId stored found
      · exact none
  | selection nowMs pending entries =>
      have own := Database.entries_own valid.1 valid.2.2
      dsimp only [RegistryEffect.run, PcData.storeSelection]
      split
      · have replaced := DataService.replaceGatewayRegistry_replaced
          (entries.devices.foldl (fun service device => service.forgetRemovedDevice nowMs
            device.gatewayId device.portId device.deviceId) state.service) valid.1 entries false
          fun device inside => (own device inside).2
        intro pointId stored found
        rw [replaced.snapshot] at found
        exact (DataService.forgotten_same _ _ _).shrinks.noPoints none pointId stored found
      · exact none
  | register nowMs details =>
      have pruned := DataService.isRemovedDevice_same state.service nowMs details.device.gatewayId
        details.device.portId details.device.deviceId
      dsimp only [RegistryEffect.run, PcData.storeDevice]
      split_ifs with refused closed known stored
      · exact none
      · exact none
      · exact pruned.shrinks.noPoints none
      · rw [not_not] at refused
        rcases valid refused with ⟨-, -, own, named⟩
        have entered := DataService.rememberDeviceRegistry_keyed
          (state.service.isRemovedDevice nowMs details.device.gatewayId details.device.portId
            details.device.deviceId).1 named
        intro pointId point found
        dsimp only at found
        rw [entered.2.2] at found
        exact pruned.shrinks.noPoints none pointId point found
      · exact pruned.shrinks.noPoints none
  | points nowMs points =>
      intro pointId stored found here
      rcases DataService.handleTelemetryPoints_found found with new | old
      · have registered := received stored.point new
        rcases deviceKey?_eq_some_iff.mp here with ⟨gateway, port, device⟩
        rw [← gateway, ← port, ← device, absent.not_registered] at registered
        cases registered
      · exact none pointId stored old here

end Steps

/-! ## Whole runs -/

/-- What no event brings back by itself: the row of the device is deleted. -/
def Buried (key : DeviceKey) (state : PcData) : Prop :=
  state.database.life key = .tombstoned

/-- The events after the deletion leave the device alone. -/
def LeavesAlone (pc : JsonCodec) (stod : String -> Option Rat) (key : DeviceKey) (state : PcData)
    (event : PcEvent) : Prop :=
  (PcData.effectOf pc stod state event).Leaves key

/-- No event enters a record under the text of the device. -/
def KeepsOut (pc : JsonCodec) (stod : String -> Option Rat) (key : DeviceKey) (state : PcData)
    (event : PcEvent) : Prop :=
  ¬ (PcData.effectOf pc stod state event).Enters state key.text

theorem absent_congr {service after : DataService} {text : String}
    (same : service.SameDevices after) : after.Absent text ↔ service.Absent text := by
  constructor
  · intro absent
    exact ⟨same.registry ▸ absent.registry, same.types ▸ absent.types⟩
  · intro absent
    exact absent.shrinks same.shrinks

theorem gone_of_absent {state : PcData} {key : DeviceKey} (buried : Buried key state)
    (absent : state.service.Absent key.text) (none : state.service.NoPoints key) :
    Gone state key :=
  ⟨absent.not_registered, Database.deviceExists_of_tombstoned buried, none⟩

section Run

variable {pc : JsonCodec} {stod : String -> Option Rat} {state : PcData} {key : DeviceKey}

theorem buried_step {event : PcEvent} (buried : Buried key state)
    (leaves : LeavesAlone pc stod key state event) :
    Buried key (state.step pc stod event).1 := by
  have effected := (run_buries leaves).tombstoned buried
  rw [Buried, Database.life, (PcData.step_effect pc stod state event).database.devices]
  exact effected

theorem gone_step_iff {event : PcEvent} (buried : Buried key state)
    (leaves : LeavesAlone pc stod key state event) (gone : Gone state key) :
    Gone (state.step pc stod event).1 key ↔ KeepsOut pc stod key state event := by
  have same := (PcData.step_effect pc stod state event).service
  have valid := PcData.effectOf_wellFormed pc stod state event
  have absent := DataService.absent_iff.mpr gone.unregistered
  rw [KeepsOut, ← run_absent_iff valid absent, ← absent_congr same]
  constructor
  · intro after
    exact DataService.absent_iff.mpr after.unregistered
  · intro unknown
    exact gone_of_absent (buried_step buried leaves) unknown
      (same.shrinks.noPoints (run_noPoints valid (effectOf_received pc stod state event) absent
        gone.noPoints))

theorem gone_after_deletion_iff {event : PcEvent} (active : state.database.life key = .active)
    (deletes : (PcData.effectOf pc stod state event).Deletes state key) :
    Buried key (state.step pc stod event).1 ∧
      (Gone (state.step pc stod event).1 key ↔
        state.service.deviceRegistry.get key.text = none) := by
  have same := PcData.step_effect pc stod state event
  have deleted := run_deletes active deletes
  have buried : Buried key (state.step pc stod event).1 := by
    rw [Buried, Database.life, same.database.devices]
    exact deleted.1
  refine ⟨buried, ?_⟩
  rw [← deleted.2.2, ← absent_congr same.service]
  constructor
  · intro gone
    exact DataService.absent_iff.mpr gone.unregistered
  · intro absent
    exact gone_of_absent buried absent (same.service.shrinks.noPoints deleted.2.1)

end Run

/-- A device that is deleted in a run stays gone, in every state of every
continuation that leaves it alone, exactly when its record was not in the
memory at the deletion and no later event enters one under its text. -/
theorem deleted_device_gone_iff (pc : JsonCodec) (stod : String -> Option Rat)
    (database : Database) (startMs : Int) (before : List PcEvent) (deletion : PcEvent)
    (after : List PcEvent) (key : DeviceKey)
    (active : ((pcSystem pc stod database startMs).run before).database.life key = .active)
    (deletes : (PcData.effectOf pc stod ((pcSystem pc stod database startMs).run before)
      deletion).Deletes ((pcSystem pc stod database startMs).run before) key)
    (left : (pcSystem pc stod database startMs).AdmissibleFrom (LeavesAlone pc stod key)
      ((pcSystem pc stod database startMs).run (before ++ [deletion])) after) :
    (forall first second, after = first ++ second ->
        Gone ((pcSystem pc stod database startMs).run (before ++ deletion :: first)) key) ↔
      ((pcSystem pc stod database startMs).run before).service.deviceRegistry.get key.text = none ∧
        (pcSystem pc stod database startMs).AdmissibleFrom (KeepsOut pc stod key)
          ((pcSystem pc stod database startMs).run (before ++ [deletion])) after := by
  have deleted := gone_after_deletion_iff active deletes
  have next : (pcSystem pc stod database startMs).run (before ++ [deletion]) =
      (((pcSystem pc stod database startMs).run before).step pc stod deletion).1 :=
    TransitionSystem.runFrom_append _ _ before [deletion]
  rw [← next] at deleted
  have reached : forall first : List PcEvent,
      (pcSystem pc stod database startMs).run (before ++ deletion :: first) =
        (pcSystem pc stod database startMs).runFrom
          ((pcSystem pc stod database startMs).run (before ++ [deletion])) first := by
    intro first
    rw [next]
    exact TransitionSystem.runFrom_append _ _ before (deletion :: first)
  have along (gone : Gone ((pcSystem pc stod database startMs).run (before ++ [deletion])) key) :
      (forall first second, after = first ++ second ->
        Gone ((pcSystem pc stod database startMs).runFrom
          ((pcSystem pc stod database startMs).run (before ++ [deletion])) first) key) ↔
      (pcSystem pc stod database startMs).AdmissibleFrom (KeepsOut pc stod key)
        ((pcSystem pc stod database startMs).run (before ++ [deletion])) after :=
    @TransitionSystem.everywhereFrom_iff _ _ (pcSystem pc stod database startMs)
      (LeavesAlone pc stod key) (KeepsOut pc stod key) (Buried key) (fun state => Gone state key)
      (fun _ _ buried leaves => buried_step buried leaves)
      (fun _ _ buried leaves gone => gone_step_iff buried leaves gone) _ _ deleted.1 gone left
  constructor
  · intro everywhere
    have here := everywhere [] after rfl
    refine ⟨deleted.2.mp here, (along here).mp ?_⟩
    intro first second split
    rw [← reached first]
    exact everywhere first second split
  · rintro ⟨none, kept⟩ first second split
    rw [reached first]
    exact (along (deleted.2.mpr none)).mpr kept first second split

/-- A request of the user to clear all data. -/
def clearRequest : Json :=
  .obj [("type", .str "clear_all_data")]

def clearEvent : PcEvent :=
  .request 0 ((JsonText.codec false).print clearRequest)

theorem clear_step (state : PcData) :
    state.step (JsonText.codec false) (fun _ => none) clearEvent = (state.clearAll, []) := by
  have parsed : parseObject (JsonText.codec false) ((JsonText.codec false).print clearRequest) =
      some clearRequest :=
    parseObject_of_parse ((JsonText.codec false).parse_print _ (by decide))
  change state.handleRequest (JsonText.codec false) 0 ((JsonText.codec false).print clearRequest) = _
  rw [PcData.handleRequest, parsed]
  rfl

theorem delete_effect (state : PcData) :
    PcData.effectOf (JsonText.codec false) (fun _ => none) state (deleteEvent 3) =
      .delete 0 "gateway_001" "port_001" 3 := by
  change PcData.requestEffect (JsonText.codec false) 0
    ((JsonText.codec false).print (deleteRequest 3)) = _
  rw [PcData.requestEffect, parse_deleteRequest (by decide)]
  rfl

/-- All data is cleared first, and then the device is deleted: it is gone. -/
theorem sole_gone_after_clear :
    Gone ((pcSystem (JsonText.codec false) (fun _ => none) soleDatabase 0).run
      [clearEvent, deleteEvent 3]) soleKey := by
  have cleared : (pcSystem (JsonText.codec false) (fun _ => none) soleDatabase 0).run [clearEvent] =
      (seeded soleDatabase 0).clearAll := by
    change ((seeded soleDatabase 0).step (JsonText.codec false) (fun _ => none) clearEvent).1 = _
    rw [clear_step]
  refine (deleted_device_gone_iff (JsonText.codec false) (fun _ => none) soleDatabase 0 [clearEvent]
    (deleteEvent 3) [] soleKey ?_ ?_ trivial).mpr ?_ [] [] rfl
  · rw [cleared]
    decide +kernel
  · rw [cleared, delete_effect]
    exact ⟨rfl, rfl⟩
  · rw [cleared]
    exact ⟨rfl, trivial⟩

/-- Without that, the deleted device is still registered. -/
theorem sole_not_gone :
    soleDatabase.life soleKey = .active ∧
      (PcData.effectOf (JsonText.codec false) (fun _ => none) (seeded soleDatabase 0)
        (deleteEvent 3)).Deletes (seeded soleDatabase 0) soleKey ∧
      ¬ Gone ((pcSystem (JsonText.codec false) (fun _ => none) soleDatabase 0).run
        [deleteEvent 3]) soleKey := by
  have deletes : (PcData.effectOf (JsonText.codec false) (fun _ => none) (seeded soleDatabase 0)
      (deleteEvent 3)).Deletes (seeded soleDatabase 0) soleKey := by
    rw [delete_effect]
    exact ⟨rfl, rfl⟩
  refine ⟨by decide, deletes, ?_⟩
  intro gone
  have forgotten := (gone_after_deletion_iff (by decide) deletes).2.mp gone
  revert forgotten
  decide +kernel

end Pc
end Imx6Gateway
