import Imx6Gateway.Pc.RegistryEffect

namespace Imx6Gateway
namespace Pc

open Library

/-!
# The registry and the table of devices

Pc_data answers from its memory whether a device is registered.  The memory
is read from the table of devices at the start, and afterwards each function
changes both.  `Mirrors` says of a step when the two changes agree.  They do
not where a device is deleted: `removeDeviceData` and `removeMasterData` take
the device out of `m_registeredDeviceTypes` and leave it in
`m_deviceRegistry`, which `deviceRegistered` asks as well.
-/

/-- The own entries of a snapshot and the database lead to the same devices.
A snapshot with an entry that has no type is written in part, and the memory
does not take it. -/
def Follows (state : PcData) (gatewayId : String) (devices : List DeviceRecord)
    (fullSnapshot : Bool) : Prop :=
  let own := devices.filter (Database.ownEntry gatewayId)
  if state.database.acceptable own then
    forall device, device ∈ own -> PlainName device.gatewayId device.portId ∧
      state.database.deviceDeleted device.gatewayId device.portId device.deviceId = false
  else
    (forall device, device ∈ own -> device.deviceType ≠ "" ->
      state.database.deviceExists device.gatewayId device.portId device.deviceId ||
        state.database.deviceDeleted device.gatewayId device.portId device.deviceId) ∧
      (fullSnapshot = true -> forall key, key ∈ state.database.activeKeys ->
        Database.missingFrom gatewayId devices key = false)

instance (state : PcData) (gatewayId : String) (devices : List DeviceRecord)
    (fullSnapshot : Bool) : Decidable (Follows state gatewayId devices fullSnapshot) := by
  unfold Follows
  infer_instance

/-- The registration is stored. -/
def registers (state : PcData) (nowMs : Int) (details : DeviceDetails) : Bool :=
  let device := details.device
  details.reason = "" && state.database.isOpen &&
    !(state.service.isRemovedDevice nowMs device.gatewayId device.portId device.deviceId).2 &&
    !state.database.deviceDeleted device.gatewayId device.portId device.deviceId

/-- The step changes the memory and the table of devices alike. -/
def RegistryEffect.Mirrors (state : PcData) : RegistryEffect -> Prop
  | .none => True
  | .delete _ gatewayId portId deviceId =>
      state.database.deviceExists gatewayId portId deviceId = false
  | .deleteMaster _ gatewayId portId => forall key, key ∈ state.database.activeKeys ->
      ¬ (key.gatewayId = gatewayId ∧ key.portId = portId)
  | .restore _ gatewayId portId deviceId => forall key, key ∈ deviceKey? gatewayId portId deviceId ->
      state.database.life key = .unknown ∨ state.database.life key = .active
  | .clear => state.database.activeKeys = []
  | .snapshot _ gatewayId entries fullSnapshot =>
      Follows state gatewayId entries.devices fullSnapshot
  | .selection _ pending entries => Follows state pending.gatewayId entries.devices false
  | .register nowMs details => registers state nowMs details = true ->
      PlainName details.device.gatewayId details.device.portId
  | .points _ _ => True

/-- The memory holds the active devices, under texts that tell them apart. -/
structure Mirrored (state : PcData) : Prop where
  healthy : state.database.Healthy
  plain : forall key, state.database.life key = .active -> key.Plain
  held : forall key, state.database.life key = .active ->
    (state.service.deviceRegistry.get key.text).isSome = true
  origin : forall text device, state.service.deviceRegistry.get text = some device ->
    exists key, device.key? = some key ∧ key.text = text ∧ state.database.life key = .active
  types : forall text, (state.service.registeredDeviceTypes.get text).isSome = true ->
    (state.service.deviceRegistry.get text).isSome = true

namespace Mirrored

variable {state after : PcData}

theorem deviceRegistered_eq (mirrored : Mirrored state) (gatewayId portId : String)
    (deviceId : Int) :
    state.service.deviceRegistered gatewayId portId deviceId =
      state.database.deviceExists gatewayId portId deviceId := by
  rw [Bool.eq_iff_iff, Database.deviceExists_iff mirrored.healthy, DataService.deviceRegistered,
    Bool.or_eq_true]
  constructor
  · intro present
    have known : (state.service.deviceRegistry.get
        (registryDeviceKey gatewayId portId deviceId)).isSome = true := by
      rcases present with typed | known
      · exact mirrored.types _ typed
      · exact known
    rcases Option.isSome_iff_exists.mp known with ⟨device, found⟩
    rcases mirrored.origin _ device found with ⟨key, -, text, active⟩
    refine ⟨key, ?_, active⟩
    exact deviceKey?_eq_some_iff.mpr ((registryDeviceKey_inj (mirrored.plain key active)).mp text)
  · rintro ⟨key, named, active⟩
    have same := deviceKey?_eq_some_iff.mp named
    have present := mirrored.held key active
    rw [DeviceKey.text, same.1, same.2.1, same.2.2] at present
    exact Or.inr present

/-- Two states with the same devices. -/
theorem congr (mirrored : Mirrored state) (same : state.SameDevices after) : Mirrored after := by
  have lives : forall key, after.database.life key = state.database.life key := by
    intro key
    rw [Database.life, same.database.devices, Database.life]
  refine ⟨⟨same.database.isOpen.trans mirrored.healthy.isOpen,
    same.database.outcomes mirrored.healthy.outcomes⟩, ?_, ?_, ?_, ?_⟩
  · intro key active
    exact mirrored.plain key ((lives key).symm.trans active)
  · intro key active
    rw [same.service.registry]
    exact mirrored.held key ((lives key).symm.trans active)
  · intro text device found
    rw [same.service.registry] at found
    rcases mirrored.origin text device found with ⟨key, named, text, active⟩
    exact ⟨key, named, text, (lives key).trans active⟩
  · intro text typed
    rw [same.service.types] at typed
    rw [same.service.registry]
    exact mirrored.types text typed

/-- The active devices and the records are those of before. -/
theorem of_active (mirrored : Mirrored state) (healthy : after.database.Healthy)
    (active : forall key, after.database.life key = .active ↔ state.database.life key = .active)
    (shrinks : state.service.Shrinks after.service) : Mirrored after := by
  refine ⟨healthy, ?_, ?_, ?_, ?_⟩
  · intro key here
    exact mirrored.plain key ((active key).mp here)
  · intro key here
    rw [shrinks.registry]
    exact mirrored.held key ((active key).mp here)
  · intro text device found
    rw [shrinks.registry] at found
    rcases mirrored.origin text device found with ⟨key, named, text, here⟩
    exact ⟨key, named, text, (active key).mpr here⟩
  · intro text typed
    rw [shrinks.registry]
    exact mirrored.types text (shrinks.types text typed)

/-! ## The steps -/

theorem deleteDevice (mirrored : Mirrored state) (nowMs : Int) {gatewayId portId : String}
    {deviceId : Int}
    (absent : state.database.deviceExists gatewayId portId deviceId = false) :
    Mirrored (state.deleteDevice nowMs gatewayId portId deviceId) := by
  cases named : deviceKey? gatewayId portId deviceId with
  | none =>
      have refused : state.database.deleteDeviceData nowMs gatewayId portId deviceId =
          (state.database, false) := by
        rw [Database.deleteDeviceData, named]
      rw [PcData.deleteDevice, refused]
      exact mirrored.congr ⟨Database.SameDevices.refl _, DataService.SameDevices.refl _⟩
  | some key =>
      rcases deviceKey?_eq_some_iff.mp named with ⟨rfl, rfl, rfl⟩
      have moved := Database.deleteDeviceData_moves mirrored.healthy nowMs key
      apply mirrored.of_active moved.2.healthy
      · intro other
        rw [PcData.deleteDevice, moved.2.lives other]
        split
        · rename_i here
          constructor
          · intro impossible
            cases impossible
          · intro active
            rw [here.1, ← Database.deviceExists_of_key mirrored.healthy named, absent] at active
            cases active
        · rfl
      · dsimp only [PcData.deleteDevice]
        split
        · exact DataService.removeDeviceData_shrinks _ _ _ _ _
        · exact (DataService.SameDevices.refl _).shrinks

theorem deleteMaster (mirrored : Mirrored state) (nowMs : Int) {gatewayId portId : String}
    (absent : forall key, key ∈ state.database.activeKeys ->
      ¬ (key.gatewayId = gatewayId ∧ key.portId = portId)) :
    Mirrored (state.deleteMaster nowMs gatewayId portId) := by
  have deleted : (state.database.deleteMasterData nowMs gatewayId portId).1.Moves
      state.database.life := by
    by_cases named : gatewayId ≠ "" ∧ portId ≠ ""
    · have moved := (Database.deleteMasterData_moves mirrored.healthy nowMs named.1 named.2).2
      refine ⟨moved.healthy, ?_⟩
      intro key
      rw [moved.lives key, if_neg]
      rintro ⟨active, here⟩
      exact absent key (Database.mem_activeKeys.mpr active) here
    · unfold Database.deleteMasterData
      rw [if_pos]
      · exact mirrored.healthy.moves
      · rw [not_and_or, not_not, not_not] at named
        exact Or.inr named
  apply mirrored.of_active
  · dsimp only [PcData.deleteMaster]
    rw [if_pos mirrored.healthy.isOpen]
    exact deleted.healthy
  · intro key
    dsimp only [PcData.deleteMaster]
    rw [if_pos mirrored.healthy.isOpen, deleted.lives key]
  · exact DataService.removeMasterData_shrinks _ _ _ _

theorem restoreDevice (mirrored : Mirrored state) (nowMs : Int) {gatewayId portId : String}
    {deviceId : Int}
    (alive : forall key, key ∈ deviceKey? gatewayId portId deviceId ->
      state.database.life key = .unknown ∨ state.database.life key = .active) :
    Mirrored (state.restoreDevice nowMs gatewayId portId deviceId) := by
  have restored : (state.database.reactivateDeletedDevice nowMs gatewayId portId deviceId).1.Moves
      state.database.life := by
    cases named : deviceKey? gatewayId portId deviceId with
    | none =>
        unfold Database.reactivateDeletedDevice
        rw [named]
        exact mirrored.healthy.moves
    | some key =>
        have lives := alive key named
        rcases deviceKey?_eq_some_iff.mp named with ⟨rfl, rfl, rfl⟩
        have moved := Database.reactivateDeletedDevice_moves mirrored.healthy nowMs key
        refine ⟨moved.healthy, ?_⟩
        intro other
        rw [moved.lives other]
        split
        · rename_i here
          rcases lives with unknown | active
          · rw [here.1] at here
            exact absurd unknown here.2
          · rw [here.1, active]
        · rfl
  apply mirrored.of_active
  · dsimp only [PcData.restoreDevice]
    rw [if_pos mirrored.healthy.isOpen]
    exact restored.healthy
  · intro key
    dsimp only [PcData.restoreDevice]
    rw [if_pos mirrored.healthy.isOpen, restored.lives key]
  · exact (DataService.forgetRemovedDevice_same _ _ _ _ _).shrinks

theorem clearAll (mirrored : Mirrored state) (none : state.database.activeKeys = []) :
    Mirrored state.clearAll := by
  have same := Database.clearRuntimeData_same state.database
  have inactive : forall key, state.clearAll.database.life key ≠ .active := by
    intro key active
    have here : state.database.life key = .active := by
      rw [← active, PcData.clearAll, Database.life, Database.life, same.devices]
    have listed := Database.mem_activeKeys.mpr here
    rw [none] at listed
    cases listed
  have healthy : state.clearAll.database.Healthy :=
    ⟨same.isOpen.trans mirrored.healthy.isOpen, same.outcomes mirrored.healthy.outcomes⟩
  have empty : forall text, state.service.deviceRegistry.get text = Option.none := by
    intro text
    rw [Option.eq_none_iff_forall_ne_some]
    intro device found
    rcases mirrored.origin text device found with ⟨key, -, -, active⟩
    have listed := Database.mem_activeKeys.mpr active
    rw [none] at listed
    cases listed
  refine ⟨healthy, ?_, ?_, ?_, ?_⟩
  · intro key active
    exact absurd active (inactive key)
  · intro key active
    exact absurd active (inactive key)
  · intro text device found
    dsimp only [PcData.clearAll] at found
    split at found
    · cases found
    · rw [empty text] at found
      cases found
  · intro text typed
    dsimp only [PcData.clearAll] at typed
    split at typed
    · cases typed
    · have known := mirrored.types text typed
      rw [empty text] at known
      cases known

/-! ## Snapshots -/

/-- Entries that are accepted, plain and not deleted enter the table. -/
structure Enters (state : PcData) (own : List DeviceRecord) : Prop where
  entries : Database.Entries own
  plain : forall device, device ∈ own -> PlainName device.gatewayId device.portId
  alive : forall device key, device ∈ own -> device.key? = some key ->
    state.database.life key ≠ .tombstoned
  typed : forall device, device ∈ own -> device.deviceType ≠ ""

theorem Enters.of_follows (mirrored : Mirrored state) {gatewayId : String}
    (gateway : gatewayId ≠ "") {devices : List DeviceRecord} {fullSnapshot : Bool}
    (enabled : forall device, device ∈ devices -> device.enabled = true)
    (follows : Follows state gatewayId devices fullSnapshot)
    (accepted : state.database.acceptable (devices.filter (Database.ownEntry gatewayId)) = true) :
    Enters state (devices.filter (Database.ownEntry gatewayId)) := by
  have entries := Database.entries_own gateway enabled
  unfold Follows at follows
  dsimp only at follows
  rw [if_pos accepted] at follows
  refine ⟨entries, fun device inside => (follows device inside).1, ?_, ?_⟩
  · intro device key inside named gone
    have deleted := (Database.deviceDeleted_of_key mirrored.healthy named).mpr gone
    rw [(follows device inside).2] at deleted
    cases deleted
  · intro device inside
    have here := List.all_eq_true.mp accepted device inside
    rw [(follows device inside).2, Bool.or_false, decide_eq_true_eq] at here
    exact here

theorem Enters.enters (own : List DeviceRecord) (enters : Enters state own)
    {device : DeviceRecord} {key : DeviceKey} (inside : device ∈ own)
    (named : device.key? = some key) : Database.enters own key = true := by
  rw [Database.enters, List.any_eq_true]
  refine ⟨device, inside, ?_⟩
  simp [named, enters.typed device inside]

theorem entered_device {own : List DeviceRecord} {key : DeviceKey}
    (entered : Database.enters own key = true) :
    exists device, device ∈ own ∧ device.key? = some key := by
  rcases List.any_eq_true.mp entered with ⟨device, inside, fits⟩
  rw [Bool.and_eq_true, decide_eq_true_eq] at fits
  exact ⟨device, inside, fits.1⟩

/-- A record of the memory belongs to the gateway of its key. -/
theorem gateway_of_found (mirrored : Mirrored state) {key : DeviceKey} {device : DeviceRecord}
    (plain : key.Plain) (found : state.service.deviceRegistry.get key.text = some device) :
    device.gatewayId = key.gatewayId := by
  rcases mirrored.origin _ device found with ⟨other, named, text, -⟩
  rw [(DeviceKey.text_inj plain).mp text.symm]
  exact (deviceKey?_eq_some_iff.mp named).1.symm

theorem of_replaced (mirrored : Mirrored state) {gatewayId : String}
    {devices : List DeviceRecord} {fullSnapshot : Bool}
    (enters : Enters state (devices.filter (Database.ownEntry gatewayId)))
    (moves : after.database.Moves
      (state.database.snapshotLife gatewayId devices fullSnapshot))
    {between : DataService} (shrinks : state.service.Shrinks between)
    (replaced : between.Replaced gatewayId (devices.filter (Database.ownEntry gatewayId))
      fullSnapshot after.service) : Mirrored after := by
  have listed : forall device key, device ∈ devices.filter (Database.ownEntry gatewayId) ->
      device.key? = some key -> after.database.life key = .active := by
    intro device key inside named
    rw [moves.lives key, Database.snapshotLife,
      if_pos ⟨enters.enters _ inside named, enters.alive device key inside named⟩]
  have spared : forall device key, device.key? = some key ->
      state.database.life key = .active -> DataService.spares gatewayId fullSnapshot device ->
      after.database.life key = .active := by
    intro device key named active spares
    rw [moves.lives key, Database.snapshotLife]
    split
    · rfl
    · rw [if_neg]
      · exact active
      · rintro ⟨full, -, missing⟩
        rw [Database.missingFrom, Bool.and_eq_true, decide_eq_true_eq] at missing
        apply spares full
        rw [← missing.1, (deviceKey?_eq_some_iff.mp named).1]
  refine ⟨moves.healthy, ?_, ?_, ?_, ?_⟩
  · intro key active
    rw [moves.lives key, Database.snapshotLife] at active
    split at active
    · rename_i entered
      rcases entered_device entered.1 with ⟨device, inside, named⟩
      have plain := enters.plain device inside
      have same := deviceKey?_eq_some_iff.mp named
      rw [← same.1, ← same.2.1] at plain
      exact plain
    · split at active
      · cases active
      · exact mirrored.plain key active
  · intro key active
    rw [moves.lives key, Database.snapshotLife] at active
    split at active
    · rename_i entered
      rcases entered_device entered.1 with ⟨device, inside, named⟩
      exact replaced.listed _ ⟨device, inside, DeviceRecord.text_of_key named⟩
    · rename_i notEntered
      split at active
      · cases active
      · rename_i notMissing
        rcases Option.isSome_iff_exists.mp (mirrored.held key active) with ⟨device, found⟩
        have gateway := mirrored.gateway_of_found (mirrored.plain key active) found
        rw [← shrinks.registry] at found
        apply replaced.kept _ device found
        intro full same
        apply notMissing
        refine ⟨full, active, ?_⟩
        rw [Database.missingFrom, Bool.and_eq_true, decide_eq_true_eq, Bool.not_eq_true',
          ← Bool.not_eq_true, List.any_eq_true]
        refine ⟨gateway.symm.trans same, ?_⟩
        rintro ⟨other, inside, fits⟩
        apply notEntered
        have own := (List.mem_filter.mp inside).2
        simp only [Database.ownEntry, Bool.and_eq_true, decide_eq_true_eq] at own fits
        have named : other.key? = some key := deviceKey?_eq_some_iff.mpr
          ⟨(gateway.symm.trans same).trans own.1.1.symm, fits.1.symm, fits.2.symm⟩
        exact ⟨enters.enters _ inside named, enters.alive other key inside named⟩
  · intro text device found
    rcases replaced.found text device found with ⟨inside, named⟩ | ⟨old, spares⟩
    · rcases (enters.entries device inside).2 with ⟨key, keyed⟩
      refine ⟨key, keyed, ?_, listed device key inside keyed⟩
      rw [← named, DeviceRecord.text_of_key keyed]
    · rw [shrinks.registry] at old
      rcases mirrored.origin text device old with ⟨key, keyed, named, active⟩
      exact ⟨key, keyed, named, spared device key keyed active spares⟩
  · intro text typed
    rcases (replaced.types text).mp typed with inside | ⟨old, outside⟩
    · exact replaced.listed text inside
    · have known := mirrored.types text (shrinks.types text old)
      rcases Option.isSome_iff_exists.mp known with ⟨device, found⟩
      rcases mirrored.origin text device found with ⟨key, keyed, named, -⟩
      rw [← shrinks.registry] at found
      apply replaced.kept text device found
      intro full same
      have front := startsWith_gateway key.gatewayId key.portId key.deviceId
      rw [← DeviceKey.text, named, (deviceKey?_eq_some_iff.mp keyed).1, same, outside full] at front
      cases front

/-- A snapshot that is not taken leaves the active devices as they were. -/
theorem of_rejected (mirrored : Mirrored state) {gatewayId : String}
    {devices : List DeviceRecord} {fullSnapshot : Bool}
    (follows : Follows state gatewayId devices fullSnapshot)
    (rejected : state.database.acceptable (devices.filter (Database.ownEntry gatewayId)) = false)
    (moves : after.database.Moves
      (state.database.snapshotLife gatewayId devices fullSnapshot))
    (same : state.service.SameDevices after.service) : Mirrored after := by
  unfold Follows at follows
  dsimp only at follows
  rw [rejected, if_neg Bool.false_ne_true] at follows
  apply mirrored.of_active moves.healthy
  · intro key
    rw [moves.lives key, Database.snapshotLife]
    split
    · rename_i entered
      refine ⟨fun _ => ?_, fun _ => rfl⟩
      rcases List.any_eq_true.mp entered.1 with ⟨device, inside, fits⟩
      rw [Bool.and_eq_true, decide_eq_true_eq, decide_eq_true_eq] at fits
      have present := follows.1 device inside fits.2
      rw [Bool.or_eq_true, Database.deviceExists_of_key mirrored.healthy fits.1,
        Database.deviceDeleted_of_key mirrored.healthy fits.1] at present
      rcases present with active | gone
      · exact active
      · exact absurd gone entered.2
    · split
      · rename_i missing
        have listed := follows.2 missing.1 key (Database.mem_activeKeys.mpr missing.2.1)
        rw [missing.2.2] at listed
        cases listed
      · rfl
  · exact same.shrinks

theorem storeSnapshot (mirrored : Mirrored state) (nowMs : Int) {gatewayId : String}
    (gateway : gatewayId ≠ "") {snapshot : ConfigSnapshot} {fullSnapshot : Bool}
    (enabled : forall device, device ∈ snapshot.devices -> device.enabled = true)
    (follows : Follows state gatewayId snapshot.devices fullSnapshot) :
    Mirrored (state.storeSnapshot nowMs gatewayId snapshot fullSnapshot).1 := by
  have stored := Database.upsertGatewayConfigSnapshot_moves mirrored.healthy nowMs gateway enabled
    fullSnapshot
  have entries := Database.entries_own gateway enabled
  cases accepted : state.database.acceptable
      (snapshot.devices.filter (Database.ownEntry gatewayId)) with
  | false =>
      unfold PcData.storeSnapshot
      dsimp only
      rw [stored.1, accepted, if_neg Bool.false_ne_true]
      exact mirrored.of_rejected follows accepted stored.2
        (DataService.SameDevices.refl _)
  | true =>
      unfold PcData.storeSnapshot
      dsimp only
      rw [stored.1, accepted, if_pos rfl]
      exact mirrored.of_replaced (Enters.of_follows mirrored gateway enabled follows accepted)
        stored.2 (DataService.removed_shrinks _ _ _ _)
        (DataService.replaceGatewayRegistry_replaced _ gateway snapshot _
          fun device inside => (entries device inside).2)

theorem storeSelection (mirrored : Mirrored state) (nowMs : Int) {pending : SyncGatewayPending}
    (gateway : pending.gatewayId ≠ "") (selected : pending.devices ≠ [])
    {snapshot : ConfigSnapshot}
    (enabled : forall device, device ∈ snapshot.devices -> device.enabled = true)
    (follows : Follows state pending.gatewayId snapshot.devices false) :
    Mirrored (state.storeSelection nowMs pending snapshot).1 := by
  have stored := Database.replaceSelectedDeviceConfig_moves mirrored.healthy gateway selected enabled
  have entries := Database.entries_own gateway enabled
  cases accepted : state.database.acceptable
      (snapshot.devices.filter (Database.ownEntry pending.gatewayId)) with
  | false =>
      unfold PcData.storeSelection
      dsimp only
      rw [stored.1, accepted, if_neg Bool.false_ne_true]
      exact mirrored.of_rejected follows accepted stored.2
        (DataService.SameDevices.refl _)
  | true =>
      have forgotten := DataService.forgotten_same state.service nowMs snapshot.devices
      unfold PcData.storeSelection
      dsimp only
      rw [stored.1, accepted, if_pos rfl]
      exact mirrored.of_replaced (Enters.of_follows mirrored gateway enabled follows accepted)
        stored.2 forgotten.shrinks (DataService.replaceGatewayRegistry_replaced _ gateway snapshot _
          fun device inside => (entries device inside).2)

/-! ## Registrations -/

theorem storeDevice (mirrored : Mirrored state) (nowMs : Int) {details : DeviceDetails}
    (valid : details.reason = "" -> details.device.enabled = true ∧
      details.device.deviceType ≠ "" ∧ exists key, details.device.key? = some key)
    (plain : registers state nowMs details = true ->
      PlainName details.device.gatewayId details.device.portId) :
    Mirrored (state.storeDevice nowMs details).1 := by
  have pruned := DataService.isRemovedDevice_same state.service nowMs details.device.gatewayId
    details.device.portId details.device.deviceId
  unfold PcData.storeDevice
  dsimp only
  split
  · exact mirrored
  · rename_i accepted
    rw [not_not] at accepted
    rw [mirrored.healthy.isOpen, Bool.not_true, if_neg Bool.false_ne_true]
    split
    · exact mirrored.congr ⟨Database.SameDevices.refl _, pruned⟩
    · rename_i present
      rw [not_or, Bool.not_eq_true, Bool.not_eq_true] at present
      rcases valid accepted with ⟨enabled, typed, key, named⟩
      have alive : state.database.life key ≠ .tombstoned := by
        intro gone
        rw [← Database.deviceDeleted_of_key mirrored.healthy named, present.2] at gone
        cases gone
      have stored := Database.upsertDevice_moves mirrored.healthy named typed enabled alive false
      rw [stored.1, if_pos rfl]
      have name := plain (by
        simp [registers, accepted, mirrored.healthy.isOpen, present.1, present.2])
      have here := deviceKey?_eq_some_iff.mp named
      have keyPlain : key.Plain := by
        rw [← here.1, ← here.2.1] at name
        exact name
      have entered := DataService.rememberDeviceRegistry_keyed
        (state.service.isRemovedDevice nowMs details.device.gatewayId details.device.portId
          details.device.deviceId).1 named
      have lives := stored.2.lives
      have text := DeviceRecord.text_of_key named
      refine ⟨stored.2.healthy, ?_, ?_, ?_, ?_⟩
      · intro other active
        rw [lives other] at active
        split at active
        · rename_i same
          rw [same]
          exact keyPlain
        · exact mirrored.plain other active
      · intro other active
        rw [lives other] at active
        dsimp only
        rw [entered.1, pruned.registry, Table.isSome_get_put]
        split at active
        · rename_i same
          rw [same]
          exact Or.inl text.symm
        · exact Or.inr (mirrored.held other active)
      · intro name device found
        dsimp only at found
        rw [entered.1, pruned.registry, Table.get_put] at found
        split at found
        · rename_i same
          injection found with same'
          rw [← same']
          refine ⟨key, named, text.symm.trans same.symm, ?_⟩
          rw [lives key, if_pos rfl]
        · rcases mirrored.origin name device found with ⟨other, keyed, named, active⟩
          refine ⟨other, keyed, named, ?_⟩
          rw [lives other]
          split
          · rfl
          · exact active
      · intro name typed
        dsimp only at typed ⊢
        rw [entered.1, pruned.registry, Table.isSome_get_put]
        rw [entered.2.1, pruned.types, Table.isSome_get_put] at typed
        rcases typed with same | old
        · exact Or.inl same
        · exact Or.inr (mirrored.types name old)

/-! ## Whole runs -/

/-- One case for each effect. -/
theorem run (mirrored : Mirrored state) {effect : RegistryEffect} (valid : effect.WellFormed)
    (mirrors : effect.Mirrors state) : Mirrored (effect.run state) := by
  cases effect with
  | none => exact mirrored
  | delete nowMs gatewayId portId deviceId => exact mirrored.deleteDevice nowMs mirrors
  | deleteMaster nowMs gatewayId portId => exact mirrored.deleteMaster nowMs mirrors
  | restore nowMs gatewayId portId deviceId => exact mirrored.restoreDevice nowMs mirrors
  | clear => exact mirrored.clearAll mirrors
  | snapshot nowMs gatewayId entries fullSnapshot =>
      exact mirrored.storeSnapshot nowMs valid.1 valid.2 mirrors
  | selection nowMs pending entries =>
      exact mirrored.storeSelection nowMs valid.1 valid.2.1 valid.2.2 mirrors
  | register nowMs details => exact mirrored.storeDevice nowMs valid mirrors
  | points nowMs received =>
      refine ⟨mirrored.healthy, mirrored.plain, ?_, ?_, ?_⟩
      · exact mirrored.held
      · exact mirrored.origin
      · exact mirrored.types

theorem step (mirrored : Mirrored state) (pc : JsonCodec) (stod : String -> Option Rat)
    (event : PcEvent) (mirrors : (PcData.effectOf pc stod state event).Mirrors state) :
    Mirrored (state.step pc stod event).1 :=
  (mirrored.run (PcData.effectOf_wellFormed pc stod state event) mirrors).congr
    (PcData.step_effect pc stod state event)

end Mirrored

/-! ## The start -/

theorem mem_queryDevices {database : Database} {device : DeviceRecord}
    (listed : device ∈ database.queryDevices) :
    exists key, device.key? = some key ∧ database.life key = .active := by
  unfold Database.queryDevices at listed
  split at listed
  · rcases List.mem_map.mp listed with ⟨entry, inside, rfl⟩
    refine ⟨entry.1, deviceKey?_eq_some_iff.mpr ⟨rfl, rfl, rfl⟩, Database.mem_activeKeys.mp ?_⟩
    exact List.mem_map.mpr ⟨entry, inside, rfl⟩
  · cases listed

theorem queryDevices_of_active {database : Database} (isOpen : database.isOpen = true)
    {key : DeviceKey} (active : database.life key = .active) :
    exists device, device ∈ database.queryDevices ∧ device.key? = some key := by
  rcases List.mem_map.mp (Database.mem_activeKeys.mpr active) with ⟨entry, inside, rfl⟩
  refine ⟨Database.deviceRecord entry.1 entry.2 (database.deviceStatuses.get entry.1), ?_,
    deviceKey?_eq_some_iff.mpr ⟨rfl, rfl, rfl⟩⟩
  rw [Database.queryDevices, if_pos isOpen]
  exact List.mem_map.mpr ⟨entry, inside, rfl⟩

theorem Mirrored.seeded {database : Database} (healthy : database.Healthy)
    (plain : forall key, key ∈ database.activeKeys -> key.Plain) (startMs : Int) :
    Mirrored (seeded database startMs) := by
  have keyed : DataService.Keyed database.queryDevices := fun device listed =>
    ⟨(mem_queryDevices listed).choose, (mem_queryDevices listed).choose_spec.1⟩
  have before : DataService.start.SameDevices
      ((DataService.start.updateGatewayStatuses database.gatewayStatuses.values
        ).rememberGatewayPorts database.gatewayPorts.values) :=
    (DataService.updateGatewayStatuses_same _ _).trans (DataService.rememberGatewayPorts_same _ _)
  have entered := DataService.rememberDeviceRegistries_keyed
    ((DataService.start.updateGatewayStatuses database.gatewayStatuses.values
      ).rememberGatewayPorts database.gatewayPorts.values) keyed
  have later := DataService.rememberPointConfigs_same
    (((DataService.start.updateGatewayStatuses database.gatewayStatuses.values
      ).rememberGatewayPorts database.gatewayPorts.values
      ).rememberDeviceRegistries database.queryDevices)
    (database.pointConfigs.values.filter fun config =>
      config.enabled && config.gatewayId ≠ "" && config.portId ≠ "" && 0 < config.deviceId &&
        config.pointKey ≠ "")
  have registry : (Pc.seeded database startMs).service.deviceRegistry =
      Table.putAll DeviceRecord.text id database.queryDevices ∅ := by
    unfold Pc.seeded
    dsimp only
    rw [if_pos healthy.isOpen, (DataService.handleTelemetryPoints_registry _ _ _).1, later.registry,
      entered.1, before.registry]
    rfl
  have types : (Pc.seeded database startMs).service.registeredDeviceTypes =
      Table.putAll DeviceRecord.text DeviceRecord.deviceType database.queryDevices ∅ := by
    unfold Pc.seeded
    dsimp only
    rw [if_pos healthy.isOpen, (DataService.handleTelemetryPoints_registry _ _ _).2, later.types,
      entered.2.1, before.types]
    rfl
  refine ⟨healthy, fun key active => plain key (Database.mem_activeKeys.mpr active), ?_, ?_, ?_⟩
  · intro key active
    rcases queryDevices_of_active healthy.isOpen active with ⟨device, listed, named⟩
    rw [registry, Table.isSome_get_putAll]
    exact Or.inl ⟨device, listed, DeviceRecord.text_of_key named⟩
  · intro text device found
    rw [registry] at found
    rcases Table.get_putAll _ _ found with ⟨record, listed, named, same⟩ | impossible
    · rw [id] at same
      rw [same] at listed named
      rcases mem_queryDevices listed with ⟨key, keyed, active⟩
      exact ⟨key, keyed, (DeviceRecord.text_of_key keyed).symm.trans named, active⟩
    · rw [Table.get_empty] at impossible
      cases impossible
  · intro text typed
    rw [types, Table.isSome_get_putAll] at typed
    rw [registry, Table.isSome_get_putAll]
    rcases typed with listed | impossible
    · exact Or.inl listed
    · rw [Table.get_empty] at impossible
      cases impossible

/-- Every step of the run changes the memory and the table of devices alike. -/
def MirrorCondition (pc : JsonCodec) (stod : String -> Option Rat) (state : PcData)
    (event : PcEvent) : Prop :=
  (PcData.effectOf pc stod state event).Mirrors state

/-- In a run whose steps all change the two alike, a device is registered in
every state if and only if its row is active. -/
theorem registry_mirrors_database (pc : JsonCodec) (stod : String -> Option Rat)
    (database : Database) (startMs : Int) (healthy : database.Healthy)
    (plain : forall key, key ∈ database.activeKeys -> key.Plain) (events : List PcEvent)
    (admissible : (pcSystem pc stod database startMs).Admissible (MirrorCondition pc stod) events)
    (gatewayId portId : String) (deviceId : Int) :
    ((pcSystem pc stod database startMs).run events).service.deviceRegistered gatewayId portId
        deviceId =
      ((pcSystem pc stod database startMs).run events).database.deviceExists gatewayId portId
        deviceId := by
  have mirrored : Mirrored ((pcSystem pc stod database startMs).run events) := by
    apply (pcSystem pc stod database startMs).invariant_run
    · exact Mirrored.seeded healthy plain startMs
    · intro state event mirrored mirrors
      exact mirrored.step pc stod event mirrors
    · exact admissible
  exact mirrored.deviceRegistered_eq gatewayId portId deviceId

/-! ## A database with one device -/

theorem soleGateway_ne_empty : "gateway_001" ≠ "" := by decide
theorem solePort_ne_empty : "port_001" ≠ "" := by decide

def soleKey : DeviceKey :=
  ⟨"gateway_001", "port_001", 3, soleGateway_ne_empty, solePort_ne_empty, by decide⟩

def soleRow : DeviceRow where
  factoryId := "factory_001"
  factoryName := ""
  areaId := "area_001"
  areaName := ""
  gatewayName := ""
  portName := "RS485-1"
  deviceName := "Device 3"
  deviceType := "relay"
  pollIntervalMs := 1000
  expectTelemetry := false
  enabled := true
  deleted := false
  deletedTimeMs := 0
  status := "active"
  createTimeMs := 0
  updateTimeMs := 0

def soleDatabase : Database where
  isOpen := true
  devices := Table.put ∅ soleKey soleRow
  deviceStatuses := ∅
  gatewayRegistries := ∅
  gatewayStatuses := ∅
  gatewayPorts := ∅
  pointConfigs := ∅
  latestPoints := ∅
  telemetryHistory := []
  outcomes := []
  committed := []

/-- A request of the user to delete a device of the port. -/
def deleteRequest (deviceId : Int) : Json :=
  .obj [("type", .str "delete_device_data"), ("gatewayId", .str "gateway_001"),
    ("portId", .str "port_001"), ("deviceId", .int deviceId)]

def deleteEvent (deviceId : Int) : PcEvent :=
  .request 0 ((JsonText.codec false).print (deleteRequest deviceId))

/-- What the system with this database does when devices are deleted. -/
def soleRun (deviceIds : List Int) : PcData :=
  (pcSystem (JsonText.codec false) (fun _ => none) soleDatabase 0).run (deviceIds.map deleteEvent)

theorem parse_deleteRequest {deviceId : Int} (wire : (deleteRequest deviceId).Wire Json.maxDepth) :
    parseObject (JsonText.codec false) ((JsonText.codec false).print (deleteRequest deviceId)) =
      some (deleteRequest deviceId) :=
  parseObject_of_parse ((JsonText.codec false).parse_print _ wire)

/-- Only device 4, which is not there, is deleted. -/
theorem sole_registered_and_active :
    (soleRun [4]).service.deviceRegistered "gateway_001" "port_001" 3 =
      (soleRun [4]).database.deviceExists "gateway_001" "port_001" 3 := by
  apply registry_mirrors_database (JsonText.codec false) (fun _ => none) soleDatabase 0 ⟨rfl, rfl⟩
  · decide
  · refine ⟨?_, trivial⟩
    change (PcData.requestEffect (JsonText.codec false) 0 ((JsonText.codec false).print
      (deleteRequest 4))).Mirrors (seeded soleDatabase 0)
    rw [PcData.requestEffect, parse_deleteRequest (by decide)]
    change (seeded soleDatabase 0).database.deviceExists "gateway_001" "port_001" 4 = false
    decide +kernel

/-- Device 3 is deleted: its row is no longer active, but it stays registered. -/
theorem sole_registered_after_deletion :
    soleDatabase.Healthy ∧
      (soleRun [3]).service.deviceRegistered "gateway_001" "port_001" 3 = true ∧
      (soleRun [3]).database.deviceExists "gateway_001" "port_001" 3 = false := by
  have deleted : soleRun [3] = (seeded soleDatabase 0).deleteDevice 0 "gateway_001" "port_001" 3 := by
    change ((seeded soleDatabase 0).handleRequest (JsonText.codec false) 0
      ((JsonText.codec false).print (deleteRequest 3))).1 = _
    rw [PcData.handleRequest, parse_deleteRequest (by decide)]
    rfl
  rw [deleted]
  exact ⟨⟨rfl, rfl⟩, by decide +kernel, by decide +kernel⟩

end Pc
end Imx6Gateway
