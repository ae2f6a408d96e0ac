import Imx6Gateway.Pc.DeletedDevice

namespace Imx6Gateway
namespace Pc

open Library

/-!
# The rows after a configuration snapshot

What the two snapshot functions of the database leave in its tables if they
report success, row by row and for any database.  Success means that every
transaction was committed, so the entries of the snapshot have been written in
their order: the last entry of a device decides its row, which keeps its time
of creation.  The row of a deleted device is passed over.
-/

/-- The columns an entry of a snapshot sets, beside the time of creation. -/
def DeviceRecord.attributes (device : DeviceRecord) (createTimeMs : Int) : DeviceRow :=
  { Database.deviceRow device none with createTimeMs := createTimeMs }

/-- The last entry of a device. -/
def lastEntry (devices : List DeviceRecord) (key : DeviceKey) : Option DeviceRecord :=
  devices.reverse.find? fun device => device.key? = some key

theorem lastEntry_cons (device : DeviceRecord) (devices : List DeviceRecord) (key : DeviceKey) :
    lastEntry (device :: devices) key =
      (lastEntry devices key).or (if device.key? = some key then some device else none) := by
  rw [lastEntry, List.reverse_cons, List.find?_append, List.find?_cons, List.find?_nil, ← lastEntry]
  by_cases named : device.key? = some key
  · rw [if_pos named, decide_eq_true named]
  · rw [if_neg named, decide_eq_false named]

theorem mem_of_lastEntry {devices : List DeviceRecord} {key : DeviceKey} {device : DeviceRecord}
    (last : lastEntry devices key = some device) : device ∈ devices ∧ device.key? = some key := by
  rw [lastEntry, List.find?_eq_some_iff_append] at last
  rcases last.2 with ⟨before, after, split, -⟩
  refine ⟨List.mem_reverse.mp ?_, of_decide_eq_true last.1⟩
  rw [split]
  exact List.mem_append_right before List.mem_cons_self

theorem lastEntry_eq_none_iff {devices : List DeviceRecord} {key : DeviceKey} :
    lastEntry devices key = none ↔ forall device, device ∈ devices -> device.key? ≠ some key := by
  rw [lastEntry, List.find?_eq_none]
  constructor
  · intro none device listed named
    exact none device (List.mem_reverse.mpr listed) (decide_eq_true named)
  · intro none device listed named
    exact none device (List.mem_reverse.mp listed) (of_decide_eq_true named)

/-- A row after the last entry of its device has been written over it. -/
def Entered (old new : Option DeviceRow) : Option DeviceRecord -> Prop
  | none => new = old
  | some device => exists createTimeMs, new = some (device.attributes createTimeMs) ∧
      forall row, old = some row -> createTimeMs = row.createTimeMs

namespace Database

theorem deviceRow_attributes (device : DeviceRecord) (old : Option DeviceRow) :
    exists createTimeMs, deviceRow device old = device.attributes createTimeMs ∧
      forall row, old = some row -> createTimeMs = row.createTimeMs := by
  cases old with
  | none => exact ⟨(deviceRow device none).createTimeMs, rfl, fun row found => by cases found⟩
  | some row =>
      refine ⟨row.createTimeMs, rfl, ?_⟩
      intro other same
      injection same with same
      rw [same]

theorem not_tombstoned_deviceRow (device : DeviceRecord) (old : Option DeviceRow) :
    (deviceRow device old).tombstoned = false := rfl

/-- The row of the attributes is active exactly if the entry is enabled. -/
theorem active_attributes (device : DeviceRecord) (createTimeMs : Int) :
    (device.attributes createTimeMs).active = device.enabled := by
  change (device.enabled && !false && decide ("active" = "active")) = device.enabled
  simp

/-- The row of the device, if there is one, is that of a deleted device. -/
def buried (database : Database) (key : DeviceKey) : Bool :=
  (database.devices.get key).any DeviceRow.tombstoned

/-- The row of the device is there and active. -/
def activeRow (database : Database) (key : DeviceKey) : Bool :=
  (database.devices.get key).any DeviceRow.active

theorem not_activeRow_of_buried {database : Database} {key : DeviceKey}
    (buried : database.buried key = true) : database.activeRow key = false := by
  unfold Database.buried at buried
  unfold activeRow
  cases found : database.devices.get key with
  | none => rfl
  | some row =>
      rw [found, Option.any_some] at buried
      rw [Option.any_some, ← Bool.not_eq_true]
      intro active
      rw [DeviceRow.not_tombstoned_of_active active] at buried
      cases buried

theorem deviceDeleted_eq_buried {database : Database} (isOpen : database.isOpen = true)
    {device : DeviceRecord} {key : DeviceKey} (named : device.key? = some key) :
    database.deviceDeleted device.gatewayId device.portId device.deviceId = database.buried key := by
  rw [DeviceRecord.key?] at named
  rw [deviceDeleted, named]
  dsimp only
  rw [isOpen, Bool.true_and, buried]

theorem deviceExists_eq_activeRow {database : Database} (isOpen : database.isOpen = true)
    {gatewayId portId : String} {deviceId : Int} {key : DeviceKey}
    (named : deviceKey? gatewayId portId deviceId = some key) :
    database.deviceExists gatewayId portId deviceId = database.activeRow key := by
  rw [deviceExists, named]
  dsimp only
  rw [isOpen, Bool.true_and, activeRow]

/-- The tables that the functions for devices work on are those of before. -/
structure SameTables (database after : Database) : Prop where
  isOpen : after.isOpen = database.isOpen
  devices : after.devices = database.devices
  deviceStatuses : after.deviceStatuses = database.deviceStatuses
  pointConfigs : after.pointConfigs = database.pointConfigs
  latestPoints : after.latestPoints = database.latestPoints
  telemetryHistory : after.telemetryHistory = database.telemetryHistory

theorem SameTables.refl (database : Database) : database.SameTables database :=
  ⟨rfl, rfl, rfl, rfl, rfl, rfl⟩

theorem SameTables.trans {database between after : Database}
    (first : database.SameTables between) (second : between.SameTables after) :
    database.SameTables after :=
  ⟨second.isOpen.trans first.isOpen, second.devices.trans first.devices,
    second.deviceStatuses.trans first.deviceStatuses, second.pointConfigs.trans first.pointConfigs,
    second.latestPoints.trans first.latestPoints,
    second.telemetryHistory.trans first.telemetryHistory⟩

/-- A committed transaction has its effect on the tables, and no other. -/
theorem transact_done {database : Database} {write : Write} {effect : Database -> Database}
    (done : (database.transact write effect).2 = true) :
    exists next : Database, database.SameTables next ∧
      (effect next).SameTables (database.transact write effect).1 := by
  unfold transact at done ⊢
  split at done
  · rename_i committed
    rw [if_pos committed]
    exact ⟨{ database with outcomes := database.outcomes.tail }, ⟨rfl, rfl, rfl, rfl, rfl, rfl⟩,
      ⟨rfl, rfl, rfl, rfl, rfl, rfl⟩⟩
  · cases done

theorem upsertGatewayPort_tables (database : Database) (port : GatewayPort) :
    database.SameTables (database.upsertGatewayPort port).1 := by
  unfold upsertGatewayPort
  split
  · exact SameTables.refl database
  · unfold transact
    split
    · exact ⟨rfl, rfl, rfl, rfl, rfl, rfl⟩
    · exact ⟨rfl, rfl, rfl, rfl, rfl, rfl⟩

theorem each_tables {Item : Type} {operation : Database -> Item -> Database × Bool}
    (same : forall database item, SameTables database (operation database item).1)
    (items : List Item) (database : Database) :
    database.SameTables (database.each operation items).1 := by
  induction items generalizing database with
  | nil => exact SameTables.refl database
  | cons item items ih =>
      rw [each_cons]
      exact (same database item).trans (ih (operation database item).1)

/-! ## One entry -/

/-- What the entry of a device that is not deleted does. -/
structure EntersRow (database after : Database) (key : DeviceKey) (device : DeviceRecord) :
    Prop where
  isOpen : after.isOpen = database.isOpen
  devices : after.devices = database.devices.put key (deviceRow device (database.devices.get key))
  statuses : forall other, other ≠ key ->
    after.deviceStatuses.get other = database.deviceStatuses.get other
  pointConfigs : after.pointConfigs = database.pointConfigs
  latestPoints : after.latestPoints = database.latestPoints
  telemetryHistory : after.telemetryHistory = database.telemetryHistory

theorem upsertDevice_enters {database : Database} {device : DeviceRecord} {key : DeviceKey}
    {allowDeletedReactivate : Bool} (named : device.key? = some key)
    (done : (database.upsertDevice device allowDeletedReactivate).2 = true) :
    database.EntersRow (database.upsertDevice device allowDeletedReactivate).1 key device := by
  unfold upsertDevice at done ⊢
  rw [named] at done ⊢
  dsimp only at done ⊢
  split at done
  · cases done
  · rename_i valid
    rw [if_neg valid]
    split at done
    · cases done
    · rename_i allowed
      rw [if_neg allowed]
      rcases transact_done done with ⟨next, before, after⟩
      refine ⟨after.isOpen.trans before.isOpen, ?_, ?_, after.pointConfigs.trans before.pointConfigs,
        after.latestPoints.trans before.latestPoints,
        after.telemetryHistory.trans before.telemetryHistory⟩
      · rw [after.devices, ← before.devices]
        rfl
      · intro other apart
        rw [after.deviceStatuses, ← before.deviceStatuses]
        change (Table.put _ key _).get other = _
        rw [Table.get_put, if_neg apart]

theorem upsertSnapshotDevice_done {database : Database} {device : DeviceRecord} {key : DeviceKey}
    {allowDeletedReactivate : Bool} (isOpen : database.isOpen = true)
    (named : device.key? = some key)
    (done : (database.upsertSnapshotDevice allowDeletedReactivate device).2 = true) :
    (database.buried key = true ∧
        (database.upsertSnapshotDevice allowDeletedReactivate device).1 = database) ∨
      (database.buried key = false ∧
        database.EntersRow (database.upsertSnapshotDevice allowDeletedReactivate device).1 key
          device) := by
  have deleted := deviceDeleted_eq_buried isOpen named
  unfold upsertSnapshotDevice at done ⊢
  rw [deleted] at done ⊢
  cases gone : database.buried key with
  | true => exact Or.inl ⟨rfl, by rw [if_pos rfl]⟩
  | false =>
      rw [gone, if_neg Bool.false_ne_true] at done
      rw [if_neg Bool.false_ne_true]
      exact Or.inr ⟨rfl, upsertDevice_enters named done⟩

/-! ## All entries -/

/-- What the entries of a snapshot do, each with a key. -/
structure EntriesStored (database after : Database) (devices : List DeviceRecord) : Prop where
  isOpen : after.isOpen = database.isOpen
  passed : forall key, database.buried key = true ->
    after.devices.get key = database.devices.get key
  entered : forall key, database.buried key = false ->
    Entered (database.devices.get key) (after.devices.get key) (lastEntry devices key)
  statuses : forall key, lastEntry devices key = none ->
    after.deviceStatuses.get key = database.deviceStatuses.get key
  pointConfigs : after.pointConfigs = database.pointConfigs
  latestPoints : after.latestPoints = database.latestPoints
  telemetryHistory : after.telemetryHistory = database.telemetryHistory

theorem EntriesStored.refl (database : Database) : database.EntriesStored database [] := by
  refine ⟨rfl, fun _ _ => rfl, ?_, fun _ _ => rfl, rfl, rfl, rfl⟩
  intro key _
  rfl

/-- An entry of a deleted device adds nothing to what follows. -/
theorem EntriesStored.pass {database after : Database} {device : DeviceRecord} {key : DeviceKey}
    {devices : List DeviceRecord} (named : device.key? = some key)
    (gone : database.buried key = true) (stored : database.EntriesStored after devices) :
    database.EntriesStored after (device :: devices) := by
  refine ⟨stored.isOpen, stored.passed, ?_, ?_, stored.pointConfigs, stored.latestPoints,
    stored.telemetryHistory⟩
  · intro other kept
    have apart : device.key? ≠ some other := by
      intro same
      rw [named] at same
      injection same with same
      rw [same, kept] at gone
      cases gone
    rw [lastEntry_cons, if_neg apart, Option.or_none]
    exact stored.entered other kept
  · intro other none
    rw [lastEntry_cons, Option.or_eq_none_iff] at none
    exact stored.statuses other none.1

/-- The entries that follow an entry that has been written. -/
theorem EntriesStored.enter {database between after : Database} {device : DeviceRecord}
    {key : DeviceKey} {devices : List DeviceRecord} (named : device.key? = some key)
    (kept : database.buried key = false) (first : database.EntersRow between key device)
    (stored : between.EntriesStored after devices) :
    database.EntriesStored after (device :: devices) := by
  have others : forall other, other ≠ key ->
      between.devices.get other = database.devices.get other := by
    intro other apart
    rw [first.devices, Table.get_put, if_neg apart]
  have here : between.devices.get key = some (deviceRow device (database.devices.get key)) := by
    rw [first.devices, Table.get_put, if_pos rfl]
  refine ⟨stored.isOpen.trans first.isOpen, ?_, ?_, ?_,
    stored.pointConfigs.trans first.pointConfigs, stored.latestPoints.trans first.latestPoints,
    stored.telemetryHistory.trans first.telemetryHistory⟩
  · intro other gone
    have apart : other ≠ key := by
      intro same
      rw [same, kept] at gone
      cases gone
    rw [stored.passed other (by rw [buried, others other apart]; exact gone), others other apart]
  · intro other alive
    rw [lastEntry_cons]
    by_cases same : other = key
    · rw [same, if_pos named]
      have entered := stored.entered key (by rw [buried, here]; rfl)
      rw [here] at entered
      rcases deviceRow_attributes device (database.devices.get key) with ⟨created, row, keeps⟩
      cases last : lastEntry devices key with
      | none =>
          rw [last] at entered
          rw [Option.none_or]
          refine ⟨created, ?_, keeps⟩
          rw [entered, row]
      | some final =>
          rw [last] at entered
          rcases entered with ⟨createTimeMs, written, keeping⟩
          refine ⟨createTimeMs, written, ?_⟩
          intro old found
          rw [keeping _ rfl, row]
          exact keeps old found
    · have apart : device.key? ≠ some other := by
        intro named'
        rw [named] at named'
        injection named' with equal
        exact same equal.symm
      rw [if_neg apart, Option.or_none, ← others other same]
      exact stored.entered other (by rw [buried, others other same]; exact alive)
  · intro other none
    rw [lastEntry_cons, Option.or_eq_none_iff] at none
    have apart : other ≠ key := by
      intro same
      rw [same, if_pos named] at none
      cases none.2
    rw [stored.statuses other none.1, first.statuses other apart]

theorem each_snapshotDevice_stored {database : Database} (isOpen : database.isOpen = true)
    {allowDeletedReactivate : Bool} {devices : List DeviceRecord}
    (keyed : forall device, device ∈ devices -> exists key, device.key? = some key)
    (done : (database.each (upsertSnapshotDevice allowDeletedReactivate) devices).2 = true) :
    database.EntriesStored
      (database.each (upsertSnapshotDevice allowDeletedReactivate) devices).1 devices := by
  induction devices generalizing database with
  | nil => exact EntriesStored.refl database
  | cons device devices ih =>
      rw [each_cons] at done ⊢
      rw [Bool.and_eq_true] at done
      rcases keyed device List.mem_cons_self with ⟨key, named⟩
      have rest := fun other listed => keyed other (List.mem_cons_of_mem _ listed)
      rcases upsertSnapshotDevice_done isOpen named done.2 with ⟨gone, same⟩ | ⟨kept, first⟩
      · rw [same] at done ⊢
        exact (ih isOpen rest done.1).pass named gone
      · exact (ih (first.isOpen.trans isOpen) rest done.1).enter named kept first

/-- Only the point configurations may have been changed. -/
structure SameRows (database after : Database) : Prop where
  isOpen : after.isOpen = database.isOpen
  devices : after.devices = database.devices
  deviceStatuses : after.deviceStatuses = database.deviceStatuses
  latestPoints : after.latestPoints = database.latestPoints
  telemetryHistory : after.telemetryHistory = database.telemetryHistory

/-- The entries that `savePointConfigs` writes. -/
def savedConfigs (database : Database) (configs : List PointConfig) : List PointConfig :=
  configs.filter fun config => config.pointId ≠ "" && database.knowsConfig config

theorem savePointConfigs_done {database : Database} {configs : List PointConfig}
    (done : (database.savePointConfigs configs).2 = true) :
    database.SameRows (database.savePointConfigs configs).1 ∧
      (database.savePointConfigs configs).1.pointConfigs =
        Table.putAll PointConfig.pointId id (database.savedConfigs configs) database.pointConfigs := by
  unfold savePointConfigs at done ⊢
  split at done
  · cases done
  · rename_i opened
    rw [if_neg opened]
    split at done
    · rename_i empty
      rw [if_pos empty, List.isEmpty_iff.mp empty]
      exact ⟨⟨rfl, rfl, rfl, rfl, rfl⟩, rfl⟩
    · rename_i some
      rw [if_neg some]
      rcases transact_done done with ⟨next, before, after⟩
      refine ⟨⟨after.isOpen.trans before.isOpen, after.devices.trans before.devices,
        after.deviceStatuses.trans before.deviceStatuses,
        after.latestPoints.trans before.latestPoints,
        after.telemetryHistory.trans before.telemetryHistory⟩, ?_⟩
      have known : forall config, next.knowsConfig config = database.knowsConfig config := by
        intro config
        rw [knowsConfig, knowsConfig, deviceExists, deviceExists, before.devices, before.isOpen]
      rw [after.pointConfigs, savedConfigs, ← before.pointConfigs]
      simp only [known]

/-! ## The end of the two snapshot functions -/

theorem keyed_own {gatewayId : String} (gateway : gatewayId ≠ "") {devices : List DeviceRecord}
    {device : DeviceRecord} (listed : device ∈ devices.filter (ownEntry gatewayId)) :
    exists key, device.key? = some key := by
  have own := (List.mem_filter.mp listed).2
  rw [ownEntry, Bool.and_eq_true, Bool.and_eq_true, decide_eq_true_eq, decide_eq_true_eq,
    decide_eq_true_eq] at own
  exact ⟨⟨device.gatewayId, device.portId, device.deviceId, own.1.1 ▸ gateway, own.1.2, own.2⟩,
    deviceKey?_eq_some_iff.mpr ⟨rfl, rfl, rfl⟩⟩

/-- What the entries of a snapshot leave, with their point configurations. -/
structure SnapshotEntered (database after : Database) (gatewayId : String)
    (snapshot : ConfigSnapshot) : Prop where
  passed : forall key, database.buried key = true ->
    after.devices.get key = database.devices.get key
  entered : forall key, database.buried key = false ->
    Entered (database.devices.get key) (after.devices.get key)
      (lastEntry (snapshot.devices.filter (ownEntry gatewayId)) key)
  statuses : forall key, lastEntry (snapshot.devices.filter (ownEntry gatewayId)) key = none ->
    after.deviceStatuses.get key = database.deviceStatuses.get key
  pointConfigs : after.pointConfigs = Table.putAll PointConfig.pointId id
    (after.savedConfigs snapshot.pointConfigs) database.pointConfigs
  isOpen : after.isOpen = database.isOpen
  latestPoints : after.latestPoints = database.latestPoints
  telemetryHistory : after.telemetryHistory = database.telemetryHistory

theorem savedConfigs_of_same {database after : Database} (same : database.SameRows after)
    (configs : List PointConfig) :
    after.savedConfigs configs = database.savedConfigs (configs.filter database.knowsConfig) := by
  have known : forall config, after.knowsConfig config = database.knowsConfig config := by
    intro config
    rw [knowsConfig, knowsConfig, deviceExists, deviceExists, same.devices, same.isOpen]
  rw [savedConfigs, savedConfigs, List.filter_filter]
  apply List.filter_congr
  intro config _
  rw [known, Bool.and_assoc, Bool.and_self]

theorem upsertSnapshotEntries_done {database : Database} (isOpen : database.isOpen = true)
    {gatewayId : String} (gateway : gatewayId ≠ "") {snapshot : ConfigSnapshot}
    {allowDeletedReactivate : Bool}
    (done : (database.upsertSnapshotEntries gatewayId snapshot allowDeletedReactivate).2 = true) :
    database.SnapshotEntered
      (database.upsertSnapshotEntries gatewayId snapshot allowDeletedReactivate).1 gatewayId
      snapshot := by
  have ports := each_tables upsertGatewayPort_tables
    (snapshot.ports.filter (ownPort gatewayId)) database
  unfold upsertSnapshotEntries at done ⊢
  dsimp only at done ⊢
  generalize (database.each upsertGatewayPort (snapshot.ports.filter (ownPort gatewayId))) = first
    at done ports ⊢
  have stored : forall allDone :
      (first.1.each (upsertSnapshotDevice allowDeletedReactivate)
        (snapshot.devices.filter (ownEntry gatewayId))).2 = true,
      first.1.EntriesStored (first.1.each (upsertSnapshotDevice allowDeletedReactivate)
        (snapshot.devices.filter (ownEntry gatewayId))).1
        (snapshot.devices.filter (ownEntry gatewayId)) :=
    each_snapshotDevice_stored (ports.isOpen.trans isOpen) fun device => keyed_own gateway
  generalize first.1.each (upsertSnapshotDevice allowDeletedReactivate)
    (snapshot.devices.filter (ownEntry gatewayId)) = second at done stored ⊢
  have combined : second.2 = true -> forall after : Database, second.1.SameRows after ->
      after.pointConfigs = Table.putAll PointConfig.pointId id
        (after.savedConfigs snapshot.pointConfigs) second.1.pointConfigs ->
      database.SnapshotEntered after gatewayId snapshot := by
    intro allDone after same configs
    have entries := stored allDone
    refine ⟨?_, ?_, ?_, ?_, same.isOpen.trans (entries.isOpen.trans ports.isOpen),
      same.latestPoints.trans (entries.latestPoints.trans ports.latestPoints),
      same.telemetryHistory.trans (entries.telemetryHistory.trans ports.telemetryHistory)⟩
    · intro key gone
      rw [same.devices, ← ports.devices]
      exact entries.passed key (by rw [buried, ports.devices]; exact gone)
    · intro key kept
      rw [same.devices, ← ports.devices]
      exact entries.entered key (by rw [buried, ports.devices]; exact kept)
    · intro key none
      rw [same.deviceStatuses, ← ports.deviceStatuses]
      exact entries.statuses key none
    · rw [configs, entries.pointConfigs, ports.pointConfigs]
  split at done
  · rename_i empty
    rw [if_pos empty]
    rw [Bool.and_eq_true] at done
    apply combined done.1 second.1 ⟨rfl, rfl, rfl, rfl, rfl⟩
    rw [List.isEmpty_iff.mp empty]
    rfl
  · rename_i some
    rw [if_neg some]
    rw [Bool.and_eq_true, Bool.and_eq_true] at done
    have saved := savePointConfigs_done done.1
    apply combined done.2.1 _ saved.1
    rw [savedConfigs_of_same saved.1]
    exact saved.2

/-! ## Full snapshots -/

theorem lastEntry_own {gatewayId : String} {key : DeviceKey} (same : key.gatewayId = gatewayId)
    (devices : List DeviceRecord) :
    lastEntry (devices.filter (ownEntry gatewayId)) key = lastEntry devices key := by
  induction devices with
  | nil => rfl
  | cons device devices ih =>
      rw [lastEntry_cons, List.filter_cons]
      split
      · rw [lastEntry_cons, ih]
      · rename_i foreign
        have apart : device.key? ≠ some key := by
          intro named
          have parts := deviceKey?_eq_some_iff.mp named
          apply foreign
          rw [ownEntry, ← parts.1, ← parts.2.1, ← parts.2.2]
          simp [same, key.portNamed, key.positive]
        rw [ih, if_neg apart, Option.or_none]

/-- The entries of a gateway are not about the devices of another. -/
theorem lastEntry_foreign {gatewayId : String} {key : DeviceKey} (other : key.gatewayId ≠ gatewayId)
    (devices : List DeviceRecord) :
    lastEntry (devices.filter (ownEntry gatewayId)) key = none := by
  rw [lastEntry_eq_none_iff]
  intro device listed named
  have own := (List.mem_filter.mp listed).2
  rw [ownEntry, Bool.and_eq_true, Bool.and_eq_true, decide_eq_true_eq] at own
  exact other ((deviceKey?_eq_some_iff.mp named).1.trans own.1.1)

theorem missingFrom_iff {gatewayId : String} {key : DeviceKey} (same : key.gatewayId = gatewayId)
    (devices : List DeviceRecord) :
    missingFrom gatewayId devices key = true ↔ lastEntry devices key = none := by
  rw [← lastEntry_own same, lastEntry_eq_none_iff, missingFrom, decide_eq_true same, Bool.true_and,
    Bool.not_eq_true', List.any_eq_false]
  constructor
  · intro absent device listed named
    have parts := deviceKey?_eq_some_iff.mp named
    apply absent device listed
    simp [parts.2.1, parts.2.2]
  · intro absent device listed here
    have own := (List.mem_filter.mp listed).2
    rw [ownEntry, Bool.and_eq_true, Bool.and_eq_true, decide_eq_true_eq] at own
    rw [Bool.and_eq_true, decide_eq_true_eq, decide_eq_true_eq] at here
    exact absent device listed (deviceKey?_eq_some_iff.mpr
      ⟨same.trans own.1.1.symm, here.1.symm, here.2.symm⟩)

theorem deleteDeviceData_done {database : Database} {nowMs : Int} {key : DeviceKey}
    (done : (database.deleteDeviceData nowMs key.gatewayId key.portId key.deviceId).2 = true)
    (other : DeviceKey) :
    (database.deleteDeviceData nowMs key.gatewayId key.portId key.deviceId).1.devices.get other =
      if other = key then (database.devices.get other).map (markDeleted nowMs)
      else database.devices.get other := by
  unfold deleteDeviceData at done ⊢
  rw [deviceKey?_key] at done ⊢
  dsimp only at done ⊢
  split at done
  · cases done
  · rename_i opened
    rw [if_neg opened]
    rcases transact_done done with ⟨next, before, after⟩
    rw [after.devices, ← before.devices]
    change (Table.updateWhere _ _ next.devices).get other = _
    rw [Table.get_updateWhere]
    by_cases same : other = key
    · simp only [same, decide_true, if_true]
    · simp only [same, decide_false, Bool.false_eq_true, if_false, Option.map_id_fun', id]

theorem each_delete_done {nowMs : Int} {keys : List DeviceKey} {database : Database}
    (done : (database.each (fun database key =>
      database.deleteDeviceData nowMs key.gatewayId key.portId key.deviceId) keys).2 = true)
    (other : DeviceKey) :
    (database.each (fun database key =>
      database.deleteDeviceData nowMs key.gatewayId key.portId key.deviceId) keys).1.devices.get
        other =
      if other ∈ keys then (database.devices.get other).map (markDeleted nowMs)
      else database.devices.get other := by
  induction keys generalizing database with
  | nil => rw [each_nil, if_neg List.not_mem_nil]
  | cons first keys ih =>
      rw [each_cons] at done ⊢
      rw [Bool.and_eq_true] at done
      rw [ih done.1, deleteDeviceData_done done.2]
      by_cases here : other = first
      · rw [if_pos here, if_pos (List.mem_cons.mpr (Or.inl here)), Option.map_map]
        split
        · rfl
        · rfl
      · rw [if_neg here]
        by_cases listed : other ∈ keys
        · rw [if_pos listed, if_pos (List.mem_cons_of_mem first listed)]
        · rw [if_neg listed, if_neg]
          intro inside
          exact (List.mem_cons.mp inside).elim here listed

theorem activeRow_iff {database : Database} {key : DeviceKey} :
    database.activeRow key = true ↔ key ∈ database.activeKeys := by
  rw [mem_activeKeys, life, activeRow]
  cases database.devices.get key with
  | none => simp
  | some row => exact life_eq_active_iff.symm

/-- The active rows of the gateway that a snapshot does not list have been deleted. -/
structure MissingRemoved (database after : Database) (gatewayId : String)
    (devices : List DeviceRecord) : Prop where
  isOpen : after.isOpen = database.isOpen
  removed : forall key : DeviceKey, key.gatewayId = gatewayId -> lastEntry devices key = none ->
    database.activeRow key = true -> after.buried key = true
  untouched : forall key : DeviceKey,
    (key.gatewayId = gatewayId -> lastEntry devices key = none ->
      database.activeRow key = false) ->
    after.devices.get key = database.devices.get key

theorem each_delete_missing {database : Database} {nowMs : Int} {gatewayId : String}
    {devices : List DeviceRecord}
    (done : (database.each (fun database key =>
      database.deleteDeviceData nowMs key.gatewayId key.portId key.deviceId)
      (database.activeKeys.filter (missingFrom gatewayId devices))).2 = true) :
    database.MissingRemoved (database.each (fun database key =>
      database.deleteDeviceData nowMs key.gatewayId key.portId key.deviceId)
      (database.activeKeys.filter (missingFrom gatewayId devices))).1 gatewayId devices := by
  have rows := each_delete_done done
  refine ⟨?_, ?_, ?_⟩
  · have buries : database.Buries soleKey (database.each (fun database key =>
        database.deleteDeviceData nowMs key.gatewayId key.portId key.deviceId)
        (database.activeKeys.filter (missingFrom gatewayId devices))).1 :=
      Buries.each (fun database key _ => deleteDeviceData_buries database nowMs _ _ _ soleKey)
        database
    exact buries.isOpen
  · intro key same unlisted active
    have listed : key ∈ database.activeKeys.filter (missingFrom gatewayId devices) :=
      List.mem_filter.mpr ⟨activeRow_iff.mp active, (missingFrom_iff same _).mpr unlisted⟩
    rw [buried, rows key, if_pos listed]
    unfold activeRow at active
    cases found : database.devices.get key with
    | none =>
        rw [found] at active
        cases active
    | some row => rfl
  · intro key kept
    rw [rows key, if_neg]
    intro listed
    rcases List.mem_filter.mp listed with ⟨active, missing⟩
    have same : key.gatewayId = gatewayId := by
      rw [missingFrom, Bool.and_eq_true, decide_eq_true_eq] at missing
      exact missing.1
    have inactive := kept same ((missingFrom_iff same _).mp missing)
    rw [activeRow_iff.mpr active] at inactive
    cases inactive

/-- The rows of the gateway after a full snapshot: the last entry of each
device that was not deleted before, and no other active row. -/
structure FullSnapshotRows (database after : Database) (gatewayId : String)
    (devices : List DeviceRecord) : Prop where
  active : forall key : DeviceKey, key.gatewayId = gatewayId ->
    (after.activeRow key = true ↔ database.buried key = false ∧
      exists device, lastEntry devices key = some device ∧ device.enabled = true)
  attributes : forall (key : DeviceKey) (device : DeviceRecord), key.gatewayId = gatewayId ->
    database.buried key = false -> lastEntry devices key = some device ->
    exists createTimeMs, after.devices.get key = some (device.attributes createTimeMs) ∧
      forall row, database.devices.get key = some row -> createTimeMs = row.createTimeMs
  others : forall key : DeviceKey, key.gatewayId ≠ gatewayId ->
    after.devices.get key = database.devices.get key

theorem inactive_of_buried {first after : Database} {gatewayId : String} {snapshot : ConfigSnapshot}
    (entered : first.SnapshotEntered after gatewayId snapshot) {key : DeviceKey}
    (gone : first.buried key = true) : after.activeRow key = false := by
  rw [activeRow, entered.passed key gone, ← activeRow, not_activeRow_of_buried gone]

section FullSnapshot

variable {database first after : Database} {gatewayId : String} {snapshot : ConfigSnapshot}
  (removed : database.MissingRemoved first gatewayId snapshot.devices)
  (entered : first.SnapshotEntered after gatewayId snapshot)

include removed entered

theorem row_of_listed {key : DeviceKey} {device : DeviceRecord} (same : key.gatewayId = gatewayId)
    (alive : database.buried key = false) (last : lastEntry snapshot.devices key = some device) :
    exists createTimeMs, after.devices.get key = some (device.attributes createTimeMs) ∧
      forall row, database.devices.get key = some row -> createTimeMs = row.createTimeMs := by
  have before := removed.untouched key fun _ none => by
    rw [last] at none
    cases none
  have row := entered.entered key (by rw [buried, before]; exact alive)
  rw [lastEntry_own same, last, before] at row
  exact row

theorem inactive_of_unlisted {key : DeviceKey} (same : key.gatewayId = gatewayId)
    (last : lastEntry snapshot.devices key = none) : after.activeRow key = false := by
  cases gone : first.buried key with
  | true => exact inactive_of_buried entered gone
  | false =>
      cases active : database.activeRow key with
      | true =>
          rw [removed.removed key same last active] at gone
          cases gone
      | false =>
          have row := entered.entered key gone
          rw [lastEntry_own same, last] at row
          rw [activeRow, row, removed.untouched key fun _ _ => active, ← activeRow, active]

theorem active_iff_of_listed {key : DeviceKey} {device : DeviceRecord}
    (same : key.gatewayId = gatewayId) (last : lastEntry snapshot.devices key = some device) :
    after.activeRow key = true ↔ database.buried key = false ∧ device.enabled = true := by
  have before := removed.untouched key fun _ none => by
    rw [last] at none
    cases none
  cases gone : database.buried key with
  | true =>
      have kept : first.buried key = true := by
        rw [buried, before]
        exact gone
      rw [inactive_of_buried entered kept]
      simp
  | false =>
      rcases row_of_listed removed entered same gone last with ⟨createTimeMs, row, -⟩
      rw [activeRow, row, Option.any_some, active_attributes]
      simp

theorem row_of_foreign {key : DeviceKey} (other : key.gatewayId ≠ gatewayId) :
    after.devices.get key = database.devices.get key := by
  have before := removed.untouched key fun same => absurd same other
  cases gone : first.buried key with
  | true => rw [entered.passed key gone, before]
  | false =>
      have row := entered.entered key gone
      rw [lastEntry_foreign other] at row
      rw [row, before]

end FullSnapshot

/-- A full snapshot that is reported as stored. -/
theorem full_snapshot_rows (database : Database) (nowMs : Int) (gatewayId : String)
    (snapshot : ConfigSnapshot)
    (stored : (database.upsertGatewayConfigSnapshot nowMs gatewayId snapshot true).2 = true) :
    database.FullSnapshotRows
      (database.upsertGatewayConfigSnapshot nowMs gatewayId snapshot true).1 gatewayId
      snapshot.devices := by
  unfold upsertGatewayConfigSnapshot at stored ⊢
  split at stored
  · cases stored
  · rename_i valid
    rw [if_neg valid]
    rw [not_or, Bool.not_eq_true', Bool.not_eq_false] at valid
    dsimp only at stored ⊢
    rw [if_pos rfl] at stored ⊢
    rw [Bool.and_eq_true] at stored
    have removed := each_delete_missing stored.2
    have entered := upsertSnapshotEntries_done (removed.isOpen.trans valid.1) valid.2 stored.1
    refine ⟨?_, ?_, ?_⟩
    · intro key same
      cases last : lastEntry snapshot.devices key with
      | some device =>
          rw [active_iff_of_listed removed entered same last]
          simp
      | none =>
          rw [inactive_of_unlisted removed entered same last]
          simp
    · intro key device same alive last
      exact row_of_listed removed entered same alive last
    · intro key other
      exact row_of_foreign removed entered other

end Database

/-- Device 3 of the port in an entry of a snapshot. -/
def soleEntry (deviceId : Int) (enabled : Bool) : DeviceRecord where
  factoryId := "factory_001"
  factoryName := ""
  areaId := "area_001"
  areaName := ""
  gatewayId := "gateway_001"
  gatewayName := ""
  portId := "port_001"
  portName := "RS485-1"
  deviceId := deviceId
  deviceName := defaultDeviceName deviceId
  deviceType := "relay"
  pollIntervalMs := 500
  expectTelemetry := false
  enabled := enabled
  status := "online"
  lastSeenMs := 7
  lastOfflineMs := 0
  statusReason := ""
  createTimeMs := 7
  updateTimeMs := 7

/-- Device 4 takes the place of device 3. -/
theorem sole_replaced :
    soleDatabase.FullSnapshotRows
      (soleDatabase.upsertGatewayConfigSnapshot 7 "gateway_001" ⟨[], [soleEntry 4 true], []⟩ true).1
      "gateway_001" [soleEntry 4 true] :=
  Database.full_snapshot_rows soleDatabase 7 "gateway_001" ⟨[], [soleEntry 4 true], []⟩
    (by decide +kernel)

/-- Device 3 is listed twice, first enabled and then not: it is not active. -/
theorem sole_listed_twice :
    (soleDatabase.upsertGatewayConfigSnapshot 7 "gateway_001"
        ⟨[], [soleEntry 3 true, soleEntry 3 false], []⟩ true).2 = true ∧
      soleDatabase.buried soleKey = false ∧
      (soleEntry 3 true).key? = some soleKey ∧ (soleEntry 3 true).enabled = true ∧
      (soleDatabase.upsertGatewayConfigSnapshot 7 "gateway_001"
        ⟨[], [soleEntry 3 true, soleEntry 3 false], []⟩ true).1.activeRow soleKey = false := by
  decide +kernel

/-! ## The devices a user has selected -/

def PointConfig.key? (config : PointConfig) : Option DeviceKey :=
  deviceKey? config.gatewayId config.portId config.deviceId

/-- The last configuration under a point id. -/
def lastConfig (configs : List PointConfig) (pointId : String) : Option PointConfig :=
  configs.reverse.find? fun config => config.pointId = pointId

theorem lastConfig_mem {configs : List PointConfig} {pointId : String} {config : PointConfig}
    (last : lastConfig configs pointId = some config) :
    config ∈ configs ∧ config.pointId = pointId := by
  rw [lastConfig, List.find?_eq_some_iff_append] at last
  rcases last.2 with ⟨before, after, split, -⟩
  refine ⟨List.mem_reverse.mp ?_, of_decide_eq_true last.1⟩
  rw [split]
  exact List.mem_append_right before List.mem_cons_self

theorem lastConfig_of_mem {configs : List PointConfig} {config : PointConfig}
    (listed : config ∈ configs) : exists last, lastConfig configs config.pointId = some last := by
  rw [← Option.isSome_iff_exists, lastConfig, List.find?_isSome]
  exact ⟨config, List.mem_reverse.mpr listed, decide_eq_true rfl⟩

/-- What the entries of an answer to a sync are about. -/
structure AnswersSelection (gatewayId : String) (selected : List SyncSelectedDevice)
    (snapshot : ConfigSnapshot) : Prop where
  devices : forall device, device ∈ snapshot.devices -> device.enabled = true ∧
    device.gatewayId = gatewayId ∧ (⟨device.portId, device.deviceId⟩ : SyncSelectedDevice) ∈ selected
  configs : forall config, config ∈ snapshot.pointConfigs -> config.pointId ≠ "" ∧
    exists device key, device ∈ snapshot.devices ∧ device.key? = some key ∧ config.key? = some key

theorem buildSnapshotPointId_ne_empty (device : DeviceRecord) (pointKey : String) :
    buildSnapshotPointId device pointKey ≠ "" := by
  intro empty
  have characters := congrArg String.toList empty
  simp [buildSnapshotPointId] at characters

theorem mem_snapshotPointConfigs {timestampMs : Int} {device : DeviceRecord} {value : Json}
    {config : PointConfig} (listed : config ∈ snapshotPointConfigs timestampMs device value) :
    config.pointId ≠ "" ∧ exists key, device.key? = some key ∧ config.key? = some key := by
  have appended : forall (threshold : Json) (pointKey unit : String),
      thresholdPointConfig timestampMs device threshold pointKey unit = some config ->
      config.pointId ≠ "" ∧ exists key, device.key? = some key ∧ config.key? = some key := by
    intro threshold pointKey unit made
    unfold thresholdPointConfig at made
    split at made
    · cases made
    · rename_i valid
      injection made with same
      simp only [not_or, not_le] at valid
      rw [← same]
      refine ⟨buildSnapshotPointId_ne_empty device pointKey,
        ⟨device.gatewayId, device.portId, device.deviceId, valid.2.2.2.1, valid.2.2.2.2.1,
          valid.2.2.2.2.2⟩, ?_, ?_⟩
      · exact deviceKey?_eq_some_iff.mpr ⟨rfl, rfl, rfl⟩
      · exact deviceKey?_eq_some_iff.mpr ⟨rfl, rfl, rfl⟩
  unfold snapshotPointConfigs at listed
  split at listed
  · cases listed
  · split at listed
    · cases listed
    · split at listed
      · cases listed
      · rename_i thresholds _
        rcases List.mem_append.mp listed with here | here
        · rw [Option.mem_toList, Option.bind_eq_some_iff] at here
          rcases here with ⟨threshold, -, made⟩
          exact appended threshold _ _ made
        · rw [Option.mem_toList, Option.bind_eq_some_iff] at here
          rcases here with ⟨threshold, -, made⟩
          exact appended threshold _ _ made

theorem answersSelection_of_parsed {nowMs : Int} {root : Json} {gatewayId : String}
    {selected : List SyncSelectedDevice} {snapshot : ConfigSnapshot}
    (parsed : parseConfigSnapshot nowMs root gatewayId selected = some snapshot)
    (some : selected.isEmpty = false) : AnswersSelection gatewayId selected snapshot := by
  unfold parseConfigSnapshot at parsed
  dsimp only at parsed
  split at parsed
  · cases parsed
  · split at parsed
    · cases parsed
    · rename_i portValues _ valid
      injection parsed with same
      rw [← same]
      simp only [not_or, not_not] at valid
      refine ⟨?_, ?_⟩
      · intro device listed
        rcases List.mem_map.mp listed with ⟨entry, inside, rfl⟩
        rcases List.mem_flatMap.mp inside with ⟨port, -, read⟩
        rcases List.mem_map.mp read with ⟨value, chosen, rfl⟩
        have passed := (List.mem_filter.mp chosen).2
        rw [some, Bool.false_or, Bool.and_eq_true, List.contains_iff_mem] at passed
        exact ⟨rfl, valid.2.1, passed.2⟩
      · intro config listed
        rcases List.mem_flatMap.mp listed with ⟨entry, inside, made⟩
        rcases mem_snapshotPointConfigs made with ⟨named, key, device, own⟩
        exact ⟨named, entry.device, key, List.mem_map_of_mem inside, device, own⟩

namespace Database

/-- The selected devices after the answer to a sync, and the others. -/
structure SelectionReplaced (database after : Database) (keys : List DeviceKey)
    (snapshot : ConfigSnapshot) : Prop where
  present : forall key device, key ∈ keys -> lastEntry snapshot.devices key = some device ->
    after.activeRow key = true ∧
      exists createTimeMs, after.devices.get key = some (device.attributes createTimeMs) ∧
        forall row, database.devices.get key = some row -> createTimeMs = row.createTimeMs
  configs : forall key device, key ∈ keys -> lastEntry snapshot.devices key = some device ->
    forall pointId config, config.key? = some key ->
      (after.pointConfigs.get pointId = some config ↔
        lastConfig snapshot.pointConfigs pointId = some config)
  absent : forall key, key ∈ keys -> lastEntry snapshot.devices key = none ->
    after.activeRow key = false
  others : forall key, key ∉ keys -> after.devices.get key = database.devices.get key ∧
    after.deviceStatuses.get key = database.deviceStatuses.get key
  otherConfigs : forall pointId config, (forall key, key ∈ keys -> config.key? ≠ some key) ->
    (after.pointConfigs.get pointId = some config ↔ database.pointConfigs.get pointId = some config)
  points : after.latestPoints = database.latestPoints ∧
    after.telemetryHistory = database.telemetryHistory

/-- No selected device that is present was deleted, none that is absent was
active, and no other device has a configuration under a point id of the answer. -/
structure SelectionCondition (database : Database) (keys : List DeviceKey)
    (snapshot : ConfigSnapshot) : Prop where
  alive : forall key device, key ∈ keys -> lastEntry snapshot.devices key = some device ->
    database.buried key = false
  inactive : forall key, key ∈ keys -> lastEntry snapshot.devices key = none ->
    database.activeRow key = false
  ownIds : forall config row, config ∈ snapshot.pointConfigs ->
    database.pointConfigs.get config.pointId = some row ->
    exists key, key ∈ keys ∧ row.key? = some key

/-- What the two phases of `replaceSelectedDeviceConfig` leave. -/
structure SelectionStored (database after : Database) (keys : List DeviceKey)
    (gatewayId : String) (snapshot : ConfigSnapshot) : Prop where
  passed : forall key, database.buried key = true ->
    after.devices.get key = database.devices.get key
  entered : forall key, database.buried key = false ->
    Entered (database.devices.get key) (after.devices.get key)
      (lastEntry (snapshot.devices.filter (ownEntry gatewayId)) key)
  statuses : forall key, key ∉ keys ->
    lastEntry (snapshot.devices.filter (ownEntry gatewayId)) key = none ->
    after.deviceStatuses.get key = database.deviceStatuses.get key
  pointConfigs : forall pointId, after.pointConfigs.get pointId =
    (lastConfig (after.savedConfigs snapshot.pointConfigs) pointId).or
      ((database.pointConfigs.get pointId).filter fun config =>
        !keys.any fun key => config.key? = some key)
  isOpen : after.isOpen = true
  points : after.latestPoints = database.latestPoints ∧
    after.telemetryHistory = database.telemetryHistory

theorem selects_eq (keys : List DeviceKey) (config : PointConfig) :
    (keys.any fun key => key.gatewayId = config.gatewayId && key.portId = config.portId &&
      key.deviceId = config.deviceId) = keys.any fun key => config.key? = some key := by
  congr 1
  funext key
  rw [Bool.eq_iff_iff, Bool.and_eq_true, Bool.and_eq_true, decide_eq_true_eq, decide_eq_true_eq,
    decide_eq_true_eq, decide_eq_true_eq, PointConfig.key?, deviceKey?_eq_some_iff, and_assoc]

theorem replaceSelectedDeviceConfig_done {database : Database} {gatewayId : String}
    {selected : List SyncSelectedDevice} {snapshot : ConfigSnapshot}
    (done : (database.replaceSelectedDeviceConfig gatewayId selected snapshot).2 = true) :
    (gatewayId ≠ "" ∧ selected.isEmpty = false) ∧
      database.SelectionStored (database.replaceSelectedDeviceConfig gatewayId selected snapshot).1
        (selectedKeys gatewayId selected) gatewayId snapshot := by
  unfold replaceSelectedDeviceConfig at done ⊢
  split at done
  · cases done
  · rename_i valid
    rw [if_neg valid]
    simp only [not_or, Bool.not_eq_true', Bool.not_eq_false, Bool.not_eq_true] at valid
    refine ⟨valid.2, ?_⟩
    dsimp only at done ⊢
    split at done
    · rename_i cleared
      rw [if_pos cleared]
      rcases transact_done cleared with ⟨next, before, after⟩
      have devices := after.devices.trans before.devices
      have entered := upsertSnapshotEntries_done (after.isOpen.trans (before.isOpen.trans valid.1))
        valid.2.1 done
      refine ⟨?_, ?_, ?_, ?_, ?_, ?_⟩
      · intro key gone
        rw [← devices]
        exact entered.passed key (by rw [buried, devices]; exact gone)
      · intro key alive
        rw [← devices]
        exact entered.entered key (by rw [buried, devices]; exact alive)
      · intro key outside none
        rw [entered.statuses key none, after.deviceStatuses, ← before.deviceStatuses]
        have kept := Table.get_keepIf_key
          (fun key => !(selectedKeys gatewayId selected).contains key) next.deviceStatuses key
        rw [if_pos] at kept
        · exact kept
        · rw [Bool.not_eq_true', ← Bool.not_eq_true, List.contains_iff_mem]
          exact outside
      · intro pointId
        rw [entered.pointConfigs, Table.get_putAll_last, Option.map_id, id, after.pointConfigs,
          ← before.pointConfigs]
        congr 1
        change (Table.keepIf _ next.pointConfigs).get pointId = _
        rw [Table.get_keepIf]
        simp only [selects_eq]
      · exact entered.isOpen.trans (after.isOpen.trans (before.isOpen.trans valid.1))
      · exact ⟨entered.latestPoints.trans (after.latestPoints.trans before.latestPoints),
          entered.telemetryHistory.trans (after.telemetryHistory.trans before.telemetryHistory)⟩
    · cases done

section Selection

variable {database after : Database} {gatewayId : String} {selected : List SyncSelectedDevice}
  {snapshot : ConfigSnapshot}

theorem selected_of_listed (answers : AnswersSelection gatewayId selected snapshot)
    {device : DeviceRecord} {key : DeviceKey} (listed : device ∈ snapshot.devices)
    (named : device.key? = some key) : key ∈ selectedKeys gatewayId selected := by
  have entry := answers.devices device listed
  refine List.mem_filterMap.mpr ⟨_, entry.2.2, ?_⟩
  rw [← entry.2.1]
  exact named

theorem lastEntry_answers (answers : AnswersSelection gatewayId selected snapshot)
    (key : DeviceKey) :
    lastEntry (snapshot.devices.filter (ownEntry gatewayId)) key =
      lastEntry snapshot.devices key := by
  by_cases same : key.gatewayId = gatewayId
  · exact lastEntry_own same _
  · rw [lastEntry_foreign same]
    symm
    rw [lastEntry_eq_none_iff]
    intro device listed named
    apply same
    rw [(deviceKey?_eq_some_iff.mp named).1]
    exact (answers.devices device listed).2.1

/-- A configuration of the answer is about a selected device that is listed. -/
theorem config_listed (answers : AnswersSelection gatewayId selected snapshot)
    {config : PointConfig} (listed : config ∈ snapshot.pointConfigs) :
    exists key device, key ∈ selectedKeys gatewayId selected ∧ config.key? = some key ∧
      lastEntry snapshot.devices key = some device := by
  rcases (answers.configs config listed).2 with ⟨device, key, inside, named, own⟩
  cases last : lastEntry snapshot.devices key with
  | none => exact absurd named (lastEntry_eq_none_iff.mp last device inside)
  | some final => exact ⟨key, final, selected_of_listed answers inside named, own, last⟩

variable (answers : AnswersSelection gatewayId selected snapshot)
  (stored : database.SelectionStored after (selectedKeys gatewayId selected) gatewayId snapshot)

include answers stored

theorem present_of_alive {key : DeviceKey} {device : DeviceRecord}
    (alive : database.buried key = false)
    (last : lastEntry snapshot.devices key = some device) :
    after.activeRow key = true ∧
      exists createTimeMs, after.devices.get key = some (device.attributes createTimeMs) ∧
        forall row, database.devices.get key = some row -> createTimeMs = row.createTimeMs := by
  have row := stored.entered key alive
  rw [lastEntry_answers answers, last] at row
  rcases row with ⟨createTimeMs, written, keeps⟩
  refine ⟨?_, createTimeMs, written, keeps⟩
  rw [activeRow, written, Option.any_some, active_attributes]
  exact (answers.devices device (mem_of_lastEntry last).1).1

/-- Where nothing was deleted, every configuration of the answer is saved. -/
theorem savedConfigs_of_alive
    (alive : forall key device, key ∈ selectedKeys gatewayId selected ->
      lastEntry snapshot.devices key = some device -> database.buried key = false) :
    after.savedConfigs snapshot.pointConfigs = snapshot.pointConfigs := by
  rw [savedConfigs, List.filter_eq_self]
  intro config listed
  rcases config_listed answers listed with ⟨key, device, chosen, own, last⟩
  have active := (present_of_alive answers stored (alive key device chosen last) last).1
  rw [Bool.and_eq_true, decide_eq_true_eq, knowsConfig,
    deviceExists_eq_activeRow stored.isOpen own]
  exact ⟨(answers.configs config listed).1, active⟩

theorem absent_row {key : DeviceKey} (last : lastEntry snapshot.devices key = none) :
    after.devices.get key = database.devices.get key := by
  cases gone : database.buried key with
  | true => exact stored.passed key gone
  | false =>
      have row := stored.entered key gone
      rw [lastEntry_answers answers, last] at row
      exact row

theorem selectionReplaced_of_condition
    (condition : database.SelectionCondition (selectedKeys gatewayId selected) snapshot) :
    database.SelectionReplaced after (selectedKeys gatewayId selected) snapshot := by
  have configs := stored.pointConfigs
  rw [savedConfigs_of_alive answers stored condition.alive] at configs
  refine ⟨?_, ?_, ?_, ?_, ?_, stored.points⟩
  · intro key device chosen last
    exact present_of_alive answers stored (condition.alive key device chosen last) last
  · intro key device chosen last pointId config own
    have cleared : (database.pointConfigs.get pointId).filter (fun config =>
        !(selectedKeys gatewayId selected).any fun key => config.key? = some key) ≠
          some config := by
      intro kept
      have unselected := (Option.filter_eq_some_iff.mp kept).2
      rw [Bool.not_eq_true', List.any_eq_false] at unselected
      exact unselected key chosen (decide_eq_true own)
    rw [configs, Option.or_eq_some_iff]
    constructor
    · rintro (listed | ⟨-, kept⟩)
      · exact listed
      · exact absurd kept cleared
    · exact Or.inl
  · intro key chosen last
    rw [activeRow, absent_row answers stored last, ← activeRow]
    exact condition.inactive key chosen last
  · intro key unselected
    have last : lastEntry snapshot.devices key = none := by
      cases last : lastEntry snapshot.devices key with
      | none => rfl
      | some device =>
          have entry := mem_of_lastEntry last
          exact absurd (selected_of_listed answers entry.1 entry.2) unselected
    refine ⟨absent_row answers stored last, stored.statuses key unselected ?_⟩
    rw [lastEntry_answers answers, last]
  · intro pointId config unselected
    have foreign : forall last, lastConfig snapshot.pointConfigs pointId = some last ->
        last ≠ config := by
      intro last found same
      rcases config_listed answers (lastConfig_mem found).1 with ⟨key, device, chosen, own, -⟩
      exact unselected key chosen (same ▸ own)
    have kept : (!(selectedKeys gatewayId selected).any fun key => config.key? = some key) =
        true := by
      rw [Bool.not_eq_true', List.any_eq_false]
      intro key chosen own
      exact unselected key chosen (of_decide_eq_true own)
    rw [configs, Option.or_eq_some_iff, Option.filter_eq_some_iff]
    constructor
    · rintro (listed | ⟨-, found, -⟩)
      · exact absurd rfl (foreign config listed)
      · exact found
    · intro found
      refine Or.inr ⟨?_, found, kept⟩
      cases last : lastConfig snapshot.pointConfigs pointId with
      | none => rfl
      | some other =>
          have entry := lastConfig_mem last
          rw [← entry.2] at found
          rcases condition.ownIds other config entry.1 found with ⟨key, chosen, own⟩
          exact absurd own (unselected key chosen)

theorem condition_of_selectionReplaced
    (replaced : database.SelectionReplaced after (selectedKeys gatewayId selected) snapshot) :
    database.SelectionCondition (selectedKeys gatewayId selected) snapshot := by
  have alive : forall key device, key ∈ selectedKeys gatewayId selected ->
      lastEntry snapshot.devices key = some device -> database.buried key = false := by
    intro key device chosen last
    rw [← Bool.not_eq_true]
    intro gone
    have active := (replaced.present key device chosen last).1
    rw [activeRow, stored.passed key gone, ← activeRow, not_activeRow_of_buried gone] at active
    cases active
  refine ⟨alive, ?_, ?_⟩
  · intro key chosen last
    rw [activeRow, ← absent_row answers stored last, ← activeRow]
    exact replaced.absent key chosen last
  · intro config row listed found
    by_contra foreign
    push Not at foreign
    have kept := (replaced.otherConfigs config.pointId row foreign).mpr found
    rcases lastConfig_of_mem listed with ⟨last, written⟩
    rw [stored.pointConfigs, savedConfigs_of_alive answers stored alive, written,
      Option.some_or] at kept
    injection kept with same
    rcases config_listed answers (lastConfig_mem written).1 with ⟨key, device, chosen, own, -⟩
    exact foreign key chosen (same ▸ own)

end Selection

/-- A stored answer to a sync leaves the selected devices as the answer says,
and the others alone, exactly under the condition. -/
theorem selection_replaced_iff (database : Database) {nowMs : Int} {root : Json}
    {gatewayId : String} {selected : List SyncSelectedDevice} {snapshot : ConfigSnapshot}
    (parsed : parseConfigSnapshot nowMs root gatewayId selected = some snapshot)
    (stored : (database.replaceSelectedDeviceConfig gatewayId selected snapshot).2 = true) :
    database.SelectionReplaced
        (database.replaceSelectedDeviceConfig gatewayId selected snapshot).1
        (selectedKeys gatewayId selected) snapshot ↔
      database.SelectionCondition (selectedKeys gatewayId selected) snapshot := by
  rcases replaceSelectedDeviceConfig_done stored with ⟨⟨-, some⟩, rows⟩
  have answers := answersSelection_of_parsed parsed some
  constructor
  · intro replaced
    exact condition_of_selectionReplaced answers rows replaced
  · intro condition
    exact selectionReplaced_of_condition answers rows condition

end Database

/-- The configuration of the gateway with device 3. -/
def soleRoot : Json :=
  .obj [("type", .str "config_snapshot"), ("gatewayId", .str "gateway_001"),
    ("site", .obj [("factoryId", .str "factory_001"), ("areaId", .str "area_001")]),
    ("ports", .arr [.obj [("portId", .str "port_001"), ("portName", .str "RS485-1"),
      ("connected", .bool true),
      ("devices", .arr [.obj [("slave_id", .int 3), ("device_type", .str "relay")]])]])]

def soleSelected : List SyncSelectedDevice :=
  [⟨"port_001", 3⟩]

/-- The device of the answer. -/
def soleAnswered : DeviceRecord :=
  { soleEntry 3 true with pollIntervalMs := 1000 }

def soleAnswer : ConfigSnapshot where
  ports := [⟨"gateway_001", "port_001", "RS485-1", 0, "", 0, "connected", 7, 7⟩]
  devices := [soleAnswered]
  pointConfigs := []

theorem parse_soleRoot :
    parseConfigSnapshot 7 soleRoot "gateway_001" soleSelected = some soleAnswer := by
  decide +kernel

/-- The device has been deleted before. -/
def buriedDatabase : Database :=
  { soleDatabase with devices := Table.put ∅ soleKey (Database.markDeleted 0 soleRow) }

/-- The device is active, and the answer lists it. -/
theorem sole_selection_replaced :
    soleDatabase.SelectionReplaced
      (soleDatabase.replaceSelectedDeviceConfig "gateway_001" soleSelected soleAnswer).1
      (Database.selectedKeys "gateway_001" soleSelected) soleAnswer := by
  have keys : Database.selectedKeys "gateway_001" soleSelected = [soleKey] := by decide
  refine (Database.selection_replaced_iff soleDatabase parse_soleRoot (by decide +kernel)).mpr ?_
  rw [keys]
  refine ⟨?_, ?_, ?_⟩
  · intro key device chosen _
    rw [List.mem_singleton.mp chosen]
    decide
  · intro key chosen absent
    rw [List.mem_singleton.mp chosen] at absent ⊢
    revert absent
    decide
  · intro config row listed
    cases listed

/-- The answer lists a deleted device: it stays deleted. -/
theorem sole_selection_passed :
    parseConfigSnapshot 7 soleRoot "gateway_001" soleSelected = some soleAnswer ∧
      (buriedDatabase.replaceSelectedDeviceConfig "gateway_001" soleSelected soleAnswer).2 = true ∧
      ¬ buriedDatabase.SelectionReplaced
        (buriedDatabase.replaceSelectedDeviceConfig "gateway_001" soleSelected soleAnswer).1
        (Database.selectedKeys "gateway_001" soleSelected) soleAnswer := by
  refine ⟨parse_soleRoot, by decide +kernel, ?_⟩
  intro replaced
  have active := (replaced.present soleKey soleAnswered (by decide) (by decide)).1
  revert active
  decide +kernel

end Pc
end Imx6Gateway
