import Imx6Gateway.Library.TransactionSeries
import Imx6Gateway.Pc.AlarmTable
import Imx6Gateway.Pc.DeviceLife

namespace Imx6Gateway
namespace Pc

open Library TransactionSeries

/-!
# Snapshots as series of transactions

`upsertGatewayConfigSnapshot` and `replaceSelectedDeviceConfig` call helpers
that open and commit transactions of their own, and go on when one of them has
failed.  Both are series of steps with at most one transaction each, and a
series is atomic only if nothing can fail after something has changed.  A
transaction is rolled back as a whole whichever of its statements fails.
-/

/-- The database with the rows of `alarm_event`. -/
structure Storage where
  database : Database
  alarms : List AlarmRow

/-- Both hold the same rows in the tables that a snapshot can reach. -/
structure SameRows (first second : Storage) : Prop where
  isOpen : second.database.isOpen = first.database.isOpen
  gatewayPorts : forall key, second.database.gatewayPorts.get key = first.database.gatewayPorts.get key
  devices : forall key, second.database.devices.get key = first.database.devices.get key
  deviceStatuses : forall key,
    second.database.deviceStatuses.get key = first.database.deviceStatuses.get key
  pointConfigs : forall key, second.database.pointConfigs.get key = first.database.pointConfigs.get key
  latestPoints : forall key, second.database.latestPoints.get key = first.database.latestPoints.get key
  telemetryHistory : second.database.telemetryHistory = first.database.telemetryHistory
  alarms : second.alarms = first.alarms

theorem sameRows_equivalence : Equivalence SameRows where
  refl _ := ⟨rfl, fun _ => rfl, fun _ => rfl, fun _ => rfl, fun _ => rfl, fun _ => rfl, rfl, rfl⟩
  symm same := ⟨same.isOpen.symm, fun key => (same.gatewayPorts key).symm,
    fun key => (same.devices key).symm, fun key => (same.deviceStatuses key).symm,
    fun key => (same.pointConfigs key).symm, fun key => (same.latestPoints key).symm,
    same.telemetryHistory.symm, same.alarms.symm⟩
  trans first second := ⟨second.isOpen.trans first.isOpen,
    fun key => (second.gatewayPorts key).trans (first.gatewayPorts key),
    fun key => (second.devices key).trans (first.devices key),
    fun key => (second.deviceStatuses key).trans (first.deviceStatuses key),
    fun key => (second.pointConfigs key).trans (first.pointConfigs key),
    fun key => (second.latestPoints key).trans (first.latestPoints key),
    second.telemetryHistory.trans first.telemetryHistory, second.alarms.trans first.alarms⟩

namespace Database

/-- The same rows, with these outcomes ahead and these writes behind. -/
def facing (database : Database) (outcomes : List Bool) (committed : List Write) : Database :=
  { database with outcomes := outcomes, committed := committed }

theorem transact_commit (database : Database) {outcomes : List Bool} (committed : List Write)
    (write : Write) (effect : Database -> Database) (commit : outcomes.headD true = true) :
    (database.facing outcomes committed).transact write effect =
      ({ effect (database.facing outcomes.tail committed) with committed := committed ++ [write] },
        true) :=
  if_pos commit

theorem transact_fail (database : Database) {outcomes : List Bool} (committed : List Write)
    (write : Write) (effect : Database -> Database) (failed : outcomes.headD true = false) :
    (database.facing outcomes committed).transact write effect =
      (database.facing outcomes.tail committed, false) :=
  if_neg fun commit => Bool.false_ne_true (failed.symm.trans commit)

/-- What the transaction of `upsertDevice` writes. -/
def enterDevice (database : Database) (key : DeviceKey) (device : DeviceRecord) : Database :=
  { database with
    devices := database.devices.put key (deviceRow device (database.devices.get key))
    }.putDeviceStatus key device

/-- What the transaction of `upsertGatewayPort` writes. -/
def enterPort (database : Database) (port : GatewayPort) : Database :=
  { database with
    gatewayPorts := database.gatewayPorts.put (port.gatewayId, port.portId)
      { port with status := orElse port.status "connected" } }

/-- What the transaction of `savePointConfigs` writes. -/
def enterPoints (database : Database) (configs : List PointConfig) : Database :=
  { database with
    pointConfigs := Table.putAll PointConfig.pointId id
      (configs.filter fun config => config.pointId ≠ "" && database.knowsConfig config)
      database.pointConfigs }

/-- The end of both functions: the points of devices that are active by then. -/
def saveSnapshotPoints (database : Database) (configs : List PointConfig) : Database × Bool :=
  if configs.isEmpty then (database, true)
  else database.savePointConfigs (configs.filter database.knowsConfig)

/-- What the first transaction of `replaceSelectedDeviceConfig` leaves. -/
def withoutSelected (database : Database) (keys : List DeviceKey) : Database :=
  { database with
    deviceStatuses := database.deviceStatuses.keepIf fun key _ => !keys.contains key
    pointConfigs := database.pointConfigs.keepIf fun _ config => !keys.any fun key =>
      key.gatewayId = config.gatewayId && key.portId = config.portId &&
        key.deviceId = config.deviceId }

def clearSelected (database : Database) (keys : List DeviceKey) : Database × Bool :=
  database.transact (.selectionCleared keys) fun database => database.withoutSelected keys

/-- What the transaction of `deleteDeviceData` leaves. -/
def withoutDevice (database : Database) (nowMs : Int) (key : DeviceKey) : Database :=
  { database with
    devices := database.devices.updateWhere (fun other _ => other = key) (markDeleted nowMs)
    }.deleteRows fun gateway port device =>
      gateway = key.gatewayId && port = key.portId && device = key.deviceId

end Database

theorem SameRows.facing {first second : Storage} (same : SameRows first second)
    (outcomes others : List Bool) (committed writes : List Write) :
    SameRows { first with database := first.database.facing outcomes committed }
      { second with database := second.database.facing others writes } :=
  ⟨same.isOpen, same.gatewayPorts, same.devices, same.deviceStatuses, same.pointConfigs,
    same.latestPoints, same.telemetryHistory, same.alarms⟩

namespace Storage

def facing (storage : Storage) (outcomes : List Bool) (committed : List Write) : Storage :=
  { storage with database := storage.database.facing outcomes committed }

def failing (storage : Storage) (outcomes : List Bool) : Storage :=
  storage.facing outcomes storage.database.committed

/-- The rows alone. -/
def still (storage : Storage) : Storage :=
  storage.facing [] []

/-- An operation that does not touch the alarms. -/
def lift (operation : Database -> Database × Bool) (storage : Storage) : Storage × Bool :=
  (⟨(operation storage.database).1, storage.alarms⟩, (operation storage.database).2)

def each {Item : Type} (operation : Storage -> Item -> Storage × Bool) (storage : Storage)
    (items : List Item) : Storage × Bool :=
  items.foldl
    (fun state item => ((operation state.1 item).1, (operation state.1 item).2 && state.2))
    (storage, true)

/-- `deleteDeviceData` with the rows of `alarm_event`. -/
def deleteDeviceData (storage : Storage) (nowMs : Int) (gatewayId portId : String)
    (deviceId : Int) : Storage × Bool :=
  let deleted := storage.database.deleteDeviceData nowMs gatewayId portId deviceId
  let others := storage.alarms.filter fun row =>
    !(row.gatewayId = gatewayId && row.portId = portId && row.deviceId = deviceId)
  (⟨deleted.1, if deleted.2 then others else storage.alarms⟩, deleted.2)

def upsertGatewayConfigSnapshot (storage : Storage) (nowMs : Int) (gatewayId : String)
    (snapshot : ConfigSnapshot) (fullSnapshot : Bool) : Storage × Bool :=
  if !storage.database.isOpen ∨ gatewayId = "" then (storage, false)
  else
    let removed := if fullSnapshot then
        storage.each
          (fun storage key => storage.deleteDeviceData nowMs key.gatewayId key.portId key.deviceId)
          (storage.database.activeKeys.filter (Database.missingFrom gatewayId snapshot.devices))
      else (storage, true)
    let entries := removed.1.lift fun database =>
      database.upsertSnapshotEntries gatewayId snapshot false
    (entries.1, entries.2 && removed.2)

/-- If the COMMIT of the deletions fails, they are lost, and the function goes on. -/
def replaceSelectedDeviceConfig (commitFails : Bool) (storage : Storage) (gatewayId : String)
    (selectedDevices : List SyncSelectedDevice) (snapshot : ConfigSnapshot) : Storage × Bool :=
  if commitFails then
    if !storage.database.isOpen ∨ gatewayId = "" ∨ selectedDevices.isEmpty then (storage, false)
    else
      let lost := storage.failing storage.database.outcomes.tail
      ((lost.lift fun database => database.upsertSnapshotEntries gatewayId snapshot true).1, false)
  else storage.lift fun database =>
    database.replaceSelectedDeviceConfig gatewayId selectedDevices snapshot

theorem database_each {Item : Type} {operation : Storage -> Item -> Storage × Bool}
    {below : Database -> Item -> Database × Bool}
    (agrees : forall storage item, (operation storage item).1.database = (below storage.database item).1 ∧
      (operation storage item).2 = (below storage.database item).2)
    (items : List Item) (storage : Storage) (ok : Bool) :
    ((items.foldl (fun state item => ((operation state.1 item).1,
        (operation state.1 item).2 && state.2)) (storage, ok)).1.database,
      (items.foldl (fun state item => ((operation state.1 item).1,
        (operation state.1 item).2 && state.2)) (storage, ok)).2) =
      items.foldl (fun state item => ((below state.1 item).1, (below state.1 item).2 && state.2))
        (storage.database, ok) := by
  induction items generalizing storage ok with
  | nil => rfl
  | cons item items ih =>
      rw [List.foldl_cons, List.foldl_cons, ih, (agrees storage item).1, (agrees storage item).2]

/-- On the tables of the database the function is that of the database. -/
theorem database_upsertGatewayConfigSnapshot (storage : Storage) (nowMs : Int)
    (gatewayId : String) (snapshot : ConfigSnapshot) (fullSnapshot : Bool) :
    ((storage.upsertGatewayConfigSnapshot nowMs gatewayId snapshot fullSnapshot).1.database,
      (storage.upsertGatewayConfigSnapshot nowMs gatewayId snapshot fullSnapshot).2) =
      storage.database.upsertGatewayConfigSnapshot nowMs gatewayId snapshot fullSnapshot := by
  have deletions := @database_each DeviceKey
    (fun storage key => storage.deleteDeviceData nowMs key.gatewayId key.portId key.deviceId)
    (fun database key => database.deleteDeviceData nowMs key.gatewayId key.portId key.deviceId)
    (fun _ _ => ⟨rfl, rfl⟩)
    (storage.database.activeKeys.filter (Database.missingFrom gatewayId snapshot.devices)) storage true
  unfold upsertGatewayConfigSnapshot Database.upsertGatewayConfigSnapshot
  split
  · rfl
  · cases fullSnapshot with
    | false => rfl
    | true =>
        dsimp only [if_true]
        unfold each Database.each
        rw [← deletions]
        rfl

/-! ## Operations with at most one transaction -/

/-- The result of an operation as a series has it. -/
def view (result : Storage × Bool) : Storage × List Bool × Bool :=
  (result.1.still, result.1.database.outcomes, result.2)

/-- The operation does what the step says about the rows, with at most one transaction. -/
def Performs (operation : Storage -> Storage × Bool) (step : Storage -> Move Storage) : Prop :=
  forall storage, view (operation storage) =
    attempt storage.still storage.database.outcomes (step storage.still)

theorem each_cons {Item : Type} (operation : Storage -> Item -> Storage × Bool)
    (storage : Storage) (item : Item) (items : List Item) :
    storage.each operation (item :: items) =
      (((operation storage item).1.each operation items).1,
        ((operation storage item).1.each operation items).2 && (operation storage item).2) := by
  have general : forall (items : List Item) (storage : Storage) (ok : Bool),
      items.foldl (fun state item => ((operation state.1 item).1,
          (operation state.1 item).2 && state.2)) (storage, ok) =
        ((storage.each operation items).1, (storage.each operation items).2 && ok) := by
    intro items
    induction items with
    | nil =>
        intro storage ok
        change (storage, ok) = (storage, true && ok)
        rw [Bool.true_and]
    | cons item items ih =>
        intro storage ok
        rw [each, List.foldl_cons, List.foldl_cons, ih, ih]
        dsimp only
        rw [Bool.and_true, Bool.and_assoc]
  rw [each, List.foldl_cons, general]
  dsimp only
  rw [Bool.and_true]

/-- Such operations for all items of a list are a series. -/
theorem each_run {Item : Type} {operation : Storage -> Item -> Storage × Bool}
    {step : Item -> Storage -> Move Storage}
    (performs : forall item, Performs (fun storage => operation storage item) (step item))
    (items : List Item) (storage : Storage) :
    view (storage.each operation items) =
      run (items.map step) storage.still storage.database.outcomes := by
  induction items generalizing storage with
  | nil => rfl
  | cons item items ih =>
      have first := performs item storage
      have rest := ih (operation storage item).1
      rw [List.map_cons, run, ← first, each_cons]
      change _ = ((run _ (operation storage item).1.still
        (operation storage item).1.database.outcomes).1, _, _)
      unfold view at rest ⊢
      dsimp only
      rw [← rest]

/-- A function of the database for all items of a list. -/
theorem lift_each {Item : Type} (operation : Database -> Item -> Database × Bool)
    (items : List Item) (storage : Storage) :
    storage.lift (fun database => database.each operation items) =
      storage.each (fun storage item => storage.lift fun database => operation database item)
        items := by
  induction items generalizing storage with
  | nil => rfl
  | cons item items ih =>
      have rest := ih (storage.lift fun database => operation database item).1
      rw [each_cons, ← rest]
      unfold lift
      dsimp only
      rw [Database.each_cons]

/-! ## The helpers -/

theorem view_lift_answer {operation : Database -> Database × Bool} {storage : Storage}
    {result : Bool} (answers : operation storage.database = (storage.database, result)) :
    view (storage.lift operation) = (storage.still, storage.database.outcomes, result) := by
  unfold view lift
  rw [answers]

/-- A transaction of the database whose effect does not look at what has happened so far. -/
theorem view_lift_transact {operation : Database -> Database × Bool} {storage : Storage}
    (write : Write) {effect : Database -> Database}
    (runs : operation storage.database = storage.database.transact write effect)
    (blind : forall database outcomes committed, effect (database.facing outcomes committed) =
      (effect database).facing outcomes committed) :
    view (storage.lift operation) =
      attempt storage.still storage.database.outcomes
        (.write ⟨effect storage.still.database, storage.alarms⟩) := by
  have rows : effect storage.still.database = (effect storage.database).facing [] [] :=
    blind storage.database [] []
  unfold view lift
  rw [runs, attempt, rows]
  cases outcome : storage.database.outcomes.headD true with
  | true =>
      have committed := storage.database.transact_commit storage.database.committed write effect
        outcome
      rw [blind] at committed
      exact congrArg (fun result : Database × Bool =>
        ((⟨result.1, storage.alarms⟩ : Storage).still, result.1.outcomes, result.2)) committed
  | false =>
      have stopped := storage.database.transact_fail storage.database.committed write effect outcome
      exact congrArg (fun result : Database × Bool =>
        ((⟨result.1, storage.alarms⟩ : Storage).still, result.1.outcomes, result.2)) stopped

/-- A port is written whatever is stored. -/
def portMove (port : GatewayPort) (storage : Storage) : Move Storage :=
  if !storage.database.isOpen ∨ port.gatewayId = "" ∨ port.portId = "" then .refuse
  else .write ⟨storage.database.enterPort port, storage.alarms⟩

theorem upsertGatewayPort_performs (port : GatewayPort) :
    Performs (fun storage => storage.lift fun database => database.upsertGatewayPort port)
      (portMove port) := by
  intro storage
  by_cases refused : !storage.database.isOpen ∨ port.gatewayId = "" ∨ port.portId = ""
  · have move : portMove port storage.still = .refuse := if_pos refused
    rw [move]
    exact view_lift_answer (if_pos refused)
  · have move : portMove port storage.still =
        .write ⟨storage.still.database.enterPort port, storage.alarms⟩ := if_neg refused
    rw [move]
    exact @view_lift_transact _ storage (.gatewayPort port)
      (fun database => database.enterPort port) (if_neg refused) fun _ _ _ => rfl

theorem portMove_respects (port : GatewayPort) : Respects SameRows (portMove port) := by
  intro first second same
  unfold portMove
  rw [same.isOpen]
  by_cases refused : !first.database.isOpen ∨ port.gatewayId = "" ∨ port.portId = ""
  · rw [if_pos refused, if_pos refused]
    trivial
  · rw [if_neg refused, if_neg refused]
    refine { same with gatewayPorts := ?_ }
    intro key
    dsimp only [Database.enterPort]
    rw [Table.get_put, Table.get_put, same.gatewayPorts]

/-- A deleted device is passed over; one without a type is refused. -/
def deviceMove (device : DeviceRecord) (storage : Storage) : Move Storage :=
  if storage.database.deviceDeleted device.gatewayId device.portId device.deviceId then .skip
  else match device.key? with
  | none => .refuse
  | some key =>
      if !storage.database.isOpen ∨ device.deviceType = "" then .refuse
      else .write ⟨storage.database.enterDevice key device, storage.alarms⟩

theorem upsertSnapshotDevice_performs (device : DeviceRecord) (allowDeletedReactivate : Bool) :
    Performs (fun storage => storage.lift fun database =>
      database.upsertSnapshotDevice allowDeletedReactivate device) (deviceMove device) := by
  intro storage
  cases deleted : storage.database.deviceDeleted device.gatewayId device.portId device.deviceId with
  | true =>
      have move : deviceMove device storage.still = .skip := if_pos deleted
      rw [move]
      exact view_lift_answer (if_pos deleted)
  | false =>
      have active : ¬ storage.database.deviceDeleted device.gatewayId device.portId
          device.deviceId = true := Bool.eq_false_iff.mp deleted
      have reads : deviceMove device storage.still = _ := if_neg active
      have upserts : storage.database.upsertSnapshotDevice allowDeletedReactivate device =
        storage.database.upsertDevice device allowDeletedReactivate := if_neg active
      rw [reads]
      unfold Database.upsertDevice at upserts
      cases key : device.key? with
      | none =>
          rw [key] at upserts
          exact view_lift_answer upserts
      | some found =>
          rw [key] at upserts
          dsimp only at upserts ⊢
          by_cases refused : !storage.still.database.isOpen ∨ device.deviceType = ""
          · rw [if_pos refused]
            exact view_lift_answer (upserts.trans (if_pos refused))
          · rw [if_neg refused]
            refine @view_lift_transact _ storage (.device device)
              (fun database => database.enterDevice found device) ?_ fun _ _ _ => rfl
            exact upserts.trans ((if_neg refused).trans (if_neg fun both => active both.1))

theorem deviceDeleted_same {first second : Storage} (same : SameRows first second)
    (gatewayId portId : String) (deviceId : Int) :
    second.database.deviceDeleted gatewayId portId deviceId =
      first.database.deviceDeleted gatewayId portId deviceId := by
  unfold Database.deviceDeleted
  rw [same.isOpen]
  split
  · rfl
  · rw [same.devices]

theorem knowsConfig_same {first second : Storage} (same : SameRows first second) :
    second.database.knowsConfig = first.database.knowsConfig := by
  funext config
  unfold Database.knowsConfig Database.deviceExists
  rw [same.isOpen]
  split
  · rfl
  · rw [same.devices]

theorem deviceMove_respects (device : DeviceRecord) : Respects SameRows (deviceMove device) := by
  intro first second same
  unfold deviceMove
  rw [deviceDeleted_same same, same.isOpen]
  by_cases deleted : first.database.deviceDeleted device.gatewayId device.portId
      device.deviceId = true
  · rw [if_pos deleted, if_pos deleted]
    trivial
  · rw [if_neg deleted, if_neg deleted]
    cases device.key? with
    | none => trivial
    | some key =>
        dsimp only
        by_cases refused : !first.database.isOpen ∨ device.deviceType = ""
        · rw [if_pos refused, if_pos refused]
          trivial
        · rw [if_neg refused, if_neg refused]
          refine { same with devices := ?_, deviceStatuses := ?_ }
          · intro other
            dsimp only [Database.enterDevice, Database.putDeviceStatus]
            rw [Table.get_put, Table.get_put, same.devices, same.devices]
          · intro other
            dsimp only [Database.enterDevice, Database.putDeviceStatus]
            rw [Table.get_put, Table.get_put, same.deviceStatuses, same.deviceStatuses]

/-- The points of known devices are written together, if there are any. -/
def pointsMove (configs : List PointConfig) (storage : Storage) : Move Storage :=
  if configs.isEmpty then .skip
  else if !storage.database.isOpen then .refuse
  else if (configs.filter storage.database.knowsConfig).isEmpty then .skip
  else .write ⟨storage.database.enterPoints (configs.filter storage.database.knowsConfig),
    storage.alarms⟩

theorem saveSnapshotPoints_performs (configs : List PointConfig) :
    Performs (fun storage => storage.lift fun database => database.saveSnapshotPoints configs)
      (pointsMove configs) := by
  intro storage
  by_cases empty : configs.isEmpty = true
  · have move : pointsMove configs storage.still = .skip := if_pos empty
    rw [move]
    exact view_lift_answer (if_pos empty)
  by_cases closed : (!storage.database.isOpen) = true
  · have move : pointsMove configs storage.still = .refuse :=
      (if_neg empty).trans (if_pos closed)
    rw [move]
    exact view_lift_answer ((if_neg empty).trans (if_pos closed))
  by_cases unknown : (configs.filter storage.database.knowsConfig).isEmpty = true
  · have move : pointsMove configs storage.still = .skip :=
      (if_neg empty).trans ((if_neg closed).trans (if_pos unknown))
    rw [move]
    exact view_lift_answer ((if_neg empty).trans ((if_neg closed).trans (if_pos unknown)))
  · have move : pointsMove configs storage.still =
        .write ⟨storage.still.database.enterPoints
          (configs.filter storage.database.knowsConfig), storage.alarms⟩ :=
      (if_neg empty).trans ((if_neg closed).trans (if_neg unknown))
    rw [move]
    refine @view_lift_transact _ storage
      (.pointConfigs (configs.filter storage.database.knowsConfig))
      (fun database => database.enterPoints (configs.filter storage.database.knowsConfig)) ?_
      fun _ _ _ => rfl
    exact (if_neg empty).trans ((if_neg closed).trans (if_neg unknown))

theorem pointsMove_respects (configs : List PointConfig) :
    Respects SameRows (pointsMove configs) := by
  intro first second same
  unfold pointsMove
  rw [knowsConfig_same same, same.isOpen]
  by_cases empty : configs.isEmpty = true
  · rw [if_pos empty, if_pos empty]
    trivial
  rw [if_neg empty, if_neg empty]
  by_cases closed : (!first.database.isOpen) = true
  · rw [if_pos closed, if_pos closed]
    trivial
  rw [if_neg closed, if_neg closed]
  by_cases unknown : (configs.filter first.database.knowsConfig).isEmpty = true
  · rw [if_pos unknown, if_pos unknown]
    trivial
  · rw [if_neg unknown, if_neg unknown]
    refine { same with pointConfigs := ?_ }
    intro key
    dsimp only [Database.enterPoints]
    rw [knowsConfig_same same, Table.get_putAll_last, Table.get_putAll_last, same.pointConfigs]

/-- The first transaction of `replaceSelectedDeviceConfig`. -/
def clearMove (keys : List DeviceKey) (storage : Storage) : Move Storage :=
  .write ⟨storage.database.withoutSelected keys, storage.alarms⟩

theorem clearSelected_performs (keys : List DeviceKey) :
    Performs (fun storage => storage.lift fun database => database.clearSelected keys)
      (clearMove keys) := fun storage =>
  @view_lift_transact _ storage (.selectionCleared keys)
    (fun database => database.withoutSelected keys) rfl fun _ _ _ => rfl

theorem clearMove_respects (keys : List DeviceKey) : Respects SameRows (clearMove keys) := by
  intro first second same
  refine { same with deviceStatuses := ?_, pointConfigs := ?_ }
  · intro key
    dsimp only [Database.withoutSelected]
    rw [Table.get_keepIf, Table.get_keepIf, same.deviceStatuses]
  · intro key
    dsimp only [Database.withoutSelected]
    rw [Table.get_keepIf, Table.get_keepIf, same.pointConfigs]

/-- A deletion marks the device and takes its rows out of the other tables. -/
def deletionMove (nowMs : Int) (key : DeviceKey) (storage : Storage) : Move Storage :=
  if !storage.database.isOpen then .refuse
  else .write ⟨storage.database.withoutDevice nowMs key, storage.alarms.filter fun row =>
    !(row.gatewayId = key.gatewayId && row.portId = key.portId && row.deviceId = key.deviceId)⟩

theorem view_deleteDeviceData {storage : Storage} {nowMs : Int} {key : DeviceKey}
    {result : Database × Bool} (deleted : storage.database.deleteDeviceData nowMs key.gatewayId
      key.portId key.deviceId = result) :
    view (storage.deleteDeviceData nowMs key.gatewayId key.portId key.deviceId) =
      ((⟨result.1, if result.2 then storage.alarms.filter fun row =>
          !(row.gatewayId = key.gatewayId && row.portId = key.portId && row.deviceId = key.deviceId)
        else storage.alarms⟩ : Storage).still, result.1.outcomes, result.2) := by
  rw [← deleted]
  rfl

theorem deleteDeviceData_performs (nowMs : Int) (key : DeviceKey) :
    Performs (fun storage => storage.deleteDeviceData nowMs key.gatewayId key.portId key.deviceId)
      (deletionMove nowMs key) := by
  intro storage
  have deletes : storage.database.deleteDeviceData nowMs key.gatewayId key.portId key.deviceId =
      if !storage.database.isOpen then (storage.database, false)
      else storage.database.transact (.deviceDeleted key)
        fun database => database.withoutDevice nowMs key := by
    unfold Database.deleteDeviceData
    rw [deviceKey?_key]
    rfl
  by_cases closed : (!storage.database.isOpen) = true
  · have move : deletionMove nowMs key storage.still = .refuse := if_pos closed
    rw [move]
    exact view_deleteDeviceData (deletes.trans (if_pos closed))
  · have move : deletionMove nowMs key storage.still = .write _ := if_neg closed
    have runs := deletes.trans (if_neg closed)
    rw [move, attempt]
    cases outcome : storage.database.outcomes.headD true with
    | true =>
        exact view_deleteDeviceData (runs.trans (storage.database.transact_commit
          storage.database.committed (.deviceDeleted key) _ outcome))
    | false =>
        exact view_deleteDeviceData (runs.trans (storage.database.transact_fail
          storage.database.committed (.deviceDeleted key) _ outcome))

theorem deletionMove_respects (nowMs : Int) (key : DeviceKey) :
    Respects SameRows (deletionMove nowMs key) := by
  intro first second same
  unfold deletionMove
  rw [same.isOpen]
  by_cases closed : (!first.database.isOpen) = true
  · rw [if_pos closed, if_pos closed]
    trivial
  rw [if_neg closed, if_neg closed]
  refine ⟨same.isOpen, same.gatewayPorts, ?_, ?_, ?_, ?_, ?_, ?_⟩
  · intro other
    dsimp only [Database.withoutDevice, Database.deleteRows]
    rw [Table.get_updateWhere, Table.get_updateWhere, same.devices]
  · intro other
    dsimp only [Database.withoutDevice, Database.deleteRows]
    rw [Table.get_keepIf, Table.get_keepIf, same.deviceStatuses]
  · intro other
    dsimp only [Database.withoutDevice, Database.deleteRows]
    rw [Table.get_keepIf, Table.get_keepIf, same.pointConfigs]
  · intro other
    dsimp only [Database.withoutDevice, Database.deleteRows]
    rw [Table.get_keepIf, Table.get_keepIf, same.latestPoints]
  · dsimp only [Database.withoutDevice, Database.deleteRows]
    rw [same.telemetryHistory]
  · dsimp only
    rw [same.alarms]

/-! ## The two functions as series -/

/-- What both functions do after their deletions. -/
def entrySteps (gatewayId : String) (snapshot : ConfigSnapshot) :
    List (Storage -> Move Storage) :=
  (snapshot.ports.filter (Database.ownPort gatewayId)).map portMove ++
    (snapshot.devices.filter (Database.ownEntry gatewayId)).map deviceMove ++
    [pointsMove snapshot.pointConfigs]

theorem entrySteps_respect (gatewayId : String) (snapshot : ConfigSnapshot) :
    forall step, step ∈ entrySteps gatewayId snapshot -> Respects SameRows step := by
  intro step inside
  rcases List.mem_append.mp inside with entries | last
  · rcases List.mem_append.mp entries with ports | devices
    · rcases List.mem_map.mp ports with ⟨port, -, rfl⟩
      exact portMove_respects port
    · rcases List.mem_map.mp devices with ⟨device, -, rfl⟩
      exact deviceMove_respects device
  · rw [List.mem_singleton.mp last]
    exact pointsMove_respects snapshot.pointConfigs

theorem run_singleton {operation : Storage -> Storage × Bool} {step : Storage -> Move Storage}
    (performs : Performs operation step) (storage : Storage) :
    view (operation storage) = run [step] storage.still storage.database.outcomes := by
  rw [performs]
  change _ = (_, _, true && _)
  rw [Bool.true_and]
  rfl

/-- One operation after the other, both whatever the other reports. -/
theorem view_then {first second : Storage × Bool} {one two : List (Storage -> Move Storage)}
    {state : Storage} {outcomes : List Bool} (front : view first = run one state outcomes)
    (back : view second = run two first.1.still first.1.database.outcomes) :
    view (second.1, second.2 && first.2) = run (one ++ two) state outcomes := by
  rw [run_append, ← front]
  change _ = ((run two first.1.still first.1.database.outcomes).1,
    (run two first.1.still first.1.database.outcomes).2.1,
    (run two first.1.still first.1.database.outcomes).2.2 && first.2)
  rw [← back]
  rfl

theorem upsertSnapshotEntries_run (storage : Storage) (gatewayId : String)
    (snapshot : ConfigSnapshot) (allowDeletedReactivate : Bool) :
    view (storage.lift fun database =>
        database.upsertSnapshotEntries gatewayId snapshot allowDeletedReactivate) =
      run (entrySteps gatewayId snapshot) storage.still storage.database.outcomes := by
  have ports (storage : Storage) := each_run upsertGatewayPort_performs
    (snapshot.ports.filter (Database.ownPort gatewayId)) storage
  have devices (storage : Storage) := each_run
    (fun device => upsertSnapshotDevice_performs device allowDeletedReactivate)
    (snapshot.devices.filter (Database.ownEntry gatewayId)) storage
  have points := run_singleton (saveSnapshotPoints_performs snapshot.pointConfigs)
  simp only [← lift_each] at ports devices
  rw [entrySteps, ← view_then (view_then (ports storage) (devices _)) (points _)]
  unfold Storage.lift Database.upsertSnapshotEntries Database.saveSnapshotPoints
  dsimp only
  split
  · rw [Bool.true_and]
  · rfl

/-- A call of one of the two functions. -/
inductive SnapshotCall where
  | upsert (nowMs : Int) (gatewayId : String) (snapshot : ConfigSnapshot) (fullSnapshot : Bool)
  | replace (gatewayId : String) (selectedDevices : List SyncSelectedDevice)
      (snapshot : ConfigSnapshot)

namespace SnapshotCall

def run (commitFails : Bool) (storage : Storage) : SnapshotCall -> Storage × Bool
  | .upsert nowMs gatewayId snapshot fullSnapshot =>
      storage.upsertGatewayConfigSnapshot nowMs gatewayId snapshot fullSnapshot
  | .replace gatewayId selectedDevices snapshot =>
      replaceSelectedDeviceConfig commitFails storage gatewayId selectedDevices snapshot

/-- The call gets past the checks of its arguments. -/
def starts (storage : Storage) : SnapshotCall -> Bool
  | .upsert _ gatewayId _ _ => storage.database.isOpen && gatewayId ≠ ""
  | .replace gatewayId selectedDevices _ =>
      storage.database.isOpen && gatewayId ≠ "" && !selectedDevices.isEmpty

/-- The deletions first, then the ports, the devices and the points. -/
def steps (storage : Storage) : SnapshotCall -> List (Storage -> Move Storage)
  | .upsert nowMs gatewayId snapshot fullSnapshot =>
      (if fullSnapshot then storage.database.activeKeys.filter
          (Database.missingFrom gatewayId snapshot.devices) else []).map
        (deletionMove nowMs) ++
      entrySteps gatewayId snapshot
  | .replace gatewayId selectedDevices snapshot =>
      clearMove (Database.selectedKeys gatewayId selectedDevices) :: entrySteps gatewayId snapshot

theorem steps_respect (storage : Storage) (call : SnapshotCall) :
    forall step, step ∈ call.steps storage -> Respects SameRows step := by
  intro step inside
  cases call with
  | upsert nowMs gatewayId snapshot fullSnapshot =>
      rcases List.mem_append.mp inside with deletions | entries
      · rcases List.mem_map.mp deletions with ⟨key, -, rfl⟩
        exact deletionMove_respects nowMs key
      · exact entrySteps_respect gatewayId snapshot step entries
  | replace gatewayId selectedDevices snapshot =>
      rcases List.mem_cons.mp inside with rfl | entries
      · exact clearMove_respects _
      · exact entrySteps_respect gatewayId snapshot step entries

end SnapshotCall

theorem upsertGatewayConfigSnapshot_run {storage : Storage} {nowMs : Int} {gatewayId : String}
    {snapshot : ConfigSnapshot} {fullSnapshot : Bool}
    (starts : (SnapshotCall.upsert nowMs gatewayId snapshot fullSnapshot).starts storage = true) :
    view (storage.upsertGatewayConfigSnapshot nowMs gatewayId snapshot fullSnapshot) =
      TransactionSeries.run ((SnapshotCall.upsert nowMs gatewayId snapshot fullSnapshot).steps storage)
        storage.still storage.database.outcomes := by
  have opened : ¬ (!storage.database.isOpen ∨ gatewayId = "") := by
    simpa [SnapshotCall.starts] using starts
  have deletions (keys : List DeviceKey) := each_run (deleteDeviceData_performs nowMs) keys storage
  unfold upsertGatewayConfigSnapshot
  rw [if_neg opened]
  cases fullSnapshot with
  | true => exact view_then (deletions _) (upsertSnapshotEntries_run _ gatewayId snapshot false)
  | false =>
      exact view_then (deletions []) (upsertSnapshotEntries_run storage gatewayId snapshot false)

section Selection

variable {storage : Storage} {gatewayId : String} {selectedDevices : List SyncSelectedDevice}
  {snapshot : ConfigSnapshot}
  (starts : (SnapshotCall.replace gatewayId selectedDevices snapshot).starts storage = true)

include starts

theorem selection_open :
    ¬ (!storage.database.isOpen ∨ gatewayId = "" ∨ selectedDevices.isEmpty) := by
  simpa [SnapshotCall.starts, and_assoc] using starts

/-- A COMMIT that fails loses the deletions, and the entries are attempted all the same. -/
theorem replaceSelectedDeviceConfig_lost :
    (replaceSelectedDeviceConfig true storage gatewayId selectedDevices snapshot).1.still =
        (TransactionSeries.run (entrySteps gatewayId snapshot) storage.still
          storage.database.outcomes.tail).1 ∧
      (replaceSelectedDeviceConfig true storage gatewayId selectedDevices snapshot).2 = false := by
  have result : replaceSelectedDeviceConfig true storage gatewayId selectedDevices snapshot =
      (((storage.failing storage.database.outcomes.tail).lift fun database =>
        database.upsertSnapshotEntries gatewayId snapshot true).1, false) :=
    if_neg (selection_open starts)
  rw [result]
  exact ⟨congrArg Prod.fst (upsertSnapshotEntries_run
    (storage.failing storage.database.outcomes.tail) gatewayId snapshot true), rfl⟩

theorem replaceSelected_eq : storage.database.replaceSelectedDeviceConfig gatewayId selectedDevices
    snapshot =
      if (storage.database.clearSelected (Database.selectedKeys gatewayId selectedDevices)).2 then
        (storage.database.clearSelected (Database.selectedKeys gatewayId
          selectedDevices)).1.upsertSnapshotEntries gatewayId snapshot true
      else ((storage.database.clearSelected (Database.selectedKeys gatewayId selectedDevices)).1,
        false) :=
  if_neg (selection_open starts)

theorem replaceSelectedDeviceConfig_committed
    (commit : storage.database.outcomes.headD true = true) :
    view (replaceSelectedDeviceConfig false storage gatewayId selectedDevices snapshot) =
      TransactionSeries.run ((SnapshotCall.replace gatewayId selectedDevices snapshot).steps storage)
        storage.still storage.database.outcomes := by
  have cleared : (storage.database.clearSelected
      (Database.selectedKeys gatewayId selectedDevices)).2 = true :=
    congrArg Prod.snd (storage.database.transact_commit storage.database.committed _ _ commit)
  have first := run_singleton
    (clearSelected_performs (Database.selectedKeys gatewayId selectedDevices)) storage
  have rest := view_then first (upsertSnapshotEntries_run (storage.lift fun database =>
    database.clearSelected (Database.selectedKeys gatewayId selectedDevices)).1 gatewayId snapshot true)
  refine Eq.trans ?_ rest
  change view (⟨(storage.database.replaceSelectedDeviceConfig gatewayId selectedDevices snapshot).1,
    storage.alarms⟩, (storage.database.replaceSelectedDeviceConfig gatewayId selectedDevices
      snapshot).2) = view (_, _ && (storage.database.clearSelected _).2)
  rw [replaceSelected_eq starts, if_pos cleared, cleared, Bool.and_true]
  rfl

theorem replaceSelectedDeviceConfig_stopped
    (failed : storage.database.outcomes.headD true = false) :
    (replaceSelectedDeviceConfig false storage gatewayId selectedDevices snapshot).1 =
      storage.failing storage.database.outcomes.tail := by
  have stopped : storage.database.clearSelected (Database.selectedKeys gatewayId selectedDevices) =
      (storage.database.facing storage.database.outcomes.tail storage.database.committed, false) :=
    storage.database.transact_fail storage.database.committed _ _ failed
  change (⟨(storage.database.replaceSelectedDeviceConfig gatewayId selectedDevices snapshot).1,
    storage.alarms⟩ : Storage) = _
  rw [replaceSelected_eq starts, stopped]
  rfl

end Selection

theorem sameRows_still {first second : Storage} :
    SameRows first.still second.still ↔ SameRows first second :=
  ⟨fun same => ⟨same.isOpen, same.gatewayPorts, same.devices, same.deviceStatuses,
    same.pointConfigs, same.latestPoints, same.telemetryHistory, same.alarms⟩,
    fun same => same.facing [] [] [] []⟩

/-- Whatever fails, a call that reports a failure has changed no row. -/
def SnapshotCall.Atomic (storage : Storage) (call : SnapshotCall) : Prop :=
  forall outcomes commitFails, (call.run commitFails (storage.failing outcomes)).2 = false ->
    SameRows storage (call.run commitFails (storage.failing outcomes)).1

theorem run_of_not_starts {storage : Storage} {call : SnapshotCall}
    (refused : call.starts storage = false) (commitFails : Bool) :
    (call.run commitFails storage).1 = storage := by
  cases call with
  | upsert nowMs gatewayId snapshot fullSnapshot =>
      have closed : !storage.database.isOpen ∨ gatewayId = "" := by
        simpa [SnapshotCall.starts, or_iff_not_imp_left] using refused
      exact congrArg Prod.fst (if_pos closed)
  | replace gatewayId selectedDevices snapshot =>
      have closed : !storage.database.isOpen ∨ gatewayId = "" ∨ selectedDevices.isEmpty := by
        cases opened : storage.database.isOpen with
        | false => exact Or.inl rfl
        | true =>
            right
            simpa [SnapshotCall.starts, opened, or_iff_not_imp_left] using refused
      cases commitFails with
      | true => exact congrArg Prod.fst (if_pos closed)
      | false =>
          have result : storage.database.replaceSelectedDeviceConfig gatewayId selectedDevices
              snapshot = (storage.database, false) := if_pos closed
          change (⟨(storage.database.replaceSelectedDeviceConfig gatewayId selectedDevices
            snapshot).1, storage.alarms⟩ : Storage) = storage
          rw [result]

theorem upsert_atomic_iff {storage : Storage} {nowMs : Int} {gatewayId : String}
    {snapshot : ConfigSnapshot} {fullSnapshot : Bool}
    (starts : (SnapshotCall.upsert nowMs gatewayId snapshot fullSnapshot).starts storage = true) :
    (SnapshotCall.upsert nowMs gatewayId snapshot fullSnapshot).Atomic storage ↔
      Safe SameRows ((SnapshotCall.upsert nowMs gatewayId snapshot fullSnapshot).steps storage)
        storage.still := by
  rw [← atomic_iff sameRows_equivalence (SnapshotCall.steps_respect storage _)]
  have runs (outcomes : List Bool) : view ((storage.failing outcomes).upsertGatewayConfigSnapshot
      nowMs gatewayId snapshot fullSnapshot) =
        TransactionSeries.run
          ((SnapshotCall.upsert nowMs gatewayId snapshot fullSnapshot).steps storage) storage.still
          outcomes :=
    @upsertGatewayConfigSnapshot_run (storage.failing outcomes) nowMs gatewayId snapshot fullSnapshot
      starts
  constructor
  · intro atomic outcomes failed
    rw [← runs outcomes] at failed ⊢
    exact sameRows_still.mpr (atomic outcomes false failed)
  · intro whole outcomes commitFails failed
    have ends := whole outcomes
    rw [← runs outcomes] at ends
    exact sameRows_still.mp (ends failed)

theorem replace_atomic_iff {storage : Storage} {gatewayId : String}
    {selectedDevices : List SyncSelectedDevice} {snapshot : ConfigSnapshot}
    (starts : (SnapshotCall.replace gatewayId selectedDevices snapshot).starts storage = true) :
    (SnapshotCall.replace gatewayId selectedDevices snapshot).Atomic storage ↔
      Safe SameRows ((SnapshotCall.replace gatewayId selectedDevices snapshot).steps storage)
        storage.still := by
  rw [← atomic_iff sameRows_equivalence (SnapshotCall.steps_respect storage _)]
  have lost (outcomes : List Bool) :
      (replaceSelectedDeviceConfig true (storage.failing outcomes) gatewayId selectedDevices
          snapshot).1.still =
          (TransactionSeries.run (entrySteps gatewayId snapshot) storage.still outcomes.tail).1 ∧
        (replaceSelectedDeviceConfig true (storage.failing outcomes) gatewayId selectedDevices
          snapshot).2 = false :=
    @replaceSelectedDeviceConfig_lost (storage.failing outcomes) gatewayId selectedDevices snapshot
      starts
  have committed (outcomes : List Bool) (commit : outcomes.headD true = true) :
      view (replaceSelectedDeviceConfig false (storage.failing outcomes) gatewayId selectedDevices
          snapshot) =
        TransactionSeries.run ((SnapshotCall.replace gatewayId selectedDevices snapshot).steps storage)
          storage.still outcomes :=
    @replaceSelectedDeviceConfig_committed (storage.failing outcomes) gatewayId selectedDevices
      snapshot starts commit
  have stopped (outcomes : List Bool) (failed : outcomes.headD true = false) :=
    @replaceSelectedDeviceConfig_stopped (storage.failing outcomes) gatewayId selectedDevices
      snapshot starts failed
  -- in the series a first transaction that fails stands for a COMMIT that fails
  have skipped (outcomes : List Bool) (failed : outcomes.headD true = false) :
      TransactionSeries.run ((SnapshotCall.replace gatewayId selectedDevices snapshot).steps storage)
          storage.still outcomes =
        ((TransactionSeries.run (entrySteps gatewayId snapshot) storage.still outcomes.tail).1,
          (TransactionSeries.run (entrySteps gatewayId snapshot) storage.still outcomes.tail).2.1,
          false) := by
    have rejected : ¬ outcomes.headD true = true :=
      fun commit => Bool.false_ne_true (failed.symm.trans commit)
    rw [SnapshotCall.steps, TransactionSeries.run, clearMove, attempt, if_neg rejected,
      Bool.and_false]
  constructor
  · intro atomic outcomes failed
    cases commit : outcomes.headD true with
    | true =>
        have ends := atomic outcomes false
        rw [← committed outcomes commit] at failed ⊢
        exact sameRows_still.mpr (ends failed)
    | false =>
        rw [skipped outcomes commit, ← (lost outcomes).1]
        exact sameRows_still.mpr (atomic outcomes true (lost outcomes).2)
  · intro whole outcomes commitFails failed
    cases commitFails with
    | true =>
        have ends := whole (false :: outcomes.tail)
        rw [skipped (false :: outcomes.tail) rfl] at ends
        refine sameRows_still.mp ?_
        rw [SnapshotCall.run, (lost outcomes).1]
        exact ends rfl
    | false =>
        cases commit : outcomes.headD true with
        | true =>
            have ends := whole outcomes
            rw [← committed outcomes commit] at ends
            exact sameRows_still.mp (ends failed)
        | false =>
            change SameRows storage
              (replaceSelectedDeviceConfig false (storage.failing outcomes) gatewayId selectedDevices
                snapshot).1
            rw [stopped outcomes commit]
            exact (sameRows_equivalence.refl storage).facing storage.database.outcomes _
              storage.database.committed _

/-- A call that its arguments do not stop is atomic exactly if its series is safe. -/
theorem snapshot_atomic_iff (storage : Storage) (call : SnapshotCall) :
    call.Atomic storage ↔
      (call.starts storage = true -> Safe SameRows (call.steps storage) storage.still) := by
  cases starts : call.starts storage with
  | false =>
      refine iff_of_true ?_ fun begun => absurd begun Bool.false_ne_true
      intro outcomes commitFails _
      have refused : call.starts (storage.failing outcomes) = false := by
        cases call with
        | upsert nowMs gatewayId snapshot fullSnapshot => exact starts
        | replace gatewayId selectedDevices snapshot => exact starts
      rw [run_of_not_starts refused]
      exact (sameRows_equivalence.refl storage).facing storage.database.outcomes outcomes
        storage.database.committed storage.database.committed
  | true =>
      rw [forall_prop_of_true rfl]
      cases call with
      | upsert nowMs gatewayId snapshot fullSnapshot => exact upsert_atomic_iff starts
      | replace gatewayId selectedDevices snapshot => exact replace_atomic_iff starts

/-- An empty database. -/
def blank : Storage where
  database :=
    { isOpen := true
      devices := ∅
      deviceStatuses := ∅
      gatewayRegistries := ∅
      gatewayStatuses := ∅
      gatewayPorts := ∅
      pointConfigs := ∅
      latestPoints := ∅
      telemetryHistory := []
      outcomes := []
      committed := [] }
  alarms := []

/-- One port with one meter. -/
def meterSnapshot : ConfigSnapshot where
  ports := [⟨"gateway_001", "port_001", "RS485-1", 0, "", 9600, "", 0, 0⟩]
  devices := [{
    factoryId := ""
    factoryName := ""
    areaId := ""
    areaName := ""
    gatewayId := "gateway_001"
    gatewayName := ""
    portId := "port_001"
    portName := ""
    deviceId := 3
    deviceName := "Device 3"
    deviceType := "meter"
    pollIntervalMs := 1000
    expectTelemetry := true
    enabled := true
    status := ""
    lastSeenMs := 0
    lastOfflineMs := 0
    statusReason := ""
    createTimeMs := 0
    updateTimeMs := 0 }]
  pointConfigs := []

/-- The second transaction fails, and the row of the port stays. -/
theorem port_stays_without_device :
    ¬ (SnapshotCall.upsert 0 "gateway_001" meterSnapshot false).Atomic blank := by
  intro atomic
  have same := (atomic [true, false] false (by decide +kernel)).gatewayPorts
    ("gateway_001", "port_001")
  revert same
  decide +kernel

end Storage
end Pc
end Imx6Gateway
