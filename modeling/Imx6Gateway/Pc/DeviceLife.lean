import Imx6Gateway.Pc.Database

namespace Imx6Gateway
namespace Pc

open Library

/-!
# The life of a device in the database

A row of the table `device` is active, deleted or switched off.  Seen from
outside, a function of the database only moves devices between these states;
this file says for each function which devices it moves, when every statement
succeeds.
-/

inductive Life where
  | unknown
  | active
  | disabled
  | tombstoned
deriving DecidableEq, Repr

def DeviceRow.life (row : DeviceRow) : Life :=
  if row.tombstoned then .tombstoned else if row.active then .active else .disabled

namespace Database

def life (database : Database) (key : DeviceKey) : Life :=
  match database.devices.get key with
  | none => .unknown
  | some row => row.life

/-- The database is open and all its statements will succeed. -/
structure Healthy (database : Database) : Prop where
  isOpen : database.isOpen = true
  outcomes : database.outcomes = []

/-- A function leaves a healthy database with these lives. -/
structure Moves (after : Database) (lives : DeviceKey -> Life) : Prop where
  healthy : after.Healthy
  lives : forall key, after.life key = lives key

theorem Healthy.moves {database : Database} (healthy : database.Healthy) :
    database.Moves database.life :=
  ⟨healthy, fun _ => rfl⟩

/-- The devices that are written are those of another database. -/
theorem Moves.of_devices {database after : Database} (healthy : database.Healthy)
    (devices : after.devices = database.devices) (isOpen : after.isOpen = database.isOpen)
    (outcomes : after.outcomes = database.outcomes) : after.Moves database.life := by
  refine ⟨⟨isOpen.trans healthy.isOpen, outcomes.trans healthy.outcomes⟩, ?_⟩
  intro key
  rw [life, life, devices]

/-! ## Rows -/

theorem life_eq_active_iff {row : DeviceRow} : row.life = .active ↔ row.active = true := by
  unfold DeviceRow.life
  constructor
  · intro here
    split at here
    · cases here
    · split at here
      · assumption
      · cases here
  · intro active
    rw [DeviceRow.not_tombstoned_of_active active, if_neg Bool.false_ne_true, if_pos active]

theorem life_eq_tombstoned_iff {row : DeviceRow} :
    row.life = .tombstoned ↔ row.tombstoned = true := by
  unfold DeviceRow.life
  constructor
  · intro here
    split at here
    · assumption
    · split at here <;> cases here
  · intro tombstoned
    rw [if_pos tombstoned]

theorem row_life_ne_unknown (row : DeviceRow) : row.life ≠ .unknown := by
  unfold DeviceRow.life
  intro here
  split at here
  · cases here
  · split at here <;> cases here

@[simp]
theorem life_markDeleted (nowMs : Int) (row : DeviceRow) :
    (markDeleted nowMs row).life = .tombstoned := by
  rw [life_eq_tombstoned_iff]
  rfl

@[simp]
theorem life_markActive (nowMs : Int) (row : DeviceRow) :
    (markActive nowMs row).life = .active := by
  rw [life_eq_active_iff]
  rfl

theorem life_deviceRow {device : DeviceRecord} (enabled : device.enabled = true)
    (old : Option DeviceRow) : (deviceRow device old).life = .active := by
  rw [life_eq_active_iff]
  simp [DeviceRow.active, deviceRow, enabled]

theorem deviceExists_of_key {database : Database} (healthy : database.Healthy) {key : DeviceKey}
    {gatewayId portId : String} {deviceId : Int}
    (named : deviceKey? gatewayId portId deviceId = some key) :
    database.deviceExists gatewayId portId deviceId = true ↔ database.life key = .active := by
  unfold deviceExists life
  rw [named]
  simp only [healthy.isOpen, Bool.true_and]
  cases database.devices.get key with
  | none => simp
  | some row => simp [life_eq_active_iff]

theorem deviceExists_iff {database : Database} (healthy : database.Healthy)
    {gatewayId portId : String} {deviceId : Int} :
    database.deviceExists gatewayId portId deviceId = true ↔
      exists key, deviceKey? gatewayId portId deviceId = some key ∧ database.life key = .active := by
  cases named : deviceKey? gatewayId portId deviceId with
  | none => simp [deviceExists, named]
  | some key =>
      rw [deviceExists_of_key healthy named]
      simp

theorem deviceDeleted_of_key {database : Database} (healthy : database.Healthy) {key : DeviceKey}
    {gatewayId portId : String} {deviceId : Int}
    (named : deviceKey? gatewayId portId deviceId = some key) :
    database.deviceDeleted gatewayId portId deviceId = true ↔ database.life key = .tombstoned := by
  unfold deviceDeleted life
  rw [named]
  simp only [healthy.isOpen, Bool.true_and]
  cases database.devices.get key with
  | none => simp
  | some row => simp [life_eq_tombstoned_iff]

theorem mem_activeKeys {database : Database} {key : DeviceKey} :
    key ∈ database.activeKeys ↔ database.life key = .active := by
  rw [activeKeys, List.mem_map, life]
  have shown : (database.devices.keepIf fun _ row => row.active).get key =
      (database.devices.get key).filter DeviceRow.active := Table.get_keepIf _ _ _
  constructor
  · rintro ⟨⟨here, row⟩, inside, rfl⟩
    have found := Table.get_eq_some_iff.mpr inside
    rw [shown, Option.filter_eq_some_iff] at found
    simp only [found.1]
    exact life_eq_active_iff.mpr found.2
  · intro active
    split at active
    · cases active
    · rename_i row found
      refine ⟨⟨key, row⟩, Table.get_eq_some_iff.mp ?_, rfl⟩
      rw [shown, found, Option.filter_some, if_pos (life_eq_active_iff.mp active)]

/-! ## Transactions -/

theorem transact_healthy {database : Database} (healthy : database.Healthy) (write : Write)
    (effect : Database -> Database) :
    database.transact write effect =
      ({ effect database with committed := database.committed ++ [write] }, true) := by
  have same : { database with outcomes := database.outcomes.tail } = database := by
    rw [healthy.outcomes, List.tail_nil, ← healthy.outcomes]
  rw [transact, same, healthy.outcomes]
  rfl

theorem moves_transact {database : Database} (healthy : database.Healthy) (write : Write)
    {effect : Database -> Database} {lives : DeviceKey -> Life}
    (moves : (effect database).Moves lives) :
    (database.transact write effect).2 = true ∧
      (database.transact write effect).1.Moves lives := by
  rw [transact_healthy healthy]
  exact ⟨rfl, ⟨moves.healthy.isOpen, moves.healthy.outcomes⟩, moves.lives⟩

/-- A transaction on other tables. -/
theorem moves_transact_others {database : Database} (healthy : database.Healthy) (write : Write)
    (effect : Database -> Database) (devices : (effect database).devices = database.devices)
    (isOpen : (effect database).isOpen = database.isOpen)
    (outcomes : (effect database).outcomes = database.outcomes) :
    (database.transact write effect).2 = true ∧
      (database.transact write effect).1.Moves database.life :=
  moves_transact healthy write (Moves.of_devices healthy devices isOpen outcomes)

theorem life_putRow {database : Database} (healthy : database.Healthy) (after : Database)
    {key : DeviceKey}
    {row : DeviceRow} (devices : after.devices = database.devices.put key row)
    (isOpen : after.isOpen = database.isOpen) (outcomes : after.outcomes = database.outcomes) :
    after.Moves fun other => if other = key then row.life else database.life other := by
  refine ⟨⟨isOpen.trans healthy.isOpen, outcomes.trans healthy.outcomes⟩, ?_⟩
  intro other
  rw [life, devices, Table.get_put]
  by_cases same : other = key
  · rw [if_pos same, if_pos same]
  · rw [if_neg same, if_neg same, life]

theorem life_updateRows {database : Database} (healthy : database.Healthy) (after : Database)
    {change : DeviceRow -> DeviceRow} {result : Life}
    (changed : forall row, (change row).life = result)
    (condition : DeviceKey -> DeviceRow -> Bool) (chosen : DeviceKey -> Bool)
    (devices : after.devices = database.devices.updateWhere condition change)
    (isOpen : after.isOpen = database.isOpen) (outcomes : after.outcomes = database.outcomes)
    (chooses : forall key row, database.devices.get key = some row ->
      condition key row = chosen key) :
    after.Moves fun other =>
      if chosen other = true ∧ database.life other ≠ .unknown then result
      else database.life other := by
  refine ⟨⟨isOpen.trans healthy.isOpen, outcomes.trans healthy.outcomes⟩, ?_⟩
  intro other
  rw [life, devices, Table.get_updateWhere, life]
  cases found : database.devices.get other with
  | none => simp
  | some row =>
      have known := row_life_ne_unknown row
      rw [Option.map_some, chooses other row found]
      cases chosen other with
      | true => simp [changed, known]
      | false => simp

/-! ## Devices one by one -/

theorem upsertDevice_moves {database : Database} (healthy : database.Healthy)
    {device : DeviceRecord} {key : DeviceKey} (named : device.key? = some key)
    (typed : device.deviceType ≠ "") (enabled : device.enabled = true)
    (alive : database.life key ≠ .tombstoned) (allowDeletedReactivate : Bool) :
    (database.upsertDevice device allowDeletedReactivate).2 = true ∧
      (database.upsertDevice device allowDeletedReactivate).1.Moves
        fun other => if other = key then .active else database.life other := by
  have kept : database.deviceDeleted device.gatewayId device.portId device.deviceId = false := by
    rw [← Bool.not_eq_true, deviceDeleted_of_key healthy named]
    exact alive
  unfold upsertDevice
  rw [named]
  simp only [healthy.isOpen, Bool.not_true, Bool.false_eq_true, typed, or_self, if_false, kept,
    false_and]
  apply moves_transact healthy
  have moved := life_putRow healthy (({ database with
      devices := database.devices.put key (deviceRow device (database.devices.get key)) } :
        Database).putDeviceStatus key device) rfl rfl rfl
  rwa [life_deviceRow enabled] at moved

/-- A device without a type or a key is refused. -/
theorem upsertDevice_untyped {database : Database} {device : DeviceRecord}
    (untyped : device.deviceType = "") (allowDeletedReactivate : Bool) :
    database.upsertDevice device allowDeletedReactivate = (database, false) := by
  unfold upsertDevice
  split
  · rfl
  · rw [if_pos (Or.inr untyped)]

theorem deleteDeviceData_moves {database : Database} (healthy : database.Healthy) (nowMs : Int)
    (key : DeviceKey) :
    (database.deleteDeviceData nowMs key.gatewayId key.portId key.deviceId).2 = true ∧
      (database.deleteDeviceData nowMs key.gatewayId key.portId key.deviceId).1.Moves fun other =>
        if other = key ∧ database.life other ≠ .unknown then .tombstoned
        else database.life other := by
  unfold deleteDeviceData
  rw [deviceKey?_key]
  simp only [healthy.isOpen, Bool.not_true, Bool.false_eq_true, if_false]
  apply moves_transact healthy
  have moved := life_updateRows healthy (({ database with
      devices := database.devices.updateWhere (fun other _ => other = key) (markDeleted nowMs) } :
        Database).deleteRows fun gateway port device =>
          gateway = key.gatewayId && port = key.portId && device = key.deviceId)
    (life_markDeleted nowMs) (fun other _ => other = key) (fun other => other = key) rfl rfl rfl
    (fun _ _ _ => rfl)
  simpa only [decide_eq_true_eq] using moved

theorem reactivateDeletedDevice_moves {database : Database} (healthy : database.Healthy)
    (nowMs : Int) (key : DeviceKey) :
    (database.reactivateDeletedDevice nowMs key.gatewayId key.portId key.deviceId).1.Moves
      fun other => if other = key ∧ database.life other ≠ .unknown then .active
        else database.life other := by
  unfold reactivateDeletedDevice
  rw [deviceKey?_key]
  simp only [healthy.isOpen, Bool.not_true, Bool.false_eq_true, if_false]
  refine (moves_transact healthy _ ?_).2
  have moved := life_updateRows healthy { database with
      devices := database.devices.updateWhere (fun other _ => other = key) (markActive nowMs) }
    (life_markActive nowMs) (fun other _ => other = key) (fun other => other = key) rfl rfl rfl
    (fun _ _ _ => rfl)
  simpa only [decide_eq_true_eq] using moved

theorem deleteMasterData_moves {database : Database} (healthy : database.Healthy) (nowMs : Int)
    {gatewayId portId : String} (gateway : gatewayId ≠ "") (port : portId ≠ "") :
    (database.deleteMasterData nowMs gatewayId portId).2 = true ∧
      (database.deleteMasterData nowMs gatewayId portId).1.Moves fun other =>
        if database.life other = .active ∧ other.gatewayId = gatewayId ∧ other.portId = portId then
          .tombstoned
        else database.life other := by
  unfold deleteMasterData
  simp only [healthy.isOpen, Bool.not_true, Bool.false_eq_true, gateway, port, or_self, if_false]
  apply moves_transact healthy
  have moved := life_updateRows healthy (({ database with
      devices := database.devices.updateWhere
        (fun key row => row.active && key.gatewayId = gatewayId && key.portId = portId)
        (markDeleted nowMs) } : Database).deleteRows fun gateway port _ =>
          gateway = gatewayId && port = portId)
    (life_markDeleted nowMs)
    (fun key row => row.active && key.gatewayId = gatewayId && key.portId = portId)
    (fun key => decide (database.life key = .active) && key.gatewayId = gatewayId &&
      key.portId = portId) rfl rfl rfl (by
      intro key row found
      simp only [life, found, life_eq_active_iff, Bool.decide_eq_true])
  refine ⟨moved.healthy, ?_⟩
  intro other
  rw [moved.lives other]
  by_cases active : database.life other = .active
  · simp [active]
  · simp [active]

/-! ## Rows of other tables -/

theorem upsertGatewayPort_moves {database : Database} (healthy : database.Healthy)
    {port : GatewayPort} (gateway : port.gatewayId ≠ "") (named : port.portId ≠ "") :
    (database.upsertGatewayPort port).2 = true ∧
      (database.upsertGatewayPort port).1.Moves database.life := by
  unfold upsertGatewayPort
  simp only [healthy.isOpen, Bool.not_true, Bool.false_eq_true, gateway, named, or_self, if_false]
  exact moves_transact_others healthy _ _ rfl rfl rfl

theorem savePointConfigs_moves {database : Database} (healthy : database.Healthy)
    (configs : List PointConfig) :
    (database.savePointConfigs configs).2 = true ∧
      (database.savePointConfigs configs).1.Moves database.life := by
  unfold savePointConfigs
  simp only [healthy.isOpen, Bool.not_true, Bool.false_eq_true, if_false]
  split
  · exact ⟨rfl, healthy.moves⟩
  · exact moves_transact_others healthy _ _ rfl rfl rfl

/-! ## Lists of rows -/

section Each

variable {Item : Type} {operation : Database -> Item -> Database × Bool}

theorem each_nil (database : Database) : database.each operation [] = (database, true) := rfl

theorem each_cons (database : Database) (item : Item) (items : List Item) :
    database.each operation (item :: items) =
      (((operation database item).1.each operation items).1,
        ((operation database item).1.each operation items).2 && (operation database item).2) := by
  have general : forall (items : List Item) (state : Database × Bool),
      items.foldl (fun state item =>
        ((operation state.1 item).1, (operation state.1 item).2 && state.2)) state =
        ((state.1.each operation items).1, (state.1.each operation items).2 && state.2) := by
    intro items
    induction items with
    | nil => exact fun state => by rw [each_nil, Bool.true_and, List.foldl_nil]
    | cons item items ih =>
        intro state
        have first := ih ((operation state.1 item).1, (operation state.1 item).2 && state.2)
        have restart := ih ((operation state.1 item).1, (operation state.1 item).2 && true)
        rw [each, List.foldl_cons, List.foldl_cons, first, restart, Bool.and_true, Bool.and_assoc]
  rw [each, List.foldl_cons, general, Bool.and_true]

/-- Operations that move no device and always succeed. -/
theorem each_moves_same {items : List Item} {database : Database} (healthy : database.Healthy)
    (same : forall (database : Database) (item : Item), item ∈ items -> database.Healthy ->
      (operation database item).2 = true ∧ (operation database item).1.Moves database.life) :
    (database.each operation items).2 = true ∧
      (database.each operation items).1.Moves database.life := by
  induction items generalizing database with
  | nil => exact ⟨rfl, healthy.moves⟩
  | cons item items ih =>
      have first := same database item List.mem_cons_self healthy
      have rest := ih first.2.healthy
        (fun database item inside => same database item (List.mem_cons_of_mem _ inside))
      rw [each_cons, rest.1, first.1]
      refine ⟨rfl, rest.2.healthy, ?_⟩
      intro key
      rw [rest.2.lives key, first.2.lives key]

end Each

/-- Deletes the devices of a list. -/
theorem each_delete_moves (nowMs : Int) {database : Database} (healthy : database.Healthy)
    (keys : List DeviceKey) :
    let deleted := database.each
      (fun database key => database.deleteDeviceData nowMs key.gatewayId key.portId key.deviceId)
      keys
    deleted.2 = true ∧ deleted.1.Moves fun other =>
      if other ∈ keys ∧ database.life other ≠ .unknown then .tombstoned
      else database.life other := by
  induction keys generalizing database with
  | nil =>
      refine ⟨rfl, healthy, ?_⟩
      intro key
      simp [each_nil]
  | cons first keys ih =>
      have step := deleteDeviceData_moves healthy nowMs first
      have rest := ih step.2.healthy
      rw [each_cons, rest.1, step.1]
      refine ⟨rfl, rest.2.healthy, ?_⟩
      intro other
      simp only [rest.2.lives other, step.2.lives other, List.mem_cons]
      by_cases here : other = first
      · rw [here]
        by_cases known : database.life first = .unknown
        · simp [known]
        · simp [known]
      · simp [here]

/-! ## Entries of a snapshot -/

/-- Entries of a snapshot as the parser makes them, with a key. -/
def Entries (devices : List DeviceRecord) : Prop :=
  forall device, device ∈ devices -> device.enabled = true ∧ exists key, device.key? = some key

/-- An entry with this key has a type. -/
def enters (devices : List DeviceRecord) (key : DeviceKey) : Bool :=
  devices.any fun device => device.key? = some key && device.deviceType ≠ ""

/-- No entry that is to be written lacks a type. -/
def acceptable (database : Database) (devices : List DeviceRecord) : Bool :=
  devices.all fun device => device.deviceType ≠ "" ||
    database.deviceDeleted device.gatewayId device.portId device.deviceId

theorem upsertSnapshotDevice_moves {database : Database} (healthy : database.Healthy)
    {device : DeviceRecord} {key : DeviceKey} (named : device.key? = some key)
    (enabled : device.enabled = true) (allowDeletedReactivate : Bool) :
    (database.upsertSnapshotDevice allowDeletedReactivate device).2 =
        (device.deviceType ≠ "" ||
          database.deviceDeleted device.gatewayId device.portId device.deviceId) ∧
      (database.upsertSnapshotDevice allowDeletedReactivate device).1.Moves fun other =>
        if enters [device] other = true ∧ database.life other ≠ .tombstoned then .active
        else database.life other := by
  have deleted := deviceDeleted_of_key healthy named
  have entered : forall other, enters [device] other = true ↔
      other = key ∧ device.deviceType ≠ "" := by
    intro other
    rw [enters, List.any_cons, List.any_nil, Bool.or_false, Bool.and_eq_true, named,
      decide_eq_true_eq, decide_eq_true_eq, Option.some_inj]
    exact ⟨fun both => ⟨both.1.symm, both.2⟩, fun both => ⟨both.1.symm, both.2⟩⟩
  unfold upsertSnapshotDevice
  by_cases gone : database.life key = .tombstoned
  · rw [if_pos (deleted.mpr gone), deleted.mpr gone, Bool.or_true]
    refine ⟨rfl, healthy, ?_⟩
    intro other
    rw [if_neg]
    rintro ⟨here, alive⟩
    rw [((entered other).mp here).1] at alive
    exact alive gone
  · have kept : ¬ database.deviceDeleted device.gatewayId device.portId device.deviceId = true :=
      fun shown => gone (deleted.mp shown)
    rw [if_neg kept]
    by_cases typed : device.deviceType = ""
    · rw [upsertDevice_untyped typed]
      refine ⟨?_, healthy, ?_⟩
      · simp [typed, kept]
      · intro other
        rw [if_neg]
        rintro ⟨here, -⟩
        exact ((entered other).mp here).2 typed
    · have stored := upsertDevice_moves healthy named typed enabled gone allowDeletedReactivate
      refine ⟨?_, stored.2.healthy, ?_⟩
      · simp [stored.1, typed]
      · intro other
        rw [stored.2.lives other]
        by_cases here : other = key
        · rw [if_pos here, if_pos ⟨(entered other).mpr ⟨here, typed⟩, here ▸ gone⟩]
        · rw [if_neg here, if_neg]
          exact fun both => here ((entered other).mp both.1).1

theorem enters_cons (device : DeviceRecord) (devices : List DeviceRecord) (key : DeviceKey) :
    enters (device :: devices) key = true ↔
      enters [device] key = true ∨ enters devices key = true := by
  simp [enters]

/-- What is deleted stays deleted while the entries are written. -/
theorem acceptable_of_tombstoned {database after : Database} (healthy : database.Healthy)
    (left : after.Healthy) {devices : List DeviceRecord} (entries : Entries devices)
    (same : forall device key, device ∈ devices -> device.key? = some key ->
      (after.life key = .tombstoned ↔ database.life key = .tombstoned)) :
    after.acceptable devices = database.acceptable devices := by
  rw [acceptable, acceptable, Bool.eq_iff_iff, List.all_eq_true, List.all_eq_true]
  refine forall₂_congr ?_
  intro device inside
  rcases (entries device inside).2 with ⟨key, named⟩
  have agree : after.deviceDeleted device.gatewayId device.portId device.deviceId =
      database.deviceDeleted device.gatewayId device.portId device.deviceId := by
    rw [Bool.eq_iff_iff, deviceDeleted_of_key left named, deviceDeleted_of_key healthy named]
    exact same device key inside named
  rw [agree]

theorem each_snapshotDevice_moves {database : Database} (healthy : database.Healthy)
    {devices : List DeviceRecord} (entries : Entries devices) (allowDeletedReactivate : Bool) :
    (database.each (upsertSnapshotDevice allowDeletedReactivate) devices).2 =
        database.acceptable devices ∧
      (database.each (upsertSnapshotDevice allowDeletedReactivate) devices).1.Moves fun key =>
        if enters devices key = true ∧ database.life key ≠ .tombstoned then .active
        else database.life key := by
  induction devices generalizing database with
  | nil =>
      refine ⟨rfl, healthy, ?_⟩
      intro key
      simp [each_nil, enters]
  | cons device devices ih =>
      rcases entries device List.mem_cons_self with ⟨enabled, key, named⟩
      have later : Entries devices := fun other inside =>
        entries other (List.mem_cons_of_mem device inside)
      have step := upsertSnapshotDevice_moves healthy named enabled allowDeletedReactivate
      have rest := ih step.2.healthy later
      have same := acceptable_of_tombstoned healthy step.2.healthy later (by
        intro _ other _ _
        rw [step.2.lives other]
        split
        · rename_i entered
          constructor
          · intro gone
            cases gone
          · intro gone
            exact absurd gone entered.2
        · rfl)
      rw [each_cons, rest.1, step.1, same]
      refine ⟨?_, rest.2.healthy, ?_⟩
      · rw [acceptable, acceptable, List.all_cons, Bool.and_comm]
      · intro other
        simp only [rest.2.lives other, step.2.lives other, enters_cons device devices other]
        by_cases gone : database.life other = .tombstoned
        · simp [gone]
        · by_cases first : enters [device] other = true
          · simp [first, gone]
          · simp [first]

theorem upsertSnapshotEntries_moves {database : Database} (healthy : database.Healthy)
    {gatewayId : String} (gateway : gatewayId ≠ "") {snapshot : ConfigSnapshot}
    (entries : Entries (snapshot.devices.filter (ownEntry gatewayId)))
    (allowDeletedReactivate : Bool) :
    (database.upsertSnapshotEntries gatewayId snapshot allowDeletedReactivate).2 =
        database.acceptable (snapshot.devices.filter (ownEntry gatewayId)) ∧
      (database.upsertSnapshotEntries gatewayId snapshot allowDeletedReactivate).1.Moves fun key =>
        if enters (snapshot.devices.filter (ownEntry gatewayId)) key = true ∧
            database.life key ≠ .tombstoned then .active
        else database.life key := by
  have ports : (database.each upsertGatewayPort (snapshot.ports.filter (ownPort gatewayId))).2 =
        true ∧
      (database.each upsertGatewayPort (snapshot.ports.filter (ownPort gatewayId))).1.Moves
        database.life := by
    apply each_moves_same healthy
    intro database port inside healthy
    have own := (List.mem_filter.mp inside).2
    rw [ownPort, Bool.and_eq_true, decide_eq_true_eq, decide_eq_true_eq] at own
    exact upsertGatewayPort_moves healthy (own.1 ▸ gateway) own.2
  have devices := each_snapshotDevice_moves ports.2.healthy entries allowDeletedReactivate
  have same := acceptable_of_tombstoned healthy ports.2.healthy entries
    (fun _ key _ _ => by rw [ports.2.lives key])
  unfold upsertSnapshotEntries
  simp only [ports.1, devices.1, same, Bool.and_true]
  have lives := devices.2
  simp only [ports.2.lives] at lives
  split
  · exact ⟨rfl, lives⟩
  · have points := savePointConfigs_moves devices.2.healthy (snapshot.pointConfigs.filter
      (knowsConfig ((database.each upsertGatewayPort
        (snapshot.ports.filter (ownPort gatewayId))).1.each
          (upsertSnapshotDevice allowDeletedReactivate)
          (snapshot.devices.filter (ownEntry gatewayId))).1))
    refine ⟨?_, points.2.healthy, ?_⟩
    · rw [points.1, Bool.true_and]
    · intro key
      rw [points.2.lives key, lives.lives key]

/-! ## Whole snapshots -/

/-- The entries of a gateway have keys. -/
theorem entries_own {gatewayId : String} (gateway : gatewayId ≠ "") {devices : List DeviceRecord}
    (enabled : forall device, device ∈ devices -> device.enabled = true) :
    Entries (devices.filter (ownEntry gatewayId)) := by
  intro device inside
  rcases List.mem_filter.mp inside with ⟨listed, own⟩
  simp only [ownEntry, Bool.and_eq_true, decide_eq_true_eq] at own
  refine ⟨enabled device listed, ⟨device.gatewayId, device.portId, device.deviceId, ?_, own.1.2,
    own.2⟩, ?_⟩
  · rw [own.1.1]
    exact gateway
  · exact deviceKey?_eq_some_iff.mpr ⟨rfl, rfl, rfl⟩

/-- A listed device is not missing. -/
theorem not_missing_of_listed {gatewayId : String} {devices : List DeviceRecord}
    {device : DeviceRecord} {key : DeviceKey} (listed : device ∈ devices.filter (ownEntry gatewayId))
    (named : device.key? = some key) : missingFrom gatewayId devices key = false := by
  have same := deviceKey?_eq_some_iff.mp named
  rw [missingFrom, Bool.and_eq_false_iff, Bool.not_eq_false', List.any_eq_true]
  refine Or.inr ⟨device, listed, ?_⟩
  simp [same.2.1, same.2.2]

/-- The lives after a snapshot that nobody has asked for. -/
def snapshotLife (database : Database) (gatewayId : String) (devices : List DeviceRecord)
    (fullSnapshot : Bool) (key : DeviceKey) : Life :=
  if enters (devices.filter (ownEntry gatewayId)) key = true ∧ database.life key ≠ .tombstoned then
    .active
  else if fullSnapshot ∧ database.life key = .active ∧
      missingFrom gatewayId devices key = true then .tombstoned
  else database.life key

theorem upsertGatewayConfigSnapshot_moves {database : Database} (healthy : database.Healthy)
    (nowMs : Int) {gatewayId : String} (gateway : gatewayId ≠ "") {snapshot : ConfigSnapshot}
    (enabled : forall device, device ∈ snapshot.devices -> device.enabled = true)
    (fullSnapshot : Bool) :
    (database.upsertGatewayConfigSnapshot nowMs gatewayId snapshot fullSnapshot).2 =
        database.acceptable (snapshot.devices.filter (ownEntry gatewayId)) ∧
      (database.upsertGatewayConfigSnapshot nowMs gatewayId snapshot fullSnapshot).1.Moves
        (database.snapshotLife gatewayId snapshot.devices fullSnapshot) := by
  have own := entries_own gateway enabled
  unfold upsertGatewayConfigSnapshot
  simp only [healthy.isOpen, Bool.not_true, Bool.false_eq_true, gateway, or_self, if_false]
  cases fullSnapshot with
  | false =>
      have entries := upsertSnapshotEntries_moves healthy gateway own false
      refine ⟨?_, entries.2.healthy, ?_⟩
      · rw [if_neg Bool.false_ne_true, entries.1, Bool.and_true]
      · intro key
        rw [if_neg Bool.false_ne_true, entries.2.lives key, snapshotLife]
        simp
  | true =>
      have removed := each_delete_moves nowMs healthy
        (database.activeKeys.filter (missingFrom gatewayId snapshot.devices))
      have entries := upsertSnapshotEntries_moves removed.2.healthy gateway own false
      have same := acceptable_of_tombstoned healthy removed.2.healthy own (by
        intro device key inside named
        rw [removed.2.lives key, if_neg]
        rintro ⟨missing, -⟩
        have listed := (List.mem_filter.mp missing).2
        rw [not_missing_of_listed inside named] at listed
        cases listed)
      simp only [if_true]
      refine ⟨?_, entries.2.healthy, ?_⟩
      · rw [entries.1, removed.1, Bool.and_true, same]
      · intro key
        rw [entries.2.lives key]
        simp only [removed.2.lives key, List.mem_filter, mem_activeKeys, snapshotLife]
        by_cases entered : enters (snapshot.devices.filter (ownEntry gatewayId)) key = true
        · have kept : missingFrom gatewayId snapshot.devices key = false := by
            rcases List.any_eq_true.mp entered with ⟨device, inside, fits⟩
            rw [Bool.and_eq_true, decide_eq_true_eq] at fits
            exact not_missing_of_listed inside fits.1
          simp [entered, kept]
        · by_cases active : database.life key = .active
          · simp [entered, active]
          · simp [entered, active]

theorem replaceSelectedDeviceConfig_moves {database : Database} (healthy : database.Healthy)
    {gatewayId : String} (gateway : gatewayId ≠ "") {selectedDevices : List SyncSelectedDevice}
    (selected : selectedDevices ≠ []) {snapshot : ConfigSnapshot}
    (enabled : forall device, device ∈ snapshot.devices -> device.enabled = true) :
    (database.replaceSelectedDeviceConfig gatewayId selectedDevices snapshot).2 =
        database.acceptable (snapshot.devices.filter (ownEntry gatewayId)) ∧
      (database.replaceSelectedDeviceConfig gatewayId selectedDevices snapshot).1.Moves
        (database.snapshotLife gatewayId snapshot.devices false) := by
  have own := entries_own gateway enabled
  have some : selectedDevices.isEmpty = false := by
    rw [← Bool.not_eq_true, List.isEmpty_iff]
    exact selected
  unfold replaceSelectedDeviceConfig
  simp only [healthy.isOpen, Bool.not_true, Bool.false_eq_true, gateway, some, or_self, if_false]
  have cleared := moves_transact_others healthy
    (.selectionCleared (selectedKeys gatewayId selectedDevices)) (fun database =>
      { database with
        deviceStatuses := database.deviceStatuses.keepIf fun key _ =>
          !(selectedKeys gatewayId selectedDevices).contains key
        pointConfigs := database.pointConfigs.keepIf fun _ config =>
          !(selectedKeys gatewayId selectedDevices).any fun key =>
            key.gatewayId = config.gatewayId && key.portId = config.portId &&
              key.deviceId = config.deviceId }) rfl rfl rfl
  have entries := upsertSnapshotEntries_moves cleared.2.healthy gateway own true
  have same := acceptable_of_tombstoned healthy cleared.2.healthy own
    (fun _ key _ _ => by rw [cleared.2.lives key])
  rw [if_pos cleared.1]
  refine ⟨?_, entries.2.healthy, ?_⟩
  · rw [entries.1, same]
  · intro key
    rw [entries.2.lives key, cleared.2.lives key, snapshotLife]
    simp

end Database
end Pc
end Imx6Gateway
