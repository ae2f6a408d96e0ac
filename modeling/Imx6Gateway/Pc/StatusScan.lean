import Imx6Gateway.Pc.SnapshotRows

namespace Imx6Gateway
namespace Pc

open Library

/-!
# The scan for silent devices and gateways

Once a second the main loop of `main.cpp` marks in the tables what has been
silent for too long, and pushes snapshots to the user interface if it has
marked something.  The snapshots are taken from the memory, which the scan does
not touch.  What the memory says about a device is what was loaded at the start
or announced since; no message announces a device as offline.
-/

/-- The second argument of the two scans. -/
def kSilenceTimeoutMs : Int := 30000

namespace Database

/-- A statement outside a transaction, with the number of rows it changes. -/
def execute (database : Database) (changed : Nat) (effect : Database -> Database) :
    Database × Nat :=
  let next := { database with outcomes := database.outcomes.tail }
  if database.outcomes.headD true then (effect next, changed) else (next, 0)

/-- The `WHERE` of `markOfflineDevices`. -/
def offlineDue (database : Database) (nowMs timeoutMs : Int) (key : DeviceKey)
    (row : DeviceStatusRow) : Bool :=
  row.status ≠ "offline" && database.activeRow key && 0 < row.lastSeenMs &&
    timeoutMs < nowMs - row.lastSeenMs

def markOffline (nowMs : Int) (row : DeviceStatusRow) : DeviceStatusRow :=
  { row with
    status := "offline"
    lastOfflineMs := nowMs
    statusReason := "telemetry_timeout"
    updateTimeMs := nowMs }

def markOfflineDevices (database : Database) (nowMs timeoutMs : Int) : Database × Nat :=
  if !database.isOpen ∨ nowMs ≤ 0 ∨ timeoutMs ≤ 0 then (database, 0)
  else
    let due := database.offlineDue nowMs timeoutMs
    database.execute (database.deviceStatuses.keepIf due).entries.length fun database =>
      { database with
        deviceStatuses := database.deviceStatuses.updateWhere due (markOffline nowMs) }

/-- The `WHERE` of `markStaleGateways`. -/
def staleDue (nowMs timeoutMs : Int) (_ : String) (gateway : GatewayStatus) : Bool :=
  gateway.status = "online" && 0 < gateway.lastHeartbeatTimeMs &&
    timeoutMs < nowMs - gateway.lastHeartbeatTimeMs

def markStale (nowMs : Int) (gateway : GatewayStatus) : GatewayStatus :=
  { gateway with
    status := "stale"
    updateTimeMs := nowMs }

def markStaleGateways (database : Database) (nowMs timeoutMs : Int) : Database × Nat :=
  if !database.isOpen ∨ nowMs ≤ 0 ∨ timeoutMs ≤ 0 then (database, 0)
  else
    database.execute (database.gatewayStatuses.keepIf (staleDue nowMs timeoutMs)).entries.length
      fun database =>
        { database with
          gatewayStatuses := database.gatewayStatuses.updateWhere (staleDue nowMs timeoutMs)
            (markStale nowMs) }

/-- The row of the device says offline. -/
def rowOffline (database : Database) (device : DeviceRecord) : Bool :=
  match device.key? with
  | none => false
  | some key => (database.deviceStatuses.get key).any fun row => row.status = "offline"

/-- The row of the gateway says stale. -/
def rowStale (database : Database) (gatewayId : String) : Bool :=
  (database.gatewayStatuses.get gatewayId).any fun row => row.status = "stale"

end Database

namespace DataService

def getDeviceRegistrySnapshot (service : DataService) : List DeviceRecord :=
  service.deviceRegistry.values

def getGatewayStatusSnapshot (service : DataService) : List GatewayStatus :=
  service.gatewayStatuses.values

end DataService

/-- The snapshots that one scan pushes. -/
structure StatusPush where
  devices : Option (List DeviceRecord)
  gateways : Option (List GatewayStatus)

/-- The part of the main loop that looks for silence. -/
def PcData.statusScan (nowMs : Int) (hasClient : Bool) (state : PcData) : PcData × StatusPush :=
  if !state.database.isOpen then (state, ⟨none, none⟩)
  else
    let offline := state.database.markOfflineDevices nowMs kSilenceTimeoutMs
    let stale := offline.1.markStaleGateways nowMs kSilenceTimeoutMs
    ({ state with database := stale.1 },
      ⟨if 0 < offline.2 ∧ hasClient then some state.service.getDeviceRegistrySnapshot else none,
        if 0 < stale.2 ∧ hasClient then some state.service.getGatewayStatusSnapshot else none⟩)

/-- Pc_data with its scan. -/
inductive StatusEvent where
  | pc (event : PcEvent)
  | scan (nowMs : Int) (hasClient : Bool)
deriving DecidableEq, Repr

def statusSystem (pc : JsonCodec) (stod : String -> Option Rat) (database : Database)
    (startMs : Int) : TransitionSystem PcData StatusEvent where
  initial := seeded database startMs
  step state
    | .pc event => (state.step pc stod event).1
    | .scan nowMs hasClient => (state.statusScan nowMs hasClient).1

/-! ## What the memory says about a device -/

/-- The records that an effect may enter into the memory. -/
def RegistryEffect.announced : RegistryEffect -> List DeviceRecord
  | .snapshot _ _ entries _ => entries.devices
  | .selection _ _ entries => entries.devices
  | .register _ details => [details.device]
  | _ => []

theorem status_parseConfigSnapshot {nowMs : Int} {root : Json} {pendingGatewayId : String}
    {selected : List SyncSelectedDevice} {snapshot : ConfigSnapshot}
    (parsed : parseConfigSnapshot nowMs root pendingGatewayId selected = some snapshot)
    {device : DeviceRecord} (listed : device ∈ snapshot.devices) : device.status ≠ "offline" := by
  unfold parseConfigSnapshot at parsed
  dsimp only at parsed
  split at parsed
  · cases parsed
  · split at parsed
    · cases parsed
    · injection parsed with same
      rw [← same, List.mem_map] at listed
      rcases listed with ⟨entry, inside, rfl⟩
      rcases List.mem_flatMap.mp inside with ⟨port, -, read⟩
      rcases List.mem_map.mp read with ⟨value, -, rfl⟩
      dsimp only [snapshotDevice]
      split
      · decide
      · decide

theorem status_parseDeviceRegister {nowMs : Int} {root : Json} {details : DeviceDetails}
    (parsed : parseDeviceRegister nowMs root = some details) :
    details.device.status ≠ "offline" := by
  have online : ("online" : String) ≠ "offline" := by decide
  unfold parseDeviceRegister at parsed
  dsimp only at parsed
  split at parsed
  · cases parsed
  · split at parsed
    · injection parsed with same
      rw [← same]
      exact online
    · injection parsed with same
      rw [← same]
      exact online

/-- No event announces a device as offline. -/
theorem effectOf_announced (pc : JsonCodec) (stod : String -> Option Rat) (state : PcData)
    (event : PcEvent) {device : DeviceRecord}
    (listed : device ∈ (PcData.effectOf pc stod state event).announced) :
    device.status ≠ "offline" := by
  have read := PcData.effectOf_readFrom pc state stod event
  generalize PcData.effectOf pc stod state event = effect at read listed
  cases read with
  | snapshot nowMs topic payload named parsed => exact status_parseConfigSnapshot parsed listed
  | selection nowMs topic payload named asked parsed =>
      exact status_parseConfigSnapshot parsed listed
  | registered nowMs topic payload parsed =>
      rw [List.mem_singleton.mp listed]
      exact status_parseDeviceRegister parsed
  | nothing event => cases listed
  | removed nowMs topic payload gatewayId portId deviceId => cases listed
  | added nowMs topic payload gatewayId portId deviceId => cases listed
  | deviceDeleted nowMs text gatewayId portId deviceId => cases listed
  | masterDeleted nowMs text gatewayId portId => cases listed
  | cleared nowMs text => cases listed
  | telemetry nowMs pack => cases listed

/-- A record of the memory was there or is announced by the event. -/
theorem run_registry_origin {state : PcData} {effect : RegistryEffect} (valid : effect.WellFormed)
    {text : String} {device : DeviceRecord}
    (found : (effect.run state).service.deviceRegistry.get text = some device) :
    state.service.deviceRegistry.get text = some device ∨ device ∈ effect.announced := by
  have old : forall after : DataService, after.deviceRegistry = state.service.deviceRegistry ->
      after.deviceRegistry.get text = some device ->
      state.service.deviceRegistry.get text = some device ∨ device ∈ effect.announced := by
    intro after same here
    rw [same] at here
    exact Or.inl here
  cases effect with
  | none => exact Or.inl found
  | delete nowMs gatewayId portId deviceId =>
      dsimp only [RegistryEffect.run, PcData.deleteDevice] at found
      split at found
      · exact old _ (DataService.removeDeviceData_shrinks _ _ _ _ _).registry found
      · exact Or.inl found
  | deleteMaster nowMs gatewayId portId =>
      exact old _ (DataService.removeMasterData_shrinks _ _ _ _).registry found
  | restore nowMs gatewayId portId deviceId =>
      exact old _ (DataService.forgetRemovedDevice_same _ _ _ _ _).registry found
  | clear =>
      dsimp only [RegistryEffect.run, PcData.clearAll] at found
      split at found
      · cases found
      · exact Or.inl found
  | snapshot nowMs gatewayId entries fullSnapshot =>
      have own := Database.entries_own valid.1 valid.2
      dsimp only [RegistryEffect.run, PcData.storeSnapshot] at found
      split at found
      · rcases (DataService.replaceGatewayRegistry_replaced _ valid.1 entries fullSnapshot
          fun device inside => (own device inside).2).found text device found with
          ⟨listed, -⟩ | ⟨here, -⟩
        · exact Or.inr (List.mem_filter.mp listed).1
        · exact old _ (DataService.removed_shrinks _ _ _ _).registry here
      · exact Or.inl found
  | selection nowMs pending entries =>
      have own := Database.entries_own valid.1 valid.2.2
      dsimp only [RegistryEffect.run, PcData.storeSelection] at found
      split at found
      · rcases (DataService.replaceGatewayRegistry_replaced _ valid.1 entries false
          fun device inside => (own device inside).2).found text device found with
          ⟨listed, -⟩ | ⟨here, -⟩
        · exact Or.inr (List.mem_filter.mp listed).1
        · exact old _ (DataService.forgotten_same _ _ _).registry here
      · exact Or.inl found
  | register nowMs details =>
      have pruned := DataService.isRemovedDevice_same state.service nowMs details.device.gatewayId
        details.device.portId details.device.deviceId
      dsimp only [RegistryEffect.run, PcData.storeDevice] at found
      split_ifs at found with refused closed known stored
      · exact Or.inl found
      · exact Or.inl found
      · exact old _ pruned.registry found
      · rw [not_not] at refused
        rcases valid refused with ⟨-, -, own, named⟩
        have entered := DataService.rememberDeviceRegistry_keyed
          (state.service.isRemovedDevice nowMs details.device.gatewayId details.device.portId
            details.device.deviceId).1 named
        dsimp only at found
        rw [entered.1, Table.get_put] at found
        split at found
        · injection found with same
          exact Or.inr (List.mem_singleton.mpr same.symm)
        · exact old _ pruned.registry found
      · exact old _ pruned.registry found
  | points nowMs received =>
      exact old _ (DataService.handleTelemetryPoints_registry state.service nowMs received).1 found

section Scan

variable (pc : JsonCodec) (stod : String -> Option Rat) (database : Database) (startMs : Int)

/-- A device that the memory shows offline was loaded so. -/
def OfflineLoaded (state : PcData) : Prop :=
  forall text device, state.service.deviceRegistry.get text = some device ->
    device.status = "offline" ->
    (seeded database startMs).service.deviceRegistry.get text = some device

theorem OfflineLoaded.step {state : PcData} (loaded : OfflineLoaded database startMs state)
    (event : PcEvent) : OfflineLoaded database startMs (state.step pc stod event).1 := by
  intro text device found offline
  rw [(PcData.step_effect pc stod state event).service.registry] at found
  rcases run_registry_origin (PcData.effectOf_wellFormed pc stod state event) found with
    old | announced
  · exact loaded text device old offline
  · exact absurd offline (effectOf_announced pc stod state event announced)

theorem PcData.statusScan_service (state : PcData) (nowMs : Int) (hasClient : Bool) :
    (state.statusScan nowMs hasClient).1.service = state.service := by
  unfold statusScan
  split
  · rfl
  · rfl

theorem offlineLoaded_run (events : List StatusEvent) :
    OfflineLoaded database startMs ((statusSystem pc stod database startMs).run events) := by
  refine (statusSystem pc stod database startMs).invariant_everywhere ?_ ?_ events
  · intro text device found _
    exact found
  · intro state event loaded
    cases event with
    | pc event => exact loaded.step pc stod database startMs event
    | scan nowMs hasClient =>
        intro text device found offline
        change (state.statusScan nowMs hasClient).1.service.deviceRegistry.get text = _ at found
        rw [state.statusScan_service] at found
        exact loaded text device found offline

end Scan

/-! ## What the scan marks -/

namespace Database

/-- The scan marks a device: the statement runs, succeeds and finds a row. -/
def marksOffline (database : Database) (nowMs : Int) : Bool :=
  database.isOpen && 0 < nowMs && database.outcomes.headD true &&
    database.deviceStatuses.any (database.offlineDue nowMs kSilenceTimeoutMs)

/-- The same for the gateways, whose statement is the second one. -/
def marksStale (database : Database) (nowMs : Int) : Bool :=
  database.isOpen && 0 < nowMs && database.outcomes.tail.headD true &&
    database.gatewayStatuses.any (staleDue nowMs kSilenceTimeoutMs)

/-- The row of the device is offline, or the scan will mark it. -/
def silent (database : Database) (nowMs : Int) (device : DeviceRecord) : Bool :=
  match device.key? with
  | none => false
  | some key => (database.deviceStatuses.get key).any fun row =>
      row.status = "offline" || database.offlineDue nowMs kSilenceTimeoutMs key row

/-- The row of the gateway is stale, or the scan will mark it. -/
def quiet (database : Database) (nowMs : Int) (gatewayId : String) : Bool :=
  (database.gatewayStatuses.get gatewayId).any fun row =>
    row.status = "stale" || staleDue nowMs kSilenceTimeoutMs gatewayId row

theorem length_keepIf_pos {Key Value : Type} [DecidableEq Key] (keep : Key -> Value -> Bool)
    (table : Table Key Value) :
    0 < (table.keepIf keep).entries.length ↔ table.any keep = true := by
  rw [Table.keepIf, Table.any, List.length_filter_pos_iff, List.any_eq_true]

theorem markOfflineDevices_changed (database : Database) (nowMs : Int) :
    0 < (database.markOfflineDevices nowMs kSilenceTimeoutMs).2 ↔
      database.marksOffline nowMs = true := by
  have window : ¬ kSilenceTimeoutMs ≤ 0 := by decide
  unfold markOfflineDevices marksOffline execute
  cases opened : database.isOpen with
  | false => simp
  | true =>
      by_cases started : nowMs ≤ 0
      · rw [if_pos (Or.inr (Or.inl started)), decide_eq_false (not_lt.mpr started)]
        simp
      · rw [if_neg (by simp [started, window]), decide_eq_true (not_le.mp started), Bool.true_and,
          Bool.true_and, Bool.and_eq_true]
        dsimp only
        split
        · rename_i done
          rw [length_keepIf_pos, and_iff_right done]
        · rename_i failed
          refine iff_of_false (Nat.lt_irrefl 0) ?_
          exact fun both => failed both.1

theorem markOfflineDevices_marks {database : Database} {nowMs : Int}
    (marks : database.marksOffline nowMs = true) :
    (database.markOfflineDevices nowMs kSilenceTimeoutMs).1.deviceStatuses =
      database.deviceStatuses.updateWhere (database.offlineDue nowMs kSilenceTimeoutMs)
        (markOffline nowMs) := by
  have window : ¬ kSilenceTimeoutMs ≤ 0 := by decide
  unfold marksOffline at marks
  rw [Bool.and_eq_true, Bool.and_eq_true, Bool.and_eq_true, decide_eq_true_eq] at marks
  unfold markOfflineDevices execute
  rw [if_neg (by simp [marks.1.1.1, not_le.mpr marks.1.1.2, window]), if_pos marks.1.2]

theorem markOfflineDevices_kept (database : Database) (nowMs : Int) :
    (database.markOfflineDevices nowMs kSilenceTimeoutMs).1.gatewayStatuses =
        database.gatewayStatuses ∧
      (database.markOfflineDevices nowMs kSilenceTimeoutMs).1.isOpen = database.isOpen := by
  unfold markOfflineDevices execute
  split
  · exact ⟨rfl, rfl⟩
  · dsimp only
    split
    · exact ⟨rfl, rfl⟩
    · exact ⟨rfl, rfl⟩

theorem markStaleGateways_kept (database : Database) (nowMs : Int) :
    (database.markStaleGateways nowMs kSilenceTimeoutMs).1.deviceStatuses =
      database.deviceStatuses := by
  unfold markStaleGateways execute
  split
  · rfl
  · dsimp only
    split
    · rfl
    · rfl

/-- The first statement has used up one outcome, if the scan runs at all. -/
theorem markOfflineDevices_outcomes {database : Database} {nowMs : Int}
    (opened : database.isOpen = true) (started : 0 < nowMs) :
    (database.markOfflineDevices nowMs kSilenceTimeoutMs).1.outcomes = database.outcomes.tail := by
  have window : ¬ kSilenceTimeoutMs ≤ 0 := by decide
  unfold markOfflineDevices execute
  rw [if_neg (by simp [opened, not_le.mpr started, window])]
  dsimp only
  split
  · rfl
  · rfl

theorem markStaleGateways_changed (database : Database) (nowMs : Int) :
    0 < ((database.markOfflineDevices nowMs kSilenceTimeoutMs).1.markStaleGateways nowMs
        kSilenceTimeoutMs).2 ↔ database.marksStale nowMs = true := by
  have window : ¬ kSilenceTimeoutMs ≤ 0 := by decide
  have kept := database.markOfflineDevices_kept nowMs
  have outcomes := @markOfflineDevices_outcomes database nowMs
  generalize (database.markOfflineDevices nowMs kSilenceTimeoutMs).1 = first at kept outcomes ⊢
  unfold markStaleGateways marksStale execute
  rw [kept.1, kept.2]
  cases opened : database.isOpen with
  | false => simp
  | true =>
      by_cases started : nowMs ≤ 0
      · rw [if_pos (Or.inr (Or.inl started)), decide_eq_false (not_lt.mpr started)]
        simp
      · rw [if_neg (by simp [started, window]), decide_eq_true (not_le.mp started), Bool.true_and,
          Bool.true_and, Bool.and_eq_true, outcomes opened (not_le.mp started)]
        dsimp only
        split
        · rename_i done
          rw [length_keepIf_pos, and_iff_right done]
        · rename_i failed
          refine iff_of_false (Nat.lt_irrefl 0) ?_
          exact fun both => failed both.1

theorem markStaleGateways_marks {database : Database} {nowMs : Int}
    (marks : database.marksStale nowMs = true) :
    ((database.markOfflineDevices nowMs kSilenceTimeoutMs).1.markStaleGateways nowMs
        kSilenceTimeoutMs).1.gatewayStatuses =
      database.gatewayStatuses.updateWhere (staleDue nowMs kSilenceTimeoutMs) (markStale nowMs) := by
  have window : ¬ kSilenceTimeoutMs ≤ 0 := by decide
  have kept := database.markOfflineDevices_kept nowMs
  unfold marksStale at marks
  rw [Bool.and_eq_true, Bool.and_eq_true, Bool.and_eq_true, decide_eq_true_eq] at marks
  have outcomes := markOfflineDevices_outcomes marks.1.1.1 marks.1.1.2
  generalize (database.markOfflineDevices nowMs kSilenceTimeoutMs).1 = first at kept outcomes ⊢
  unfold markStaleGateways execute
  rw [if_neg (by simp [kept.2, marks.1.1.1, not_le.mpr marks.1.1.2, window]), outcomes,
    if_pos marks.1.2, ← kept.1]

theorem rowOffline_after {database : Database} {nowMs : Int}
    (marks : database.marksOffline nowMs = true) (device : DeviceRecord) :
    ((database.markOfflineDevices nowMs kSilenceTimeoutMs).1.markStaleGateways nowMs
      kSilenceTimeoutMs).1.rowOffline device = database.silent nowMs device := by
  unfold rowOffline silent
  rw [markStaleGateways_kept, markOfflineDevices_marks marks]
  cases device.key? with
  | none => rfl
  | some key =>
      dsimp only
      rw [Table.get_updateWhere]
      cases database.deviceStatuses.get key with
      | none => rfl
      | some row =>
          rw [Option.map_some, Option.any_some, Option.any_some]
          cases database.offlineDue nowMs kSilenceTimeoutMs key row with
          | false => simp
          | true => simp [markOffline]

theorem rowStale_after {database : Database} {nowMs : Int}
    (marks : database.marksStale nowMs = true) (gatewayId : String) :
    ((database.markOfflineDevices nowMs kSilenceTimeoutMs).1.markStaleGateways nowMs
      kSilenceTimeoutMs).1.rowStale gatewayId = database.quiet nowMs gatewayId := by
  unfold rowStale quiet
  rw [markStaleGateways_marks marks, Table.get_updateWhere]
  cases database.gatewayStatuses.get gatewayId with
  | none => rfl
  | some row =>
      rw [Option.map_some, Option.any_some, Option.any_some]
      cases staleDue nowMs kSilenceTimeoutMs gatewayId row with
      | false => simp
      | true => simp [markStale]

end Database

/-! ## What the snapshots show -/

/-- The snapshots show offline and stale what the tables say. -/
structure PushAgrees (after : Database) (push : StatusPush) : Prop where
  devices : forall devices, push.devices = some devices -> forall device, device ∈ devices ->
    (device.status = "offline" ↔ after.rowOffline device = true)
  gateways : forall gateways, push.gateways = some gateways -> forall gateway, gateway ∈ gateways ->
    (gateway.status = "stale" ↔ after.rowStale gateway.gatewayId = true)

/-- The snapshots pushed by the event, if it is a scan. -/
def StatusShown (state : PcData) : StatusEvent -> Prop
  | .pc _ => True
  | .scan nowMs hasClient => PushAgrees (state.statusScan nowMs hasClient).1.database
      (state.statusScan nowMs hasClient).2

section Condition

variable (database : Database) (startMs : Int)

/-- The record was loaded as offline at the start, and is still that. -/
def LoadedOffline (text : String) (device : DeviceRecord) : Prop :=
  (seeded database startMs).service.deviceRegistry.get text = some device ∧
    device.status = "offline"

/-- If the scan marks a device, the devices in the memory that are silent are
those that were loaded as offline; if it marks a gateway, the gateways that are
quiet are those that have announced themselves, or were loaded, as stale. -/
structure ScanCondition (state : PcData) (nowMs : Int) : Prop where
  devices : state.database.marksOffline nowMs = true ->
    forall text device, state.service.deviceRegistry.get text = some device ->
      (LoadedOffline database startMs text device ↔ state.database.silent nowMs device = true)
  gateways : state.database.marksStale nowMs = true ->
    forall gateway, gateway ∈ state.service.gatewayStatuses.values ->
      (gateway.status = "stale" ↔ state.database.quiet nowMs gateway.gatewayId = true)

def StatusCondition (state : PcData) : StatusEvent -> Prop
  | .pc _ => True
  | .scan _ false => True
  | .scan nowMs true => ScanCondition database startMs state nowMs

theorem statusScan_closed {state : PcData} (closed : state.database.isOpen = false) (nowMs : Int)
    (hasClient : Bool) : state.statusScan nowMs hasClient = (state, ⟨none, none⟩) := by
  unfold PcData.statusScan
  rw [closed, Bool.not_false, if_pos rfl]

theorem statusScan_open {state : PcData} (opened : state.database.isOpen = true) (nowMs : Int)
    (hasClient : Bool) :
    (state.statusScan nowMs hasClient).1.database =
        ((state.database.markOfflineDevices nowMs kSilenceTimeoutMs).1.markStaleGateways nowMs
          kSilenceTimeoutMs).1 ∧
      (state.statusScan nowMs hasClient).2 =
        ⟨if state.database.marksOffline nowMs = true ∧ hasClient = true then
            some state.service.getDeviceRegistrySnapshot else none,
          if state.database.marksStale nowMs = true ∧ hasClient = true then
            some state.service.getGatewayStatusSnapshot else none⟩ := by
  unfold PcData.statusScan
  rw [opened, Bool.not_true, if_neg Bool.false_ne_true]
  dsimp only
  refine ⟨rfl, ?_⟩
  simp only [state.database.markOfflineDevices_changed nowMs,
    state.database.markStaleGateways_changed nowMs]

/-- Without a user interface, and on a closed database, nothing is pushed. -/
theorem pushAgrees_nothing (after : Database) : PushAgrees after ⟨none, none⟩ where
  devices _ pushed := by cases pushed
  gateways _ pushed := by cases pushed

theorem scanCondition_closed {state : PcData} (closed : state.database.isOpen = false)
    (nowMs : Int) : ScanCondition database startMs state nowMs where
  devices marks := by simp [Database.marksOffline, closed] at marks
  gateways marks := by simp [Database.marksStale, closed] at marks

theorem pushAgrees_iff {state : PcData} (loaded : OfflineLoaded database startMs state)
    (opened : state.database.isOpen = true) (nowMs : Int) :
    PushAgrees (state.statusScan nowMs true).1.database (state.statusScan nowMs true).2 ↔
      ScanCondition database startMs state nowMs := by
  have scan := statusScan_open opened nowMs true
  rw [scan.1, scan.2]
  constructor
  · rintro ⟨devices, gateways⟩
    refine ⟨?_, ?_⟩
    · intro marks text device found
      have shown := devices _ (if_pos ⟨marks, rfl⟩) device (Table.mem_values.mpr ⟨text, found⟩)
      rw [Database.rowOffline_after marks] at shown
      rw [← shown]
      exact ⟨fun both => both.2, fun offline => ⟨loaded text device found offline, offline⟩⟩
    · intro marks gateway listed
      have shown := gateways _ (if_pos ⟨marks, rfl⟩) gateway listed
      rw [Database.rowStale_after marks] at shown
      exact shown
  · rintro ⟨devices, gateways⟩
    refine ⟨?_, ?_⟩
    · intro pushed same device listed
      dsimp only at same
      split at same
      · rename_i both
        rw [← Option.some.inj same] at listed
        rcases Table.mem_values.mp listed with ⟨text, found⟩
        rw [Database.rowOffline_after both.1, ← devices both.1 text device found]
        exact ⟨fun offline => ⟨loaded text device found offline, offline⟩, fun both => both.2⟩
      · cases same
    · intro pushed same gateway listed
      dsimp only at same
      split at same
      · rename_i both
        rw [← Option.some.inj same] at listed
        rw [Database.rowStale_after both.1]
        exact gateways both.1 gateway listed
      · cases same

theorem statusShown_iff {state : PcData} (loaded : OfflineLoaded database startMs state)
    (event : StatusEvent) :
    StatusShown state event ↔ StatusCondition database startMs state event := by
  cases event with
  | pc event => exact Iff.rfl
  | scan nowMs hasClient =>
      change PushAgrees (state.statusScan nowMs hasClient).1.database
        (state.statusScan nowMs hasClient).2 ↔ _
      cases opened : state.database.isOpen with
      | false =>
          rw [statusScan_closed opened]
          refine iff_of_true (pushAgrees_nothing _) ?_
          cases hasClient with
          | false => trivial
          | true => exact scanCondition_closed database startMs opened nowMs
      | true =>
          cases hasClient with
          | false =>
              rw [(statusScan_open opened nowMs false).2, if_neg (by simp), if_neg (by simp)]
              exact iff_of_true (pushAgrees_nothing _) trivial
          | true => exact pushAgrees_iff database startMs loaded opened nowMs

end Condition

/-- The scans of a run show what the tables say exactly if every scan with a
user interface meets the condition. -/
theorem status_shown_run_iff (pc : JsonCodec) (stod : String -> Option Rat)
    (database : Database) (startMs : Int) (events : List StatusEvent) :
    (forall before event after, events = before ++ event :: after ->
      StatusShown ((statusSystem pc stod database startMs).run before) event) ↔
      (statusSystem pc stod database startMs).Admissible (StatusCondition database startMs)
        events := by
  have step := fun before event => statusShown_iff database startMs
    (offlineLoaded_run pc stod database startMs before) event
  rw [TransitionSystem.Admissible, TransitionSystem.admissibleFrom_iff]
  constructor
  · intro shown before event after split
    exact (step before event).mp (shown before event after split)
  · intro meets before event after split
    exact (step before event).mpr (meets before event after split)

/-- A device that was last heard of long ago. -/
def silentDatabase : Database :=
  { soleDatabase with
    deviceStatuses := Table.put ∅ soleKey
      { status := "online"
        lastSeenMs := 1
        lastOfflineMs := 0
        statusReason := ""
        updateTimeMs := 1 } }

/-- The scan marks it offline and shows it as it was loaded. -/
theorem silent_not_shown :
    ¬ StatusShown ((statusSystem (JsonText.codec false) (fun _ => none) silentDatabase 0).run [])
      (.scan 40000 true) := by
  intro shown
  have marked := shown.devices _ rfl _ (List.mem_singleton.mpr rfl)
  revert marked
  decide +kernel

end Pc
end Imx6Gateway
