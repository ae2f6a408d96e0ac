import Imx6Gateway.Library.Transition
import Imx6Gateway.Pc.TelemetryHandler

namespace Imx6Gateway
namespace Pc

open Library

/-!
# The writer of the telemetry

Accepted points go to the memory, and they wait for the database in a map
under their identifiers.  The writer takes the whole map at once and saves it
on its own thread, so that messages can arrive between the two.  A run is any
order of messages and steps of the writer.
-/

section Points

variable (pc : JsonCodec) (stod : String -> Option Rat) (nowMs : Int)

/-- The points of a message that the handler hands to the memory and to the writer. -/
def PcData.acceptedPoints (state : PcData) (message : TelemetryMessage) : List TelemetryPoint :=
  match parseJson stod pc nowMs message.payload with
  | .error _ => []
  | .ok pack =>
      if PcData.acceptsPack state.service message.topic pack then state.receivedPoints pc nowMs pack
      else []

theorem buildPointId_ne_empty (pack : TelemetryPack) (device : DeviceData) (pointKey : String) :
    buildPointId pack device pointKey ≠ "" := by
  intro empty
  have characters := congrArg String.toList empty
  simp [buildPointId] at characters

theorem pointId_of_received {state : PcData} {pack : TelemetryPack} {point : TelemetryPoint}
    (received : point ∈ state.receivedPoints pc nowMs pack) : point.pointId ≠ "" := by
  rcases List.mem_flatMap.mp (List.mem_filter.mp received).1 with ⟨device, -, inside⟩
  rw [(of_mem_devicePoints inside).2.2]
  exact buildPointId_ne_empty _ device point.pointKey

theorem pointId_of_accepted {state : PcData} {message : TelemetryMessage} {point : TelemetryPoint}
    (accepted : point ∈ state.acceptedPoints pc stod nowMs message) : point.pointId ≠ "" := by
  unfold PcData.acceptedPoints at accepted
  split at accepted
  · exact absurd accepted List.not_mem_nil
  · split at accepted
    · exact pointId_of_received pc nowMs accepted
    · exact absurd accepted List.not_mem_nil

/-- A message leaves the program as it is, or its points go to the memory and wait. -/
theorem handleTelemetryMessage_cases (state : PcData) (message : TelemetryMessage) :
    state.acceptedPoints pc stod nowMs message = [] ∧
        (state.handleTelemetryMessage pc nowMs stod message).1 = state ∨
      exists requests, (state.handleTelemetryMessage pc nowMs stod message).1 =
        { state with
          service := state.service.handleTelemetryPoints nowMs
            (state.acceptedPoints pc stod nowMs message)
          lastConfigRequestMs := requests
          pendingDbPoints := Table.putAll TelemetryPoint.pointId id
            (state.acceptedPoints pc stod nowMs message) state.pendingDbPoints } := by
  unfold PcData.handleTelemetryMessage PcData.acceptedPoints
  cases parseJson stod pc nowMs message.payload with
  | error reason => exact Or.inl ⟨rfl, rfl⟩
  | ok pack =>
      dsimp only
      by_cases accepts : PcData.acceptsPack state.service message.topic pack = true
      · right
        have all : ((state.receivedPoints pc nowMs pack).filter fun point =>
            point.pointId ≠ "") = state.receivedPoints pc nowMs pack := by
          rw [List.filter_eq_self]
          intro point received
          exact decide_eq_true (pointId_of_received pc nowMs received)
        rw [if_neg (by simp [accepts]), if_pos accepts, all]
        exact ⟨_, rfl⟩
      · left
        refine ⟨if_neg accepts, ?_⟩
        rw [if_pos (by simp [accepts])]

/-- What the loop over a pack finds out about its devices. -/
def PackScan.found (scan : PackScan) :
    List DeviceData × Table String String × Table String (List String) :=
  (scan.devices, scan.deviceTypes, scan.pointKeys)

/-- The requests for configurations do not matter for what is found out. -/
theorem found_scanDevice (service : DataService) (pack : TelemetryPack) (device : DeviceData)
    {scan other : PackScan} (same : scan.found = other.found) :
    (PcData.scanDevice pc nowMs service pack scan device).found =
      (PcData.scanDevice pc nowMs service pack other device).found := by
  have requested (scan : PackScan) :
      (PcData.requestConfig pc nowMs pack.site scan).found = scan.found := by
    unfold PcData.requestConfig
    dsimp only
    split_ifs
    · rfl
    · rfl
  have devices : scan.devices = other.devices := congrArg Prod.fst same
  have types : scan.deviceTypes = other.deviceTypes := congrArg (fun found => found.2.1) same
  have keys : scan.pointKeys = other.pointKeys := congrArg (fun found => found.2.2) same
  unfold PcData.scanDevice
  dsimp only
  split_ifs
  · exact same
  · exact same
  · rw [requested, requested, same]
  · exact same
  · rw [PackScan.found, PackScan.found, devices, types, keys]

theorem found_foldl_scanDevice (service : DataService) (pack : TelemetryPack)
    (devices : List DeviceData) {scan other : PackScan} (same : scan.found = other.found) :
    (devices.foldl (PcData.scanDevice pc nowMs service pack) scan).found =
      (devices.foldl (PcData.scanDevice pc nowMs service pack) other).found := by
  induction devices generalizing scan other with
  | nil => exact same
  | cons device devices ih => exact ih (found_scanDevice pc nowMs service pack device same)

/-- The memory without its points. -/
def DataService.registry (service : DataService) : DataService :=
  { service with snapshot := ∅ }

theorem receivedPoints_congr {state other : PcData}
    (same : state.service.registry = other.service.registry) (pack : TelemetryPack) :
    state.receivedPoints pc nowMs pack = other.receivedPoints pc nowMs pack := by
  have scanned : (state.scanPack pc nowMs pack).found = (other.scanPack pc nowMs pack).found := by
    change (pack.devices.foldl (PcData.scanDevice pc nowMs
        (state.service.registry.pruneExpiredRemovedDevices nowMs) pack) _).found =
      (pack.devices.foldl (PcData.scanDevice pc nowMs
        (other.service.registry.pruneExpiredRemovedDevices nowMs) pack) _).found
    rw [same]
    apply found_foldl_scanDevice
    rfl
  have devices := congrArg Prod.fst scanned
  have keeps (point : TelemetryPoint) :
      PcData.keepsPoint state.service (state.scanPack pc nowMs pack) point =
        PcData.keepsPoint other.service (other.scanPack pc nowMs pack) point := by
    have types := congrArg (fun found => found.2.1) scanned
    have keys := congrArg (fun found => found.2.2) scanned
    change PcData.keepsPoint state.service.registry ⟨[], (state.scanPack pc nowMs pack).found.2.1,
        (state.scanPack pc nowMs pack).found.2.2, ∅, []⟩ point =
      PcData.keepsPoint other.service.registry ⟨[], (other.scanPack pc nowMs pack).found.2.1,
        (other.scanPack pc nowMs pack).found.2.2, ∅, []⟩ point
    rw [types, keys, same]
  unfold PcData.receivedPoints
  dsimp only
  change ((toTelemetryPoints { pack with devices := (state.scanPack pc nowMs pack).found.1 }).filter
      _) = (toTelemetryPoints { pack with devices := (other.scanPack pc nowMs pack).found.1 }).filter
      _
  rw [devices]
  exact List.filter_congr fun point _ => keeps point

/-- Which points a message brings does not depend on the points that are stored. -/
theorem acceptedPoints_congr {state other : PcData}
    (same : state.service.registry = other.service.registry) (message : TelemetryMessage) :
    state.acceptedPoints pc stod nowMs message = other.acceptedPoints pc stod nowMs message := by
  unfold PcData.acceptedPoints
  cases parseJson stod pc nowMs message.payload with
  | error reason => rfl
  | ok pack =>
      change (if PcData.acceptsPack state.service.registry message.topic pack then
          state.receivedPoints pc nowMs pack else []) =
        if PcData.acceptsPack other.service.registry message.topic pack then
          other.receivedPoints pc nowMs pack else []
      rw [same, receivedPoints_congr pc nowMs same pack]

end Points

/-! ## Saving points -/

namespace Database

/-- The device of the point is active. -/
def Knows (database : Database) (point : TelemetryPoint) : Prop :=
  database.deviceExists point.site.gatewayId point.site.portId point.deviceId = true

instance (database : Database) (point : TelemetryPoint) : Decidable (database.Knows point) :=
  inferInstanceAs (Decidable (_ = true))

/-- The database is open, and its transactions are committed. -/
structure Saves (database : Database) : Prop where
  isOpen : database.isOpen = true
  outcomes : forall outcome, outcome ∈ database.outcomes -> outcome = true

/-- What the loop over the points changes. -/
theorem foldl_saveTelemetryPoint (nowMs : Int) (points : List TelemetryPoint)
    (database : Database) :
    (points.foldl (saveTelemetryPoint nowMs) database).telemetryHistory =
        database.telemetryHistory ++ points ∧
      (points.foldl (saveTelemetryPoint nowMs) database).latestPoints =
        Table.putAll TelemetryPoint.pointId id points database.latestPoints ∧
      (points.foldl (saveTelemetryPoint nowMs) database).devices = database.devices ∧
      (points.foldl (saveTelemetryPoint nowMs) database).isOpen = database.isOpen ∧
      (points.foldl (saveTelemetryPoint nowMs) database).outcomes = database.outcomes := by
  induction points generalizing database with
  | nil => exact ⟨(List.append_nil _).symm, rfl, rfl, rfl, rfl⟩
  | cons point points ih =>
      rcases ih (saveTelemetryPoint nowMs database point) with
        ⟨history, latest, devices, isOpen, outcomes⟩
      rw [List.foldl_cons, history, latest, devices, isOpen, outcomes]
      unfold saveTelemetryPoint
      dsimp only
      split
      · exact ⟨by rw [List.append_assoc, List.singleton_append], rfl, rfl, rfl, rfl⟩
      · exact ⟨by rw [List.append_assoc, List.singleton_append], rfl, rfl, rfl, rfl⟩

/-- The points whose device has a point among these. -/
def reportedBy (points : List TelemetryPoint) (point : TelemetryPoint) : Bool :=
  (Table.putAll telemetryDeviceKey id points ∅).any fun _ other =>
    other.site.gatewayId = point.site.gatewayId && other.site.portId = point.site.portId &&
      other.deviceId = point.deviceId

/-- Points of active devices are saved: the latest ones take the place of all
points of their devices, and the history gets a row for each. -/
theorem saveTelemetryPoints_saved {database : Database} (saves : database.Saves) (nowMs : Int)
    {points : List TelemetryPoint} (known : forall point, point ∈ points -> database.Knows point)
    (named : forall point, point ∈ points -> point.pointId ≠ "") :
    (database.saveTelemetryPoints nowMs points).1.telemetryHistory =
        database.telemetryHistory ++ points ∧
      (forall pointId, (database.saveTelemetryPoints nowMs points).1.latestPoints.get pointId =
        (Table.putAll TelemetryPoint.pointId id points
          (database.latestPoints.keepIf fun _ point => !reportedBy points point)).get pointId) ∧
      (database.saveTelemetryPoints nowMs points).1.devices = database.devices ∧
      (database.saveTelemetryPoints nowMs points).1.Saves := by
  unfold saveTelemetryPoints
  rw [if_neg (by simp [saves.isOpen])]
  by_cases empty : points.isEmpty = true
  · rw [if_pos empty, List.isEmpty_iff.mp empty]
    refine ⟨(List.append_nil _).symm, ?_, rfl, saves⟩
    intro pointId
    change _ = (database.latestPoints.keepIf fun _ _ => true).get pointId
    rw [Table.get_keepIf]
    cases database.latestPoints.get pointId with
    | none => rfl
    | some point => rfl
  · rw [if_neg empty]
    have committed : database.outcomes.headD true = true := by
      cases outcomes : database.outcomes with
      | nil => rfl
      | cons first rest => exact saves.outcomes first (by rw [outcomes]; exact List.mem_cons_self)
    have accepted : (points.filter fun point => point.pointId ≠ "" &&
        Database.deviceExists { database with outcomes := database.outcomes.tail }
          point.site.gatewayId point.site.portId point.deviceId) = points := by
      rw [List.filter_eq_self]
      intro point inside
      rw [Bool.and_eq_true, decide_eq_true_eq]
      exact ⟨named point inside, known point inside⟩
    unfold transact
    dsimp only
    rw [if_pos committed, accepted]
    obtain ⟨history, latest, devices, isOpen, outcomes⟩ := foldl_saveTelemetryPoint nowMs points
      { database with
        outcomes := database.outcomes.tail
        latestPoints := database.latestPoints.keepIf fun _ point => !reportedBy points point }
    refine ⟨history, ?_, devices, ?_, ?_⟩
    · intro pointId
      exact congrArg (fun table : Table String TelemetryPoint => table.get pointId) latest
    · exact isOpen.trans saves.isOpen
    · intro outcome inside
      have listed : outcome ∈ database.outcomes.tail :=
        Eq.mp (congrArg (fun list : List Bool => outcome ∈ list) outcomes) inside
      exact saves.outcomes outcome (List.mem_of_mem_tail listed)

end Database

/-! ## Runs of the handler and the writer -/

/-- The program, the points that the writer has taken and not yet saved, and
the points that have been accepted. -/
structure TelemetryRun where
  pcData : PcData
  taken : List TelemetryPoint
  accepted : List TelemetryPoint

inductive TelemetryEvent where
  | message (nowMs : Int) (message : TelemetryMessage)
  | writerTakes
  | writerSaves (nowMs : Int)
deriving DecidableEq

/-- The part of `dbWriterLoop` that holds the lock: the writer takes all points
that wait, once it has saved those that it took before. -/
def TelemetryRun.takePoints (run : TelemetryRun) : TelemetryRun :=
  if run.taken.isEmpty then
    { run with
      pcData := { run.pcData with pendingDbPoints := ∅ }
      taken := run.pcData.pendingDbPoints.values }
  else run

/-- The rest of `dbWriterLoop`. -/
def TelemetryRun.savePoints (run : TelemetryRun) (nowMs : Int) : TelemetryRun :=
  if run.taken.isEmpty || !run.pcData.database.isOpen then { run with taken := [] }
  else
    { run with
      pcData := { run.pcData with
        database := (run.pcData.database.saveTelemetryPoints nowMs run.taken).1 }
      taken := [] }

/-- The two parts make one turn of the loop. -/
theorem takePoints_savePoints (run : TelemetryRun) (idle : run.taken = []) (nowMs : Int) :
    (run.takePoints.savePoints nowMs).pcData = run.pcData.dbWriter nowMs := by
  unfold TelemetryRun.takePoints
  rw [idle, if_pos List.isEmpty_nil]
  unfold TelemetryRun.savePoints PcData.dbWriter
  dsimp only
  split_ifs
  · rfl
  · rfl

section Runs

variable (pc : JsonCodec) (stod : String -> Option Rat)

def TelemetryRun.step (run : TelemetryRun) : TelemetryEvent -> TelemetryRun
  | .message nowMs message =>
      { run with
        pcData := (run.pcData.handleTelemetryMessage pc nowMs stod message).1
        accepted := run.accepted ++ run.pcData.acceptedPoints pc stod nowMs message }
  | .writerTakes => run.takePoints
  | .writerSaves nowMs => run.savePoints nowMs

/-- The program from its start. -/
def telemetrySystem (database : Database) (startMs : Int) :
    TransitionSystem TelemetryRun TelemetryEvent where
  initial := ⟨seeded database startMs, [], []⟩
  step := TelemetryRun.step pc stod

/-- Nothing waits for the database. -/
def TelemetryRun.Drained (run : TelemetryRun) : Prop :=
  run.pcData.pendingDbPoints.values = [] ∧ run.taken = []

instance (run : TelemetryRun) : Decidable run.Drained :=
  inferInstanceAs (Decidable (_ ∧ _))

/-- The devices of the points that a message brings are active in the database. -/
def DevicesActive (run : TelemetryRun) : TelemetryEvent -> Prop
  | .message nowMs message => forall point,
      point ∈ run.pcData.acceptedPoints pc stod nowMs message -> run.pcData.database.Knows point
  | .writerTakes => True
  | .writerSaves _ => True

instance (run : TelemetryRun) (event : TelemetryEvent) :
    Decidable (DevicesActive pc stod run event) := by
  unfold DevicesActive
  split <;> infer_instance

/-! ## What the steps do -/

/-- The points that have not yet been saved. -/
def TelemetryRun.waiting (run : TelemetryRun) : List TelemetryPoint :=
  run.taken ++ run.pcData.pendingDbPoints.values

/-- What waits belongs to active devices and has been accepted. -/
structure Waiting (run : TelemetryRun) : Prop where
  saves : run.pcData.database.Saves
  known : forall point, point ∈ run.waiting -> run.pcData.database.Knows point
  accepted : forall point, point ∈ run.waiting -> point ∈ run.accepted
  named : forall point, point ∈ run.accepted -> point.pointId ≠ ""

/-- A message only changes the memory and what waits. -/
theorem step_message (run : TelemetryRun) (nowMs : Int) (message : TelemetryMessage) :
    (run.step pc stod (.message nowMs message)).pcData.database = run.pcData.database ∧
      (run.step pc stod (.message nowMs message)).pcData.pendingDbPoints =
        Table.putAll TelemetryPoint.pointId id
          (run.pcData.acceptedPoints pc stod nowMs message) run.pcData.pendingDbPoints := by
  unfold TelemetryRun.step
  dsimp only
  rcases handleTelemetryMessage_cases pc stod nowMs run.pcData message with
    ⟨nothing, same⟩ | ⟨requests, result⟩
  · rw [same, nothing]
    exact ⟨rfl, rfl⟩
  · rw [result]
    exact ⟨rfl, rfl⟩

/-- The writer takes points, and the same points are waiting. -/
theorem takePoints_cases (run : TelemetryRun) :
    run.takePoints = run ∨
      run.taken = [] ∧ run.takePoints = { run with
        pcData := { run.pcData with pendingDbPoints := ∅ }
        taken := run.pcData.pendingDbPoints.values } := by
  unfold TelemetryRun.takePoints
  split_ifs with idle
  · exact Or.inr ⟨List.isEmpty_iff.mp idle, rfl⟩
  · exact Or.inl rfl

theorem waiting_takePoints (run : TelemetryRun) : run.takePoints.waiting = run.waiting := by
  rcases takePoints_cases run with same | ⟨idle, taken⟩
  · rw [same]
  · rw [taken, TelemetryRun.waiting, TelemetryRun.waiting, idle]
    exact List.append_nil _

/-- What a step of the writer leaves as it is. -/
theorem takePoints_same (run : TelemetryRun) :
    run.takePoints.pcData.database = run.pcData.database ∧
      run.takePoints.pcData.service = run.pcData.service ∧
      run.takePoints.accepted = run.accepted := by
  rcases takePoints_cases run with same | ⟨-, taken⟩
  · rw [same]
    exact ⟨rfl, rfl, rfl⟩
  · rw [taken]
    exact ⟨rfl, rfl, rfl⟩

theorem savePoints_same (run : TelemetryRun) (nowMs : Int) :
    (run.savePoints nowMs).pcData.pendingDbPoints = run.pcData.pendingDbPoints ∧
      (run.savePoints nowMs).pcData.service = run.pcData.service ∧
      (run.savePoints nowMs).accepted = run.accepted ∧ (run.savePoints nowMs).taken = [] := by
  unfold TelemetryRun.savePoints
  split
  · exact ⟨rfl, rfl, rfl, rfl⟩
  · exact ⟨rfl, rfl, rfl, rfl⟩

/-- What the writer has taken is saved: the latest points take the place of
all points of their devices, and the history gets a row for each. -/
theorem savePoints_saved {run : TelemetryRun} (waiting : Waiting run) (nowMs : Int) :
    (run.savePoints nowMs).pcData.database.telemetryHistory =
        run.pcData.database.telemetryHistory ++ run.taken ∧
      (forall pointId, (run.savePoints nowMs).pcData.database.latestPoints.get pointId =
        (Table.putAll TelemetryPoint.pointId id run.taken
          (run.pcData.database.latestPoints.keepIf fun _ point =>
            !Database.reportedBy run.taken point)).get pointId) ∧
      (run.savePoints nowMs).pcData.database.devices = run.pcData.database.devices ∧
      (run.savePoints nowMs).pcData.database.Saves := by
  have saved := Database.saveTelemetryPoints_saved waiting.saves nowMs
    (fun point inside => waiting.known point (List.mem_append_left _ inside))
    (fun point inside => waiting.named point (waiting.accepted point
      (List.mem_append_left _ inside)))
  unfold TelemetryRun.savePoints
  by_cases none : run.taken = []
  · rw [none] at saved
    rw [if_pos (by simp [none]), none]
    refine ⟨(List.append_nil _).symm, ?_, rfl, waiting.saves⟩
    intro pointId
    rw [← saved.2.1 pointId]
    unfold Database.saveTelemetryPoints
    rw [if_neg (by simp [waiting.saves.isOpen])]
    rfl
  · rw [if_neg (by simp [none, waiting.saves.isOpen])]
    exact saved

theorem Database.knows_of_same {database other : Database}
    (devices : other.devices = database.devices) (before : database.Saves) (after : other.Saves)
    {point : TelemetryPoint} (knows : database.Knows point) : other.Knows point := by
  unfold Database.Knows Database.deviceExists at knows ⊢
  rw [devices, after.isOpen]
  rw [before.isOpen] at knows
  exact knows

theorem waiting_step {run : TelemetryRun} (event : TelemetryEvent) (waiting : Waiting run)
    (active : DevicesActive pc stod run event) : Waiting (run.step pc stod event) := by
  cases event with
  | message nowMs message =>
      rcases step_message pc stod run nowMs message with ⟨database, pending⟩
      have inside : forall point, point ∈ (run.step pc stod (.message nowMs message)).waiting ->
          point ∈ run.waiting ∨ point ∈ run.pcData.acceptedPoints pc stod nowMs message := by
        intro point listed
        rcases List.mem_append.mp listed with taken | waits
        · exact Or.inl (List.mem_append_left _ taken)
        · rw [pending] at waits
          rcases Table.mem_values.mp waits with ⟨pointId, found⟩
          rcases Table.get_putAll TelemetryPoint.pointId id found with ⟨new, among, -, rfl⟩ | old
          · exact Or.inr among
          · exact Or.inl (List.mem_append_right _ (Table.mem_values.mpr ⟨pointId, old⟩))
      refine ⟨?_, ?_, ?_, ?_⟩
      · rw [database]
        exact waiting.saves
      · intro point listed
        rw [database]
        rcases inside point listed with old | new
        · exact waiting.known point old
        · exact active point new
      · intro point listed
        rcases inside point listed with old | new
        · exact List.mem_append_left _ (waiting.accepted point old)
        · exact List.mem_append_right _ new
      · intro point listed
        rcases List.mem_append.mp listed with old | new
        · exact waiting.named point old
        · exact pointId_of_accepted pc stod nowMs new
  | writerTakes =>
      rcases takePoints_same run with ⟨database, -, accepted⟩
      have listed := waiting_takePoints run
      refine ⟨?_, ?_, ?_, ?_⟩
      · rw [TelemetryRun.step, database]
        exact waiting.saves
      · rw [TelemetryRun.step, database, listed]
        exact waiting.known
      · rw [TelemetryRun.step, accepted, listed]
        exact waiting.accepted
      · rw [TelemetryRun.step, accepted]
        exact waiting.named
  | writerSaves nowMs =>
      rcases savePoints_same run nowMs with ⟨pending, -, accepted, taken⟩
      rcases savePoints_saved waiting nowMs with ⟨-, -, devices, saves⟩
      have fewer : forall point, point ∈ (run.savePoints nowMs).waiting -> point ∈ run.waiting := by
        intro point listed
        rw [TelemetryRun.waiting, taken, pending] at listed
        exact List.mem_append_right _ listed
      refine ⟨saves, ?_, ?_, ?_⟩
      · intro point listed
        exact Database.knows_of_same devices waiting.saves saves
          (waiting.known point (fewer point listed))
      · intro point listed
        rw [TelemetryRun.step, accepted]
        exact waiting.accepted point (fewer point listed)
      · rw [TelemetryRun.step, accepted]
        exact waiting.named

/-- A turn of an idle writer saves everything. -/
theorem drained_of_turn {run : TelemetryRun} (idle : run.taken = []) (nowMs : Int) :
    (run.takePoints.savePoints nowMs).Drained := by
  rcases savePoints_same run.takePoints nowMs with ⟨pending, -, -, taken⟩
  refine ⟨?_, taken⟩
  rw [pending]
  unfold TelemetryRun.takePoints
  rw [idle, if_pos List.isEmpty_nil]
  rfl

/-- A message leaves the database and the writer alone. -/
theorem run_message (database : Database) (startMs : Int) (events : List TelemetryEvent)
    (nowMs : Int) (message : TelemetryMessage) :
    ((telemetrySystem pc stod database startMs).run
        (events ++ [.message nowMs message])).pcData.database =
      ((telemetrySystem pc stod database startMs).run events).pcData.database ∧
    ((telemetrySystem pc stod database startMs).run
        (events ++ [.message nowMs message])).pcData.pendingDbPoints =
      Table.putAll TelemetryPoint.pointId id
        (((telemetrySystem pc stod database startMs).run events).pcData.acceptedPoints pc stod
          nowMs message)
        ((telemetrySystem pc stod database startMs).run events).pcData.pendingDbPoints ∧
    ((telemetrySystem pc stod database startMs).run (events ++ [.message nowMs message])).taken =
      ((telemetrySystem pc stod database startMs).run events).taken := by
  rw [TransitionSystem.run, TransitionSystem.runFrom_append]
  obtain ⟨same, pending⟩ := step_message pc stod
    ((telemetrySystem pc stod database startMs).run events) nowMs message
  exact ⟨same, pending, rfl⟩

theorem waiting_start {database : Database} (saves : database.Saves) (startMs : Int) :
    Waiting (telemetrySystem pc stod database startMs).initial := by
  refine ⟨saves, ?_, ?_, ?_⟩
  · exact fun _ listed => absurd listed List.not_mem_nil
  · exact fun _ listed => absurd listed List.not_mem_nil
  · exact fun _ listed => absurd listed List.not_mem_nil

/-! ## The registry stays -/

/-- No device and no port is remembered as removed. -/
def DataService.NothingRemoved (service : DataService) : Prop :=
  service.removedDevices = ∅ ∧ service.removedMasters = ∅

theorem DataService.pruned_of_nothingRemoved {service : DataService}
    (nothing : service.NothingRemoved) (nowMs : Int) :
    service.pruneExpiredRemovedDevices nowMs = service := by
  cases service
  rcases nothing with ⟨devices, masters⟩
  cases devices
  cases masters
  rfl

/-- Every point with an identifier is accepted then. -/
theorem DataService.accepted_of_nothingRemoved {service : DataService}
    (nothing : service.NothingRemoved) {points : List TelemetryPoint}
    (named : forall point, point ∈ points -> point.pointId ≠ "") :
    points.filter service.acceptsPoint = points := by
  rw [List.filter_eq_self]
  intro point inside
  unfold DataService.acceptsPoint DataService.isRemovedDeviceLocked
    DataService.isRemovedMasterLocked
  rw [nothing.1, nothing.2, Table.get_empty, Table.get_empty, decide_eq_true (named point inside)]
  rfl

theorem DataService.registry_handleTelemetryPoints {service : DataService}
    (nothing : service.NothingRemoved) (nowMs : Int) (points : List TelemetryPoint) :
    (service.handleTelemetryPoints nowMs points).registry = service.registry := by
  unfold DataService.handleTelemetryPoints
  rw [DataService.pruned_of_nothingRemoved nothing]
  rfl

/-- The latest points, and what is remembered as removed. -/
def DataService.held (service : DataService) :
    Table String SnapshotPoint × Table String Int × Table String Int :=
  (service.snapshot, service.removedDevices, service.removedMasters)

theorem DataService.held_foldl {Record : Type} {remember : DataService -> Record -> DataService}
    (kept : forall service record, (remember service record).held = service.held)
    (records : List Record) (service : DataService) :
    (records.foldl remember service).held = service.held := by
  induction records generalizing service with
  | nil => rfl
  | cons record records ih => exact (ih (remember service record)).trans (kept service record)

/-- The memory at the start, before the latest points are read. -/
def Database.registryAtStart (database : Database) : DataService :=
  (((DataService.start.updateGatewayStatuses database.gatewayStatuses.values
    ).rememberGatewayPorts database.gatewayPorts.values
    ).rememberDeviceRegistries database.queryDevices
    ).rememberPointConfigs (database.pointConfigs.values.filter fun config =>
      config.enabled && config.gatewayId ≠ "" && config.portId ≠ "" && 0 < config.deviceId &&
        config.pointKey ≠ "")

theorem Database.held_registryAtStart (database : Database) :
    database.registryAtStart.held = (∅, ∅, ∅) := by
  unfold Database.registryAtStart DataService.rememberPointConfigs
    DataService.rememberDeviceRegistries DataService.rememberGatewayPorts
    DataService.updateGatewayStatuses
  rw [DataService.held_foldl, DataService.held_foldl, DataService.held_foldl,
    DataService.held_foldl]
  · rfl
  · intro service gateway
    unfold DataService.updateGatewayStatus
    split
    · rfl
    · rfl
  · intro service port
    unfold DataService.updateGatewayPort
    split
    · rfl
    · rfl
  · intro service device
    unfold DataService.rememberDeviceRegistry
    split
    · rfl
    · rfl
  · intro service config
    unfold DataService.updatePointConfig
    split
    · rfl
    · rfl

theorem Database.nothingRemoved_registryAtStart (database : Database) :
    database.registryAtStart.NothingRemoved :=
  ⟨congrArg (fun held => held.2.1) database.held_registryAtStart,
    congrArg (fun held => held.2.2) database.held_registryAtStart⟩

/-- The start removes nothing. -/
theorem nothingRemoved_seeded (database : Database) (startMs : Int) :
    (seeded database startMs).service.NothingRemoved := by
  unfold seeded
  dsimp only
  split
  · have nothing := database.nothingRemoved_registryAtStart
    unfold DataService.handleTelemetryPoints
    change DataService.NothingRemoved
      { database.registryAtStart.pruneExpiredRemovedDevices startMs with snapshot := _ }
    rw [DataService.pruned_of_nothingRemoved nothing]
    exact nothing
  · exact ⟨rfl, rfl⟩

theorem DataService.nothingRemoved_of_registry {service other : DataService}
    (nothing : other.NothingRemoved) (same : service.registry = other.registry) :
    service.NothingRemoved :=
  ⟨(congrArg DataService.removedDevices same).trans nothing.1,
    (congrArg DataService.removedMasters same).trans nothing.2⟩

/-- No step changes what is registered. -/
theorem registry_step {run : TelemetryRun} (event : TelemetryEvent)
    (nothing : run.pcData.service.NothingRemoved) :
    (run.step pc stod event).pcData.service.registry = run.pcData.service.registry := by
  cases event with
  | message nowMs message =>
      rcases handleTelemetryMessage_cases pc stod nowMs run.pcData message with
        ⟨-, kept⟩ | ⟨requests, result⟩
      · change (run.pcData.handleTelemetryMessage pc nowMs stod message).1.service.registry = _
        rw [kept]
      · change (run.pcData.handleTelemetryMessage pc nowMs stod message).1.service.registry = _
        rw [result]
        exact DataService.registry_handleTelemetryPoints nothing nowMs _
  | writerTakes => exact congrArg DataService.registry (takePoints_same run).2.1
  | writerSaves nowMs => exact congrArg DataService.registry (savePoints_same run nowMs).2.1

theorem registry_run (database : Database) (startMs : Int) (events : List TelemetryEvent) :
    ((telemetrySystem pc stod database startMs).run events).pcData.service.registry =
      (seeded database startMs).service.registry := by
  apply @TransitionSystem.invariant_everywhere _ _ (telemetrySystem pc stod database startMs)
    (fun run => run.pcData.service.registry = (seeded database startMs).service.registry) rfl
  intro run event same
  have nothing := DataService.nothingRemoved_of_registry (nothingRemoved_seeded database startMs)
    same
  exact (registry_step pc stod event nothing).trans same

/-- A message brings the same points at any time of a run. -/
theorem acceptedPoints_run (database : Database) (startMs : Int) (events : List TelemetryEvent)
    (nowMs : Int) (message : TelemetryMessage) :
    ((telemetrySystem pc stod database startMs).run events).pcData.acceptedPoints pc stod nowMs
        message = (seeded database startMs).acceptedPoints pc stod nowMs message :=
  acceptedPoints_congr pc stod nowMs (registry_run pc stod database startMs events) message

end Runs
end Pc
end Imx6Gateway
