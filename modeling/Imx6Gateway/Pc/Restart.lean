import Imx6Gateway.Pc.LatestPoints
import Imx6Gateway.Pc.RegistryEffect

namespace Imx6Gateway
namespace Pc

open Library

/-!
# Receive times across restarts

A point in memory carries the time at which `handleTelemetryPoints` has put it
in.  The table `latest_point` has no column for that time, and the start of the
program puts its rows in through the same function.  A run restarts Pc_data any
number of times; beside it stands when telemetry of each device was really
received last.
-/

/-- The time that `buildLatestPointsJson` writes for a point. -/
def SnapshotPoint.shownTimeMs (stored : SnapshotPoint) : Int :=
  if 0 < stored.receiveTimeMs then stored.receiveTimeMs else stored.point.timestampMs

/-- The point that stands under an identifier after all points of a list have been put in. -/
def lastUnder (points : List TelemetryPoint) (pointId : String) : Option TelemetryPoint :=
  points.reverse.find? fun point => point.pointId = pointId

theorem lastUnder_cons (point : TelemetryPoint) (points : List TelemetryPoint) (pointId : String) :
    lastUnder (point :: points) pointId =
      (lastUnder points pointId).or (if point.pointId = pointId then some point else none) := by
  unfold lastUnder
  rw [List.reverse_cons, List.find?_append, List.find?_singleton]
  simp only [decide_eq_true_eq]

def Database.queryLatestPoints (database : Database) : List TelemetryPoint :=
  if database.isOpen then database.latestPoints.values.filter fun point => point.pointId ≠ ""
  else []

namespace DataService

/-- The points that the devices of the list do not replace. -/
def keptPoints (points : List TelemetryPoint) (snapshot : Table String SnapshotPoint) :
    Table String SnapshotPoint :=
  snapshot.keepIf fun _ stored =>
    !(points.map telemetryDeviceKey).contains (telemetryDeviceKey stored.point)

/-- The point of a list that comes to stand under an identifier: a later time
of another device's point keeps it out. -/
def entering (nowMs : Int) (points : List TelemetryPoint) (snapshot : Table String SnapshotPoint)
    (pointId : String) : Option TelemetryPoint :=
  (lastUnder points pointId).filter fun _ =>
    (snapshot.get pointId).all fun old => old.receiveTimeMs ≤ nowMs

theorem get_storePoint (nowMs : Int) (snapshot : Table String SnapshotPoint)
    (point : TelemetryPoint) (pointId : String) :
    (storePoint nowMs snapshot point).get pointId =
      if point.pointId = pointId ∧
          (snapshot.get pointId).all (fun old => decide (old.receiveTimeMs ≤ nowMs)) = true then
        some ⟨point, nowMs⟩
      else snapshot.get pointId := by
  by_cases here : point.pointId = pointId
  · subst here
    unfold storePoint
    cases found : snapshot.get point.pointId with
    | none => simp [Table.get_put]
    | some old =>
        by_cases later : old.receiveTimeMs ≤ nowMs
        · simp [later, Table.get_put]
        · simp [later, found]
  · rw [if_neg fun both => here both.1]
    have elsewhere : (snapshot.put point.pointId ⟨point, nowMs⟩).get pointId =
        snapshot.get pointId := by
      rw [Table.get_put, if_neg fun same => here same.symm]
    unfold storePoint
    split
    · split
      · exact elsewhere
      · rfl
    · exact elsewhere

/-- All points of a list have been put in at one time. -/
theorem get_storePoints (nowMs : Int) (points : List TelemetryPoint)
    (snapshot : Table String SnapshotPoint) (pointId : String) :
    (points.foldl (storePoint nowMs) snapshot).get pointId =
      ((entering nowMs points snapshot pointId).map fun point => ⟨point, nowMs⟩).or
        (snapshot.get pointId) := by
  induction points generalizing snapshot with
  | nil => rfl
  | cons point points ih =>
      rw [List.foldl_cons, ih, entering, entering, lastUnder_cons, get_storePoint]
      by_cases here : point.pointId = pointId
      · cases free : (snapshot.get pointId).all fun old => decide (old.receiveTimeMs ≤ nowMs) with
        | true =>
            rw [if_pos ⟨here, rfl⟩, if_pos here]
            cases lastUnder points pointId with
            | none => simp [Option.filter_some]
            | some last => simp [Option.filter_some]
        | false =>
            rw [if_neg fun both => Bool.false_ne_true both.2, if_pos here, free]
            simp
      · rw [if_neg fun both => here both.1, if_neg here, Option.or_none]

/-- What stands in memory after telemetry has come in. -/
theorem get_handleTelemetryPoints (service : DataService) (nowMs : Int)
    (points : List TelemetryPoint) (pointId : String) :
    (service.handleTelemetryPoints nowMs points).snapshot.get pointId =
      ((entering nowMs (points.filter (service.pruneExpiredRemovedDevices nowMs).acceptsPoint)
          (keptPoints (points.filter (service.pruneExpiredRemovedDevices nowMs).acceptsPoint)
            service.snapshot) pointId).map fun point => ⟨point, nowMs⟩).or
        ((keptPoints (points.filter (service.pruneExpiredRemovedDevices nowMs).acceptsPoint)
          service.snapshot).get pointId) :=
  get_storePoints nowMs _ _ pointId

/-- A kept point is of a device that has brought none. -/
theorem get_keptPoints {points : List TelemetryPoint} {snapshot : Table String SnapshotPoint}
    {pointId : String} {stored : SnapshotPoint} :
    (keptPoints points snapshot).get pointId = some stored ↔
      snapshot.get pointId = some stored ∧
        forall point, point ∈ points -> telemetryDeviceKey point ≠ telemetryDeviceKey stored.point := by
  rw [keptPoints, Table.get_keepIf, Option.filter_eq_some_iff, Bool.not_eq_true',
    ← Bool.not_eq_true, List.contains_iff_mem, List.mem_map, not_exists]
  simp only [not_and]

end DataService

theorem telemetryDeviceKey_of_device {point other : TelemetryPoint}
    (same : point.device = other.device) : telemetryDeviceKey point = telemetryDeviceKey other := by
  injection same with gateway rest
  injection rest with port device
  rw [telemetryDeviceKey, telemetryDeviceKey, gateway, port, device]

/-! ## The start -/

/-- Nothing is remembered as removed and nothing is there: all points are put in. -/
theorem snapshot_first {service : DataService} (nothing : service.NothingRemoved)
    (empty : service.snapshot = ∅) {points : List TelemetryPoint}
    (named : forall point, point ∈ points -> point.pointId ≠ "") (nowMs : Int) (pointId : String) :
    (service.handleTelemetryPoints nowMs points).snapshot.get pointId =
      (lastUnder points pointId).map fun point => ⟨point, nowMs⟩ := by
  have accepted := DataService.accepted_of_nothingRemoved nothing named
  have kept : (DataService.keptPoints points service.snapshot).get pointId = none := by
    rw [DataService.keptPoints, Table.get_keepIf, empty, Table.get_empty]
    rfl
  rw [DataService.get_handleTelemetryPoints, DataService.pruned_of_nothingRemoved nothing, accepted,
    DataService.entering, kept, Option.or_none]
  cases lastUnder points pointId with
  | none => rfl
  | some point => rfl

/-- The start puts in every row of the table, as received now. -/
theorem snapshot_seeded (database : Database) (startMs : Int) (pointId : String) :
    (seeded database startMs).service.snapshot.get pointId =
      (lastUnder database.queryLatestPoints pointId).map fun point => ⟨point, startMs⟩ := by
  unfold seeded Database.queryLatestPoints
  dsimp only
  split
  · exact snapshot_first database.nothingRemoved_registryAtStart
      (congrArg Prod.fst database.held_registryAtStart)
      (fun point inside => of_decide_eq_true (List.mem_filter.mp inside).2) startMs pointId
  · rfl

/-! ## The system -/

section Runs

variable (pc : JsonCodec) (stod : String -> Option Rat)

/-- The points that the memory takes in when the worker takes its oldest message. -/
def PcData.takenPoints (state : PcData) (nowMs : Int) : List TelemetryPoint :=
  match state.telemetryQueue with
  | [] => []
  | message :: rest =>
      ({ state with telemetryQueue := rest }.acceptedPoints pc stod nowMs message).filter
        (state.service.pruneExpiredRemovedDevices nowMs).acceptsPoint

/-- Pc_data through its restarts, with the times at which telemetry of each
device was really received last, before the run or in it. -/
structure RestartRun where
  pcData : PcData
  lastReceived : String × String × Int -> Option Int

inductive RestartEvent where
  | restart (nowMs : Int)
  | pc (event : PcEvent)
deriving DecidableEq, Repr

def RestartRun.received (run : RestartRun) :
    PcEvent -> String × String × Int -> Option Int
  | .telemetryTurn nowMs => fun device =>
      if (run.pcData.takenPoints pc stod nowMs).any fun point => point.device = device then
        some nowMs
      else run.lastReceived device
  | _ => run.lastReceived

/-- A restart keeps the database only. -/
def RestartRun.step (run : RestartRun) : RestartEvent -> RestartRun
  | .restart nowMs => { run with pcData := seeded run.pcData.database nowMs }
  | .pc event => ⟨(run.pcData.step pc stod event).1, run.received pc stod event⟩

def restartSystem (database : Database) (lastReceived : String × String × Int -> Option Int)
    (startMs : Int) : TransitionSystem RestartRun RestartEvent where
  initial := ⟨seeded database startMs, lastReceived⟩
  step := RestartRun.step pc stod

/-- No point in memory looks newer than the last telemetry of its device. -/
def NoneNewer (run : RestartRun) : Prop :=
  forall pointId stored, run.pcData.service.snapshot.get pointId = some stored ->
    exists last, run.lastReceived stored.point.device = some last ∧ stored.shownTimeMs ≤ last

/-- The row that a start puts in under each identifier is of a device that has
really been received since. -/
def SeedsNoneNewer (database : Database) (lastReceived : String × String × Int -> Option Int)
    (startMs : Int) : Prop :=
  forall pointId point, lastUnder database.queryLatestPoints pointId = some point ->
    exists last, lastReceived point.device = some last ∧
      SnapshotPoint.shownTimeMs ⟨point, startMs⟩ ≤ last

/-- A restart seeds nothing newer, and where the clock is not positive, the
time of the board that is shown instead is not later. -/
def ShowsNoneNewer (run : RestartRun) : RestartEvent -> Prop
  | .restart nowMs => SeedsNoneNewer run.pcData.database run.lastReceived nowMs
  | .pc (.telemetryTurn nowMs) => forall pointId point,
      DataService.entering nowMs (run.pcData.takenPoints pc stod nowMs)
          (DataService.keptPoints (run.pcData.takenPoints pc stod nowMs)
            run.pcData.service.snapshot) pointId = some point ->
        SnapshotPoint.shownTimeMs ⟨point, nowMs⟩ ≤ nowMs
  | .pc _ => True

/-- A clock that counts from 1970 always shows the time of the turn. -/
theorem showsNoneNewer_of_positive (run : RestartRun) {nowMs : Int} (positive : 0 < nowMs) :
    ShowsNoneNewer pc stod run (.pc (.telemetryTurn nowMs)) := by
  intro pointId point _
  rw [SnapshotPoint.shownTimeMs, if_pos positive]

theorem noneNewer_seeded (database : Database)
    (lastReceived : String × String × Int -> Option Int) (startMs : Int) :
    NoneNewer ⟨seeded database startMs, lastReceived⟩ ↔
      SeedsNoneNewer database lastReceived startMs := by
  constructor
  · intro newer pointId point row
    apply newer pointId ⟨point, startMs⟩
    rw [snapshot_seeded, row]
    rfl
  · intro seeds pointId stored found
    rw [snapshot_seeded, Option.map_eq_some_iff] at found
    rcases found with ⟨point, row, rfl⟩
    exact seeds pointId point row

/-! ## What one event does to the points -/

/-- Telemetry apart, points only go. -/
theorem snapshot_run {effect : RegistryEffect} (valid : effect.WellFormed) (state : PcData)
    (others : forall nowMs received, effect ≠ .points nowMs received) {pointId : String}
    {stored : SnapshotPoint}
    (found : (effect.run state).service.snapshot.get pointId = some stored) :
    state.service.snapshot.get pointId = some stored := by
  cases effect with
  | none => exact found
  | delete nowMs gatewayId portId deviceId =>
      dsimp only [RegistryEffect.run, PcData.deleteDevice] at found
      split at found
      · exact (DataService.removeDeviceData_shrinks _ _ _ _ _).snapshot pointId stored found
      · exact found
  | deleteMaster nowMs gatewayId portId =>
      exact (DataService.removeMasterData_shrinks _ _ _ _).snapshot pointId stored found
  | restore nowMs gatewayId portId deviceId =>
      exact (DataService.forgetRemovedDevice_same _ _ _ _ _).shrinks.snapshot pointId stored found
  | clear =>
      dsimp only [RegistryEffect.run, PcData.clearAll] at found
      split at found
      · cases found
      · exact found
  | snapshot nowMs gatewayId entries fullSnapshot =>
      have own := Database.entries_own valid.1 valid.2
      dsimp only [RegistryEffect.run, PcData.storeSnapshot] at found
      split at found
      · dsimp only at found
        rw [(DataService.replaceGatewayRegistry_replaced _ valid.1 entries fullSnapshot
          fun device inside => (own device inside).2).snapshot] at found
        exact (DataService.removed_shrinks _ _ _ _).snapshot pointId stored found
      · exact found
  | selection nowMs pending entries =>
      have own := Database.entries_own valid.1 valid.2.2
      dsimp only [RegistryEffect.run, PcData.storeSelection] at found
      split at found
      · dsimp only at found
        rw [(DataService.replaceGatewayRegistry_replaced _ valid.1 entries false
          fun device inside => (own device inside).2).snapshot] at found
        exact (DataService.forgotten_same _ _ _).shrinks.snapshot pointId stored found
      · exact found
  | register nowMs details =>
      have pruned := (DataService.isRemovedDevice_same state.service nowMs
        details.device.gatewayId details.device.portId details.device.deviceId).shrinks
      dsimp only [RegistryEffect.run, PcData.storeDevice] at found
      split_ifs at found with refused
      · exact found
      · exact found
      · exact pruned.snapshot pointId stored found
      · rw [not_not] at refused
        rcases valid refused with ⟨-, -, own, named⟩
        dsimp only at found
        rw [(DataService.rememberDeviceRegistry_keyed _ named).2.2] at found
        exact pruned.snapshot pointId stored found
      · exact pruned.snapshot pointId stored found
  | points nowMs received => exact absurd rfl (others nowMs received)

/-- Only the worker's turn puts points in. -/
theorem snapshot_step {state : PcData} {event : PcEvent}
    (others : forall nowMs, event ≠ .telemetryTurn nowMs) {pointId : String}
    {stored : SnapshotPoint}
    (found : (state.step pc stod event).1.service.snapshot.get pointId = some stored) :
    state.service.snapshot.get pointId = some stored := by
  have read := PcData.effectOf_readFrom pc state stod event
  rw [(PcData.step_effect pc stod state event).service.snapshot] at found
  refine snapshot_run (PcData.effectOf_wellFormed pc stod state event) state ?_ found
  intro nowMs received same
  rw [same] at read
  cases read with
  | telemetry nowMs pack => exact others nowMs rfl

/-- What stands in memory after the worker's turn. -/
theorem get_telemetryWorker (state : PcData) (nowMs : Int) (pointId : String) :
    (state.telemetryWorker pc nowMs stod).1.service.snapshot.get pointId =
      ((DataService.entering nowMs (state.takenPoints pc stod nowMs)
          (DataService.keptPoints (state.takenPoints pc stod nowMs) state.service.snapshot)
          pointId).map fun point => ⟨point, nowMs⟩).or
        ((DataService.keptPoints (state.takenPoints pc stod nowMs) state.service.snapshot).get
          pointId) := by
  have idle : state.service.snapshot.get pointId =
      ((DataService.entering nowMs [] (DataService.keptPoints [] state.service.snapshot)
          pointId).map fun point => ⟨point, nowMs⟩).or
        ((DataService.keptPoints [] state.service.snapshot).get pointId) := by
    change _ = (state.service.snapshot.keepIf fun _ _ => true).get pointId
    rw [Table.get_keepIf]
    cases state.service.snapshot.get pointId with
    | none => rfl
    | some stored => rfl
  unfold PcData.telemetryWorker PcData.takenPoints
  cases state.telemetryQueue with
  | nil => exact idle
  | cons message rest =>
      dsimp only
      rcases handleTelemetryMessage_cases pc stod nowMs { state with telemetryQueue := rest }
        message with ⟨none, kept⟩ | ⟨requests, result⟩
      · rw [none, kept]
        exact idle
      · rw [result]
        exact DataService.get_handleTelemetryPoints state.service nowMs _ pointId

theorem noneNewer_turn {run : RestartRun} (newer : NoneNewer run) (nowMs : Int) :
    NoneNewer (run.step pc stod (.pc (.telemetryTurn nowMs))) ↔
      ShowsNoneNewer pc stod run (.pc (.telemetryTurn nowMs)) := by
  have stamped : forall point, point ∈ run.pcData.takenPoints pc stod nowMs ->
      (run.step pc stod (.pc (.telemetryTurn nowMs))).lastReceived point.device = some nowMs := by
    intro point inside
    exact if_pos (List.any_eq_true.mpr ⟨point, inside, decide_eq_true rfl⟩)
  have among {pointId : String} {point : TelemetryPoint}
      (enters : DataService.entering nowMs (run.pcData.takenPoints pc stod nowMs)
        (DataService.keptPoints (run.pcData.takenPoints pc stod nowMs) run.pcData.service.snapshot)
        pointId = some point) : point ∈ run.pcData.takenPoints pc stod nowMs :=
    (of_find?_last (Option.filter_eq_some_iff.mp enters).1).1
  constructor
  · intro after pointId point enters
    obtain ⟨last, received, shown⟩ := after pointId ⟨point, nowMs⟩
      ((get_telemetryWorker pc stod run.pcData nowMs pointId).trans (by rw [enters]; rfl))
    rw [stamped point (among enters)] at received
    cases received
    exact shown
  · intro shows pointId stored found
    have found := (get_telemetryWorker pc stod run.pcData nowMs pointId).symm.trans found
    rcases Option.or_eq_some_iff.mp found with new | ⟨-, kept⟩
    · rcases Option.map_eq_some_iff.mp new with ⟨point, enters, rfl⟩
      exact ⟨nowMs, stamped point (among enters), shows pointId point enters⟩
    · rcases DataService.get_keptPoints.mp kept with ⟨old, others⟩
      have silent : ((run.pcData.takenPoints pc stod nowMs).any fun point =>
          point.device = stored.point.device) = false := by
        rw [List.any_eq_false]
        intro point inside same
        exact others point inside (telemetryDeviceKey_of_device (of_decide_eq_true same))
      rcases newer pointId stored old with ⟨last, received, shown⟩
      refine ⟨last, ?_, shown⟩
      change (if _ then some nowMs else run.lastReceived stored.point.device) = some last
      rw [silent]
      exact received

/-- The events that put no points in keep what is known about those in memory. -/
theorem noneNewer_others {run : RestartRun} (newer : NoneNewer run) {event : PcEvent}
    (others : forall nowMs, event ≠ .telemetryTurn nowMs) :
    NoneNewer (run.step pc stod (.pc event)) := by
  intro pointId stored found
  have unchanged : (run.step pc stod (.pc event)).lastReceived = run.lastReceived := by
    cases event with
    | telemetryTurn nowMs => exact absurd rfl (others nowMs)
    | message nowMs topic payload => rfl
    | request nowMs text => rfl
    | command target => rfl
    | writerTurn nowMs => rfl
    | syncTimeouts nowMs => rfl
  rw [unchanged]
  exact newer pointId stored (snapshot_step pc stod others found)

theorem noneNewer_step_iff {run : RestartRun} (newer : NoneNewer run) (event : RestartEvent) :
    NoneNewer (run.step pc stod event) ↔ ShowsNoneNewer pc stod run event := by
  cases event with
  | restart nowMs => exact noneNewer_seeded run.pcData.database run.lastReceived nowMs
  | pc event =>
      cases event with
      | telemetryTurn nowMs => exact noneNewer_turn pc stod newer nowMs
      | message nowMs topic payload =>
          exact iff_of_true (noneNewer_others pc stod newer fun _ other => nomatch other) trivial
      | request nowMs text =>
          exact iff_of_true (noneNewer_others pc stod newer fun _ other => nomatch other) trivial
      | command target =>
          exact iff_of_true (noneNewer_others pc stod newer fun _ other => nomatch other) trivial
      | writerTurn nowMs =>
          exact iff_of_true (noneNewer_others pc stod newer fun _ other => nomatch other) trivial
      | syncTimeouts nowMs =>
          exact iff_of_true (noneNewer_others pc stod newer fun _ other => nomatch other) trivial

/-- A run shows no point as newer than it is exactly if it seeds none as newer. -/
theorem noneNewer_run_iff (database : Database)
    (lastReceived : String × String × Int -> Option Int) (startMs : Int)
    (events : List RestartEvent) :
    (forall before after, events = before ++ after ->
      NoneNewer ((restartSystem pc stod database lastReceived startMs).run before)) ↔
      SeedsNoneNewer database lastReceived startMs ∧
        (restartSystem pc stod database lastReceived startMs).Admissible
          (ShowsNoneNewer pc stod) events := by
  have start := noneNewer_seeded database lastReceived startMs
  have system (seeds : NoneNewer ⟨seeded database startMs, lastReceived⟩) :=
    @TransitionSystem.everywhere_iff_of_forall _ _
      (restartSystem pc stod database lastReceived startMs) (ShowsNoneNewer pc stod)
      (fun _ => True) NoneNewer trivial seeds (fun _ _ _ => trivial)
      (fun run event _ newer => noneNewer_step_iff pc stod newer event) events
  constructor
  · intro everywhere
    have seeds := everywhere [] events rfl
    exact ⟨start.mp seeds, (system seeds).mp everywhere⟩
  · rintro ⟨seeds, admissible⟩
    exact (system (start.mpr seeds)).mpr admissible

end Runs

end Pc
end Imx6Gateway
