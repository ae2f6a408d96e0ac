import Imx6Gateway.Pc.Registered
import Imx6Gateway.Pc.TelemetryHistory

namespace Imx6Gateway
namespace Pc

open Library

/-!
# The latest points in memory and in the database

The memory replaces all points of a device with each message.  The writer
merges what waits under the identifiers of the points, and the database then
replaces all points of each device of the batch.  This file says when both
hold the same points of every device that reports.
-/

/-- Where a point comes from. -/
def TelemetryPoint.device (point : TelemetryPoint) : String × String × Int :=
  (point.site.gatewayId, point.site.portId, point.deviceId)

/-- The value of a point and its validity. -/
def TelemetryPoint.reading (point : TelemetryPoint) :
    PointValueType × Option Rat × String × Bool :=
  (point.valueType, point.numberValue, point.textValue, point.valid)

/-- The readings of a device under the identifiers of their points. -/
def readingsOf (device : String × String × Int) (rows : String -> Option TelemetryPoint) :
    String -> Option (PointValueType × Option Rat × String × Bool) :=
  fun pointId => ((rows pointId).filter fun point => point.device = device).map
    TelemetryPoint.reading

/-! ## Replacing the points of devices -/

/-- The devices of the points get these points and keep no others. -/
def replaceDevices (points : List TelemetryPoint) (rows : String -> Option TelemetryPoint) :
    String -> Option TelemetryPoint :=
  fun pointId => (points.reverse.find? fun point => point.pointId = pointId).or
    ((rows pointId).filter fun old => !points.any fun point => point.device = old.device)

theorem replaceDevices_apply (points : List TelemetryPoint)
    (rows : String -> Option TelemetryPoint) (pointId : String) :
    replaceDevices points rows pointId =
      (points.reverse.find? fun point => point.pointId = pointId).or
        ((rows pointId).filter fun old => !points.any fun point => point.device = old.device) := rfl

theorem replaceDevices_nil (rows : String -> Option TelemetryPoint) :
    replaceDevices [] rows = rows := by
  funext pointId
  unfold replaceDevices
  cases rows pointId with
  | none => rfl
  | some point => rfl

theorem find?_last_eq_none {points : List TelemetryPoint} {pointId : String} :
    (points.reverse.find? fun point => point.pointId = pointId) = none ↔
      forall point, point ∈ points -> point.pointId ≠ pointId := by
  rw [List.find?_eq_none]
  constructor
  · intro none point inside same
    exact none point (List.mem_reverse.mpr inside) (decide_eq_true same)
  · intro different point inside same
    exact different point (List.mem_reverse.mp inside) (of_decide_eq_true same)

theorem of_find?_last {points : List TelemetryPoint} {pointId : String} {point : TelemetryPoint}
    (found : (points.reverse.find? fun point => point.pointId = pointId) = some point) :
    point ∈ points ∧ point.pointId = pointId :=
  ⟨List.mem_reverse.mp (List.mem_of_find?_eq_some found),
    of_decide_eq_true (@List.find?_some _ (fun point : TelemetryPoint =>
      decide (point.pointId = pointId)) point _ found)⟩

/-- The readings of a replaced device are those of the points. -/
theorem readingsOf_replaced {points : List TelemetryPoint} {device : String × String × Int}
    (reports : exists point, point ∈ points ∧ point.device = device)
    (rows other : String -> Option TelemetryPoint) :
    readingsOf device (replaceDevices points rows) =
      readingsOf device (replaceDevices points other) := by
  have dropped (rows : String -> Option TelemetryPoint) (pointId : String) :
      ((rows pointId).filter fun old => !points.any fun point => point.device = old.device).filter
        (fun point => point.device = device) = none := by
    rw [Option.filter_filter, Option.filter_eq_none_iff]
    intro old _ both
    rcases reports with ⟨point, inside, same⟩
    rw [Bool.and_eq_true, decide_eq_true_eq, Bool.not_eq_true'] at both
    have listed : points.any (fun point => point.device = old.device) = true :=
      List.any_eq_true.mpr ⟨point, inside, decide_eq_true (same.trans both.2.symm)⟩
    rw [both.1] at listed
    cases listed
  funext pointId
  unfold readingsOf replaceDevices
  cases points.reverse.find? fun point => point.pointId = pointId with
  | none => rw [Option.none_or, Option.none_or, dropped, dropped]
  | some point => rfl

/-- The readings of the other devices stay, except under identifiers of the points. -/
theorem readingsOf_others {points : List TelemetryPoint} {device : String × String × Int}
    (silent : ¬exists point, point ∈ points ∧ point.device = device)
    (rows : String -> Option TelemetryPoint) (pointId : String) :
    readingsOf device (replaceDevices points rows) pointId =
      if (exists point, point ∈ points ∧ point.pointId = pointId) then none
      else readingsOf device rows pointId := by
  unfold readingsOf replaceDevices
  cases found : points.reverse.find? fun point => point.pointId = pointId with
  | none =>
      have different := find?_last_eq_none.mp found
      rw [if_neg (by rintro ⟨point, inside, same⟩; exact different point inside same),
        Option.none_or, Option.filter_filter]
      congr 1
      cases rows pointId with
      | none => rfl
      | some old =>
          rw [Option.filter_some, Option.filter_some]
          by_cases same : old.device = device
          · have unlisted : points.any (fun point => point.device = old.device) = false := by
              rw [List.any_eq_false]
              intro point inside equal
              exact silent ⟨point, inside, (of_decide_eq_true equal).trans same⟩
            rw [unlisted]
            simp
          · simp [same]
  | some point =>
      rcases of_find?_last found with ⟨inside, same⟩
      rw [if_pos ⟨point, inside, same⟩, Option.some_or, Option.filter_some, if_neg]
      · rfl
      · intro equal
        exact silent ⟨point, inside, of_decide_eq_true equal⟩

/-! ## The rows of the table and of the memory -/

/-- The names of the point are levels of a topic. -/
def TelemetryPoint.Plain (point : TelemetryPoint) : Prop :=
  PlainName point.site.gatewayId point.site.portId

theorem telemetryDeviceKey_inj {point other : TelemetryPoint} (plain : point.Plain) :
    telemetryDeviceKey point = telemetryDeviceKey other ↔ point.device = other.device := by
  rw [telemetryDeviceKey, telemetryDeviceKey, registryDeviceKey_inj plain, TelemetryPoint.device,
    TelemetryPoint.device, Prod.mk.injEq, Prod.mk.injEq]

/-- The batch is described by its points, not only by the last one of each key. -/
theorem reportedBy_eq {points : List TelemetryPoint}
    (plain : forall point, point ∈ points -> point.Plain) (old : TelemetryPoint) :
    Database.reportedBy points old = points.any fun point => point.device = old.device := by
  have same (other : TelemetryPoint) : (other.site.gatewayId = old.site.gatewayId &&
      other.site.portId = old.site.portId && other.deviceId = old.deviceId) =
        decide (other.device = old.device) := by
    simp only [TelemetryPoint.device, Prod.mk.injEq, Bool.decide_and, Bool.and_assoc]
  rw [Bool.eq_iff_iff, Database.reportedBy, Table.any_iff, List.any_eq_true]
  constructor
  · rintro ⟨key, other, found, fits⟩
    rw [same] at fits
    rcases Table.get_putAll telemetryDeviceKey id found with ⟨point, inside, -, rfl⟩ | absent
    · exact ⟨point, inside, fits⟩
    · rw [Table.get_empty] at absent
      cases absent
  · rintro ⟨point, inside, fits⟩
    have present := (Table.isSome_get_putAll telemetryDeviceKey id points ∅
      (telemetryDeviceKey point)).mpr (Or.inl ⟨point, inside, rfl⟩)
    rcases Option.isSome_iff_exists.mp present with ⟨other, found⟩
    refine ⟨telemetryDeviceKey point, other, found, ?_⟩
    rw [same]
    rcases Table.get_putAll telemetryDeviceKey id found with ⟨last, among, key, rfl⟩ | absent
    · have equal := (telemetryDeviceKey_inj (plain last among)).mp key
      exact decide_eq_true (equal.trans (of_decide_eq_true fits))
    · rw [Table.get_empty] at absent
      cases absent

/-- What the table shows under an identifier. -/
def TelemetryRun.tableRows (run : TelemetryRun) (pointId : String) : Option TelemetryPoint :=
  run.pcData.database.latestPoints.get pointId

def TelemetryRun.memoryRows (run : TelemetryRun) (pointId : String) : Option TelemetryPoint :=
  (run.pcData.service.snapshot.get pointId).map SnapshotPoint.point

theorem tableRows_savePoints {run : TelemetryRun} (waiting : Waiting run)
    (plain : forall point, point ∈ run.waiting -> point.Plain) (nowMs : Int) :
    (run.savePoints nowMs).tableRows = replaceDevices run.taken run.tableRows := by
  funext pointId
  rw [TelemetryRun.tableRows, (savePoints_saved waiting nowMs).2.1, Table.get_putAll_last,
    Table.get_keepIf, Option.map_id]
  unfold replaceDevices
  simp only [reportedBy_eq fun point inside => plain point (List.mem_append_left _ inside), id_eq]
  rfl

/-- The points that are put in at one time take the place of older ones. -/
theorem get_foldl_storePoint {points : List TelemetryPoint} {nowMs : Int}
    {snapshot : Table String SnapshotPoint}
    (older : forall point stored, point ∈ points -> snapshot.get point.pointId = some stored ->
      stored.receiveTimeMs ≤ nowMs) :
    points.foldl (DataService.storePoint nowMs) snapshot =
      Table.putAll TelemetryPoint.pointId (fun point => ⟨point, nowMs⟩) points snapshot := by
  induction points generalizing snapshot with
  | nil => rfl
  | cons point points ih =>
      have stored : DataService.storePoint nowMs snapshot point =
          snapshot.put point.pointId ⟨point, nowMs⟩ := by
        unfold DataService.storePoint
        cases found : snapshot.get point.pointId with
        | none => rfl
        | some old => exact if_pos (older point old List.mem_cons_self found)
      rw [List.foldl_cons, stored]
      apply ih
      intro other old inside found
      rw [Table.get_put] at found
      split at found
      · cases found
        exact le_rfl
      · exact older other old (List.mem_cons_of_mem point inside) found

/-- The points of the message have identifiers of their own: no other device
has one of them, in the message or in memory. -/
def OwnIds (points : List TelemetryPoint) (service : DataService) : Prop :=
  forall point, point ∈ points ->
    (forall other, other ∈ points -> other.pointId = point.pointId ->
      other.device = point.device) ∧
    forall stored, stored ∈ service.snapshot.get point.pointId ->
      stored.point.device = point.device

/-- The memory after a list of points: what is accepted takes the place of all
points of the devices that report. -/
theorem get_handleTelemetryPoints {service : DataService} {points accepted : List TelemetryPoint}
    {nowMs : Int}
    (selected : points.filter (service.pruneExpiredRemovedDevices nowMs).acceptsPoint = accepted)
    (plain : forall point, point ∈ accepted -> point.Plain) (own : OwnIds accepted service)
    (pointId : String) :
    (service.handleTelemetryPoints nowMs points).snapshot.get pointId =
      ((accepted.reverse.find? fun point => point.pointId = pointId).map fun point =>
          ⟨point, nowMs⟩).or
        ((service.snapshot.get pointId).filter fun stored =>
          !accepted.any fun point => point.device = stored.point.device) := by
  have listed (stored : SnapshotPoint) :
      (accepted.map telemetryDeviceKey).contains (telemetryDeviceKey stored.point) =
        accepted.any fun point => point.device = stored.point.device := by
    rw [Bool.eq_iff_iff, List.contains_iff_mem, List.mem_map, List.any_eq_true]
    constructor
    · rintro ⟨point, inside, same⟩
      exact ⟨point, inside, decide_eq_true ((telemetryDeviceKey_inj (plain point inside)).mp same)⟩
    · rintro ⟨point, inside, same⟩
      exact ⟨point, inside, (telemetryDeviceKey_inj (plain point inside)).mpr
        (of_decide_eq_true same)⟩
  unfold DataService.handleTelemetryPoints
  dsimp only
  rw [selected, get_foldl_storePoint, Table.get_putAll_last, Table.get_keepIf]
  · simp only [listed]
    rfl
  · intro point stored inside found
    rw [Table.get_keepIf, Option.filter_eq_some_iff, listed, Bool.not_eq_true'] at found
    have known := (own point inside).2 stored found.1
    have reported : accepted.any (fun point => point.device = stored.point.device) = true :=
      List.any_eq_true.mpr ⟨point, inside, decide_eq_true known.symm⟩
    rw [found.2] at reported
    cases reported

theorem snapshot_handleTelemetryPoints {service : DataService} {points : List TelemetryPoint}
    (nothing : service.NothingRemoved) (named : forall point, point ∈ points -> point.pointId ≠ "")
    (plain : forall point, point ∈ points -> point.Plain) (own : OwnIds points service)
    (nowMs : Int) (pointId : String) :
    ((service.handleTelemetryPoints nowMs points).snapshot.get pointId).map SnapshotPoint.point =
      replaceDevices points (fun pointId => (service.snapshot.get pointId).map SnapshotPoint.point)
        pointId := by
  have selected : points.filter (service.pruneExpiredRemovedDevices nowMs).acceptsPoint = points := by
    rw [DataService.pruned_of_nothingRemoved nothing]
    exact DataService.accepted_of_nothingRemoved nothing named
  rw [get_handleTelemetryPoints selected plain own, replaceDevices_apply]
  cases points.reverse.find? fun point => point.pointId = pointId with
  | some point => rfl
  | none =>
      cases service.snapshot.get pointId with
      | none => rfl
      | some stored =>
          rw [Option.map_none, Option.none_or, Option.none_or, Option.map_some, Option.filter_some,
            Option.filter_some]
          split
          · rfl
          · rfl

/-! ## Both along a run -/

/-- What the table will show when everything that waits has been saved. -/
def TelemetryRun.restRows (run : TelemetryRun) : String -> Option TelemetryPoint :=
  replaceDevices run.pcData.pendingDbPoints.values (replaceDevices run.taken run.tableRows)

/-- Every device that has reported has the same readings in memory and in the table. -/
def LatestAgree (run : TelemetryRun) : Prop :=
  forall point, point ∈ run.accepted ->
    readingsOf point.device run.tableRows = readingsOf point.device run.memoryRows

section Runs

variable (pc : JsonCodec) (stod : String -> Option Rat)

/-- The points that a message brings have identifiers of their own. -/
def BringsOwnIds (run : TelemetryRun) : TelemetryEvent -> Prop
  | .message nowMs message =>
      OwnIds (run.pcData.acceptedPoints pc stod nowMs message) run.pcData.service
  | .writerTakes => True
  | .writerSaves _ => True

/-- A device that reports while points of it wait reports all of these points again. -/
def AllRepeated (run : TelemetryRun) : TelemetryEvent -> Prop
  | .message nowMs message => forall old, old ∈ run.pcData.pendingDbPoints.values ->
      (exists point, point ∈ run.pcData.acceptedPoints pc stod nowMs message ∧
        point.device = old.device) ->
      exists point, point ∈ run.pcData.acceptedPoints pc stod nowMs message ∧
        point.pointId = old.pointId
  | .writerTakes => True
  | .writerSaves _ => True

theorem plainName_of_portUpTopic {topic gatewayId portId : String}
    (named : parsePortUpTopic topic = some (gatewayId, portId)) : PlainName gatewayId portId := by
  unfold parsePortUpTopic at named
  split at named
  · cases named
  · split at named
    · cases named
    · rename_i cut
      split_ifs at named with empty
      cases named
      rw [not_or, not_or] at empty
      unfold PlainName
      rw [String.toList_ofList, String.toList_ofList]
      exact ⟨(cutAt_eq_some cut).2, empty.2.2⟩

theorem plain_of_accepted {state : PcData} {nowMs : Int} {message : TelemetryMessage}
    {point : TelemetryPoint} (accepted : point ∈ state.acceptedPoints pc stod nowMs message) :
    point.Plain := by
  unfold PcData.acceptedPoints at accepted
  split at accepted
  · exact absurd accepted List.not_mem_nil
  · rename_i pack parsed
    split at accepted
    · rename_i accepts
      rcases List.mem_flatMap.mp (List.mem_filter.mp accepted).1 with ⟨device, -, inside⟩
      unfold TelemetryPoint.Plain
      rw [(of_mem_devicePoints inside).1]
      simp only [PcData.acceptsPack, Bool.and_eq_true, decide_eq_true_eq] at accepts
      exact plainName_of_portUpTopic accepts.1.1.2
    · exact absurd accepted List.not_mem_nil

/-- What is known about every state of a run. -/
structure Tracked (run : TelemetryRun) : Prop extends Waiting run where
  plain : forall point, point ∈ run.accepted -> point.Plain
  keyed : forall pointId point, run.pcData.pendingDbPoints.get pointId = some point ->
    point.pointId = pointId
  nothing : run.pcData.service.NothingRemoved

theorem tracked_step {run : TelemetryRun} (event : TelemetryEvent) (tracked : Tracked run)
    (active : DevicesActive pc stod run event) : Tracked (run.step pc stod event) := by
  refine ⟨waiting_step pc stod event tracked.toWaiting active, ?_, ?_, ?_⟩
  · intro point listed
    cases event with
    | message nowMs message =>
        rcases List.mem_append.mp listed with old | new
        · exact tracked.plain point old
        · exact plain_of_accepted pc stod new
    | writerTakes =>
        rw [TelemetryRun.step, (takePoints_same run).2.2] at listed
        exact tracked.plain point listed
    | writerSaves nowMs =>
        rw [TelemetryRun.step, (savePoints_same run nowMs).2.2.1] at listed
        exact tracked.plain point listed
  · intro pointId point found
    cases event with
    | message nowMs message =>
        rw [(step_message pc stod run nowMs message).2] at found
        rcases Table.get_putAll TelemetryPoint.pointId id found with ⟨new, -, same, rfl⟩ | old
        · exact same
        · exact tracked.keyed pointId point old
    | writerTakes =>
        rcases takePoints_cases run with same | ⟨-, taken⟩
        · rw [TelemetryRun.step, same] at found
          exact tracked.keyed pointId point found
        · rw [TelemetryRun.step, taken] at found
          cases (Table.get_empty pointId).symm.trans found
    | writerSaves nowMs =>
        rw [TelemetryRun.step, (savePoints_same run nowMs).1] at found
        exact tracked.keyed pointId point found
  · apply DataService.nothingRemoved_of_registry tracked.nothing
    exact registry_step pc stod event tracked.nothing

/-! ## What a step changes -/

theorem find?_values {table : Table String TelemetryPoint}
    (keyed : forall pointId point, table.get pointId = some point -> point.pointId = pointId)
    (pointId : String) :
    (table.values.reverse.find? fun point => point.pointId = pointId) = table.get pointId := by
  cases found : table.values.reverse.find? fun point => point.pointId = pointId with
  | none =>
      symm
      rw [Option.eq_none_iff_forall_not_mem]
      intro point present
      exact find?_last_eq_none.mp found point (Table.mem_values.mpr ⟨pointId, present⟩)
        (keyed pointId point present)
  | some point =>
      rcases of_find?_last found with ⟨inside, same⟩
      rcases Table.mem_values.mp inside with ⟨key, present⟩
      rw [← same, ← keyed key point present] at *
      exact present.symm

/-- The devices of the points under their identifiers, where an identifier
belongs to one device. -/
theorem any_values_putAll {points : List TelemetryPoint} {table : Table String TelemetryPoint}
    (keyed : forall pointId point, table.get pointId = some point -> point.pointId = pointId)
    (own : forall point, point ∈ points ->
      (forall other, other ∈ points -> other.pointId = point.pointId ->
        other.device = point.device) ∧
      forall old, table.get point.pointId = some old -> old.device = point.device)
    (device : String × String × Int) :
    ((Table.putAll TelemetryPoint.pointId id points table).values.any fun point =>
        point.device = device) =
      ((table.values.any fun point => point.device = device) ||
        points.any fun point => point.device = device) := by
  -- Under the identifier of a point there is a point of the same device.
  have shown {point : TelemetryPoint} (same : point.device = device)
      (there : (exists record, record ∈ points ∧ record.pointId = point.pointId) ∨
        (table.get point.pointId).isSome = true)
      (fits : forall other, (Table.putAll TelemetryPoint.pointId id points table).get
        point.pointId = some other -> other.device = point.device) :
      ((Table.putAll TelemetryPoint.pointId id points table).values.any fun point =>
        point.device = device) = true := by
    have present := (Table.isSome_get_putAll TelemetryPoint.pointId id points table
      point.pointId).mpr there
    rcases Option.isSome_iff_exists.mp present with ⟨other, found⟩
    exact List.any_eq_true.mpr ⟨other, Table.mem_values.mpr ⟨point.pointId, found⟩,
      decide_eq_true ((fits other found).trans same)⟩
  rw [Bool.eq_iff_iff, Bool.or_eq_true]
  constructor
  · intro listed
    rcases List.any_eq_true.mp listed with ⟨point, inside, same⟩
    rcases Table.mem_values.mp inside with ⟨key, found⟩
    rcases Table.get_putAll TelemetryPoint.pointId id found with ⟨new, among, -, rfl⟩ | old
    · exact Or.inr (List.any_eq_true.mpr ⟨new, among, same⟩)
    · exact Or.inl (List.any_eq_true.mpr ⟨point, Table.mem_values.mpr ⟨key, old⟩, same⟩)
  · rintro (listed | listed)
    · rcases List.any_eq_true.mp listed with ⟨point, inside, same⟩
      rcases Table.mem_values.mp inside with ⟨key, found⟩
      have here := found
      rw [← keyed key point found] at here
      apply shown (of_decide_eq_true same) (Or.inr (Option.isSome_iff_exists.mpr ⟨point, here⟩))
      intro other after
      rcases Table.get_putAll TelemetryPoint.pointId id after with ⟨new, among, id, rfl⟩ | old
      · exact ((own new among).2 point (id ▸ here)).symm
      · cases here.symm.trans old
        rfl
    · rcases List.any_eq_true.mp listed with ⟨point, inside, same⟩
      apply shown (of_decide_eq_true same) (Or.inl ⟨point, inside, rfl⟩)
      intro other after
      rcases Table.get_putAll TelemetryPoint.pointId id after with ⟨new, among, key, rfl⟩ | old
      · exact (own point inside).1 new among key
      · exact (own point inside).2 other old

theorem restRows_drained {run : TelemetryRun} (drained : run.Drained) :
    run.restRows = run.tableRows := by
  rw [TelemetryRun.restRows, drained.1, drained.2, replaceDevices_nil, replaceDevices_nil]

theorem restRows_takePoints (run : TelemetryRun) : run.takePoints.restRows = run.restRows := by
  rcases takePoints_cases run with same | ⟨idle, taken⟩
  · rw [same]
  · rw [taken, TelemetryRun.restRows, TelemetryRun.restRows, idle, replaceDevices_nil]
    exact replaceDevices_nil _

theorem restRows_savePoints {run : TelemetryRun} (tracked : Tracked run) (nowMs : Int) :
    (run.savePoints nowMs).restRows = run.restRows := by
  rcases savePoints_same run nowMs with ⟨pending, -, -, taken⟩
  have saved := tableRows_savePoints tracked.toWaiting
    (fun point listed => tracked.plain point (tracked.accepted point listed)) nowMs
  rw [TelemetryRun.restRows, taken, pending, saved, replaceDevices_nil]
  rfl

theorem memoryRows_message {run : TelemetryRun} (tracked : Tracked run) (nowMs : Int)
    (message : TelemetryMessage) (own : BringsOwnIds pc stod run (.message nowMs message)) :
    (run.step pc stod (.message nowMs message)).memoryRows =
      replaceDevices (run.pcData.acceptedPoints pc stod nowMs message) run.memoryRows := by
  funext pointId
  unfold TelemetryRun.step
  rcases handleTelemetryMessage_cases pc stod nowMs run.pcData message with
    ⟨nothing, same⟩ | ⟨requests, result⟩
  · rw [nothing, replaceDevices_nil, TelemetryRun.memoryRows]
    dsimp only
    rw [same]
    rfl
  · rw [TelemetryRun.memoryRows]
    dsimp only
    rw [result]
    exact snapshot_handleTelemetryPoints tracked.nothing
      (fun point accepted => pointId_of_accepted pc stod nowMs accepted)
      (fun point accepted => plain_of_accepted pc stod accepted) own nowMs pointId

/-- The rows after a message, by what is under an identifier. -/
theorem restRows_message {run : TelemetryRun} (tracked : Tracked run) (nowMs : Int)
    (message : TelemetryMessage)
    (active : DevicesActive pc stod run (.message nowMs message)) (pointId : String) :
    (run.step pc stod (.message nowMs message)).restRows pointId =
      (((run.pcData.acceptedPoints pc stod nowMs message).reverse.find? fun point =>
          point.pointId = pointId).or (run.pcData.pendingDbPoints.get pointId)).or
        ((replaceDevices run.taken run.tableRows pointId).filter fun old =>
          !(Table.putAll TelemetryPoint.pointId id
            (run.pcData.acceptedPoints pc stod nowMs message)
            run.pcData.pendingDbPoints).values.any fun point => point.device = old.device) := by
  have next := tracked_step pc stod (.message nowMs message) tracked active
  rcases step_message pc stod run nowMs message with ⟨database, pending⟩
  have found := find?_values next.keyed pointId
  rw [pending, Table.get_putAll_last, Option.map_id, id_eq] at found
  unfold TelemetryRun.restRows
  rw [replaceDevices, pending, found]
  congr 2
  unfold TelemetryRun.tableRows
  rw [database]
  rfl

/-- What waits has the identifiers of its own devices, wherever table and memory agree. -/
theorem own_pending {run : TelemetryRun} (tracked : Tracked run)
    (agree : forall point, point ∈ run.accepted ->
      readingsOf point.device run.restRows = readingsOf point.device run.memoryRows)
    {points : List TelemetryPoint} (own : OwnIds points run.pcData.service)
    {point old : TelemetryPoint} (inside : point ∈ points)
    (waits : run.pcData.pendingDbPoints.get point.pointId = some old) :
    old.device = point.device := by
  have listed : old ∈ run.waiting :=
    List.mem_append_right _ (Table.mem_values.mpr ⟨point.pointId, waits⟩)
  have shown : run.restRows point.pointId = some old := by
    rw [TelemetryRun.restRows, replaceDevices, find?_values tracked.keyed, waits, Option.some_or]
  have remembered := congrFun (agree old (tracked.accepted old listed)) point.pointId
  unfold readingsOf at remembered
  rw [shown, Option.filter_some, if_pos (decide_eq_true rfl), Option.map_some] at remembered
  rcases Option.map_eq_some_iff.mp remembered.symm with ⟨kept, found, -⟩
  rw [Option.filter_eq_some_iff, TelemetryRun.memoryRows, Option.map_eq_some_iff] at found
  rcases found with ⟨⟨stored, present, rfl⟩, same⟩
  exact (of_decide_eq_true same).symm.trans ((own point inside).2 stored present)

/-- A message that repeats all points that wait changes the table as it changes the memory. -/
theorem restRows_repeated {run : TelemetryRun} (tracked : Tracked run)
    (agree : forall point, point ∈ run.accepted ->
      readingsOf point.device run.restRows = readingsOf point.device run.memoryRows)
    (nowMs : Int) (message : TelemetryMessage)
    (active : DevicesActive pc stod run (.message nowMs message))
    (own : BringsOwnIds pc stod run (.message nowMs message))
    (repeated : AllRepeated pc stod run (.message nowMs message)) :
    (run.step pc stod (.message nowMs message)).restRows =
      replaceDevices (run.pcData.acceptedPoints pc stod nowMs message) run.restRows := by
  funext pointId
  rw [restRows_message pc stod tracked nowMs message active,
    replaceDevices_apply (run.pcData.acceptedPoints pc stod nowMs message)]
  cases last : (run.pcData.acceptedPoints pc stod nowMs message).reverse.find? fun point =>
      point.pointId = pointId with
  | some point => rfl
  | none =>
      have different := find?_last_eq_none.mp last
      rw [Option.none_or, Option.none_or, TelemetryRun.restRows,
        replaceDevices_apply run.pcData.pendingDbPoints.values, find?_values tracked.keyed]
      cases waits : run.pcData.pendingDbPoints.get pointId with
      | some old =>
          -- The point waits under an identifier that the message does not have.
          have key := tracked.keyed pointId old waits
          have silent : (run.pcData.acceptedPoints pc stod nowMs message).any
              (fun point => point.device = old.device) = false := by
            rw [List.any_eq_false]
            intro point inside same
            obtain ⟨again, listed, fits⟩ := repeated old (Table.mem_values.mpr ⟨pointId, waits⟩)
              ⟨point, inside, of_decide_eq_true same⟩
            exact different again listed (fits.trans key)
          rw [Option.some_or, Option.some_or, Option.filter_some, silent]
          rfl
      | none =>
          rw [Option.none_or, Option.none_or, Option.filter_filter]
          congr 1
          funext old
          rw [any_values_putAll tracked.keyed, Bool.not_or]
          exact fun point inside => ⟨(own point inside).1, fun other waits =>
            own_pending tracked agree own inside waits⟩

/-- If a point of a reporting device waits and is not repeated, the table keeps it. -/
theorem disagree_of_not_repeated {run : TelemetryRun} (tracked : Tracked run) (nowMs : Int)
    (message : TelemetryMessage)
    (active : DevicesActive pc stod run (.message nowMs message))
    (own : BringsOwnIds pc stod run (.message nowMs message)) {old point : TelemetryPoint}
    (waits : old ∈ run.pcData.pendingDbPoints.values)
    (reports : point ∈ run.pcData.acceptedPoints pc stod nowMs message)
    (device : point.device = old.device)
    (gone : forall other, other ∈ run.pcData.acceptedPoints pc stod nowMs message ->
      other.pointId ≠ old.pointId) :
    readingsOf point.device (run.step pc stod (.message nowMs message)).restRows old.pointId ≠
      readingsOf point.device (run.step pc stod (.message nowMs message)).memoryRows old.pointId := by
  have last := find?_last_eq_none.mpr gone
  rcases Table.mem_values.mp waits with ⟨key, found⟩
  rw [← tracked.keyed key old found] at found
  have shown : readingsOf point.device (run.step pc stod (.message nowMs message)).restRows
      old.pointId = some old.reading := by
    rw [readingsOf, restRows_message pc stod tracked nowMs message active, last, found,
      Option.none_or, Option.some_or, Option.filter_some, if_pos (decide_eq_true device.symm)]
    rfl
  have forgotten : readingsOf point.device (run.step pc stod (.message nowMs message)).memoryRows
      old.pointId = none := by
    rw [memoryRows_message pc stod tracked nowMs message own,
      readingsOf_replaced ⟨point, reports, rfl⟩ run.memoryRows (fun _ => none), readingsOf,
      replaceDevices_apply, last]
    rfl
  rw [shown, forgotten]
  exact Option.some_ne_none _

/-- The agreement that is reached once everything that waits has been saved. -/
def RestAgrees (run : TelemetryRun) : Prop :=
  forall point, point ∈ run.accepted ->
    readingsOf point.device run.restRows = readingsOf point.device run.memoryRows

theorem restAgrees_step {run : TelemetryRun} (event : TelemetryEvent) (tracked : Tracked run)
    (active : DevicesActive pc stod run event) (own : BringsOwnIds pc stod run event)
    (agrees : RestAgrees run) :
    RestAgrees (run.step pc stod event) ↔ AllRepeated pc stod run event := by
  cases event with
  | message nowMs message =>
      constructor
      · intro after old waits reports
        by_contra gone
        rcases reports with ⟨point, inside, device⟩
        apply disagree_of_not_repeated pc stod tracked nowMs message active own waits inside device
        · exact fun other listed same => gone ⟨other, listed, same⟩
        · exact congrFun (after point (List.mem_append_right _ inside)) old.pointId
      · intro repeated point listed
        rw [restRows_repeated pc stod tracked agrees nowMs message active own repeated,
          memoryRows_message pc stod tracked nowMs message own]
        by_cases reports : exists new,
            new ∈ run.pcData.acceptedPoints pc stod nowMs message ∧ new.device = point.device
        · exact readingsOf_replaced reports _ _
        · have before : point ∈ run.accepted := by
            rcases List.mem_append.mp listed with old | new
            · exact old
            · exact absurd ⟨point, new, rfl⟩ reports
          funext pointId
          rw [readingsOf_others reports, readingsOf_others reports, agrees point before]
  | writerTakes =>
      refine ⟨fun _ => trivial, fun _ point listed => ?_⟩
      rcases takePoints_same run with ⟨-, service, accepted⟩
      rw [TelemetryRun.step, accepted] at listed
      rw [TelemetryRun.step, restRows_takePoints, agrees point listed]
      unfold TelemetryRun.memoryRows
      rw [service]
  | writerSaves nowMs =>
      refine ⟨fun _ => trivial, fun _ point listed => ?_⟩
      rcases savePoints_same run nowMs with ⟨-, service, accepted, -⟩
      rw [TelemetryRun.step, accepted] at listed
      rw [TelemetryRun.step, restRows_savePoints tracked, agrees point listed]
      unfold TelemetryRun.memoryRows
      rw [service]

/-- The writer saves what it has taken and all that waits. -/
def writerDrains (nowMs : Int) : List TelemetryEvent :=
  [.writerSaves nowMs, .writerTakes, .writerSaves nowMs]

/-- Saving what waits changes neither what the table will show nor the memory. -/
theorem latestAgree_drained {database : Database} {startMs : Int} {events : List TelemetryEvent}
    (tracked : Tracked ((telemetrySystem pc stod database startMs).run events)) (nowMs : Int) :
    LatestAgree ((telemetrySystem pc stod database startMs).run (events ++ writerDrains nowMs)) ↔
      RestAgrees ((telemetrySystem pc stod database startMs).run events) := by
  have saved := tracked_step pc stod (.writerSaves nowMs) tracked trivial
  have taken := tracked_step pc stod .writerTakes saved trivial
  rcases savePoints_same ((telemetrySystem pc stod database startMs).run events) nowMs with
    ⟨-, firstService, firstAccepted, idle⟩
  obtain ⟨-, nextService, nextAccepted⟩ := takePoints_same
    (((telemetrySystem pc stod database startMs).run events).savePoints nowMs)
  obtain ⟨-, lastService, lastAccepted, -⟩ := savePoints_same
    (((telemetrySystem pc stod database startMs).run events).savePoints nowMs).takePoints nowMs
  have rows := (restRows_savePoints taken nowMs).trans
    ((restRows_takePoints _).trans (restRows_savePoints tracked nowMs))
  have drained := restRows_drained (drained_of_turn idle nowMs)
  rw [TransitionSystem.run, TransitionSystem.runFrom_append]
  change LatestAgree
    ((((telemetrySystem pc stod database startMs).run events).savePoints
      nowMs).takePoints.savePoints nowMs) ↔ _
  unfold LatestAgree RestAgrees
  rw [← drained, lastAccepted, nextAccepted, firstAccepted]
  unfold TelemetryRun.memoryRows
  rw [lastService, nextService, firstService]
  simp only [TelemetryRun.step] at rows
  rw [rows]

theorem tracked_start {database : Database} (saves : database.Saves) (startMs : Int) :
    Tracked (telemetrySystem pc stod database startMs).initial := by
  refine ⟨waiting_start pc stod saves startMs, ?_, ?_, nothingRemoved_seeded database startMs⟩
  · exact fun _ listed => absurd listed List.not_mem_nil
  · exact fun pointId _ found => nomatch (Table.get_empty pointId).symm.trans found

/-- Wherever the writer drains what waits, the table has the readings of the
memory for every device that has reported, exactly if every message of a device
repeats the points of the device that wait. -/
theorem latest_points_agree_iff (database : Database) (startMs : Int) (saves : database.Saves)
    {events : List TelemetryEvent}
    (active : (telemetrySystem pc stod database startMs).Admissible
      (DevicesActive pc stod) events)
    (own : (telemetrySystem pc stod database startMs).Admissible (BringsOwnIds pc stod) events) :
    (forall before after, events = before ++ after -> forall nowMs,
      LatestAgree ((telemetrySystem pc stod database startMs).run
        (before ++ writerDrains nowMs))) ↔
      (telemetrySystem pc stod database startMs).Admissible (AllRepeated pc stod) events := by
  have both := (telemetrySystem pc stod database startMs).admissibleFrom_and.mpr ⟨active, own⟩
  have start : RestAgrees (telemetrySystem pc stod database startMs).initial :=
    fun _ listed => absurd listed List.not_mem_nil
  have general := (telemetrySystem pc stod database startMs).everywhere_iff
    (tracked_start pc stod saves startMs) start
    (fun _ event tracked domain => tracked_step pc stod event tracked domain.1)
    (fun _ event tracked domain agrees =>
      restAgrees_step pc stod event tracked domain.1 domain.2 agrees) both
  rw [← general]
  have reached (before after : List TelemetryEvent) (split : events = before ++ after) :
      Tracked ((telemetrySystem pc stod database startMs).run before) := by
    rw [split] at active
    exact (telemetrySystem pc stod database startMs).invariant_run
      (tracked_start pc stod saves startMs)
      (fun _ event tracked active => tracked_step pc stod event tracked active)
      ((telemetrySystem pc stod database startMs).admissible_initial active)
  constructor
  · intro agree before after split
    exact (latestAgree_drained pc stod (reached before after split) 0).mp
      (agree before after split 0)
  · intro agree before after split nowMs
    exact (latestAgree_drained pc stod (reached before after split) nowMs).mpr
      (agree before after split)

end Runs

/-! ## A relay -/

theorem of_replaceDevices {points : List TelemetryPoint} {rows : String -> Option TelemetryPoint}
    {pointId : String} {point : TelemetryPoint}
    (shown : replaceDevices points rows pointId = some point) :
    point ∈ points ∨ rows pointId = some point := by
  rw [replaceDevices_apply, Option.or_eq_some_iff] at shown
  rcases shown with found | ⟨-, kept⟩
  · exact Or.inl (of_find?_last found).1
  · exact Or.inr (Option.filter_eq_some_iff.mp kept).1

/-- Where all points are of one device, identifiers cannot be shared. -/
theorem ownIds_of_device {points : List TelemetryPoint} {service : DataService}
    {device : String × String × Int} (new : forall point, point ∈ points -> point.device = device)
    (old : forall pointId stored, service.snapshot.get pointId = some stored ->
      stored.point.device = device) : OwnIds points service := by
  intro point inside
  refine ⟨fun other listed _ => (new other listed).trans (new point inside).symm, ?_⟩
  exact fun stored found => (old point.pointId stored found).trans (new point inside).symm

def relayDatabase : Database :=
  { sensorDatabase with devices := Table.put ∅ sensorKey { sensorRow with deviceType := "relay" } }

/-- A pack of a relay with as many channels. -/
def channelsRoot (channels : Int) : Json :=
  .obj [("type", .str "telemetry_pack"), ("timestampMs", .int 1000),
    ("site", .obj [("factoryId", .str "factory_001"), ("areaId", .str "area_001"),
      ("gatewayId", .str "gateway_001"), ("portId", .str "port_001")]),
    ("devices", .arr [.obj [("deviceId", .int 1), ("deviceType", .str "relay"),
      ("relayStates", .int 1), ("channelCount", .int channels)]])]

def channelsMessage (channels : Int) : TelemetryMessage where
  topic := "gateway/gateway_001/port_001/up"
  payload := (JsonText.codec false).print (channelsRoot channels)

def channelsPack (channels : Int) : TelemetryPack where
  version := 1
  sequence := 0
  timestampMs := 1000
  sourceId := ""
  targetId := ""
  site := parseSite (channelsRoot channels)
  devices := (((memberArray (channelsRoot channels) "devices").getD []).filter
    Json.isObj).map (parseDevice fun _ => none)

theorem parseJson_channels {channels : Int} (wire : (channelsRoot channels).Wire Json.maxDepth)
    (packed : packTimestamp 0 (channelsRoot channels) = 1000) :
    parseJson (fun _ => none) (JsonText.codec false) 0 (channelsMessage channels).payload =
      .ok (channelsPack channels) := by
  have parsed : (JsonText.codec false).parse (channelsMessage channels).payload =
      some (channelsRoot channels) := (JsonText.codec false).parse_print _ wire
  unfold parseJson
  rw [parsed]
  unfold channelsRoot at packed ⊢
  dsimp only
  rw [packed]
  rfl

def relaySystem : TransitionSystem TelemetryRun TelemetryEvent :=
  telemetrySystem (JsonText.codec false) (fun _ => none) relayDatabase 0

theorem relayDatabase_saves : relayDatabase.Saves :=
  ⟨rfl, fun _ inside => absurd inside List.not_mem_nil⟩

def channelPoints (channels : Int) : List TelemetryPoint :=
  (seeded relayDatabase 0).receivedPoints (JsonText.codec false) 0 (channelsPack channels)

theorem acceptedPoints_channels {channels : Int}
    (parsed : parseJson (fun _ => none) (JsonText.codec false) 0
      (channelsMessage channels).payload = .ok (channelsPack channels))
    (events : List TelemetryEvent) :
    (relaySystem.run events).pcData.acceptedPoints (JsonText.codec false) (fun _ => none) 0
        (channelsMessage channels) = channelPoints channels := by
  have accepts : PcData.acceptsPack (seeded relayDatabase 0).service
      "gateway/gateway_001/port_001/up" (channelsPack channels) = true := by
    change PcData.acceptsPack (seeded relayDatabase 0).service "gateway/gateway_001/port_001/up"
      (channelsPack 0) = true
    decide +kernel
  rw [relaySystem, acceptedPoints_run]
  unfold PcData.acceptedPoints
  rw [parsed]
  exact if_pos accepts

theorem parseJson_twoChannels : parseJson (fun _ => none) (JsonText.codec false) 0
    (channelsMessage 2).payload = .ok (channelsPack 2) :=
  parseJson_channels (by decide) (by decide +kernel)

theorem parseJson_oneChannel : parseJson (fun _ => none) (JsonText.codec false) 0
    (channelsMessage 1).payload = .ok (channelsPack 1) :=
  parseJson_channels (by decide) (by decide +kernel)

/-- What is known about the points of both messages of the relay. -/
theorem channelPoints_device : (forall point, point ∈ channelPoints 2 ->
      relayDatabase.Knows point ∧ point.device = ("gateway_001", "port_001", 1)) ∧
    forall point, point ∈ channelPoints 1 ->
      relayDatabase.Knows point ∧ point.device = ("gateway_001", "port_001", 1) := by
  decide +kernel

theorem seeded_relay_snapshot : (seeded relayDatabase 0).service.snapshot = ∅ := by
  rfl

theorem relay_active {message : TelemetryMessage} {events : List TelemetryEvent}
    {points : List TelemetryPoint}
    (brings : (relaySystem.run events).pcData.acceptedPoints (JsonText.codec false)
      (fun _ => none) 0 message = points)
    (database : (relaySystem.run events).pcData.database = relayDatabase)
    (known : forall point, point ∈ points ->
      relayDatabase.Knows point ∧ point.device = ("gateway_001", "port_001", 1)) :
    DevicesActive (JsonText.codec false) (fun _ => none) (relaySystem.run events)
      (.message 0 message) := by
  intro point accepted
  rw [brings] at accepted
  rw [database]
  exact (known point accepted).1

theorem relay_own {message : TelemetryMessage} {events : List TelemetryEvent}
    {points : List TelemetryPoint}
    (brings : (relaySystem.run events).pcData.acceptedPoints (JsonText.codec false)
      (fun _ => none) 0 message = points)
    (stored : forall pointId point, (relaySystem.run events).memoryRows pointId = some point ->
      point.device = ("gateway_001", "port_001", 1))
    (known : forall point, point ∈ points ->
      relayDatabase.Knows point ∧ point.device = ("gateway_001", "port_001", 1)) :
    BringsOwnIds (JsonText.codec false) (fun _ => none) (relaySystem.run events)
      (.message 0 message) := by
  rw [BringsOwnIds, brings]
  apply ownIds_of_device (fun point inside => (known point inside).2)
  intro pointId kept found
  apply stored pointId kept.point
  rw [TelemetryRun.memoryRows, found, Option.map_some]

theorem relay_start_memory (pointId : String) : (relaySystem.run []).memoryRows pointId = none := by
  change ((seeded relayDatabase 0).service.snapshot.get pointId).map SnapshotPoint.point = none
  rw [seeded_relay_snapshot, Table.get_empty]
  rfl

theorem relay_first_own {message : TelemetryMessage} {points : List TelemetryPoint}
    (brings : (relaySystem.run []).pcData.acceptedPoints (JsonText.codec false)
      (fun _ => none) 0 message = points)
    (known : forall point, point ∈ points ->
      relayDatabase.Knows point ∧ point.device = ("gateway_001", "port_001", 1)) :
    BringsOwnIds (JsonText.codec false) (fun _ => none) (relaySystem.run [])
      (.message 0 message) := by
  apply relay_own brings _ known
  intro pointId point shown
  rw [relay_start_memory] at shown
  cases shown

/-- The relay reports once, and both channels are saved. -/
theorem relay_points_agree :
    (forall before after, [TelemetryEvent.message 0 (channelsMessage 2), .writerTakes,
        .writerSaves 0] = before ++ after -> forall nowMs,
      LatestAgree (relaySystem.run (before ++ writerDrains nowMs))) ↔
      relaySystem.Admissible (AllRepeated (JsonText.codec false) fun _ => none)
        [.message 0 (channelsMessage 2), .writerTakes, .writerSaves 0] := by
  have brings := acceptedPoints_channels parseJson_twoChannels []
  have active := relay_active brings rfl channelPoints_device.1
  have own := relay_first_own brings channelPoints_device.1
  exact latest_points_agree_iff _ _ _ _ relayDatabase_saves
    ⟨active, trivial, trivial, trivial⟩ ⟨own, trivial, trivial, trivial⟩

/-- A point of the first message waits, and the second message comes without it. -/
theorem vanished_point_stays {one two : TelemetryMessage} {old new : List TelemetryPoint}
    (first : (relaySystem.run []).pcData.acceptedPoints (JsonText.codec false) (fun _ => none) 0
      one = old)
    (second : (relaySystem.run [.message 0 one]).pcData.acceptedPoints (JsonText.codec false)
      (fun _ => none) 0 two = new)
    (known : (forall point, point ∈ old ->
        relayDatabase.Knows point ∧ point.device = ("gateway_001", "port_001", 1)) ∧
      forall point, point ∈ new ->
        relayDatabase.Knows point ∧ point.device = ("gateway_001", "port_001", 1))
    (reports : new ≠ [])
    (vanished : exists point,
      point ∈ (Table.putAll TelemetryPoint.pointId id old ∅).values ∧
        forall other, other ∈ new -> other.pointId ≠ point.pointId) :
    relaySystem.Admissible (DevicesActive (JsonText.codec false) fun _ => none)
        [.message 0 one, .message 0 two] ∧
      relaySystem.Admissible (BringsOwnIds (JsonText.codec false) fun _ => none)
        [.message 0 one, .message 0 two] ∧
      ¬LatestAgree (relaySystem.run ([.message 0 one, .message 0 two] ++ writerDrains 0)) := by
  rcases run_message (JsonText.codec false) (fun _ => none) relayDatabase 0 [] 0 one with
    ⟨database, pending, -⟩
  have hereActive := relay_active first rfl known.1
  have hereOwn := relay_first_own first known.1
  have start := tracked_start (JsonText.codec false) (fun _ => none) relayDatabase_saves 0
  have tracked : Tracked (relaySystem.run [.message 0 one]) :=
    tracked_step (JsonText.codec false) (fun _ => none) (.message 0 one) start hereActive
  have memory : (relaySystem.run [.message 0 one]).memoryRows =
      replaceDevices old (relaySystem.run []).memoryRows := by
    rw [← first]
    exact memoryRows_message (JsonText.codec false) (fun _ => none) start 0 one hereOwn
  have nextActive := relay_active second database known.2
  have nextOwn : BringsOwnIds (JsonText.codec false) (fun _ => none)
      (relaySystem.run [.message 0 one]) (.message 0 two) := by
    apply relay_own second _ known.2
    intro pointId point shown
    rw [memory] at shown
    rcases of_replaceDevices shown with inside | before
    · exact (known.1 point inside).2
    · rw [relay_start_memory] at before
      cases before
  refine ⟨⟨hereActive, nextActive, trivial⟩, ⟨hereOwn, nextOwn, trivial⟩, ?_⟩
  intro agree
  have next : Tracked (relaySystem.run [.message 0 one, .message 0 two]) :=
    tracked_step (JsonText.codec false) (fun _ => none) (.message 0 two) tracked nextActive
  rcases List.exists_mem_of_ne_nil new reports with ⟨point, inside⟩
  rcases vanished with ⟨gone, waits, unlisted⟩
  have waiting : gone ∈ (relaySystem.run [.message 0 one]).pcData.pendingDbPoints.values := by
    change gone ∈ ((telemetrySystem (JsonText.codec false) (fun _ => none) relayDatabase 0).run
      ([] ++ [.message 0 one])).pcData.pendingDbPoints.values
    rw [pending]
    exact first ▸ waits
  have device : point.device = gone.device := by
    rcases Table.mem_values.mp waits with ⟨key, found⟩
    rcases Table.get_putAll TelemetryPoint.pointId id found with ⟨before, among, -, rfl⟩ | absent
    · exact (known.2 point inside).2.trans (known.1 before among).2.symm
    · cases (Table.get_empty key).symm.trans absent
  have agrees := (latestAgree_drained (JsonText.codec false) (fun _ => none) next 0).mp agree
  apply disagree_of_not_repeated (JsonText.codec false) (fun _ => none) tracked 0 two nextActive
    nextOwn waiting (second ▸ inside) device (second ▸ unlisted)
  have listed : point ∈ (relaySystem.run [.message 0 one, .message 0 two]).accepted :=
    List.mem_append_right _ (second ▸ inside)
  exact congrFun (agrees point listed) gone.pointId

/-- A relay reports two channels and then one before the writer's turn, and the
table keeps the second channel. -/
theorem second_channel_stays :
    relaySystem.Admissible (DevicesActive (JsonText.codec false) fun _ => none)
        [.message 0 (channelsMessage 2), .message 0 (channelsMessage 1)] ∧
      relaySystem.Admissible (BringsOwnIds (JsonText.codec false) fun _ => none)
        [.message 0 (channelsMessage 2), .message 0 (channelsMessage 1)] ∧
      ¬LatestAgree (relaySystem.run
        ([.message 0 (channelsMessage 2), .message 0 (channelsMessage 1)] ++ writerDrains 0)) :=
  vanished_point_stays (acceptedPoints_channels parseJson_twoChannels [])
    (acceptedPoints_channels parseJson_oneChannel [.message 0 (channelsMessage 2)])
    channelPoints_device (by decide +kernel) (by decide +kernel)

end Pc
end Imx6Gateway
