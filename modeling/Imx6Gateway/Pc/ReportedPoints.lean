import Imx6Gateway.Pc.LatestPoints
import Mathlib.Data.List.Find

namespace Imx6Gateway
namespace Pc

open Library

/-!
# What a list of points leaves in memory

`handleTelemetryPoints` erases the points of all devices that report and then
puts in the points it accepts.  Here this is said device by device, for any
memory and any points.
-/

/-- A device or port that was to be ignored until a time is no longer ignored. -/
def expired (nowMs : Int) (removed : Table String Int) (key : String) : Bool :=
  (removed.get key).all fun expiry => expiry ≤ nowMs

/-- The point has an identifier, and neither its device nor its port is removed
at this time. -/
def DataService.acceptedAt (service : DataService) (nowMs : Int) (point : TelemetryPoint) : Bool :=
  point.pointId ≠ "" &&
    expired nowMs service.removedDevices (telemetryDeviceKey point) &&
    expired nowMs service.removedMasters (registryPortKey point.site.gatewayId point.site.portId)

/-- The points that are accepted. -/
def DataService.acceptedOf (service : DataService) (nowMs : Int) (points : List TelemetryPoint) :
    List TelemetryPoint :=
  points.filter (service.acceptedAt nowMs)

/-- The last point of a device under an identifier. -/
def lastReported (points : List TelemetryPoint) (device : String × String × Int)
    (pointId : String) : Option TelemetryPoint :=
  points.reverse.find? fun point => point.pointId = pointId && point.device = device

/-- The points that the memory holds of a device. -/
def DataService.pointsOf (service : DataService) (device : String × String × Int)
    (pointId : String) : Option SnapshotPoint :=
  (service.snapshot.get pointId).filter fun stored => stored.point.device = device

/-- Some point of the device is accepted. -/
def DataService.Reports (service : DataService) (nowMs : Int) (points : List TelemetryPoint)
    (device : String × String × Int) : Prop :=
  exists point, point ∈ service.acceptedOf nowMs points ∧ point.device = device

/-! ## The points that are accepted -/

theorem expired_eq (nowMs : Int) (removed : Table String Int) (key : String) :
    expired nowMs removed key =
      !((removed.keepIf fun _ expiry => nowMs < expiry).get key).isSome := by
  rw [expired, Table.get_keepIf]
  cases removed.get key with
  | none => rfl
  | some expiry =>
      rw [Option.all_some, Option.filter_some]
      by_cases past : expiry ≤ nowMs
      · rw [decide_eq_true past, if_neg (by simpa using past)]
        rfl
      · rw [decide_eq_false past, if_pos (by simpa using past)]
        rfl

/-- What is too old has been forgotten before the points are looked at. -/
theorem acceptsPoint_pruned (service : DataService) (nowMs : Int) (points : List TelemetryPoint) :
    points.filter (service.pruneExpiredRemovedDevices nowMs).acceptsPoint =
      service.acceptedOf nowMs points := by
  rw [DataService.acceptedOf]
  congr 1
  funext point
  unfold DataService.acceptedAt
  rw [expired_eq, expired_eq]
  rfl

/-! ## Device by device -/

section Devices

variable {service : DataService} {nowMs : Int} {points : List TelemetryPoint}

/-- No other device has the identifier of a point, so the last one under it is
of the device. -/
theorem find?_last_of_device (own : OwnIds (service.acceptedOf nowMs points) service)
    (device : String × String × Int) (pointId : String) :
    (((service.acceptedOf nowMs points).reverse.find? fun point => point.pointId = pointId).filter
        fun point => point.device = device) =
      lastReported (service.acceptedOf nowMs points) device pointId := by
  rw [lastReported]
  cases found : (service.acceptedOf nowMs points).reverse.find? fun point =>
      point.pointId = pointId with
  | none =>
      symm
      rw [Option.filter_none, List.find?_eq_none]
      intro point inside both
      rw [Bool.and_eq_true, decide_eq_true_eq] at both
      exact find?_last_eq_none.mp found point (List.mem_reverse.mp inside) both.1
  | some point =>
      rcases of_find?_last found with ⟨inside, named⟩
      -- All points under the identifier agree on the second test.
      have agree : forall other, other ∈ (service.acceptedOf nowMs points).reverse ->
          (decide (other.pointId = pointId) && decide (other.device = device)) =
            (decide (other.pointId = pointId) && decide (point.device = device)) := by
        intro other among
        by_cases same : other.pointId = pointId
        · rw [(own point inside).1 other (List.mem_reverse.mp among) (same.trans named.symm)]
        · rw [decide_eq_false same, Bool.false_and, Bool.false_and]
      rw [Option.filter_some]
      by_cases here : point.device = device
      · rw [decide_eq_true here] at agree ⊢
        rw [if_pos rfl, ← found]
        symm
        apply List.find?_congr
        intro other among
        rw [agree other among, Bool.and_true]
      · rw [decide_eq_false here] at agree ⊢
        symm
        rw [if_neg Bool.false_ne_true, List.find?_eq_none]
        intro other among both
        rw [agree other among, Bool.and_false] at both
        cases both

/-- The points of a device in the memory that is left. -/
theorem pointsOf_handleTelemetryPoints
    (plain : forall point, point ∈ service.acceptedOf nowMs points -> point.Plain)
    (own : OwnIds (service.acceptedOf nowMs points) service) (device : String × String × Int)
    (pointId : String) :
    (service.handleTelemetryPoints nowMs points).pointsOf device pointId =
      ((lastReported (service.acceptedOf nowMs points) device pointId).map fun point =>
          ⟨point, nowMs⟩).or
        ((service.pointsOf device pointId).filter fun _ =>
          !(service.acceptedOf nowMs points).any fun point => point.device = device) := by
  have after := get_handleTelemetryPoints (acceptsPoint_pruned service nowMs points) plain own pointId
  rw [← find?_last_of_device own device pointId, DataService.pointsOf, after, DataService.pointsOf]
  cases found : (service.acceptedOf nowMs points).reverse.find? fun point =>
      point.pointId = pointId with
  | none =>
      rw [Option.map_none, Option.none_or, Option.filter_none, Option.map_none, Option.none_or,
        Option.filter_filter, Option.filter_filter]
      congr 1
      funext stored
      by_cases same : stored.point.device = device
      · rw [same, Bool.and_comm]
      · rw [decide_eq_false same, Bool.false_and, Bool.and_false]
  | some point =>
      rcases of_find?_last found with ⟨inside, named⟩
      rw [Option.map_some, Option.some_or, Option.filter_some, Option.filter_some]
      by_cases here : point.device = device
      · rw [decide_eq_true here, if_pos rfl, if_pos rfl, Option.map_some, Option.some_or]
      · -- What the memory held under the identifier belongs to that other device.
        have elsewhere : (service.snapshot.get pointId).filter (fun stored =>
            decide (stored.point.device = device)) = none := by
          rw [Option.filter_eq_none_iff]
          intro stored held same
          rw [decide_eq_true_eq] at same
          rw [← named] at held
          exact here (((own point inside).2 stored held).symm.trans same)
        rw [decide_eq_false here, if_neg Bool.false_ne_true, if_neg Bool.false_ne_true,
          Option.map_none, Option.none_or, elsewhere, Option.filter_none]

/-- After `handleTelemetryPoints` the memory holds of a device that reports
exactly its accepted points, the last one under each identifier, all with the
time of the call; of every other device it holds what it held before. -/
theorem reported_points_exact
    (plain : forall point, point ∈ service.acceptedOf nowMs points -> point.Plain)
    (own : OwnIds (service.acceptedOf nowMs points) service) (device : String × String × Int) :
    (service.Reports nowMs points device -> forall pointId,
      (service.handleTelemetryPoints nowMs points).pointsOf device pointId =
        (lastReported (service.acceptedOf nowMs points) device pointId).map fun point =>
          ⟨point, nowMs⟩) ∧
      (¬ service.Reports nowMs points device -> forall pointId,
        (service.handleTelemetryPoints nowMs points).pointsOf device pointId =
          service.pointsOf device pointId) := by
  have reports : ((service.acceptedOf nowMs points).any fun point => point.device = device) = true ↔
      service.Reports nowMs points device := by
    rw [List.any_eq_true]
    simp only [decide_eq_true_eq]
    rfl
  constructor
  · intro reported pointId
    have gone : (service.pointsOf device pointId).filter (fun _ =>
        !(service.acceptedOf nowMs points).any fun point => point.device = device) = none := by
      rw [reports.mpr reported, Option.filter_eq_none_iff]
      exact fun _ _ => Bool.false_ne_true
    rw [pointsOf_handleTelemetryPoints plain own, gone, Option.or_none]
  · intro silent pointId
    have absent : lastReported (service.acceptedOf nowMs points) device pointId = none := by
      rw [lastReported, List.find?_eq_none]
      intro point inside both
      rw [Bool.and_eq_true, decide_eq_true_eq, decide_eq_true_eq] at both
      exact silent ⟨point, List.mem_reverse.mp inside, both.2⟩
    rw [← reports, Bool.not_eq_true] at silent
    rw [pointsOf_handleTelemetryPoints plain own, absent, Option.map_none, Option.none_or, silent]
    cases service.pointsOf device pointId with
    | none => rfl
    | some stored => rfl

end Devices

def labPoint (deviceId : Int) (pointId : String) (value : Rat) : TelemetryPoint :=
  ⟨0, ⟨"factory_001", "", "area_001", "", "gateway_001", "", "port_001", ""⟩, deviceId, "", "sensor_th",
    pointId, "temperature", "Temperature", "C", .number, some value, "", true, ""⟩

/-- Two points of the first device, one of the second, and the third is removed. -/
def labService : DataService :=
  { DataService.start with
    snapshot := ((Table.put ∅ "1.a" ⟨labPoint 1 "1.a" 20, 100⟩).put "1.b"
      ⟨labPoint 1 "1.b" 21, 100⟩).put "2.a" ⟨labPoint 2 "2.a" 22, 100⟩
    removedDevices := Table.put ∅ "gateway_001/port_001/3" 5000 }

def labPoints : List TelemetryPoint :=
  [labPoint 1 "1.a" 23, labPoint 3 "3.a" 24, labPoint 1 "" 25, labPoint 1 "1.a" 26]

theorem labService_reported :
    (forall pointId, (labService.handleTelemetryPoints 200 labPoints).pointsOf
        ("gateway_001", "port_001", 1) pointId =
      (lastReported (labService.acceptedOf 200 labPoints) ("gateway_001", "port_001", 1) pointId).map
        fun point => ⟨point, 200⟩) ∧
      (forall pointId, (labService.handleTelemetryPoints 200 labPoints).pointsOf
          ("gateway_001", "port_001", 2) pointId =
        labService.pointsOf ("gateway_001", "port_001", 2) pointId) ∧
      lastReported (labService.acceptedOf 200 labPoints) ("gateway_001", "port_001", 1) "1.a" =
        some (labPoint 1 "1.a" 26) := by
  have accepted : labService.acceptedOf 200 labPoints =
      [labPoint 1 "1.a" 23, labPoint 1 "1.a" 26] := by decide +kernel
  have plain : forall point, point ∈ labService.acceptedOf 200 labPoints -> point.Plain := by
    rw [accepted]
    unfold TelemetryPoint.Plain
    decide +kernel
  have own : OwnIds (labService.acceptedOf 200 labPoints) labService := by
    rw [accepted]
    unfold OwnIds
    decide +kernel
  refine ⟨(reported_points_exact plain own _).1 ?_, (reported_points_exact plain own _).2 ?_, ?_⟩
  · exact ⟨labPoint 1 "1.a" 23, by rw [accepted]; exact List.mem_cons_self, rfl⟩
  · rintro ⟨point, inside, here⟩
    rw [accepted] at inside
    revert point
    decide +kernel
  · rw [accepted]
    decide +kernel

end Pc
end Imx6Gateway
