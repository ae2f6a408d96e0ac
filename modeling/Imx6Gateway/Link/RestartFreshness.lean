import Imx6Gateway.Pc.Restart
import Imx6Gateway.Ui.DeviceModel

namespace Imx6Gateway
namespace Link

open Library Pc Ui Realtime

/-!
# What is shown as fresh after a restart

The message `latest_points` carries a receive time for each point, and the user
interface takes a device for online while the newest of these times is less
than half a minute old.  After a restart the rows of the database are pushed
with the time of the start, however long ago they were received.  This file
says in which runs the times of the message can be trusted.
-/

/-! ## The message -/

section Message

variable (number : Option Rat -> Json)

def valueTypeToString : PointValueType -> String
  | .number => "number"
  | .text => "text"
  | .boolean => "boolean"

/-- The value of a point; `number` is what the stream makes of a `double`. -/
def valueMembers (point : TelemetryPoint) : List (String × Json) :=
  if point.valueType = .text then
    [("value", .str point.textValue), ("numberValue", .int 0), ("textValue", .str point.textValue)]
  else
    [("value", number point.numberValue), ("numberValue", number point.numberValue),
      ("textValue", .str "")]

def latestPointMembers (stored : SnapshotPoint) : List (String × Json) :=
  [("pointId", .str stored.point.pointId), ("timestampMs", .int stored.point.timestampMs),
    ("receiveTimeMs", .int stored.shownTimeMs), ("factoryId", .str stored.point.site.factoryId),
    ("factoryName", .str stored.point.site.factoryName),
    ("areaId", .str stored.point.site.areaId), ("areaName", .str stored.point.site.areaName),
    ("gatewayId", .str stored.point.site.gatewayId),
    ("gatewayName", .str stored.point.site.gatewayName),
    ("portId", .str stored.point.site.portId), ("portName", .str stored.point.site.portName),
    ("deviceId", .int stored.point.deviceId), ("deviceName", .str stored.point.deviceName),
    ("deviceType", .str stored.point.deviceType), ("pointKey", .str stored.point.pointKey),
    ("pointName", .str stored.point.pointName), ("unit", .str stored.point.unit),
    ("valueType", .str (valueTypeToString stored.point.valueType))] ++
  valueMembers number stored.point ++
  [("valid", .bool stored.point.valid), ("errorMessage", .str stored.point.errorMessage)]

def buildLatestPointsJson (points : List SnapshotPoint) : Json :=
  .obj [("type", .str "latest_points"), ("count", .int points.length),
    ("points", .arr (points.map fun stored => .obj (latestPointMembers number stored)))]

/-- What `sendLatestPoints` sends in a state. -/
def sentLatestPoints (state : PcData) : Json :=
  buildLatestPointsJson number state.service.snapshot.values

def entries (message : Json) : List Json :=
  (memberArray message "points").getD []

theorem mem_entries_sent {state : PcData} {entry : Json} :
    entry ∈ entries (sentLatestPoints number state) ↔
      exists pointId stored, state.service.snapshot.get pointId = some stored ∧
        entry = .obj (latestPointMembers number stored) := by
  change entry ∈ state.service.snapshot.values.map _ ↔ _
  rw [List.mem_map]
  constructor
  · rintro ⟨stored, listed, rfl⟩
    rcases Table.mem_values.mp listed with ⟨pointId, found⟩
    exact ⟨pointId, stored, found, rfl⟩
  · rintro ⟨pointId, stored, found, rfl⟩
    exact ⟨stored, Table.mem_values.mpr ⟨pointId, found⟩, rfl⟩

/-- The device that an entry names. -/
def entryDevice (entry : Json) : Option (String × String × Int) :=
  match entry.lookup "gatewayId", entry.lookup "portId", entry.lookup "deviceId" with
  | some (.str gatewayId), some (.str portId), some (.int deviceId) =>
      some (gatewayId, portId, deviceId)
  | _, _, _ => none

/-- The receive time of an entry. -/
def entryTimeMs (entry : Json) : Option Int :=
  match entry.lookup "receiveTimeMs" with
  | some (.int timeMs) => some timeMs
  | _ => none

theorem entryDevice_members (stored : SnapshotPoint) :
    entryDevice (.obj (latestPointMembers number stored)) = some stored.point.device := rfl

theorem entryTimeMs_members (stored : SnapshotPoint) :
    entryTimeMs (.obj (latestPointMembers number stored)) = some stored.shownTimeMs := rfl

/-- The interface reads the time that was written. -/
theorem receiveTimeMs_members (stored : SnapshotPoint) :
    (parseTelemetryPoint (.obj (latestPointMembers number stored))).receiveTimeMs =
      stored.shownTimeMs := by
  change (if stored.shownTimeMs ≤ 0 then stored.point.timestampMs else stored.shownTimeMs) =
    stored.shownTimeMs
  unfold SnapshotPoint.shownTimeMs
  by_cases positive : 0 < stored.receiveTimeMs
  · rw [if_pos positive, if_neg (not_le.mpr positive)]
  · rw [if_neg positive, ite_self]

end Message

/-! ## What the interface makes of it -/

/-- The points of a group have been entered into it. -/
theorem of_mem_foldl_appendPoint {points : List TelemetryPointData}
    {grouped : Table String PointGroup} {key : String} {group : PointGroup}
    (found : (points.foldl appendPoint grouped).get key = some group)
    {point : TelemetryPointData} (inside : point ∈ group.points) :
    point ∈ points ∧ point.Identified ∨
      exists before, grouped.get key = some before ∧ point ∈ before.points := by
  induction points generalizing grouped with
  | nil => exact Or.inr ⟨group, found, inside⟩
  | cons first points ih =>
      rcases ih found with later | ⟨before, held, among⟩
      · exact Or.inl ⟨List.mem_cons_of_mem first later.1, later.2⟩
      · unfold appendPoint at held
        split at held
        · rename_i identified
          split at held
          · rename_i old there
            rw [Table.get_put] at held
            split at held
            · rename_i here
              cases held
              rcases List.mem_append.mp (show point ∈ old.points ++ [first] from among) with
                early | last
              · exact Or.inr ⟨old, here ▸ there, early⟩
              · rw [List.mem_singleton.mp last]
                exact Or.inl ⟨List.mem_cons_self, identified⟩
            · exact Or.inr ⟨before, held, among⟩
          · rw [Table.get_put] at held
            split at held
            · cases held
              rw [List.mem_singleton.mp among]
              exact Or.inl ⟨List.mem_cons_self, identified⟩
            · exact Or.inr ⟨before, held, among⟩
        · exact Or.inr ⟨before, held, among⟩

/-- Every point of a group has been read out of an entry of the message. -/
theorem of_mem_groups {message : Json} {group : PointGroup}
    (listed : group ∈ (groupPointsByDevice message).values) {point : TelemetryPointData}
    (inside : point ∈ group.points) :
    point.Identified ∧ exists entry, entry ∈ entries message ∧ parseTelemetryPoint entry = point := by
  rcases Table.mem_values.mp listed with ⟨key, found⟩
  rcases of_mem_foldl_appendPoint found inside with ⟨read, identified⟩ | ⟨before, held, -⟩
  · rcases List.mem_map.mp read with ⟨entry, among, same⟩
    exact ⟨identified, entry, (List.mem_filter.mp among).1, same⟩
  · rw [Table.get_empty] at held
    cases held

theorem lastUpdateTime_addPoints {points : List TelemetryPointData} {data : Realtime.RealtimeDeviceData}
    {limit : Int} (start : data.node.lastUpdateTime < limit)
    (early : forall point, point ∈ points -> point.receiveTimeMs < limit) :
    (points.foldl addPoint data).node.lastUpdateTime < limit := by
  induction points generalizing data with
  | nil => exact start
  | cons point points ih =>
      apply ih
      · change (if data.node.lastUpdateTime < point.receiveTimeMs then point.receiveTimeMs
          else data.node.lastUpdateTime) < limit
        split
        · exact early point List.mem_cons_self
        · exact start
      · exact fun other inside => early other (List.mem_cons_of_mem point inside)

/-- A device whose points are all too old is not online. -/
theorem not_online_of_old {nowMs : Int} {group : PointGroup}
    (old : forall point, point ∈ group.points -> point.receiveTimeMs < nowMs - kRealtimeFreshMs) :
    (buildRealtimeDeviceData nowMs group).node.status ≠ "online" := by
  have spec := evaluateDeviceStatus_spec nowMs (foldl_addPoint_mock group.points (startData group))
  intro online
  rcases spec.2.1.mp online with ⟨-, fresh⟩
  have last := lastUpdateTime_addPoints
    (show (startData group).node.lastUpdateTime < nowMs - kRealtimeFreshMs from
      old group.first List.mem_cons_self) old
  have order : kRealtimeFreshMs < kRealtimeOfflineMs := by decide
  unfold ageMs at fresh
  split at fresh
  · omega
  · omega

/-! ## Runs -/

/-- Telemetry of the device was really received too long ago to be fresh. -/
def Silent (run : RestartRun) (nowMs : Int) (device : String × String × Int) : Prop :=
  forall last, run.lastReceived device = some last -> kRealtimeFreshMs < nowMs - last

/-- What a message pushed now says about the age of the points, and what the
interface makes of it at any time. -/
structure RestartFresh (number : Option Rat -> Json) (run : RestartRun) : Prop where
  received : forall entry, entry ∈ entries (sentLatestPoints number run.pcData) ->
    exists device timeMs last, entryDevice entry = some device ∧ entryTimeMs entry = some timeMs ∧
      run.lastReceived device = some last ∧ timeMs ≤ last
  silent : forall nowMs group,
    group ∈ (groupPointsByDevice (sentLatestPoints number run.pcData)).values ->
    (forall point, point ∈ group.points ->
      Silent run nowMs (point.gatewayId, point.portId, point.deviceId)) ->
    (buildRealtimeDeviceData nowMs group).node.status ≠ "online"

/-- An entry that the interface keeps names the device it was written for. -/
theorem device_of_identified {number : Option Rat -> Json} {stored : SnapshotPoint}
    {point : TelemetryPointData}
    (read : parseTelemetryPoint (.obj (latestPointMembers number stored)) = point)
    (identified : point.Identified) :
    stored.point.device = (point.gatewayId, point.portId, point.deviceId) := by
  have positive := identified.2.2.2.2
  subst read
  change 0 < (if -2 ^ 31 ≤ stored.point.deviceId ∧ stored.point.deviceId < 2 ^ 31 then
    stored.point.deviceId else 0) at positive
  have number : (if -2 ^ 31 ≤ stored.point.deviceId ∧ stored.point.deviceId < 2 ^ 31 then
      stored.point.deviceId else 0) = stored.point.deviceId := by
    split
    · rfl
    · rename_i outside
      rw [if_neg outside] at positive
      exact absurd positive (lt_irrefl 0)
  change (stored.point.site.gatewayId, stored.point.site.portId, stored.point.deviceId) =
    (stored.point.site.gatewayId, stored.point.site.portId, if _ then stored.point.deviceId else 0)
  rw [number]

theorem restartFresh_iff (number : Option Rat -> Json) (run : RestartRun) :
    RestartFresh number run ↔ NoneNewer run := by
  constructor
  · intro fresh pointId stored found
    rcases fresh.received _ ((mem_entries_sent number).mpr ⟨pointId, stored, found, rfl⟩) with
      ⟨device, timeMs, last, named, shown, received, order⟩
    rw [entryDevice_members] at named
    rw [entryTimeMs_members] at shown
    cases named
    cases shown
    exact ⟨last, received, order⟩
  · intro newer
    refine ⟨?_, ?_⟩
    · intro entry listed
      rcases (mem_entries_sent number).mp listed with ⟨pointId, stored, found, rfl⟩
      rcases newer pointId stored found with ⟨last, received, order⟩
      exact ⟨stored.point.device, stored.shownTimeMs, last, entryDevice_members number stored,
        entryTimeMs_members number stored, received, order⟩
    · intro nowMs group listed silent
      apply not_online_of_old
      intro point inside
      rcases of_mem_groups listed inside with ⟨identified, entry, among, read⟩
      rcases (mem_entries_sent number).mp among with ⟨pointId, stored, found, rfl⟩
      rcases newer pointId stored found with ⟨last, received, order⟩
      have device := device_of_identified read identified
      have since := silent point inside last (device ▸ received)
      rw [← read, receiveTimeMs_members]
      omega

/-- Every message of every run tells the truth about the age of its points
exactly if each start seeds only points of devices that have really been
received since, as far as the clock is positive. -/
theorem restart_fresh_iff (pc : JsonCodec) (stod : String -> Option Rat)
    (number : Option Rat -> Json) (database : Database)
    (lastReceived : String × String × Int -> Option Int) (startMs : Int)
    (events : List RestartEvent) :
    (forall before after, events = before ++ after ->
      RestartFresh number ((restartSystem pc stod database lastReceived startMs).run before)) ↔
      SeedsNoneNewer database lastReceived startMs ∧
        (restartSystem pc stod database lastReceived startMs).Admissible
          (ShowsNoneNewer pc stod) events := by
  rw [← noneNewer_run_iff]
  simp only [restartFresh_iff]

/-- The last reading of a meter, with no trace of when it was received. -/
def meterRow : TelemetryPoint where
  timestampMs := 1000
  site := ⟨"factory_001", "", "area_001", "", "gateway_001", "", "port_001", ""⟩
  deviceId := 3
  deviceName := ""
  deviceType := "meter"
  pointId := "gateway_001.port_001.3.energy"
  pointKey := "energy"
  pointName := ""
  unit := "kWh"
  valueType := .number
  numberValue := some 220
  textValue := ""
  valid := true
  errorMessage := ""

def meterDatabase : Database :=
  { sensorDatabase with latestPoints := Table.put ∅ meterRow.pointId meterRow }

/-- All devices were received a second after 1970, and Pc_data starts 99 seconds later. -/
def meterRun : RestartRun :=
  (restartSystem (JsonText.codec false) (fun _ => none) meterDatabase (fun _ => some 1000) 100000).run
    []

theorem meter_pushed : meterRun.pcData.service.snapshot.values = [⟨meterRow, 100000⟩] := by
  decide +kernel

theorem meter_shown :
    (groupPointsByDevice (buildLatestPointsJson (fun _ => .int 220) [⟨meterRow, 100000⟩])).values.map
      (fun group => (buildRealtimeDeviceData 100000 group).node.status) = ["online"] := by
  decide +kernel

/-- The start of the program turns a silent meter online. -/
theorem silent_meter_online :
    ¬ (forall before after, ([] : List RestartEvent) = before ++ after ->
      RestartFresh (fun _ => .int 220) ((restartSystem (JsonText.codec false) (fun _ => none)
        meterDatabase (fun _ => some 1000) 100000).run before)) := by
  intro always
  have fresh : RestartFresh (fun _ => .int 220) meterRun := always [] [] rfl
  have shown := meter_shown
  rw [← meter_pushed] at shown
  have online : "online" ∈ (groupPointsByDevice (sentLatestPoints (fun _ => .int 220)
      meterRun.pcData)).values.map
        (fun group => (buildRealtimeDeviceData 100000 group).node.status) := by
    rw [sentLatestPoints, shown]
    exact List.mem_singleton_self _
  rcases List.mem_map.mp online with ⟨group, listed, status⟩
  refine fresh.silent 100000 group listed ?_ status
  rintro point - last received
  cases received
  decide

end Link
end Imx6Gateway
