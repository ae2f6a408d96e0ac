import Imx6Gateway.Ui.OfflineState

namespace Imx6Gateway
namespace Ui
namespace Realtime

open Library

/-!
# Data older than those that have been shown

`upsertRealtimeData` drops data that are more than a second older than the
record of their device.  It knows the time of the record alone, and the record
may be older than the one before it by as much.  Beside the stores, the largest
time of all data that have been taken is kept for each device.
-/

/-- A message with the latest points, and the clock when it is read. -/
structure LatestPoints where
  nowMs : Int
  message : Json

/-- The manager, with the largest time of the data taken for a device. -/
structure Received where
  manager : DataManager
  largest : String -> Option Int

/-- The time of the record of a device. -/
def storedTime (manager : DataManager) (own : String) : Option Int :=
  (manager.realtime.get own).map fun data => data.node.lastUpdateTime

namespace Received

def start (manager : DataManager) : Received :=
  ⟨manager, fun _ => none⟩

def step (received : Received) (event : LatestPoints) : Received where
  manager := received.manager.onLatestPointsMessage event.nowMs event.message
  largest own :=
    match received.manager.taken event.nowMs event.message own with
    | none => received.largest own
    | some data =>
        let time := data.node.lastUpdateTime
        some (max ((received.largest own).getD time) time)

end Received

/-- The user interface from any state of its stores. -/
def latestSystem (manager : DataManager) : TransitionSystem Received LatestPoints where
  initial := Received.start manager
  step := Received.step

/-- The record is at most the tolerance below the largest time taken so far. -/
def StaysRecent (received : Received) : Prop :=
  forall own largest, received.largest own = some largest ->
    exists stored, storedTime received.manager own = some stored ∧
      largest ≤ stored + kRealtimeStaleToleranceMs

/-- Data that are older than the tolerance allows find a record that is as
recent, both times being known, or belong to a removed device. -/
def RecencyCondition (received : Received) (event : LatestPoints) : Prop :=
  forall own data largest, (parseLatestPoints event.nowMs event.message).get own = some data ->
    received.largest own = some largest ->
    data.node.lastUpdateTime + kRealtimeStaleToleranceMs < largest ->
    received.manager.isDeleted event.nowMs data.node = true ∨
      (0 < data.node.lastUpdateTime ∧ exists stored, storedTime received.manager own = some stored ∧
        0 < stored ∧ data.node.lastUpdateTime + kRealtimeStaleToleranceMs < stored)

/-! ## The data that are taken -/

theorem points_of_built (nowMs : Int) (group : PointGroup) :
    (buildRealtimeDeviceData nowMs group).points ≠ [] := by
  have same : (buildRealtimeDeviceData nowMs group).points = group.points :=
    (buildRealtimeDeviceData_same nowMs group).points
  rw [same]
  exact List.cons_ne_nil group.first group.more

theorem taken_eq_some_iff {manager : DataManager} {nowMs : Int} {message : Json} {own : String}
    {data : RealtimeDeviceData} :
    manager.taken nowMs message own = some data ↔
      (parseLatestPoints nowMs message).get own = some data ∧
        manager.isDeleted nowMs data.node = false ∧
        DataManager.staleDrop (manager.realtime.get own) data = false := by
  rw [DataManager.taken, Option.filter_eq_some_iff]
  apply and_congr_right
  intro read
  have filed : data.node.key = own := ((parseLatestPoints nowMs message).filed own data read).1
  rw [← filed, DataManager.takes_eq, Bool.and_eq_true, Bool.not_eq_true', Bool.not_eq_true']

theorem points_of_taken {manager : DataManager} {nowMs : Int} {message : Json} {own : String}
    {data : RealtimeDeviceData} (here : manager.taken nowMs message own = some data) :
    data.points ≠ [] := by
  rcases parseLatestPoints_built (taken_eq_some_iff.mp here).1 with ⟨group, rfl⟩
  exact points_of_built nowMs group

/-- Data that are taken become the record. -/
theorem realtime_onLatestPointsMessage (manager : DataManager) (nowMs : Int) (message : Json)
    (own : String) :
    (manager.onLatestPointsMessage nowMs message).realtime.get own =
      (manager.taken nowMs message own).or (manager.realtime.get own) := by
  refine (DataManager.realtime_of_view
    (manager.view_onLatestPointsMessage nowMs message own)).trans ?_
  rw [DataManager.taken]
  cases (parseLatestPoints nowMs message).get own with
  | none => rfl
  | some data =>
      rw [Option.filter_some]
      dsimp only
      split
      · rfl
      · rfl

theorem storedTime_step (received : Received) (event : LatestPoints) (own : String) :
    storedTime (received.step event).manager own =
      ((received.manager.taken event.nowMs event.message own).or
        (received.manager.realtime.get own)).map fun data => data.node.lastUpdateTime := by
  rw [← realtime_onLatestPointsMessage]
  rfl

/-- A record with points keeps out what is older by more than the tolerance. -/
theorem staleDrop_some {old data : RealtimeDeviceData} (measured : old.points ≠ []) :
    DataManager.staleDrop (some old) data = true ↔
      0 < data.node.lastUpdateTime ∧ 0 < old.node.lastUpdateTime ∧
        data.node.lastUpdateTime + kRealtimeStaleToleranceMs < old.node.lastUpdateTime := by
  simp only [DataManager.staleDrop, measured, ne_eq, not_false_eq_true, decide_true, Bool.true_and,
    Bool.and_eq_true, decide_eq_true_eq]
  tauto

/-! ## Steps and runs -/

/-- What has been taken for a device is in a record with points. -/
def Recorded (received : Received) : Prop :=
  forall own, (received.largest own).isSome = true ->
    exists data, received.manager.realtime.get own = some data ∧ data.points ≠ []

theorem recorded_step {received : Received} (recorded : Recorded received) (event : LatestPoints) :
    Recorded (received.step event) := by
  intro own known
  have after := realtime_onLatestPointsMessage received.manager event.nowMs event.message own
  cases here : received.manager.taken event.nowMs event.message own with
  | none =>
      have before : (received.largest own).isSome = true := by
        simp only [Received.step, here] at known
        exact known
      rw [here, Option.none_or] at after
      rcases recorded own before with ⟨data, found, measured⟩
      exact ⟨data, after.trans found, measured⟩
  | some data =>
      rw [here, Option.some_or] at after
      exact ⟨data, after, points_of_taken here⟩

/-- An update of a device that has a record is taken unless the condition
keeps it out. -/
theorem taken_iff {received : Received} (recorded : Recorded received) {event : LatestPoints}
    {own : String} {largest : Int} (known : received.largest own = some largest)
    {data : RealtimeDeviceData}
    (read : (parseLatestPoints event.nowMs event.message).get own = some data) :
    received.manager.taken event.nowMs event.message own = some data ↔
      ¬ (received.manager.isDeleted event.nowMs data.node = true ∨
        (0 < data.node.lastUpdateTime ∧
          exists stored, storedTime received.manager own = some stored ∧
            0 < stored ∧ data.node.lastUpdateTime + kRealtimeStaleToleranceMs < stored)) := by
  rcases recorded own (by rw [known, Option.isSome_some]) with ⟨old, found, measured⟩
  have time : storedTime received.manager own = some old.node.lastUpdateTime := by
    rw [storedTime, found, Option.map_some]
  have dropped := @staleDrop_some old data measured
  rw [taken_eq_some_iff, and_iff_right read, found, not_or, Bool.not_eq_true, time,
    ← Bool.not_eq_true (DataManager.staleDrop _ _), dropped]
  apply and_congr_right
  intro _
  simp only [Option.some.injEq, exists_eq_left']

theorem staysRecent_step_iff {received : Received} (recorded : Recorded received)
    (recent : StaysRecent received) (event : LatestPoints) :
    StaysRecent (received.step event) ↔ RecencyCondition received event := by
  constructor
  · intro stays own data largest read known low
    by_contra admitted
    have here := (taken_iff recorded known read).mpr admitted
    have raised : (received.step event).largest own =
        some (max largest data.node.lastUpdateTime) := by
      simp only [Received.step, here, known, Option.getD_some]
    rcases stays own _ raised with ⟨stored, time, close⟩
    have same : stored = data.node.lastUpdateTime := by
      rw [storedTime_step, here, Option.some_or, Option.map_some, Option.some.injEq] at time
      exact time.symm
    rw [same] at close
    exact absurd (lt_of_lt_of_le low ((le_max_left _ _).trans close)) (lt_irrefl _)
  · intro condition own largest raised
    have time := storedTime_step received event own
    cases here : received.manager.taken event.nowMs event.message own with
    | none =>
        simp only [Received.step, here] at raised
        rw [here, Option.none_or] at time
        rcases recent own largest raised with ⟨stored, before, close⟩
        exact ⟨stored, time.trans before, close⟩
    | some data =>
        simp only [Received.step, here, Option.some.injEq] at raised
        rw [here, Option.some_or, Option.map_some] at time
        refine ⟨data.node.lastUpdateTime, time, ?_⟩
        have tolerant : (0 : Int) ≤ kRealtimeStaleToleranceMs := by decide
        cases known : received.largest own with
        | none =>
            rw [known, Option.getD_none, max_self] at raised
            omega
        | some before =>
            rw [known, Option.getD_some] at raised
            have read := (taken_eq_some_iff.mp here).1
            have high : ¬ data.node.lastUpdateTime + kRealtimeStaleToleranceMs < before := by
              intro low
              exact (taken_iff recorded known read).mp here (condition own data before read known low)
            omega

/-- At every moment of a run the record of each device is at most a second
below the largest time taken for it, exactly if each message of the run meets
the condition. -/
theorem stays_recent_iff (manager : DataManager) (events : List LatestPoints) :
    (forall before after, events = before ++ after ->
      StaysRecent ((latestSystem manager).run before)) ↔
      (latestSystem manager).Admissible RecencyCondition events := by
  have start : StaysRecent (latestSystem manager).initial := by
    intro own largest known
    cases known
  have recorded : Recorded (latestSystem manager).initial := by
    intro own known
    cases known
  apply (latestSystem manager).everywhere_iff_of_forall recorded start
  · intro received event holds
    exact recorded_step holds event
  · intro received event holds recent
    exact staysRecent_step_iff holds recent event

/-- One valid point of a meter, received at a given time. -/
def meterPoint (receiveTimeMs : Int) : Json :=
  .obj [("factoryId", .str "f"), ("areaId", .str "a"), ("gatewayId", .str "g"),
    ("portId", .str "p"), ("deviceId", .int 3),
    ("deviceType", .str "meter"), ("pointKey", .str "voltage"), ("valid", .bool true),
    ("timestampMs", .int receiveTimeMs), ("receiveTimeMs", .int receiveTimeMs)]

def meterMessage (receiveTimeMs : Int) : LatestPoints :=
  ⟨10000, .obj [("type", .str "latest_points"), ("points", .arr [meterPoint receiveTimeMs])]⟩

/-- Each of three updates is a second older than the one before. -/
theorem older_second_by_second :
    ¬ StaysRecent ((latestSystem DataManager.start).run
      [meterMessage 10000, meterMessage 9000, meterMessage 8000]) := by
  have times : ((latestSystem DataManager.start).run
        [meterMessage 10000, meterMessage 9000, meterMessage 8000]).largest
          "f/a/g/p/3" = some 10000 ∧
      storedTime ((latestSystem DataManager.start).run
        [meterMessage 10000, meterMessage 9000, meterMessage 8000]).manager
          "f/a/g/p/3" = some 8000 := by
    decide +kernel
  intro recent
  rcases recent _ _ times.1 with ⟨stored, time, close⟩
  rw [times.2, Option.some.injEq] at time
  rw [← time] at close
  exact absurd close (by decide)

end Realtime
end Ui
end Imx6Gateway
