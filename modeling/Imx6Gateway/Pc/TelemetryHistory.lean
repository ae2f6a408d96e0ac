import Imx6Gateway.Library.JsonText
import Imx6Gateway.Pc.TelemetryWriter

namespace Imx6Gateway
namespace Pc

open Library

/-!
# The history of the telemetry

A point that arrives while an older one with its identifier still waits takes
its place.  This file says when the history in the database has a row for
every accepted point.
-/

section History

variable (pc : JsonCodec) (stod : String -> Option Rat)

/-- No point of a message has the identifier of another one that still waits. -/
def NoneReplaced (run : TelemetryRun) : TelemetryEvent -> Prop
  | .message nowMs message =>
      Table.Fresh TelemetryPoint.pointId id (run.pcData.acceptedPoints pc stod nowMs message)
        run.pcData.pendingDbPoints
  | .writerTakes => True
  | .writerSaves _ => True

instance (run : TelemetryRun) : forall event, Decidable (NoneReplaced pc stod run event)
  | .message _ _ => inferInstanceAs (Decidable (Table.Fresh _ _ _ _))
  | .writerTakes | .writerSaves _ => isTrue trivial

/-- The rows of the history once everything has been saved. -/
def TelemetryRun.historyRows (run : TelemetryRun) : List TelemetryPoint :=
  run.pcData.database.telemetryHistory ++ run.waiting

/-- There are at most as many rows as accepted points. -/
structure Counted (before : List TelemetryPoint) (run : TelemetryRun) : Prop
    extends Waiting run where
  rows : run.historyRows.length ≤ before.length + run.accepted.length

/-- Every accepted point has a row of its own. -/
def HistoryComplete (before : List TelemetryPoint) (run : TelemetryRun) : Prop :=
  run.historyRows.Perm (before ++ run.accepted)

/-- The writer moves rows and changes none. -/
theorem historyRows_takePoints (run : TelemetryRun) :
    run.takePoints.historyRows = run.historyRows := by
  rw [TelemetryRun.historyRows, (takePoints_same run).1, waiting_takePoints]
  rfl

theorem historyRows_savePoints {run : TelemetryRun} (waiting : Waiting run) (nowMs : Int) :
    (run.savePoints nowMs).historyRows = run.historyRows := by
  rcases savePoints_same run nowMs with ⟨pending, -, -, taken⟩
  rw [TelemetryRun.historyRows, TelemetryRun.waiting, taken, pending,
    (savePoints_saved waiting nowMs).1, List.nil_append, List.append_assoc]
  rfl

theorem historyRows_drained {run : TelemetryRun} (drained : run.Drained) :
    run.historyRows = run.pcData.database.telemetryHistory := by
  rw [TelemetryRun.historyRows, TelemetryRun.waiting, drained.1, drained.2]
  exact List.append_nil _

/-- The rows after a message: those that there are, and what then waits. -/
theorem historyRows_message (run : TelemetryRun) (nowMs : Int) (message : TelemetryMessage) :
    (run.step pc stod (.message nowMs message)).historyRows =
      (run.pcData.database.telemetryHistory ++ run.taken) ++
        (Table.putAll TelemetryPoint.pointId id (run.pcData.acceptedPoints pc stod nowMs message)
          run.pcData.pendingDbPoints).values := by
  rcases step_message pc stod run nowMs message with ⟨database, pending⟩
  rw [TelemetryRun.historyRows, TelemetryRun.waiting, database, pending, List.append_assoc]
  rfl

theorem counted_step {before : List TelemetryPoint} {run : TelemetryRun} (event : TelemetryEvent)
    (counted : Counted before run) (active : DevicesActive pc stod run event) :
    Counted before (run.step pc stod event) := by
  refine ⟨waiting_step pc stod event counted.toWaiting active, ?_⟩
  have rows := counted.rows
  cases event with
  | message nowMs message =>
      have fewer := Table.length_values_putAll_le TelemetryPoint.pointId id
        (run.pcData.acceptedPoints pc stod nowMs message) run.pcData.pendingDbPoints
      rw [historyRows_message]
      simp only [TelemetryRun.historyRows, TelemetryRun.waiting, List.length_append] at rows
      simp only [TelemetryRun.step, List.length_append]
      omega
  | writerTakes =>
      rw [TelemetryRun.step, historyRows_takePoints, (takePoints_same run).2.2]
      exact rows
  | writerSaves nowMs =>
      rw [TelemetryRun.step, historyRows_savePoints counted.toWaiting, (savePoints_same run nowMs).2.2.1]
      exact rows

/-- A message leaves the history complete if it replaces nothing, and the
writer changes nothing about it. -/
theorem historyComplete_step {before : List TelemetryPoint} {run : TelemetryRun}
    (event : TelemetryEvent) (counted : Counted before run) :
    HistoryComplete before (run.step pc stod event) ↔
      HistoryComplete before run ∧ NoneReplaced pc stod run event := by
  cases event with
  | message nowMs message =>
      have split : run.historyRows = (run.pcData.database.telemetryHistory ++ run.taken) ++
          run.pcData.pendingDbPoints.values := (List.append_assoc _ _ _).symm
      rw [HistoryComplete, HistoryComplete, historyRows_message, split]
      change List.Perm _ (before ++ (run.accepted ++ _)) ↔ _
      rw [← List.append_assoc]
      constructor
      · intro complete
        have fewer := Table.length_values_putAll_le TelemetryPoint.pointId id
          (run.pcData.acceptedPoints pc stod nowMs message) run.pcData.pendingDbPoints
        have rows := counted.rows
        have lengths := complete.length_eq
        simp only [split, List.length_append] at rows lengths
        have fresh : NoneReplaced pc stod run (.message nowMs message) :=
          (Table.length_values_putAll_iff TelemetryPoint.pointId id _ _).mp (by omega)
        refine ⟨?_, fresh⟩
        have grown := Table.values_putAll_perm TelemetryPoint.pointId id fresh
        rw [List.map_id] at grown
        have both := (grown.append_left
          (run.pcData.database.telemetryHistory ++ run.taken)).symm.trans complete
        rw [← List.append_assoc] at both
        exact (List.perm_append_right_iff _).mp both
      · rintro ⟨complete, fresh⟩
        have grown := Table.values_putAll_perm TelemetryPoint.pointId id fresh
        rw [List.map_id] at grown
        refine (grown.append_left _).trans ?_
        rw [← List.append_assoc]
        exact complete.append_right _
  | writerTakes =>
      rw [HistoryComplete, TelemetryRun.step, historyRows_takePoints, (takePoints_same run).2.2]
      exact ⟨fun complete => ⟨complete, trivial⟩, And.left⟩
  | writerSaves nowMs =>
      rw [HistoryComplete, TelemetryRun.step, historyRows_savePoints counted.toWaiting,
        (savePoints_same run nowMs).2.2.1]
      exact ⟨fun complete => ⟨complete, trivial⟩, And.left⟩

theorem historyComplete_run {database : Database} {startMs : Int} (saves : database.Saves)
    {events : List TelemetryEvent}
    (active : (telemetrySystem pc stod database startMs).Admissible
      (DevicesActive pc stod) events) :
    HistoryComplete database.telemetryHistory
        ((telemetrySystem pc stod database startMs).run events) ↔
      (telemetrySystem pc stod database startMs).Admissible (NoneReplaced pc stod) events := by
  have initially : Counted database.telemetryHistory
      (telemetrySystem pc stod database startMs).initial := by
    refine ⟨waiting_start pc stod saves startMs, ?_⟩
    exact List.length_append.le
  have start : HistoryComplete database.telemetryHistory
      (telemetrySystem pc stod database startMs).initial := List.Perm.refl _
  have general := (telemetrySystem pc stod database startMs).characterizedFrom_iff
    (fun _ event counted active => counted_step pc stod event counted active)
    (fun _ event counted _ => historyComplete_step pc stod event counted) initially active
  exact general.trans (and_iff_right start)

/-- Whenever everything has been saved, the history has one row for each
accepted point exactly if no message has replaced a point that was waiting. -/
theorem telemetry_history_complete_iff (database : Database) (startMs : Int)
    (saves : database.Saves) {events : List TelemetryEvent}
    (active : (telemetrySystem pc stod database startMs).Admissible
      (DevicesActive pc stod) events)
    (drained : ((telemetrySystem pc stod database startMs).run events).Drained) :
    ((telemetrySystem pc stod database startMs).run events).pcData.database.telemetryHistory.Perm
      (database.telemetryHistory ++
        ((telemetrySystem pc stod database startMs).run events).accepted) ↔
      (telemetrySystem pc stod database startMs).Admissible (NoneReplaced pc stod) events := by
  rw [← historyRows_drained drained]
  exact historyComplete_run pc stod saves active

end History

/-! ## A sensor -/

def sensorKey : DeviceKey :=
  ⟨"gateway_001", "port_001", 1, by decide, by decide, by decide⟩

def sensorRow : DeviceRow where
  factoryName := ""
  areaId := "area_001"
  areaName := ""
  factoryId := "factory_001"
  gatewayName := ""
  portName := ""
  deviceName := "sensor"
  deviceType := "sensor_th"
  pollIntervalMs := 1000
  expectTelemetry := true
  enabled := true
  deleted := false
  deletedTimeMs := 0
  status := "active"
  createTimeMs := 0
  updateTimeMs := 0

def sensorDatabase : Database where
  isOpen := true
  devices := Table.put ∅ sensorKey sensorRow
  deviceStatuses := ∅
  gatewayRegistries := ∅
  gatewayStatuses := ∅
  gatewayPorts := ∅
  pointConfigs := ∅
  latestPoints := ∅
  telemetryHistory := []
  outcomes := []
  committed := []

/-- A pack with one reading of the sensor. -/
def readingRoot (timestampMs temperature : Int) : Json :=
  .obj [("type", .str "telemetry_pack"), ("timestampMs", .int timestampMs),
    ("site", .obj [("factoryId", .str "factory_001"), ("areaId", .str "area_001"),
      ("gatewayId", .str "gateway_001"), ("portId", .str "port_001")]),
    ("devices", .arr [.obj [("deviceId", .int 1), ("deviceType", .str "sensor_th"),
      ("temperature", .int temperature), ("humidity", .int 50)]])]

def readingMessage (timestampMs temperature : Int) : TelemetryMessage where
  topic := "gateway/gateway_001/port_001/up"
  payload := (JsonText.codec false).print (readingRoot timestampMs temperature)

/-- The pack that the parser makes of a reading. -/
def readingPack (timestampMs temperature : Int) : TelemetryPack where
  version := 1
  sequence := 0
  timestampMs := timestampMs
  sourceId := ""
  targetId := ""
  site := parseSite (readingRoot timestampMs temperature)
  devices := (((memberArray (readingRoot timestampMs temperature) "devices").getD []).filter
    Json.isObj).map (parseDevice fun _ => none)

theorem parseJson_reading {timestampMs temperature : Int}
    (wire : (readingRoot timestampMs temperature).Wire Json.maxDepth)
    (packed : packTimestamp 0 (readingRoot timestampMs temperature) = timestampMs) :
    parseJson (fun _ => none) (JsonText.codec false) 0
      (readingMessage timestampMs temperature).payload =
        .ok (readingPack timestampMs temperature) := by
  have parsed : (JsonText.codec false).parse (readingMessage timestampMs temperature).payload =
      some (readingRoot timestampMs temperature) := (JsonText.codec false).parse_print _ wire
  unfold parseJson
  rw [parsed]
  unfold readingRoot at packed ⊢
  dsimp only
  rw [packed]
  rfl

/-- Readings of the sensor, one second apart. -/
def sensorSystem : TransitionSystem TelemetryRun TelemetryEvent :=
  telemetrySystem (JsonText.codec false) (fun _ => none) sensorDatabase 0

theorem sensorDatabase_saves : sensorDatabase.Saves :=
  ⟨rfl, fun _ inside => absurd inside List.not_mem_nil⟩

def sensorPoints (timestampMs temperature : Int) : List TelemetryPoint :=
  (seeded sensorDatabase 0).receivedPoints (JsonText.codec false) 0
    (readingPack timestampMs temperature)

/-- Every reading brings its points. -/
theorem acceptedPoints_reading {timestampMs temperature : Int}
    (parsed : parseJson (fun _ => none) (JsonText.codec false) 0
      (readingMessage timestampMs temperature).payload = .ok (readingPack timestampMs temperature))
    (events : List TelemetryEvent) :
    (sensorSystem.run events).pcData.acceptedPoints (JsonText.codec false) (fun _ => none) 0
        (readingMessage timestampMs temperature) = sensorPoints timestampMs temperature := by
  have accepts : PcData.acceptsPack (seeded sensorDatabase 0).service
      "gateway/gateway_001/port_001/up" (readingPack timestampMs temperature) = true := by
    change PcData.acceptsPack (seeded sensorDatabase 0).service "gateway/gateway_001/port_001/up"
      (readingPack 0 0) = true
    decide +kernel
  rw [sensorSystem, acceptedPoints_run]
  unfold PcData.acceptedPoints
  rw [parsed]
  exact if_pos accepts

theorem parseJson_firstReading : parseJson (fun _ => none) (JsonText.codec false) 0
    (readingMessage 1000 20).payload = .ok (readingPack 1000 20) :=
  parseJson_reading (by decide) (by decide +kernel)

theorem parseJson_secondReading : parseJson (fun _ => none) (JsonText.codec false) 0
    (readingMessage 2000 21).payload = .ok (readingPack 2000 21) :=
  parseJson_reading (by decide) (by decide +kernel)

theorem knows_sensorPoints : (forall point, point ∈ sensorPoints 1000 20 ->
    sensorDatabase.Knows point) ∧ forall point, point ∈ sensorPoints 2000 21 ->
      sensorDatabase.Knows point := by
  decide +kernel

theorem run_reading (message : TelemetryMessage) :
    (sensorSystem.run [.message 0 message]).pcData.database = sensorDatabase ∧
      (sensorSystem.run [.message 0 message]).pcData.pendingDbPoints =
        Table.putAll TelemetryPoint.pointId id ((sensorSystem.run []).pcData.acceptedPoints
          (JsonText.codec false) (fun _ => none) 0 message) ∅ := by
  rcases run_message (JsonText.codec false) (fun _ => none) sensorDatabase 0 [] 0 message with
    ⟨database, pending, -⟩
  exact ⟨database, pending⟩

/-- A turn of the writer after some readings. -/
theorem drained_sensor (messages : List TelemetryMessage) :
    (sensorSystem.run (messages.map (.message 0) ++ [.writerTakes, .writerSaves 0])).Drained := by
  have idle : (sensorSystem.run (messages.map (.message 0))).taken = [] := by
    induction messages using List.reverseRecOn with
    | nil => rfl
    | append_singleton messages message ih =>
        rw [List.map_append]
        exact (run_message _ _ _ _ (messages.map (.message 0)) 0 message).2.2.trans ih
  rw [TransitionSystem.run, TransitionSystem.runFrom_append]
  exact drained_of_turn idle 0

theorem devicesActive_of_brings {message : TelemetryMessage} {events : List TelemetryEvent}
    {points : List TelemetryPoint}
    (brings : (sensorSystem.run events).pcData.acceptedPoints (JsonText.codec false)
      (fun _ => none) 0 message = points)
    (database : (sensorSystem.run events).pcData.database = sensorDatabase)
    (known : forall point, point ∈ points -> sensorDatabase.Knows point) :
    DevicesActive (JsonText.codec false) (fun _ => none) (sensorSystem.run events)
      (.message 0 message) := by
  intro point accepted
  rw [brings] at accepted
  rw [database]
  exact known point accepted

/-- The writer keeps up: the reading has been saved when nothing waits. -/
theorem written_reading_complete :
    (sensorSystem.run [.message 0 (readingMessage 1000 20), .writerTakes,
        .writerSaves 0]).pcData.database.telemetryHistory.Perm
      (sensorDatabase.telemetryHistory ++ (sensorSystem.run
        [.message 0 (readingMessage 1000 20), .writerTakes, .writerSaves 0]).accepted) ↔
      sensorSystem.Admissible (NoneReplaced (JsonText.codec false) fun _ => none)
        [.message 0 (readingMessage 1000 20), .writerTakes, .writerSaves 0] := by
  have active : DevicesActive (JsonText.codec false) (fun _ => none) (sensorSystem.run [])
      (.message 0 (readingMessage 1000 20)) :=
    devicesActive_of_brings (acceptedPoints_reading parseJson_firstReading []) rfl
      knows_sensorPoints.1
  apply telemetry_history_complete_iff _ _ _ _ sensorDatabase_saves
  · exact ⟨active, trivial, trivial, trivial⟩
  · exact drained_sensor [readingMessage 1000 20]

/-- Two messages come before the writer's turn, and the second one replaces
points of the first one. -/
theorem replaced_points_lost {one two : TelemetryMessage} {old new : List TelemetryPoint}
    (first : (sensorSystem.run []).pcData.acceptedPoints (JsonText.codec false) (fun _ => none) 0
      one = old)
    (second : (sensorSystem.run [.message 0 one]).pcData.acceptedPoints (JsonText.codec false)
      (fun _ => none) 0 two = new)
    (known : (forall point, point ∈ old -> sensorDatabase.Knows point) ∧
      forall point, point ∈ new -> sensorDatabase.Knows point)
    (replaced : ¬Table.Fresh TelemetryPoint.pointId id new
      (Table.putAll TelemetryPoint.pointId id old ∅)) :
    sensorSystem.Admissible (DevicesActive (JsonText.codec false) fun _ => none)
        [.message 0 one, .message 0 two, .writerTakes, .writerSaves 0] ∧
      (sensorSystem.run [.message 0 one, .message 0 two, .writerTakes, .writerSaves 0]).Drained ∧
      ¬(sensorSystem.run [.message 0 one, .message 0 two, .writerTakes,
          .writerSaves 0]).pcData.database.telemetryHistory.Perm
        (sensorDatabase.telemetryHistory ++ (sensorSystem.run
          [.message 0 one, .message 0 two, .writerTakes, .writerSaves 0]).accepted) := by
  rcases run_reading one with ⟨database, pending⟩
  have here : DevicesActive (JsonText.codec false) (fun _ => none) (sensorSystem.run [])
      (.message 0 one) := devicesActive_of_brings first rfl known.1
  have next : DevicesActive (JsonText.codec false) (fun _ => none)
      (sensorSystem.run [.message 0 one]) (.message 0 two) :=
    devicesActive_of_brings second database known.2
  have active : sensorSystem.Admissible (DevicesActive (JsonText.codec false) fun _ => none)
      [.message 0 one, .message 0 two, .writerTakes, .writerSaves 0] :=
    ⟨here, next, trivial, trivial, trivial⟩
  have drained : (sensorSystem.run [.message 0 one, .message 0 two, .writerTakes,
      .writerSaves 0]).Drained := drained_sensor [one, two]
  refine ⟨active, drained, ?_⟩
  rw [← historyRows_drained drained]
  intro complete
  have fresh : NoneReplaced (JsonText.codec false) (fun _ => none)
      (sensorSystem.run [.message 0 one]) (.message 0 two) :=
    ((historyComplete_run (JsonText.codec false) (fun _ => none) sensorDatabase_saves active).mp
      complete).2.1
  rw [NoneReplaced, second, pending, first] at fresh
  exact replaced fresh

/-- Two readings come before the writer's turn, and the first one is lost. -/
theorem first_reading_lost :
    sensorSystem.Admissible (DevicesActive (JsonText.codec false) fun _ => none)
        [.message 0 (readingMessage 1000 20), .message 0 (readingMessage 2000 21), .writerTakes,
          .writerSaves 0] ∧
      (sensorSystem.run [.message 0 (readingMessage 1000 20), .message 0 (readingMessage 2000 21),
        .writerTakes, .writerSaves 0]).Drained ∧
      ¬(sensorSystem.run [.message 0 (readingMessage 1000 20),
          .message 0 (readingMessage 2000 21), .writerTakes,
          .writerSaves 0]).pcData.database.telemetryHistory.Perm
        (sensorDatabase.telemetryHistory ++ (sensorSystem.run
          [.message 0 (readingMessage 1000 20), .message 0 (readingMessage 2000 21), .writerTakes,
            .writerSaves 0]).accepted) :=
  replaced_points_lost (acceptedPoints_reading parseJson_firstReading [])
    (acceptedPoints_reading parseJson_secondReading [.message 0 (readingMessage 1000 20)])
    knows_sensorPoints (by decide +kernel)

end Pc
end Imx6Gateway
