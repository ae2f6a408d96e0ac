import Imx6Gateway.Board.ThresholdAlarm
import Imx6Gateway.Library.Transition

namespace Imx6Gateway
namespace Board

open Library

/-!
# What the alarms of a sensor say

One poll after the other, a temperature and humidity sensor reports readings
that leave their range.  Whoever replays the messages knows of each point the
alarm that was reported last.  This file says when that is also the alarm the
last reading asks for.
-/

/-- The alarm of one point. -/
inductive AlarmCondition where
  | normal
  | high
  | low
deriving DecidableEq, Repr

/-- The alarm that a message announces, for its point. -/
def announced (event : ThresholdAlarmEvent) : AlarmCondition :=
  if !event.active then .normal
  else if event.reason = event.pointKey ++ "_high" then .high
  else .low

/-- A message changes the alarm of its own point. -/
def replay (pointKey : String) (condition : AlarmCondition) :
    Option ThresholdAlarmEvent -> AlarmCondition
  | some event => if event.pointKey = pointKey then announced event else condition
  | none => condition

def Above (threshold : PointThresholdConfig) (value : Single) : Prop :=
  exists high, threshold.alarmHigh = some high ∧ high.1 < value.1

def Below (threshold : PointThresholdConfig) (value : Single) : Prop :=
  exists low, threshold.alarmLow = some low ∧ value.1 < low.1

/-- The high alarm is open above the high limit, and the low one below the low limit. -/
def PointAgrees (condition : AlarmCondition) (threshold : PointThresholdConfig) (value : Single) :
    Prop :=
  (condition = .high ↔ Above threshold value) ∧ (condition = .low ↔ Below threshold value)

instance (threshold : PointThresholdConfig) (value : Single) : Decidable (Above threshold value) :=
  decidable_of_iff (threshold.alarmHigh.any fun high => high.1 < value.1) (by
    unfold Above
    cases threshold.alarmHigh <;> simp)

instance (threshold : PointThresholdConfig) (value : Single) : Decidable (Below threshold value) :=
  decidable_of_iff (threshold.alarmLow.any fun low => value.1 < low.1) (by
    unfold Below
    cases threshold.alarmLow <;> simp)

instance (condition : AlarmCondition) (threshold : PointThresholdConfig) (value : Single) :
    Decidable (PointAgrees condition threshold value) :=
  inferInstanceAs (Decidable (_ ∧ _))

/-- A sensor, the alarms its messages have announced, and its last reading.
The humidity is not looked at while the temperature has a report, so a report
of its own may be left for the next poll. -/
structure AlarmReplay where
  sensor : TemperatureHumiditySensor
  temperature : AlarmCondition
  humidity : AlarmCondition
  reading : Option (Single × Single)
  deferred : Bool
deriving DecidableEq

namespace AlarmReplay

/-- A valid reading of temperature and humidity. -/
def validReading (sensor : TemperatureHumiditySensor) (reading : Single × Single) : DeviceData where
  deviceId := sensor.slaveId
  deviceName := ""
  valid := true
  errorMessage := ""
  reading := .sensorTh reading.1 reading.2

/-- The temperature has a report, and the humidity would have one as well. -/
def defers (sensor : TemperatureHumiditySensor) (config : SensorThresholdConfig)
    (reading : Single × Single) : Bool :=
  (checkPoint "temperature" config.temperature reading.1 sensor.lastTemperatureAlarm).2.isSome &&
    (checkPoint "humidity" config.humidity reading.2 sensor.lastHumidityAlarm).2.isSome

/-- One poll: the check, and the message if there is one. -/
def poll (config : SensorThresholdConfig) (state : AlarmReplay) (reading : Single × Single) :
    AlarmReplay :=
  let checked := state.sensor.checkThreshold (validReading state.sensor reading)
  let sent := checked.2.filter ThresholdAlarmEvent.active
  { sensor := checked.1
    temperature := replay "temperature" state.temperature sent
    humidity := replay "humidity" state.humidity sent
    reading := some reading
    deferred := defers state.sensor config reading }

/-- The messages announce the alarms of the last reading. -/
def Agrees (config : SensorThresholdConfig) (state : AlarmReplay) : Prop :=
  match state.reading with
  | none => True
  | some (temperature, humidity) =>
      PointAgrees state.temperature config.temperature temperature ∧
        (state.deferred = true ∨ PointAgrees state.humidity config.humidity humidity)

instance (config : SensorThresholdConfig) (state : AlarmReplay) :
    Decidable (Agrees config state) := by
  unfold Agrees
  split <;> infer_instance

end AlarmReplay

/-- A sensor whose thresholds have just been set, with a list of readings. -/
def alarmReplay (slaveId : Int32) (config : SensorThresholdConfig) :
    TransitionSystem AlarmReplay (Single × Single) where
  initial :=
    { sensor := ⟨slaveId, some config, false, false⟩
      temperature := .normal
      humidity := .normal
      reading := none
      deferred := false }
  step := AlarmReplay.poll config

/-- Only an active event becomes a message. -/
theorem isSome_publishThresholdAlarm (library : JsonC) (slot : Int) (slaveId : Int32)
    (deviceTypeName : String) (dev : DeviceData) (event : ThresholdAlarmEvent) :
    (publishThresholdAlarm library slot slaveId deviceTypeName dev event).isSome = event.active := by
  rw [publishThresholdAlarm, mqttMakePortUpTopicForSlot_eq]
  cases event.active with
  | true => rfl
  | false => rfl

/-! ## One point -/

/-- The alarm that a value asks for; above both limits the high one counts. -/
def pointCondition (threshold : PointThresholdConfig) (value : Single) : AlarmCondition :=
  if Above threshold value then .high
  else if Below threshold value then .low
  else .normal

/-- The value is not beyond both limits, and it does not end or turn an alarm
that has been reported. -/
def Steady (condition : AlarmCondition) (threshold : PointThresholdConfig) (value : Single) : Prop :=
  ¬(Above threshold value ∧ Below threshold value) ∧
    (condition = .normal ∨ condition = pointCondition threshold value)

instance (condition : AlarmCondition) (threshold : PointThresholdConfig) (value : Single) :
    Decidable (Steady condition threshold value) :=
  inferInstanceAs (Decidable (_ ∧ _))

theorem pointAgrees_iff {condition : AlarmCondition} {threshold : PointThresholdConfig}
    {value : Single} : PointAgrees condition threshold value ↔
      ¬(Above threshold value ∧ Below threshold value) ∧
        condition = pointCondition threshold value := by
  unfold PointAgrees pointCondition
  by_cases above : Above threshold value
  · by_cases below : Below threshold value
    · cases condition <;> simp [above, below]
    · cases condition <;> simp [above, below]
  · by_cases below : Below threshold value
    · cases condition <;> simp [above, below]
    · cases condition <;> simp [above, below]

section Point

variable (threshold : PointThresholdConfig) (value : Single)

/-- The limit that is reported is the one of the point's condition. -/
theorem limitBeyond_cases :
    (pointCondition threshold value = .high ∧
        exists limit, limitBeyond threshold value = some (limit, "_high")) ∨
      (pointCondition threshold value = .low ∧
        exists limit, limitBeyond threshold value = some (limit, "_low")) ∨
      (pointCondition threshold value = .normal ∧ limitBeyond threshold value = none) := by
  have lows : ¬Above threshold value ->
      (Below threshold value ∧ exists limit, limitBeyond threshold value = some (limit, "_low")) ∨
        (¬Below threshold value ∧ limitBeyond threshold value = none) := by
    intro notAbove
    unfold Above at notAbove
    unfold limitBeyond Below
    cases high : threshold.alarmHigh with
    | none =>
        cases low : threshold.alarmLow with
        | none => simp
        | some limit =>
            by_cases below : value.1 < limit.1
            · exact Or.inl ⟨⟨limit, rfl, below⟩, limit, if_pos below⟩
            · refine Or.inr ⟨?_, if_neg below⟩
              rintro ⟨other, same, less⟩
              cases same
              exact below less
    | some upper =>
        have within : ¬upper.1 < value.1 := fun above => notAbove ⟨upper, high, above⟩
        cases low : threshold.alarmLow with
        | none => simp [within]
        | some limit =>
            by_cases below : value.1 < limit.1
            · exact Or.inl ⟨⟨limit, rfl, below⟩, limit, (if_neg within).trans (if_pos below)⟩
            · refine Or.inr ⟨?_, (if_neg within).trans (if_neg below)⟩
              rintro ⟨other, same, less⟩
              cases same
              exact below less
  unfold pointCondition
  by_cases above : Above threshold value
  · left
    rcases above with ⟨high, set, exceeded⟩
    refine ⟨if_pos ⟨high, set, exceeded⟩, high, ?_⟩
    rw [limitBeyond, set]
    exact if_pos exceeded
  · right
    rcases lows above with ⟨below, found⟩ | ⟨within, nothing⟩
    · exact Or.inl ⟨by rw [if_neg above, if_pos below], found⟩
    · exact Or.inr ⟨by rw [if_neg above, if_neg within], nothing⟩

/-- The alarm that is known of a point after a check of this point. -/
theorem checkPoint_cases {pointKey : String}
    (named : pointKey = "temperature" ∨ pointKey = "humidity")
    (enabled : threshold.enableAlarm = true) (lastState : Bool) :
    (pointCondition threshold value = .normal ∧
        checkPoint pointKey threshold value lastState = (false, none)) ∨
      (pointCondition threshold value ≠ .normal ∧ lastState = true ∧
        checkPoint pointKey threshold value lastState = (true, none)) ∨
      (pointCondition threshold value ≠ .normal ∧ lastState = false ∧
        exists event, checkPoint pointKey threshold value lastState = (true, some event) ∧
          event.active = true ∧ event.pointKey = pointKey ∧
          announced event = pointCondition threshold value) := by
  have texts : copyText 32 pointKey = pointKey ∧
      copyText 64 (pointKey ++ "_high") = pointKey ++ "_high" ∧
      copyText 64 (pointKey ++ "_low") = pointKey ++ "_low" ∧
      pointKey ++ "_low" ≠ pointKey ++ "_high" := by
    rcases named with rfl | rfl
    · decide +kernel
    · decide +kernel
  rcases texts with ⟨key, highText, lowText, apart⟩
  unfold checkPoint
  rcases limitBeyond_cases threshold value with ⟨high, limit, found⟩ | ⟨low, limit, found⟩ |
    ⟨normal, nothing⟩
  · right
    cases lastState with
    | true => exact Or.inl ⟨by simp [high], rfl, by simp [enabled, found]⟩
    | false =>
        refine Or.inr ⟨by simp [high], rfl, ?_⟩
        simp [enabled, found, announced, high, key, highText]
  · right
    cases lastState with
    | true => exact Or.inl ⟨by simp [low], rfl, by simp [enabled, found]⟩
    | false =>
        refine Or.inr ⟨by simp [low], rfl, ?_⟩
        simp [enabled, found, announced, low, key, lowText, apart]
  · exact Or.inl ⟨normal, by simp [enabled, nothing]⟩

variable {threshold value} {condition : AlarmCondition}

/-- A point that is not reported was normal or is already known to be open. -/
theorem steady_of_unreported (silent : pointCondition threshold value = .normal ∨
    condition ≠ .normal) :
    PointAgrees condition threshold value ↔ Steady condition threshold value := by
  rw [pointAgrees_iff, Steady]
  apply and_congr_right
  intro _
  constructor
  · exact Or.inr
  · rintro (normal | same)
    · rcases silent with quiet | known
      · rw [normal, quiet]
      · exact absurd normal known
    · exact same

/-- A report brings the point to the condition of the value. -/
theorem steady_of_reported (unknown : condition = .normal) :
    PointAgrees (pointCondition threshold value) threshold value ↔
      Steady condition threshold value := by
  rw [pointAgrees_iff, Steady]
  simp [unknown]

end Point

/-! ## One poll -/

section Poll

variable {config : SensorThresholdConfig}

/-- No reading ends or turns an alarm that has been reported, unless the
report on the humidity is left for the next poll. -/
def KeepsAlarms (config : SensorThresholdConfig) (state : AlarmReplay)
    (reading : Single × Single) : Prop :=
  Steady state.temperature config.temperature reading.1 ∧
    (AlarmReplay.defers state.sensor config reading = true ∨
      Steady state.humidity config.humidity reading.2)

instance (state : AlarmReplay) (reading : Single × Single) :
    Decidable (KeepsAlarms config state reading) :=
  inferInstanceAs (Decidable (_ ∧ _))

/-- The sensor remembers a point exactly if an alarm is known of it. -/
structure Remembered (config : SensorThresholdConfig) (state : AlarmReplay) : Prop where
  config : state.sensor.config = some config
  temperature : state.sensor.lastTemperatureAlarm = true ↔ state.temperature ≠ .normal
  humidity : state.sensor.lastHumidityAlarm = true ↔ state.humidity ≠ .normal

/-- Thresholds whose alarms are enabled. -/
structure AlarmsEnabled (config : SensorThresholdConfig) : Prop where
  sensor : config.thresholdEnabled = true
  temperature : config.temperature.enableAlarm = true
  humidity : config.humidity.enableAlarm = true

instance : Decidable (AlarmsEnabled config) :=
  decidable_of_iff (config.thresholdEnabled = true ∧ config.temperature.enableAlarm = true ∧
      config.humidity.enableAlarm = true)
    ⟨fun ⟨sensor, temperature, humidity⟩ => ⟨sensor, temperature, humidity⟩,
      fun enabled => ⟨enabled.sensor, enabled.temperature, enabled.humidity⟩⟩

/-- What is known of a point, and what the sensor remembers of it, after its check. -/
structure PointStep (threshold : PointThresholdConfig) (value : Single)
    (condition next : AlarmCondition) (lastState : Bool) : Prop where
  agrees : PointAgrees next threshold value ↔ Steady condition threshold value
  remembered : PointAgrees next threshold value -> (lastState = true ↔ next ≠ .normal)

/-- A check reports the point or leaves it, and either way the messages agree
exactly if the value kept the alarm they had announced. -/
theorem checkPoint_step {pointKey : String}
    (named : pointKey = "temperature" ∨ pointKey = "humidity") {threshold : PointThresholdConfig}
    (enabled : threshold.enableAlarm = true) (value : Single) {condition : AlarmCondition}
    {lastState : Bool} (remembered : lastState = true ↔ condition ≠ .normal) :
    PointStep threshold value condition
        (replay pointKey condition
          ((checkPoint pointKey threshold value lastState).2.filter ThresholdAlarmEvent.active))
        (checkPoint pointKey threshold value lastState).1 ∧
      forall event, (checkPoint pointKey threshold value lastState).2 = some event ->
        event.active = true ∧ event.pointKey = pointKey := by
  have unreported : forall next : Bool, (next = true ↔ pointCondition threshold value ≠ .normal) ->
      (pointCondition threshold value = .normal ∨ condition ≠ .normal) ->
      PointStep threshold value condition condition next := by
    intro next state silent
    refine ⟨steady_of_unreported silent, ?_⟩
    intro agrees
    rw [state, (pointAgrees_iff.mp agrees).2]
  rcases checkPoint_cases threshold value named enabled lastState with ⟨normal, result⟩ |
    ⟨beyond, last, result⟩ | ⟨beyond, last, event, result, active, key, announces⟩
  · rw [result]
    exact ⟨unreported false (by simp [normal]) (Or.inl normal), nofun⟩
  · rw [result]
    exact ⟨unreported true (by simp [beyond]) (Or.inr (remembered.mp last)), nofun⟩
  · have unknown : condition = .normal := by
      by_contra known
      rw [remembered.mpr known] at last
      exact absurd last.symm Bool.false_ne_true
    have next : replay pointKey condition ((some event).filter ThresholdAlarmEvent.active) =
        pointCondition threshold value := by
      rw [Option.filter_some, if_pos active, replay, if_pos key, announces]
    rw [result]
    refine ⟨?_, ?_⟩
    · rw [next]
      exact ⟨steady_of_reported unknown, fun _ => by simp [beyond]⟩
    · intro other same
      cases same
      exact ⟨active, key⟩

/-- A message about one point leaves the other as it was. -/
theorem replay_other {pointKey other : String} (different : other ≠ pointKey)
    (condition : AlarmCondition) {event : Option ThresholdAlarmEvent}
    (about : forall sent, event = some sent -> sent.active = true ∧ sent.pointKey = other) :
    replay pointKey condition (event.filter ThresholdAlarmEvent.active) = condition := by
  cases event with
  | none => rfl
  | some sent =>
      rcases about sent rfl with ⟨active, key⟩
      rw [Option.filter_some, if_pos active, replay, if_neg (by rw [key]; exact different)]

/-- The sensor looks at the humidity if the temperature has no report. -/
theorem checkThreshold_valid {sensor : TemperatureHumiditySensor}
    (config_eq : sensor.config = some config) (enabled : AlarmsEnabled config)
    (reading : Single × Single) :
    sensor.checkThreshold (AlarmReplay.validReading sensor reading) =
      match checkPoint "temperature" config.temperature reading.1 sensor.lastTemperatureAlarm with
      | (state, some event) => ({ sensor with lastTemperatureAlarm := state }, some event)
      | (state, none) =>
          ({ sensor with
            lastTemperatureAlarm := state
            lastHumidityAlarm := (checkPoint "humidity" config.humidity reading.2
              sensor.lastHumidityAlarm).1 },
            (checkPoint "humidity" config.humidity reading.2 sensor.lastHumidityAlarm).2) := by
  simp only [TemperatureHumiditySensor.checkThreshold, config_eq, AlarmReplay.validReading,
    enabled.sensor, Bool.not_true, Bool.or_self, Bool.false_eq_true, if_false] <;> rfl

theorem poll_step (enabled : AlarmsEnabled config) {state : AlarmReplay}
    (remembered : Remembered config state) (reading : Single × Single) :
    (AlarmReplay.Agrees config (state.poll config reading) ↔ KeepsAlarms config state reading) ∧
      (AlarmReplay.Agrees config (state.poll config reading) ->
        Remembered config (state.poll config reading)) := by
  rcases checkPoint_step (Or.inl rfl) enabled.temperature reading.1 remembered.temperature with
    ⟨temperature, aboutTemperature⟩
  rcases checkPoint_step (Or.inr rfl) enabled.humidity reading.2 remembered.humidity with
    ⟨humidity, aboutHumidity⟩
  have checked := checkThreshold_valid remembered.config enabled reading
  cases first : checkPoint "temperature" config.temperature reading.1
      state.sensor.lastTemperatureAlarm with
  | mk lastTemperature report =>
      rw [first] at temperature aboutTemperature checked
      cases report with
      | none =>
          have lookedAt : AlarmReplay.defers state.sensor config reading = false := by
            rw [AlarmReplay.defers, first]
            rfl
          have kept := replay_other (by decide : "humidity" ≠ "temperature") state.temperature
            aboutHumidity
          have next : state.poll config reading =
              { sensor := { state.sensor with
                  lastTemperatureAlarm := lastTemperature
                  lastHumidityAlarm := (checkPoint "humidity" config.humidity reading.2
                    state.sensor.lastHumidityAlarm).1 }
                temperature := state.temperature
                humidity := replay "humidity" state.humidity
                  ((checkPoint "humidity" config.humidity reading.2
                    state.sensor.lastHumidityAlarm).2.filter ThresholdAlarmEvent.active)
                reading := some reading
                deferred := false } := by
            rw [AlarmReplay.poll, checked, lookedAt]
            dsimp only
            rw [kept]
          rw [next, KeepsAlarms, lookedAt, AlarmReplay.Agrees]
          simp only [Bool.false_eq_true, false_or]
          refine ⟨and_congr temperature.agrees humidity.agrees, ?_⟩
          rintro ⟨first, second⟩
          exact ⟨remembered.config, temperature.remembered first, humidity.remembered second⟩
      | some event =>
          have kept := replay_other (by decide : "temperature" ≠ "humidity") state.humidity
            aboutTemperature
          have next : state.poll config reading =
              { sensor := { state.sensor with lastTemperatureAlarm := lastTemperature }
                temperature := replay "temperature" state.temperature
                  ((some event).filter ThresholdAlarmEvent.active)
                humidity := state.humidity
                reading := some reading
                deferred := AlarmReplay.defers state.sensor config reading } := by
            rw [AlarmReplay.poll, checked]
            dsimp only
            rw [kept]
          rw [next, KeepsAlarms, AlarmReplay.Agrees]
          dsimp only
          refine ⟨and_congr temperature.agrees ?_, ?_⟩
          · by_cases later : AlarmReplay.defers state.sensor config reading = true
            · simp [later]
            · apply or_congr_right
              apply steady_of_unreported
              rw [AlarmReplay.defers, first, Bool.and_eq_true, not_and] at later
              -- the humidity has no report of its own
              rcases checkPoint_cases config.humidity reading.2 (Or.inr rfl) enabled.humidity
                state.sensor.lastHumidityAlarm with ⟨normal, -⟩ | ⟨-, last, -⟩ |
                  ⟨-, -, report, result, -⟩
              · exact Or.inl normal
              · exact Or.inr (remembered.humidity.mp last)
              · rw [result] at later
                exact absurd rfl (later rfl)
          · rintro ⟨first, -⟩
            exact ⟨remembered.config, temperature.remembered first, remembered.humidity⟩

end Poll

/-- The messages announce what the last reading asks for, all through the
readings, exactly if no reading ends or turns a reported alarm or is beyond
both limits. -/
theorem alarms_agree_iff {config : SensorThresholdConfig} (enabled : AlarmsEnabled config)
    (slaveId : Int32) (readings : List (Single × Single)) :
    (forall before after, readings = before ++ after ->
        AlarmReplay.Agrees config ((alarmReplay slaveId config).run before)) ↔
      (alarmReplay slaveId config).Admissible (KeepsAlarms config) readings := by
  have initially : Remembered config (alarmReplay slaveId config).initial :=
    ⟨rfl, by simp [alarmReplay], by simp [alarmReplay]⟩
  exact (alarmReplay slaveId config).everywhereFrom_iff_of_kept
    (fun _ reading remembered (_ : True) _ agrees => (poll_step enabled remembered reading).2 agrees)
    (fun _ reading remembered _ _ => (poll_step enabled remembered reading).1)
    initially trivial
    ((alarmReplay slaveId config).admissibleFrom_of_forall (fun _ _ => trivial) _ readings)

def whole (value : Int) (small : value.natAbs < 2 ^ 24) : Single :=
  ⟨value, FloatFormat.representable_small value small⟩

/-- Alarms below 10 and above 35 degrees, and above 80 percent. -/
def roomConfig : SensorThresholdConfig where
  thresholdEnabled := true
  temperature := ⟨true, some (whole 10 (by decide)), some (whole 35 (by decide))⟩
  humidity := ⟨true, none, some (whole 80 (by decide))⟩

/-- Too hot from the second reading on, and later too humid as well. -/
def hotterReadings : List (Single × Single) :=
  [(whole 20 (by decide), whole 50 (by decide)), (whole 36 (by decide), whole 50 (by decide)),
    (whole 40 (by decide), whole 90 (by decide))]

theorem hotterReadings_agree :
    (forall before after, hotterReadings = before ++ after ->
        AlarmReplay.Agrees roomConfig ((alarmReplay 1 roomConfig).run before)) ↔
      (alarmReplay 1 roomConfig).Admissible (KeepsAlarms roomConfig) hotterReadings :=
  alarms_agree_iff (by decide) 1 hotterReadings

/-- Neither the return to the range nor the turn from hot to cold is reported. -/
theorem recovery_not_reported :
    ¬AlarmReplay.Agrees roomConfig ((alarmReplay 1 roomConfig).run
        [(whole 40 (by decide), whole 50 (by decide)),
          (whole 20 (by decide), whole 50 (by decide))]) ∧
      ¬AlarmReplay.Agrees roomConfig ((alarmReplay 1 roomConfig).run
        [(whole 40 (by decide), whole 50 (by decide)),
          (whole 5 (by decide), whole 50 (by decide))]) := by
  decide +kernel

end Board
end Imx6Gateway
