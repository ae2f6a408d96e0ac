import Imx6Gateway.Library.JsonText
import Imx6Gateway.Pc.AlarmEvent

namespace Imx6Gateway
namespace Pc

open Library

/-!
# The identifiers of alarms

An alarm that brings no identifier gets one put together from its gateway,
port, device, point and type.  The parser does so before the handler completes
the port from the topic, so the identifier of an alarm whose payload names no
port says that the port is unknown.
-/

/-- The payload brings no identifier of its own. -/
def Anonymous (pc : JsonCodec) (payload : String) : Prop :=
  forall root, pc.parse payload = some root ->
    getJsonString root "alarm_id" = "" ∧ getJsonString root "alarmId" = ""

/-- The payload names its port, or the topic names none.  A port that is called
like the stand-in for a missing one needs no name either. -/
def PortKnown (pc : JsonCodec) (topic payload : String) : Prop :=
  forall root gatewayId portId, pc.parse payload = some root ->
    parsePortUpTopic topic = some (gatewayId, portId) ->
    getJsonStringCompat root "port_id" "portId" ≠ "" ∨ portId = "unknown_port"

/-- Both events are reports of one alarm. -/
def SameAlarm (event other : AlarmEvent) : Prop :=
  event.gatewayId = other.gatewayId ∧ event.portId = other.portId ∧
    event.deviceId = other.deviceId ∧ event.pointKey = other.pointKey ∧
    event.alarmType = other.alarmType

/-- The events come from two gateways or from two ports. -/
def Elsewhere (event other : AlarmEvent) : Prop :=
  event.gatewayId ≠ other.gatewayId ∨
    (event.portId ≠ "" ∧ other.portId ≠ "" ∧ event.portId ≠ other.portId)

/-- The names of the gateway and of the port have no dot. -/
def DotFree (event : AlarmEvent) : Prop :=
  '.' ∉ event.gatewayId.toList ∧ '.' ∉ event.portId.toList

/-! ## The text of an identifier -/

theorem buildStableAlarmId_ne (event : AlarmEvent) : buildStableAlarmId event ≠ "" := by
  intro empty
  have dot : '.' ∈ (buildStableAlarmId event).toList := by
    simp [buildStableAlarmId]
  rw [empty] at dot
  exact List.not_mem_nil dot

theorem orElse_of_ne {text : String} (named : text ≠ "") (other : String) :
    orElse text other = text :=
  if_neg named

theorem orElse_empty (other : String) : orElse "" other = other :=
  if_pos rfl

/-- What stands around the port is cancelled, whatever it is. -/
theorem buildStableAlarmId_port (event : AlarmEvent) (portId : String) :
    buildStableAlarmId event = buildStableAlarmId { event with portId := portId } ↔
      orElse event.portId "unknown_port" = orElse portId "unknown_port" := by
  unfold buildStableAlarmId
  simp only [String.append_assoc, String.append_right_inj, String.append_left_inj]

theorem dotFree_orElse {text other : String} (plain : '.' ∉ text.toList)
    (standIn : '.' ∉ other.toList) : '.' ∉ (orElse text other).toList := by
  unfold orElse
  split
  · exact standIn
  · exact plain

/-- The gateway and the port can be read off the identifier. -/
theorem buildStableAlarmId_place {event other : AlarmEvent} (plain : DotFree event)
    (otherPlain : DotFree other) (same : buildStableAlarmId event = buildStableAlarmId other) :
    orElse event.gatewayId "unknown_gateway" = orElse other.gatewayId "unknown_gateway" ∧
      orElse event.portId "unknown_port" = orElse other.portId "unknown_port" := by
  have levels (event : AlarmEvent) : (buildStableAlarmId event).toList =
      (orElse event.gatewayId "unknown_gateway").toList ++ '.' ::
        ((orElse event.portId "unknown_port").toList ++ '.' ::
          (toString event.deviceId ++ "." ++ orElse event.pointKey "unknown" ++ "." ++
            orElse event.alarmType "emergency").toList) := by
    simp only [buildStableAlarmId, String.toList_append, List.append_assoc]
    rfl
  have texts := congrArg String.toList same
  rw [levels, levels, append_first_separator_inj (dotFree_orElse plain.1 (by decide))
      (dotFree_orElse otherPlain.1 (by decide)),
    append_first_separator_inj (dotFree_orElse plain.2 (by decide))
      (dotFree_orElse otherPlain.2 (by decide))] at texts
  exact ⟨String.toList_injective texts.1, String.toList_injective texts.2.1⟩

/-! ## The event that is stored -/

section Saved

variable {stod : String -> Option Rat} {nowMs : Int} {pc : JsonCodec} {topic payload : String}
  {event : AlarmEvent}

theorem legacyReading_portId (root : Json) (event : AlarmEvent) :
    (legacyReading stod root event).portId = event.portId := by
  unfold legacyReading
  dsimp only
  split
  · rfl
  · split
    · rfl
    · rfl

/-- An event that is read names its gateway, and has its identifier from what
it names. -/
theorem parsed_identity (parsed : parseAlarmEventPayload stod nowMs pc payload = .ok event)
    (anonymous : Anonymous pc payload) :
    event.gatewayId ≠ "" ∧ event.alarmId = buildStableAlarmId event ∧
      exists root, pc.parse payload = some root ∧
        event.portId = getJsonStringCompat root "port_id" "portId" := by
  unfold parseAlarmEventPayload at parsed
  split at parsed
  · rename_i members read
    have nameless := anonymous _ read
    simp only at parsed
    split at parsed
    · split at parsed
      · rename_i complete
        cases parsed
        have gateway : (alarmFields stod nowMs (Json.obj members)).gatewayId ≠ "" := by
          intro missing
          simp only [fillAlarmEventFromObject, missing, if_true] at complete
          cases complete
        have unset : (alarmFields stod nowMs (Json.obj members)).alarmId = "" := by
          simp only [alarmFields, nameless, orElse, if_true]
        refine ⟨gateway, ?_, Json.obj members, read, rfl⟩
        change orElse (alarmFields stod nowMs (Json.obj members)).alarmId _ = _
        rw [unset, orElse_empty]
        rfl
      · cases parsed
    · split at parsed
      · cases parsed
      · split at parsed
        · cases parsed
        · rename_i gateway
          have port := @legacyReading_portId stod (Json.obj members)
            (fillAlarmEventFromObject stod nowMs (Json.obj members)).1
          generalize legacyReading stod (Json.obj members)
            (fillAlarmEventFromObject stod nowMs (Json.obj members)).1 = reading at parsed port gateway
          cases parsed
          exact ⟨gateway, rfl, Json.obj members, read, port⟩
  · cases parsed

/-- The port comes from the topic if the payload names none, and the
identifier does not change any more. -/
theorem savedAlarm_identity (saved : savedAlarm stod nowMs pc topic payload = some event)
    (anonymous : Anonymous pc payload) :
    exists parsed root topicGatewayId topicPortId, pc.parse payload = some root ∧
      alarmTopic pc topic payload = some (topicGatewayId, topicPortId) ∧
      parsed.gatewayId ≠ "" ∧ parsed.alarmId = buildStableAlarmId parsed ∧
      parsed.portId = getJsonStringCompat root "port_id" "portId" ∧
      event = { parsed with portId := orElse parsed.portId (topicPortId.getD "") } := by
  unfold savedAlarm at saved
  split at saved
  · cases saved
  · split at saved
    · rename_i topicGatewayId topicPortId parsed named read
      split at saved
      · cases saved
      · rcases parsed_identity read anonymous with ⟨gateway, identifier, root, tree, port⟩
        refine ⟨parsed, root, topicGatewayId, topicPortId, tree, named, gateway, identifier, port, ?_⟩
        have set : parsed.alarmId ≠ "" := by
          rw [identifier]
          exact buildStableAlarmId_ne parsed
        simp only [orElse_of_ne gateway, orElse_of_ne set, Option.some.injEq] at saved
        exact saved.symm
    · cases saved

theorem savedAlarm_gateway (saved : savedAlarm stod nowMs pc topic payload = some event)
    (anonymous : Anonymous pc payload) : event.gatewayId ≠ "" := by
  rcases savedAlarm_identity saved anonymous with
    ⟨parsed, root, topicGatewayId, topicPortId, -, -, gateway, -, -, rfl⟩
  exact gateway

theorem alarmTopic_port {topicGatewayId : String} {topicPortId : Option String}
    (named : alarmTopic pc topic payload = some (topicGatewayId, topicPortId)) :
    topicPortId = (parsePortUpTopic topic).map Prod.snd := by
  unfold alarmTopic at named
  split at named
  · rename_i read
    cases named
    rw [read, Option.map_some]
  · rename_i read
    dsimp only at named
    split_ifs at named
    cases named
    rw [read, Option.map_none]

theorem parsePortUpTopic_named {gatewayId portId : String}
    (read : parsePortUpTopic topic = some (gatewayId, portId)) : portId ≠ "" := by
  unfold parsePortUpTopic at read
  split at read
  · cases read
  · split at read
    · cases read
    · split at read
      · cases read
      · rename_i levels
        cases read
        rw [not_or, not_or] at levels
        intro empty
        have characters := congrArg String.toList empty
        rw [String.toList_ofList] at characters
        exact levels.2.1 characters

theorem savedAlarm_id_iff (saved : savedAlarm stod nowMs pc topic payload = some event)
    (anonymous : Anonymous pc payload) :
    event.alarmId = buildStableAlarmId event ↔ PortKnown pc topic payload := by
  rcases savedAlarm_identity saved anonymous with
    ⟨parsed, root, topicGatewayId, topicPortId, tree, named, -, identifier, port, rfl⟩
  have known : PortKnown pc topic payload ↔ forall gatewayId portId,
      parsePortUpTopic topic = some (gatewayId, portId) ->
        parsed.portId ≠ "" ∨ portId = "unknown_port" := by
    rw [port]
    constructor
    · intro known gatewayId portId
      exact known root gatewayId portId tree
    · intro known other gatewayId portId read
      cases tree.symm.trans read
      exact known gatewayId portId
  refine (Eq.congr_left identifier).trans ?_
  rw [buildStableAlarmId_port, known, alarmTopic_port named]
  by_cases unnamed : parsed.portId = ""
  · rw [unnamed, orElse_empty, orElse_empty]
    cases read : parsePortUpTopic topic with
    | none =>
        refine iff_of_true rfl ?_
        intro gatewayId portId impossible
        cases impossible
    | some place =>
        rw [Option.map_some, Option.getD_some, orElse_of_ne (parsePortUpTopic_named read)]
        constructor
        · intro same gatewayId portId here
          cases here
          exact Or.inr same.symm
        · intro same
          rcases same place.1 place.2 rfl with impossible | port
          · exact absurd rfl impossible
          · exact port.symm
  · rw [orElse_of_ne unnamed (Option.getD _ _)]
    exact iff_of_true rfl fun _ _ _ => Or.inl unnamed

/-- An alarm that is stored and brings no identifier has the one of the event
that is stored exactly if its port is known.  Among such alarms two reports of
one alarm share the identifier, and alarms from two places do not. -/
theorem stable_alarm_id_iff (saved : savedAlarm stod nowMs pc topic payload = some event)
    (anonymous : Anonymous pc payload) :
    (event.alarmId = buildStableAlarmId event ↔ PortKnown pc topic payload) ∧
      forall otherMs otherTopic otherPayload other,
        savedAlarm stod otherMs pc otherTopic otherPayload = some other ->
        Anonymous pc otherPayload -> PortKnown pc topic payload ->
        PortKnown pc otherTopic otherPayload ->
        (SameAlarm event other -> event.alarmId = other.alarmId) ∧
          (DotFree event -> DotFree other -> Elsewhere event other ->
            event.alarmId ≠ other.alarmId) := by
  refine ⟨savedAlarm_id_iff saved anonymous, ?_⟩
  intro otherMs otherTopic otherPayload other otherSaved otherAnonymous known otherKnown
  rw [(savedAlarm_id_iff saved anonymous).mpr known,
    (savedAlarm_id_iff otherSaved otherAnonymous).mpr otherKnown]
  constructor
  · rintro ⟨gateway, port, device, point, type⟩
    rw [buildStableAlarmId, gateway, port, device, point, type]
    rfl
  · intro plain otherPlain apart same
    have place := buildStableAlarmId_place plain otherPlain same
    rw [orElse_of_ne (savedAlarm_gateway saved anonymous),
      orElse_of_ne (savedAlarm_gateway otherSaved otherAnonymous)] at place
    rcases apart with gateways | ⟨port, otherPort, ports⟩
    · exact gateways place.1
    · rw [orElse_of_ne port, orElse_of_ne otherPort] at place
      exact ports place.2

end Saved

/-! ## Two alarms of one sensor -/

/-- An alarm of the third device that names the members it is given besides. -/
def sensorAlarmText (more : List (String × Json)) : String :=
  (JsonText.codec false).print (.obj ([("type", .str "alarm_event"),
    ("gateway_id", .str "g1"), ("slave_id", .int 3), ("point_key", .str "temperature")] ++ more))

def sensorAlarm (alarmId portId : String) : AlarmEvent where
  alarmId := alarmId
  timestampMs := 0
  factoryId := ""
  factoryName := ""
  areaId := ""
  areaName := ""
  gatewayId := "g1"
  gatewayName := ""
  portId := portId
  portName := ""
  deviceId := 3
  deviceName := ""
  deviceType := ""
  pointKey := "temperature"
  pointName := "温度"
  alarmType := "emergency"
  level := "warning"
  state := "active"
  value := 0
  threshold := 0
  message := "emergency alarm"

theorem anonymous_of_all {pc : JsonCodec} {payload : String}
    (all : (pc.parse payload).all (fun root => getJsonString root "alarm_id" = "" ∧
      getJsonString root "alarmId" = "") = true) : Anonymous pc payload := by
  intro root read
  rw [read, Option.all_some, decide_eq_true_eq] at all
  exact all

theorem anonymous_sensorAlarm : Anonymous (JsonText.codec false) (sensorAlarmText []) ∧
    Anonymous (JsonText.codec false) (sensorAlarmText [("port_id", .str "p1")]) :=
  ⟨anonymous_of_all (by decide +kernel), anonymous_of_all (by decide +kernel)⟩

theorem named_port_in_id :
    (sensorAlarm "g1.p1.3.temperature.emergency" "p1").alarmId =
        buildStableAlarmId (sensorAlarm "g1.p1.3.temperature.emergency" "p1") ↔
      PortKnown (JsonText.codec false) "gateway/g1/p1/up"
        (sensorAlarmText [("port_id", .str "p1")]) :=
  have saved : savedAlarm (fun _ => none) 0 (JsonText.codec false) "gateway/g1/p1/up"
      (sensorAlarmText [("port_id", .str "p1")]) =
        some (sensorAlarm "g1.p1.3.temperature.emergency" "p1") := by
    decide +kernel
  (stable_alarm_id_iff saved anonymous_sensorAlarm.2).1

/-- The same text on the topics of two ports gives one identifier for both. -/
theorem two_ports_one_id :
    Anonymous (JsonText.codec false) (sensorAlarmText []) ∧
      exists first second,
        savedAlarm (fun _ => none) 0 (JsonText.codec false) "gateway/g1/p1/up"
          (sensorAlarmText []) = some first ∧
        savedAlarm (fun _ => none) 0 (JsonText.codec false) "gateway/g1/p2/up"
          (sensorAlarmText []) = some second ∧
        Elsewhere first second ∧ DotFree first ∧ DotFree second ∧
        first.alarmId = second.alarmId ∧ first.alarmId ≠ buildStableAlarmId first := by
  refine ⟨anonymous_sensorAlarm.1,
    sensorAlarm "g1.unknown_port.3.temperature.emergency" "p1",
    sensorAlarm "g1.unknown_port.3.temperature.emergency" "p2", ?_, ?_, ?_⟩
  · decide +kernel
  · decide +kernel
  · refine ⟨Or.inr (by decide), ?_, ?_, rfl, by decide⟩
    · exact ⟨by decide, by decide⟩
    · exact ⟨by decide, by decide⟩

end Pc
end Imx6Gateway
