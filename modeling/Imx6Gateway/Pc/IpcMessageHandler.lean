import Imx6Gateway.Library.SortedMap
import Imx6Gateway.Pc.MessageType
import Imx6Gateway.Pc.UserRequest

namespace Imx6Gateway
namespace Pc

open Library

/-!
# Which request a message of the user interface is

`IpcMessageHandler::handle` first parses the message once for each request that
it knows by its type.  A message that none of these readers accepts is searched
for the names of the remaining requests, anywhere in its text and in a fixed
order.  This file says for which messages the request that is served is the one
that the type names.
-/

/-- The requests that are served. -/
inductive IpcRequest where
  | syncConfig
  | queryHistory
  | getAlarmEvents
  | ackAlarm
  | deleteDeviceData
  | deleteMasterData
  | clearRecoveredAlarms
  | clearAcknowledgedAlarms
  | clearAllData
  | getMqttConfig
  | saveMqttConfig
  | getGatewayStatus
  | getPortStatus
  | getDevices
  | getLatestPoints
  | command
deriving DecidableEq, Repr

/-! ## The readers -/

def hasType (root : Json) (type : String) : Bool :=
  getJsonString root "type" = type

def isSyncConfigRequest (root : Json) : Bool :=
  hasType root "sync_config_request"

structure HistoryQuery where
  pointId : String
  startMs : Int
  endMs : Int
  limit : Int
deriving DecidableEq, Repr

def parseHistoryQuery (root : Json) : Option HistoryQuery :=
  if !hasType root "query_history" || getJsonString root "pointId" = "" then none
  else some
    { pointId := getJsonString root "pointId"
      startMs := getJsonInt64 root "startMs" (getJsonInt64 root "from" 0)
      endMs := getJsonInt64 root "endMs" (getJsonInt64 root "to" 0)
      limit := getJsonInt root "limit" 1000 }

def parseGetAlarmEventsRequest (root : Json) : Bool :=
  hasType root "get_alarm_events"

/-- The alarm, which may have no name. -/
def parseAckAlarmRequest (root : Json) : Option String :=
  if hasType root "ack_alarm" then
    some (orElse (getJsonString root "alarm_id") (getJsonString root "alarmId"))
  else none

def parseClearRecoveredAlarmsRequest (root : Json) : Bool :=
  hasType root "clear_recovered_alarms"

def parseClearAcknowledgedAlarmsRequest (root : Json) : Bool :=
  hasType root "clear_acknowledged_alarms"

def parseGetMqttConfigRequest (root : Json) : Bool :=
  hasType root "get_mqtt_config"

/-- The host and the port, or the reason why they are refused. -/
def parseSaveMqttConfigRequest (root : Json) : Option (Except String (String × Int)) :=
  if !hasType root "save_mqtt_config" then none
  else if getJsonString root "host" = "" then some (.error "host_empty")
  else if getJsonInt root "port" 0 < 1 ∨ 65535 < getJsonInt root "port" 0 then
    some (.error "port_invalid")
  else some (.ok (getJsonString root "host", getJsonInt root "port" 0))

/-- The first reader that accepts the message. -/
def parsedRequest (root : Json) : Option IpcRequest :=
  if parseSyncConfigRequest root ≠ [] then some .syncConfig
  else if isSyncConfigRequest root then some .syncConfig
  else if (parseHistoryQuery root).isSome then some .queryHistory
  else if hasType root "query_history" then some .queryHistory
  else if parseGetAlarmEventsRequest root then some .getAlarmEvents
  else if (parseAckAlarmRequest root).isSome then some .ackAlarm
  else if (parseDeleteDeviceRequest root).isSome then some .deleteDeviceData
  else if (parseDeleteMasterRequest root).isSome then some .deleteMasterData
  else if parseClearRecoveredAlarmsRequest root then some .clearRecoveredAlarms
  else if parseClearAcknowledgedAlarmsRequest root then some .clearAcknowledgedAlarms
  else if parseClearAllDataRequest root then some .clearAllData
  else if parseGetMqttConfigRequest root then some .getMqttConfig
  else if (parseSaveMqttConfigRequest root).isSome then some .saveMqttConfig
  else none

/-- `find` on the text of the message. -/
def contains (msg pattern : String) : Bool :=
  (findAfter pattern.toList msg.toList).isSome

/-- The first name that stands anywhere in the text. -/
def searchedRequest (msg : String) : Option IpcRequest :=
  if contains msg "get_gateway_status" then some .getGatewayStatus
  else if contains msg "get_port_status" then some .getPortStatus
  else if contains msg "get_devices" then some .getDevices
  else if contains msg "get_latest_points" || contains msg "get_snapshot" then some .getLatestPoints
  else if contains msg "\"type\":\"command\"" || contains msg "\"msg_type\":\"command\"" then
    some .command
  else none

/-- The request that `handle` serves; without one it answers
`unsupported_command`.  What is no object has no type. -/
def handledAs (pc : JsonCodec) (msg : String) : Option IpcRequest :=
  match parsedRequest ((parseObject pc msg).getD .null) with
  | some request => some request
  | none => searchedRequest msg

/-! ## The request that a message names -/

/-- The types that are recognised by parsing. -/
def parsedTypes : List (String × IpcRequest) :=
  [("sync_config_request", .syncConfig), ("query_history", .queryHistory),
    ("get_alarm_events", .getAlarmEvents), ("ack_alarm", .ackAlarm),
    ("delete_device_data", .deleteDeviceData), ("delete_master_data", .deleteMasterData),
    ("clear_recovered_alarms", .clearRecoveredAlarms),
    ("clear_acknowledged_alarms", .clearAcknowledgedAlarms), ("clear_all_data", .clearAllData),
    ("get_mqtt_config", .getMqttConfig), ("save_mqtt_config", .saveMqttConfig)]

/-- The types that are searched in the text. -/
def searchedTypes : List (String × IpcRequest) :=
  [("get_gateway_status", .getGatewayStatus), ("get_port_status", .getPortStatus),
    ("get_devices", .getDevices), ("get_latest_points", .getLatestPoints),
    ("get_snapshot", .getLatestPoints), ("command", .command)]

/-- The request that the members `type` and `msg_type` of the object name. -/
def requestOf (root : Json) : Option IpcRequest :=
  match (parsedTypes ++ searchedTypes).lookup (getJsonString root "type") with
  | some request => some request
  | none => if getJsonString root "msg_type" = "command" then some .command else none

/-- A request to delete data must say what to delete. -/
def identified (root : Json) : IpcRequest -> Bool
  | .deleteDeviceData => (parseDeleteDeviceRequest root).isSome
  | .deleteMasterData => (parseDeleteMasterRequest root).isSome
  | _ => true

theorem isSome_parseSaveMqttConfigRequest (root : Json) :
    (parseSaveMqttConfigRequest root).isSome = hasType root "save_mqtt_config" := by
  unfold parseSaveMqttConfigRequest
  cases hasType root "save_mqtt_config" with
  | false => rfl
  | true =>
      simp only [Bool.not_true, Bool.false_eq_true, if_false]
      split
      · rfl
      · split <;> rfl

/-- The readers accept a message by its type. -/
theorem parsedRequest_of_type {root : Json} {type : String} {request : IpcRequest}
    (named : (type, request) ∈ parsedTypes) (same : getJsonString root "type" = type) :
    parsedRequest root = if identified root request then some request else none := by
  simp only [parsedTypes, List.mem_cons, Prod.mk.injEq, List.not_mem_nil, or_false] at named
  rcases named with ⟨rfl, rfl⟩ | ⟨rfl, rfl⟩ | ⟨rfl, rfl⟩ | ⟨rfl, rfl⟩ | ⟨rfl, rfl⟩ | ⟨rfl, rfl⟩ |
    ⟨rfl, rfl⟩ | ⟨rfl, rfl⟩ | ⟨rfl, rfl⟩ | ⟨rfl, rfl⟩ | ⟨rfl, rfl⟩ <;>
  simp [parsedRequest, parseSyncConfigRequest, isSyncConfigRequest, parseHistoryQuery,
    parseGetAlarmEventsRequest, parseAckAlarmRequest, parseClearRecoveredAlarmsRequest,
    parseClearAcknowledgedAlarmsRequest, parseClearAllDataRequest, parseGetMqttConfigRequest,
    isSome_parseSaveMqttConfigRequest, parseDeleteDeviceRequest, parseDeleteMasterRequest, hasType,
    identified, same]

theorem parsedRequest_of_other {root : Json}
    (other : forall named, named ∈ parsedTypes -> getJsonString root "type" ≠ named.1) :
    parsedRequest root = none := by
  simp only [parsedTypes, List.forall_mem_cons] at other
  simp [parsedRequest, parseSyncConfigRequest, isSyncConfigRequest, parseHistoryQuery,
    parseGetAlarmEventsRequest, parseAckAlarmRequest, parseClearRecoveredAlarmsRequest,
    parseClearAcknowledgedAlarmsRequest, parseClearAllDataRequest, parseGetMqttConfigRequest,
    isSome_parseSaveMqttConfigRequest, parseDeleteDeviceRequest, parseDeleteMasterRequest, hasType,
    other]

/-! ## The search in the text -/

/-- The order in which the text is searched. -/
def searchOrder : List IpcRequest :=
  [.getGatewayStatus, .getPortStatus, .getDevices, .getLatestPoints, .command]

def IpcRequest.markers : IpcRequest -> List String
  | .getGatewayStatus => ["get_gateway_status"]
  | .getPortStatus => ["get_port_status"]
  | .getDevices => ["get_devices"]
  | .getLatestPoints => ["get_latest_points", "get_snapshot"]
  | .command => ["\"type\":\"command\"", "\"msg_type\":\"command\""]
  | _ => []

/-- A name of the request stands somewhere in the text. -/
def Marked (msg : String) (request : IpcRequest) : Prop :=
  exists marker, marker ∈ request.markers ∧ marker.toList <:+: msg.toList

/-- No name of an earlier request stands in the text. -/
def MarkedFirst (msg : String) (request : IpcRequest) : Prop :=
  Marked msg request ∧ exists before after, searchOrder = before ++ request :: after ∧
    forall earlier, earlier ∈ before -> ¬Marked msg earlier

theorem isSome_findAfter_iff (pattern text : List Char) :
    (findAfter pattern text).isSome = true ↔ pattern <:+: text := by
  constructor
  · intro found
    rcases Option.isSome_iff_exists.mp found with ⟨rest, after⟩
    rcases findAfter_eq_some_iff.mp after with ⟨front, split, -⟩
    exact ⟨front, rest, by rw [split, List.append_assoc]⟩
  · rintro ⟨front, rest, rfl⟩
    induction front with
    | nil =>
        cases text : pattern ++ rest with
        | nil =>
            rw [List.nil_append, text, findAfter, ← text, afterFront_append]
            rfl
        | cons head tail =>
            rw [List.nil_append, text, findAfter, ← text, afterFront_append]
            rfl
    | cons head front ih =>
        rw [List.cons_append, List.cons_append, findAfter]
        split
        · rfl
        · exact ih

theorem contains_iff {msg pattern : String} :
    contains msg pattern = true ↔ pattern.toList <:+: msg.toList :=
  isSome_findAfter_iff pattern.toList msg.toList

theorem marked_iff (msg : String) (request : IpcRequest) :
    request.markers.any (contains msg) = true ↔ Marked msg request := by
  rw [List.any_eq_true]
  apply exists_congr
  intro marker
  rw [contains_iff]

theorem searchedRequest_eq (msg : String) :
    searchedRequest msg = searchOrder.find? fun request => request.markers.any (contains msg) := by
  unfold searchedRequest searchOrder
  simp only [List.find?_cons, IpcRequest.markers, List.any_cons, List.any_nil, Bool.or_false,
    List.find?_nil]
  cases contains msg "get_gateway_status" with
  | true => rfl
  | false =>
      cases contains msg "get_port_status" with
      | true => rfl
      | false =>
          cases contains msg "get_devices" with
          | true => rfl
          | false =>
              cases contains msg "get_latest_points" || contains msg "get_snapshot" with
              | true => rfl
              | false =>
                  cases contains msg "\"type\":\"command\"" ||
                      contains msg "\"msg_type\":\"command\"" <;> rfl

/-- The search returns the first request whose name stands in the text. -/
theorem searchedRequest_iff {msg : String} {request : IpcRequest} :
    searchedRequest msg = some request ↔ MarkedFirst msg request := by
  rw [searchedRequest_eq, List.find?_eq_some_iff_append, marked_iff, MarkedFirst]
  apply and_congr_right
  intro _
  apply exists_congr
  intro before
  apply exists_congr
  intro after
  apply and_congr_right
  intro _
  apply forall_congr'
  intro earlier
  rw [Bool.not_eq_true', ← Bool.not_eq_true, marked_iff]

theorem searchedRequest_mem {msg : String} {request : IpcRequest}
    (searched : searchedRequest msg = some request) : request ∈ searchOrder := by
  rw [searchedRequest_eq] at searched
  exact List.mem_of_find?_eq_some searched

theorem parsed_notSearched :
    forall named, named ∈ parsedTypes -> named.2 ∉ searchOrder := by decide

theorem searched_searched :
    forall named, named ∈ searchedTypes -> named.2 ∈ searchOrder := by decide

/-- What a message must have, besides its type, to be served as the request. -/
def Recognised (root : Json) (msg : String) (request : IpcRequest) : Prop :=
  if request ∈ searchOrder then MarkedFirst msg request else identified root request = true

/-- A message is served as the request that its type names exactly if the
request is recognised by parsing, or its name comes first in the search. -/
theorem request_served_iff (pc : JsonCodec) (msg : String) (root : Json) (request : IpcRequest)
    (object : parseObject pc msg = some root) (named : requestOf root = some request) :
    handledAs pc msg = some request ↔ Recognised root msg request := by
  rw [handledAs, object, Option.getD_some]
  unfold requestOf at named
  rw [List.lookup_append] at named
  cases parsed : parsedTypes.lookup (getJsonString root "type") with
  | some found =>
      rw [parsed] at named
      cases named
      have entry := SortedMap.mem_of_lookup parsed
      have notSearched : request ∉ searchOrder := parsed_notSearched _ entry
      rw [parsedRequest_of_type entry rfl, Recognised, if_neg notSearched]
      cases said : identified root request with
      | true => exact iff_of_true rfl rfl
      | false =>
          refine iff_of_false ?_ Bool.false_ne_true
          intro searched
          exact notSearched (searchedRequest_mem searched)
  | none =>
      have other : forall known, known ∈ parsedTypes -> getJsonString root "type" ≠ known.1 := by
        intro known inside same
        have absent := List.lookup_eq_none_iff.mp parsed known inside
        rw [same, bne_self_eq_false] at absent
        cases absent
      have searched : request ∈ searchOrder := by
        rw [parsed, Option.none_or] at named
        cases later : searchedTypes.lookup (getJsonString root "type") with
        | some found =>
            rw [later] at named
            cases named
            exact searched_searched _ (SortedMap.mem_of_lookup later)
        | none =>
            rw [later] at named
            simp only [Option.ite_none_right_eq_some, Option.some.injEq] at named
            rw [← named.2]
            decide
      rw [parsedRequest_of_other other, Recognised, if_pos searched]
      exact searchedRequest_iff

theorem device_query_served :
    handledAs (JsonText.codec false) "\x7b\"type\": \"get_devices\"\x7d" = some .getDevices ↔
      Recognised (.obj [("type", .str "get_devices")]) "\x7b\"type\": \"get_devices\"\x7d" .getDevices :=
  request_served_iff (JsonText.codec false) _ _ _ rfl rfl

/-- A command to a gateway with the name of a query. -/
def commandToQueryName : String :=
  "\x7b\"cmd\":\"discover\",\"gatewayId\":\"get_devices\",\"type\":\"command\"\x7d"

theorem command_taken_for_query : exists root,
    parseObject (JsonText.codec false) commandToQueryName = some root ∧
      requestOf root = some .command ∧
      handledAs (JsonText.codec false) commandToQueryName ≠ some .command := by
  refine ⟨.obj [("cmd", .str "discover"), ("gatewayId", .str "get_devices"),
    ("type", .str "command")], rfl, rfl, ?_⟩
  decide

/-! ## The requests that change what is registered -/

theorem handledAs_of_type {pc : JsonCodec} {msg type : String} {root : Json} {request : IpcRequest}
    (object : parseObject pc msg = some root) (named : (type, request) ∈ parsedTypes)
    (same : getJsonString root "type" = type) (said : identified root request = true) :
    handledAs pc msg = some request := by
  rw [handledAs, object, Option.getD_some, parsedRequest_of_type named same, if_pos said]

/-- A message that is served as another request changes nothing there. -/
theorem handleRequest_of_other (pc : JsonCodec) (nowMs : Int) (state : PcData) {msg : String}
    (noSync : handledAs pc msg ≠ some .syncConfig)
    (noDevice : handledAs pc msg ≠ some .deleteDeviceData)
    (noMaster : handledAs pc msg ≠ some .deleteMasterData)
    (noClear : handledAs pc msg ≠ some .clearAllData) :
    state.handleRequest pc nowMs msg = (state, []) := by
  unfold PcData.handleRequest
  cases object : parseObject pc msg with
  | none => rfl
  | some root =>
      have sync : parseSyncConfigRequest root = [] := by
        unfold parseSyncConfigRequest
        rw [if_pos]
        intro same
        exact noSync (handledAs_of_type object (by decide) same rfl)
      have device : parseDeleteDeviceRequest root = none := by
        by_contra found
        by_cases same : getJsonString root "type" = "delete_device_data"
        · exact noDevice (handledAs_of_type object (by decide) same
            (Option.isSome_iff_ne_none.mpr found))
        · exact found (if_pos same)
      have master : parseDeleteMasterRequest root = none := by
        by_contra found
        by_cases same : getJsonString root "type" = "delete_master_data"
        · exact noMaster (handledAs_of_type object (by decide) same
            (Option.isSome_iff_ne_none.mpr found))
        · exact found (if_pos (.inl same))
      have clear : parseClearAllDataRequest root = false := by
        apply decide_eq_false
        intro same
        exact noClear (handledAs_of_type object (by decide) same rfl)
      simp only [sync, device, master, clear, ne_eq, not_true, if_false, Bool.false_eq_true]

end Pc
end Imx6Gateway
