import Imx6Gateway.Link.Exchange
import Imx6Gateway.Pc.StoredContent
import Imx6Gateway.Pc.TelemetryHandler

namespace Imx6Gateway
namespace Link

open Library Board Pc

/-!
# The answers to registrations

What each branch of the handler of Pc_data publishes for a registration, the
state of a port or a snapshot: one answer, with what the branch has read of the
message, that says whether the content of the message has been stored.
-/

/-- The types of the messages that are answered. -/
def registerTypes : List String :=
  ["gateway_register", "port_register", "port_status", "config_snapshot",
    "device_config_snapshot", "device_register"]

def isSnapshotType (type : String) : Bool :=
  type = "config_snapshot" || type = "device_config_snapshot"

/-- What a snapshot lists are vectors in memory. -/
def ListsFit (nowMs : Int) (root : Json) : Prop :=
  forall gatewayId selected snapshot,
    parseConfigSnapshot nowMs root gatewayId selected = some snapshot ->
      snapshot.devices.length < 2 ^ 63 ∧ snapshot.pointConfigs.length < 2 ^ 63

/-- The topic on which a message of this type belongs. -/
def RegisterTopic (type topic : String) : Prop :=
  if type = "port_status" then (parsePortUpTopic topic).isSome = true
  else PcData.isValidRegisterTopic topic = true

instance registerTopicDecidable (type topic : String) : Decidable (RegisterTopic type topic) :=
  inferInstanceAs (Decidable (ite _ _ _))

/-! ## The numbers of an answer -/

def IsInt64 (value : Int) : Prop :=
  -2 ^ 63 ≤ value ∧ value < 2 ^ 63

theorem isInt64_of_isInt {value : Int} (isInt : IsInt value) : IsInt64 value := by
  unfold IsInt at isInt
  unfold IsInt64
  omega

theorem isInt64_toInt64 (value : Int) : IsInt64 (toInt64 value) := by
  unfold toInt64
  split
  · assumption
  · unfold IsInt64
    decide

theorem isInt64_getJsonInt64 (object : Json) (key : String) : IsInt64 (getJsonInt64 object key 0) := by
  unfold getJsonInt64
  split
  · exact isInt64_toInt64 _
  · exact isInt64_toInt64 _
  · unfold IsInt64
    decide

theorem isInt64_getJsonInt64Any (object : Json) (keys : List String) :
    IsInt64 (getJsonInt64Any object keys 0) := by
  unfold getJsonInt64Any
  split
  · exact isInt64_getJsonInt64 _ _
  · unfold IsInt64
    decide

/-- The numbers of an answer are machine integers. -/
structure AckFits (ack : RegisterAck) : Prop where
  seq : IsInt64 ack.seq
  configVersion : IsInt64 ack.configVersion
  deviceId : IsInt64 ack.deviceId
  deviceCount : IsInt64 ack.registeredDeviceCount
  pointCount : IsInt64 ack.registeredPointCount

theorem wire_isInt64 {value : Int} (depth : Nat) (isInt : IsInt64 value) :
    (Json.int value).Wire depth := by
  unfold IsInt64 at isInt
  rw [Json.wire_int]
  omega

theorem keys_memberIf (written : Bool) (key : String) (value : Json) :
    List.Sublist ((Json.memberIf written key value).map Prod.fst) [key] := by
  cases written with
  | false => exact List.nil_sublist [key]
  | true => exact List.Sublist.refl [key]

theorem of_mem_memberIf {written : Bool} {key : String} {value : Json} {member : String × Json}
    (inside : member ∈ Json.memberIf written key value) : member = (key, value) := by
  cases written with
  | false => cases inside
  | true => exact List.mem_singleton.mp inside

theorem wire_buildRegisterAckJson {ack : RegisterAck} (fits : AckFits ack) (clock : Int64) :
    (buildRegisterAckJson ack clock.toInt).Wire Json.maxDepth := by
  have early := clock.le_toInt
  have late := clock.toInt_lt
  have now : IsInt64 clock.toInt := ⟨early, late⟩
  unfold buildRegisterAckJson Json.maxDepth
  rw [Json.wire_obj_succ]
  constructor
  · have keys : (["type", "cmd", "seq", "ok", "status", "gatewayId"] ++ ["portId"] ++
        ["deviceId"] ++ ["configVersion"] ++
        ["reason", "commandType", "cmdType", "message", "retryable"] ++
        ["registeredDeviceCount"] ++ ["registeredPointCount"] ++ ["timestampMs"]).Nodup := by decide
    apply List.Nodup.sublist _ keys
    simp only [List.flatten_cons, List.flatten_nil, List.append_nil, List.map_append]
    simp only [← List.append_assoc]
    repeat' apply List.Sublist.append
    all_goals first
      | exact keys_memberIf _ _ _
      | exact List.Sublist.refl _
  · intro member inside
    simp only [List.flatten_cons, List.flatten_nil, List.append_nil, List.mem_append] at inside
    rcases inside with first | port | device | version | second | devices | points | time
    · simp only [List.mem_cons, List.not_mem_nil, or_false] at first
      rcases first with rfl | rfl | rfl | rfl | rfl | rfl
      · exact Json.wire_str 30 _
      · exact Json.wire_str 30 _
      · exact wire_isInt64 30 fits.seq
      · exact Json.wire_bool 30 _
      · exact Json.wire_str 30 _
      · exact Json.wire_str 30 _
    · rw [of_mem_memberIf port]
      exact Json.wire_str 30 _
    · rw [of_mem_memberIf device]
      exact wire_isInt64 30 fits.deviceId
    · rw [of_mem_memberIf version]
      exact wire_isInt64 30 fits.configVersion
    · simp only [List.mem_cons, List.not_mem_nil, or_false] at second
      rcases second with rfl | rfl | rfl | rfl | rfl
      · exact Json.wire_str 30 _
      · exact Json.wire_str 30 _
      · exact Json.wire_str 30 _
      · exact Json.wire_str 30 _
      · exact Json.wire_bool 30 _
    · rw [of_mem_memberIf devices]
      exact wire_isInt64 30 fits.deviceCount
    · rw [of_mem_memberIf points]
      exact wire_isInt64 30 fits.pointCount
    · rw [List.mem_singleton.mp time]
      exact wire_isInt64 30 now

/-- An answer without a device and without counts. -/
theorem ackFits_plain {ack : RegisterAck} (seq : IsInt64 ack.seq)
    (configVersion : IsInt64 ack.configVersion) (deviceId : ack.deviceId = -1)
    (deviceCount : ack.registeredDeviceCount = -1) (pointCount : ack.registeredPointCount = -1) :
    AckFits ack where
  seq := seq
  configVersion := configVersion
  deviceId := by rw [deviceId]; unfold IsInt64; decide
  deviceCount := by rw [deviceCount]; unfold IsInt64; decide
  pointCount := by rw [pointCount]; unfold IsInt64; decide

theorem isInt64_count {ok : Bool} {count : Nat} (small : ok = true -> count < 2 ^ 63) :
    IsInt64 (if ok then (count : Int) else -1) := by
  unfold IsInt64
  split
  · rename_i succeeded
    have bound := small succeeded
    omega
  · decide

theorem isInt64_zero : IsInt64 0 := by
  unfold IsInt64
  decide

theorem isInt64_one : IsInt64 1 := by
  unfold IsInt64
  decide

theorem isInt64_absent : IsInt64 (-1) := by
  unfold IsInt64
  decide

/-! ## The content of a message -/

/-- A snapshot without a version that does not say whether it is full either. -/
def unversioned (root : Json) : Bool :=
  messageConfigVersion root ≤ 0 && (root.lookup "fullSnapshot").isNone &&
    (root.lookup "full_snapshot").isNone

section Content

variable (pc : JsonCodec) (payload : String) (nowMs : Int) (state : PcData)

/-- The request that waits for a snapshot. -/
def waitingRequest (root : Json) : Option SyncGatewayPending :=
  state.service.findSyncPending (getJsonInt64 root "seq" 0)

/-- The gateway of a snapshot: that of the request, if one waits for it. -/
def snapshotGateway (root : Json) : String :=
  ((waitingRequest state root).map SyncGatewayPending.gatewayId).getD (extractGatewayIdCompat root)

/-- A refused snapshot gives nothing to the database. -/
def snapshotContentOf (root : Json) : Option Content :=
  if unversioned root ∨ snapshotGateway state root = "" ∨
      (waitingRequest state root).any (fun pending => pending.devices.isEmpty) then none
  else
    (parseConfigSnapshot nowMs root (snapshotGateway state root)
      (((waitingRequest state root).map SyncGatewayPending.devices).getD [])).map
        (PcData.snapshotContent nowMs root (waitingRequest state root) (snapshotGateway state root))

/-- The content of a parsed message, if it has one that can be stored. -/
def contentOfRoot (type : String) (root : Json) : Option Content :=
  if type = "gateway_register" then (parseGatewayRegisterDetails nowMs root).map Content.gateway
  else if type = "port_register" then (parsePortRegister nowMs root).map Content.port
  else if type = "port_status" then
    if (parsePortStatusDetails nowMs root).2.isSome then none
    else some (.port (parsePortStatusDetails nowMs root).1)
  else if type = "device_register" then
    (parseDeviceRegister nowMs root).bind fun details =>
      if details.reason = "" then some (.device details.device) else none
  else if isSnapshotType type then snapshotContentOf nowMs state root
  else none

def contentOf : Option Content :=
  (parseObject pc payload).bind (contentOfRoot nowMs state (extractJsonStringValue payload "type"))

end Content

/-- The message has a content, and the step has stored it. -/
def ContentStored (content : Option Content) (before after : PcData) : Prop :=
  exists stored, content = some stored ∧ stored.Stored before.database after.database

/-! ## What a branch answers -/

/-- The gateway, the port and the number that a branch puts into its answer. -/
structure Header where
  gatewayId : String
  portId : String
  seq : Int

/-- What the branch for the type reads from a parsed message.  The branch for
devices reads the site first, and the number as an `int`; the one for snapshots
asks the request that waits under the number. -/
def headerOfRoot (state : PcData) (type : String) (root : Json) : Header :=
  if type = "gateway_register" then ⟨extractGatewayIdCompat root, "", messageSeq root⟩
  else if isSnapshotType type then
    ⟨if unversioned root then extractGatewayIdCompat root else snapshotGateway state root, "",
      getJsonInt64 root "seq" 0⟩
  else if type = "device_register" ∧ getJsonString root "type" = "device_register" then
    ⟨getJsonString (siteOf root) "gatewayId", getJsonString (siteOf root) "portId",
      getJsonInt root "sequence" (getJsonInt root "seq" 0) % 2 ^ 32⟩
  else ⟨extractGatewayIdCompat root, extractPortIdCompat root, messageSeq root⟩

def answerHeader (pc : JsonCodec) (state : PcData) (type payload : String) : Header :=
  ((parseObject pc payload).map (headerOfRoot state type)).getD
    ⟨extractJsonStringValue payload "gatewayId",
      if type = "gateway_register" ∨ isSnapshotType type then ""
      else extractJsonStringValue payload "portId", 0⟩

/-- Everything published is the answer to the gateway and the port, with the
number, and it tells the truth about what has been stored. -/
def AnswersWith (pc : JsonCodec) (nowMs : Int) (type : String) (header : Header)
    (content : Option Content) (before : PcData) (result : PcData × List Publication) : Prop :=
  exists ack, result.2 = (publishRegisterAck pc nowMs ack).toList ∧ AckFits ack ∧ ack.cmd = type ∧
    header = ⟨ack.gatewayId, ack.portId, ack.seq⟩ ∧
    (ack.ok = true ↔ ContentStored content before result.1)

/-- What is published of an answer is the answer. -/
theorem payload_of_published {pc : JsonCodec} {nowMs : Int} {ack : RegisterAck}
    {publication : Publication} (sent : publishRegisterAck pc nowMs ack = some publication) :
    publication.payload = pc.print (buildRegisterAckJson ack nowMs) := by
  unfold publishRegisterAck at sent
  split_ifs at sent
  rw [mqttPublish_eq_some sent]

section Branches

variable {pc : JsonCodec} {nowMs : Int} {state : PcData} {topic payload type : String}

theorem answersWith_refused {header : Header} {content : Option Content} {before : PcData}
    {ack : RegisterAck} (fits : AckFits ack) (cmd : ack.cmd = type)
    (same : header = ⟨ack.gatewayId, ack.portId, ack.seq⟩) (refused : ack.ok = false)
    (nothing : ¬ContentStored content before state) :
    AnswersWith pc nowMs type header content before (state.answered pc nowMs ack) := by
  refine ⟨ack, rfl, fits, cmd, same, iff_of_false ?_ nothing⟩
  rw [refused]
  exact Bool.false_ne_true

theorem not_contentStored_none {before after : PcData} : ¬ContentStored none before after := by
  rintro ⟨stored, same, -⟩
  cases same

theorem contentStored_some_iff {content : Content} {before after : PcData} :
    ContentStored (some content) before after ↔ content.Stored before.database after.database := by
  constructor
  · rintro ⟨stored, same, all⟩
    cases same
    exact all
  · intro all
    exact ⟨content, rfl, all⟩

theorem isInt64_fallbackSeq (pc : JsonCodec) (payload : String) :
    IsInt64 (PcData.fallbackSeq pc payload) := by
  unfold PcData.fallbackSeq
  cases parseObject pc payload with
  | none => exact isInt64_zero
  | some root => exact isInt64_getJsonInt64Any root _

theorem isInt64_version (pc : JsonCodec) (payload : String) :
    IsInt64 (PcData.fallbackConfigVersion pc payload) := by
  unfold PcData.fallbackConfigVersion
  cases parseObject pc payload with
  | none => exact isInt64_zero
  | some root => exact isInt64_getJsonInt64Any root _

/-! ## The readings of a gateway and a port -/

theorem orElse_of_ne {text : String} (other : String) (nonempty : text ≠ "") :
    orElse text other = text :=
  if_neg nonempty

theorem getJsonStringAny_first {object : Json} {key : String} (keys : List String)
    (nonempty : getJsonString object key ≠ "") :
    getJsonStringAny object (key :: keys) = getJsonString object key :=
  if_pos nonempty

theorem gateway_of_member {root : Json} (nonempty : getJsonString root "gatewayId" ≠ "") :
    extractGatewayIdCompat root = getJsonString root "gatewayId" := by
  have first := getJsonStringAny_first ["gateway_id"] nonempty
  rw [extractGatewayIdCompat, first, orElse_of_ne _ nonempty]

theorem port_of_member {root : Json} (nonempty : getJsonString root "portId" ≠ "") :
    extractPortIdCompat root = getJsonString root "portId" := by
  have first := getJsonStringAny_first ["port_id"] nonempty
  rw [extractPortIdCompat, first, orElse_of_ne _ nonempty]

/-- Where the branch for gateways finds one, it is the one the message names. -/
theorem gateway_of_registered {root : Json} {details : GatewayDetails}
    (read : parseGatewayRegisterDetails nowMs root = some details) :
    details.gateway.gatewayId = extractGatewayIdCompat root := by
  unfold parseGatewayRegisterDetails at read
  dsimp only at read
  split_ifs at read with refused
  cases read
  rw [not_or] at refused
  have named : orElse (getJsonStringAny root ["gatewayId", "gateway_id"])
      (getJsonString (siteOf root) "gatewayId") ≠ "" := refused.2
  change orElse (getJsonStringAny root ["gatewayId", "gateway_id"])
    (getJsonString (siteOf root) "gatewayId") = _
  unfold extractGatewayIdCompat
  by_cases absent : getJsonStringAny root ["gatewayId", "gateway_id"] = ""
  · rw [orElse, if_pos absent] at named
    rw [orElse, if_pos absent, orElse, if_pos absent]
    unfold siteOf at named ⊢
    cases site : memberObject root "site" with
    | none =>
        rw [site, Option.getD_none] at named
        rw [getJsonStringAny_first _ named] at absent
        exact absurd absent named
    | some value =>
        rw [site, Option.getD_some] at named
        exact (getJsonStringAny_first ["gateway_id"] named).symm
  · rw [orElse_of_ne _ absent, orElse_of_ne _ absent]

theorem port_of_registered {root : Json} {port : GatewayPort}
    (read : parsePortRegister nowMs root = some port) :
    port.gatewayId = extractGatewayIdCompat root ∧ port.portId = extractPortIdCompat root := by
  unfold parsePortRegister at read
  dsimp only at read
  split_ifs at read with refused
  cases read
  rw [not_or, not_or] at refused
  exact ⟨(gateway_of_member refused.2.1).symm, (port_of_member refused.2.2).symm⟩

/-! ## Gateways and ports -/

theorem gatewayRegister_answers (register : PcData.isValidRegisterTopic topic = true) :
    AnswersWith pc nowMs "gateway_register" (answerHeader pc state "gateway_register" payload)
      ((parseObject pc payload).bind (contentOfRoot nowMs state "gateway_register")) state
      (state.handleGatewayRegister pc nowMs topic payload) := by
  have fits := isInt64_fallbackSeq pc payload
  have version := isInt64_version pc payload
  unfold PcData.handleGatewayRegister
  rw [register, if_neg (by decide)]
  cases parsed : parseObject pc payload with
  | none =>
      apply answersWith_refused (ackFits_plain fits version rfl rfl rfl) rfl _ rfl
        not_contentStored_none
      simp [answerHeader, parsed, PcData.fallbackGatewayId, PcData.fallbackSeq]
  | some root =>
      have header : answerHeader pc state "gateway_register" payload =
          ⟨extractGatewayIdCompat root, "", messageSeq root⟩ := by
        simp [answerHeader, parsed, headerOfRoot]
      have seq : PcData.fallbackSeq pc payload = messageSeq root := by
        rw [PcData.fallbackSeq, parsed]
        rfl
      rw [Option.bind_some, Option.bind_some, contentOfRoot, if_pos rfl, header]
      cases read : parseGatewayRegisterDetails nowMs root with
      | none =>
          apply answersWith_refused (ackFits_plain fits version rfl rfl rfl) rfl _ rfl
            not_contentStored_none
          rw [seq, PcData.fallbackGatewayId, parsed]
      | some details =>
          refine ⟨_, rfl, ackFits_plain fits version rfl rfl rfl, rfl, ?_, ?_⟩
          · rw [seq, gateway_of_registered read]
          · rw [Option.map_some, contentStored_some_iff, decide_eq_true_iff]
            exact PcData.storeGateway_stored_iff state.database details

theorem answerPort_answers {root : Json} {port : GatewayPort} {stored : Database × Refusal}
    {content : Option Content} (parsed : parseObject pc payload = some root)
    (all : stored.2.reason = "" ↔
      exists given, content = some given ∧ given.Stored state.database stored.1) :
    AnswersWith pc nowMs type ⟨port.gatewayId, port.portId, messageSeq root⟩ content state
      (state.answerPort pc nowMs type payload port stored) := by
  have seq : PcData.fallbackSeq pc payload = messageSeq root := by
    rw [PcData.fallbackSeq, parsed]
    rfl
  refine ⟨_, rfl, ackFits_plain (isInt64_fallbackSeq pc payload) (isInt64_version pc payload) rfl
    rfl rfl, rfl, ?_, ?_⟩
  · rw [seq]
  · rw [decide_eq_true_iff]
    exact all

theorem stored_port_iff {port : GatewayPort} {database after : Database} :
    (exists given, some (Content.port port) = some given ∧ given.Stored database after) ↔
      (Content.port port).Stored database after := by
  simp

theorem portRegister_answers (register : PcData.isValidRegisterTopic topic = true) :
    AnswersWith pc nowMs "port_register" (answerHeader pc state "port_register" payload)
      ((parseObject pc payload).bind (contentOfRoot nowMs state "port_register")) state
      (state.handlePortRegister pc nowMs topic payload) := by
  have fits := isInt64_fallbackSeq pc payload
  have version := isInt64_version pc payload
  unfold PcData.handlePortRegister
  rw [register, if_neg (by decide)]
  cases parsed : parseObject pc payload with
  | none =>
      apply answersWith_refused (ackFits_plain fits version rfl rfl rfl) rfl _ rfl
        not_contentStored_none
      simp [answerHeader, parsed, PcData.fallbackGatewayId, PcData.fallbackPortId,
        PcData.fallbackSeq, isSnapshotType]
  | some root =>
      have header : answerHeader pc state "port_register" payload =
          ⟨extractGatewayIdCompat root, extractPortIdCompat root, messageSeq root⟩ := by
        simp [answerHeader, parsed, headerOfRoot, isSnapshotType]
      rw [Option.bind_some, Option.bind_some, contentOfRoot, if_neg (by decide), if_pos rfl, header]
      cases read : parsePortRegister nowMs root with
      | none =>
          apply answersWith_refused (ackFits_plain fits version rfl rfl rfl) rfl _ rfl
            not_contentStored_none
          rw [PcData.fallbackSeq, PcData.fallbackGatewayId, PcData.fallbackPortId, parsed]
          rfl
      | some port =>
          have own := port_of_registered read
          rw [← own.1, ← own.2]
          apply answerPort_answers parsed
          rw [Option.map_some, stored_port_iff]
          exact PcData.storePort_stored_iff state.database port

theorem portStatus_answers (ports : (parsePortUpTopic topic).isSome) :
    AnswersWith pc nowMs "port_status" (answerHeader pc state "port_status" payload)
      ((parseObject pc payload).bind (contentOfRoot nowMs state "port_status")) state
      (state.handlePortStatus pc nowMs topic payload) := by
  unfold PcData.handlePortStatus
  rcases Option.isSome_iff_exists.mp ports with ⟨⟨topicGateway, topicPort⟩, read⟩
  rw [read]
  dsimp only
  cases parsed : parseObject pc payload with
  | none =>
      apply answersWith_refused (ackFits_plain isInt64_zero isInt64_zero rfl rfl rfl) rfl _ rfl
        not_contentStored_none
      simp [answerHeader, parsed, isSnapshotType]
  | some root =>
      have header : answerHeader pc state "port_status" payload =
          ⟨extractGatewayIdCompat root, extractPortIdCompat root, messageSeq root⟩ := by
        simp [answerHeader, parsed, headerOfRoot, isSnapshotType]
      rw [Option.bind_some, contentOfRoot, if_neg (by decide), if_neg (by decide), if_pos rfl, header]
      apply answerPort_answers parsed
      cases refusal : (parsePortStatusDetails nowMs root).2 with
      | some reason =>
          have given : reason.reason = "missing_field" := by
            unfold parsePortStatusDetails at refusal
            dsimp only at refusal
            split_ifs at refusal
            · cases refusal
              rfl
            · cases refusal
              rfl
          refine iff_of_false ?_ ?_
          · change reason.reason ≠ ""
            rw [given]
            decide
          · rintro ⟨stored, same, -⟩
            cases same
      | none =>
          rw [Option.isSome_none, if_neg Bool.false_ne_true, stored_port_iff]
          dsimp only
          split
          · exact iff_of_false (of_decide_eq_false rfl)
              (Content.not_stored rfl (List.cons_ne_nil _ []))
          · exact PcData.storePort_stored_iff state.database _

/-! ## Devices -/

/-- What the branch for devices reads. -/
theorem device_of_registered {root : Json} {details : DeviceDetails}
    (read : parseDeviceRegister nowMs root = some details) :
    getJsonString root "type" = "device_register" ∧
      details.device.gatewayId = getJsonString (siteOf root) "gatewayId" ∧
      details.device.portId = getJsonString (siteOf root) "portId" ∧
      details.sequence = getJsonInt root "sequence" (getJsonInt root "seq" 0) % 2 ^ 32 ∧
      IsInt details.device.deviceId := by
  have number : IsInt (registeredDevice nowMs root).deviceId :=
    isInt_getJsonInt _ _ (isInt_getJsonInt _ _ (by unfold IsInt; decide))
  unfold parseDeviceRegister at read
  dsimp only at read
  split_ifs at read with type refused
  · cases read
    exact ⟨not_not.mp type, rfl, rfl, rfl, number⟩
  · cases read
    exact ⟨not_not.mp type, rfl, rfl, rfl, number⟩

theorem not_registered_iff {root : Json} :
    parseDeviceRegister nowMs root = none ↔ getJsonString root "type" ≠ "device_register" := by
  unfold parseDeviceRegister
  dsimp only
  split_ifs with type refused
  · exact iff_of_true rfl type
  · exact iff_of_false not_false type
  · exact iff_of_false not_false type

theorem deviceRegister_answers (register : PcData.isValidRegisterTopic topic = true) :
    AnswersWith pc nowMs "device_register" (answerHeader pc state "device_register" payload)
      ((parseObject pc payload).bind (contentOfRoot nowMs state "device_register")) state
      (state.handleDeviceRegister pc nowMs topic payload) := by
  have fits := isInt64_fallbackSeq pc payload
  unfold PcData.handleDeviceRegister
  rw [register, if_neg (by decide)]
  cases parsed : parseObject pc payload with
  | none =>
      apply answersWith_refused ⟨fits, isInt64_zero, isInt64_zero, isInt64_absent, isInt64_absent⟩
        rfl _ rfl not_contentStored_none
      simp [answerHeader, parsed, PcData.fallbackGatewayId, PcData.fallbackPortId,
        PcData.fallbackSeq, isSnapshotType]
  | some root =>
      rw [Option.bind_some, Option.bind_some, contentOfRoot, if_neg (by decide), if_neg (by decide),
        if_neg (by decide), if_pos rfl]
      cases read : parseDeviceRegister nowMs root with
      | none =>
          have other := not_registered_iff.mp read
          have device : IsInt64
              (getJsonIntAny root ["deviceId", "device_id", "slave_id", "slaveAddress"] 0) :=
            isInt64_of_isInt (isInt_getJsonIntAny _ _ (by unfold IsInt; decide))
          apply answersWith_refused ⟨fits, isInt64_zero, device, isInt64_absent, isInt64_absent⟩
            rfl _ rfl not_contentStored_none
          simp [answerHeader, parsed, headerOfRoot, isSnapshotType, other, PcData.fallbackSeq,
            PcData.fallbackGatewayId, PcData.fallbackPortId]
      | some details =>
          rcases device_of_registered read with ⟨own, gateway, port, sequence, number⟩
          have header : answerHeader pc state "device_register" payload =
              ⟨details.device.gatewayId, details.device.portId, details.sequence⟩ := by
            rw [gateway, port, sequence]
            simp [answerHeader, parsed, headerOfRoot, isSnapshotType, own]
          rw [header, Option.bind_some]
          dsimp only
          refine ⟨_, rfl, ⟨?_, isInt64_zero, isInt64_of_isInt number, ?_, isInt64_absent⟩, rfl, rfl, ?_⟩
          · change IsInt64 details.sequence
            rw [sequence]
            unfold IsInt64
            omega
          · change IsInt64 (if _ then _ else _)
            split
            · exact isInt64_one
            · exact isInt64_absent
          · rw [decide_eq_true_iff]
            by_cases valid : details.reason = ""
            · rw [if_pos valid, contentStored_some_iff]
              exact PcData.storeDevice_stored_iff state nowMs valid
            · rw [if_neg valid]
              refine iff_of_false ?_ not_contentStored_none
              unfold PcData.storeDevice
              dsimp only
              rw [if_pos valid]
              exact valid

/-! ## Snapshots -/

theorem unversioned_iff {root : Json} :
    unversioned root = true ↔ messageConfigVersion root ≤ 0 ∧
      (root.lookup "fullSnapshot").isNone ∧ (root.lookup "full_snapshot").isNone := by
  rw [unversioned, Bool.and_eq_true, Bool.and_eq_true, decide_eq_true_iff, and_assoc]

/-- The branch in terms of the readings above. -/
theorem handleConfigSnapshot_eq {root : Json} (register : PcData.isValidRegisterTopic topic = true)
    (parsed : parseObject pc payload = some root) :
    state.handleConfigSnapshot pc nowMs type topic payload =
      if unversioned root then
        state.answered pc nowMs (PcData.refusedSnapshot type (extractGatewayIdCompat root)
          (getJsonInt64 root "seq" 0) (messageConfigVersion root)
          ⟨"missing_snapshot_version", "config snapshot missing configVersion/fullSnapshot"⟩)
      else if snapshotGateway state root = "" then
        state.answered pc nowMs (PcData.refusedSnapshot type (snapshotGateway state root)
          (getJsonInt64 root "seq" 0) (messageConfigVersion root)
          ⟨"missing_field", "config snapshot missing gatewayId"⟩)
      else if (waitingRequest state root).any (fun pending => pending.devices.isEmpty) then
        state.answered pc nowMs (PcData.refusedSnapshot type (snapshotGateway state root)
          (getJsonInt64 root "seq" 0) (messageConfigVersion root)
          ⟨"invalid_payload", "config snapshot pending devices empty"⟩)
      else state.handleSnapshotOf pc nowMs type root (waitingRequest state root)
        (snapshotGateway state root) := by
  simp only [unversioned_iff]
  unfold PcData.handleConfigSnapshot snapshotGateway waitingRequest
  rw [register, if_neg (by decide), parsed]
  dsimp only
  cases state.service.findSyncPending (getJsonInt64 root "seq" 0) with
  | none => rfl
  | some pending => rfl

theorem completeSyncConfig_database (state : PcData) (waiting : Option SyncGatewayPending)
    (seq : Int) :
    (if waiting.isSome then { state with service := state.service.completeSyncConfig seq }
      else state).database = state.database := by
  split
  · rfl
  · rfl

/-- The end of the branch, for a snapshot that is not refused before it is read. -/
theorem snapshotOf_answers {root : Json} (lists : ListsFit nowMs root)
    (versioned : unversioned root = false) (named : snapshotGateway state root ≠ "")
    (selects : (waitingRequest state root).any (fun pending => pending.devices.isEmpty) = false) :
    AnswersWith pc nowMs type ⟨snapshotGateway state root, "", getJsonInt64 root "seq" 0⟩
      (snapshotContentOf nowMs state root) state
      (state.handleSnapshotOf pc nowMs type root (waitingRequest state root)
        (snapshotGateway state root)) := by
  have version : IsInt64 (messageConfigVersion root) := isInt64_getJsonInt64Any root _
  have waits : forall pending, waitingRequest state root = some pending ->
      pending.gatewayId = snapshotGateway state root ∧ pending.devices ≠ [] := by
    intro pending waiting
    rw [waiting, Option.any_some, List.isEmpty_eq_false_iff] at selects
    refine ⟨?_, selects⟩
    rw [snapshotGateway, waiting]
    rfl
  have content : snapshotContentOf nowMs state root =
      (parseConfigSnapshot nowMs root (snapshotGateway state root)
        (((waitingRequest state root).map SyncGatewayPending.devices).getD [])).map
          (PcData.snapshotContent nowMs root (waitingRequest state root)
            (snapshotGateway state root)) := by
    rw [snapshotContentOf, if_neg]
    rw [versioned, selects]
    simp [named]
  rw [content]
  unfold PcData.handleSnapshotOf
  dsimp only
  cases read : parseConfigSnapshot nowMs root (snapshotGateway state root)
      (((waitingRequest state root).map SyncGatewayPending.devices).getD []) with
  | none =>
      exact answersWith_refused ⟨isInt64_getJsonInt64 root _, version, isInt64_absent,
        isInt64_absent, isInt64_absent⟩ rfl rfl rfl not_contentStored_none
  | some snapshot =>
      have small := lists _ _ _ read
      dsimp only
      rw [Option.map_some]
      cases opened : state.database.isOpen with
      | false =>
          rw [Bool.not_false, if_pos rfl]
          apply answersWith_refused ⟨isInt64_getJsonInt64 root _, version, isInt64_absent,
            isInt64_absent, isInt64_absent⟩ rfl rfl rfl
          rw [contentStored_some_iff]
          exact Content.not_stored_closed _ opened
      | true =>
          rw [Bool.not_true, if_neg Bool.false_ne_true]
          refine ⟨_, rfl, ⟨isInt64_getJsonInt64 root _, version, isInt64_absent,
            isInt64_count fun _ => small.1, isInt64_count fun _ => small.2⟩, rfl, rfl, ?_⟩
          rw [contentStored_some_iff]
          change _ ↔ Content.Stored _ (PcData.database (if _ then _ else _)) _
          rw [completeSyncConfig_database]
          exact PcData.applySnapshot_stored_iff state snapshot opened named waits

theorem configSnapshot_answers (register : PcData.isValidRegisterTopic topic = true)
    (snapshots : isSnapshotType type = true)
    (lists : forall root, parseObject pc payload = some root -> ListsFit nowMs root) :
    AnswersWith pc nowMs type (answerHeader pc state type payload)
      ((parseObject pc payload).bind (contentOfRoot nowMs state type)) state
      (state.handleConfigSnapshot pc nowMs type topic payload) := by
  have content (root : Json) :
      contentOfRoot nowMs state type root = snapshotContentOf nowMs state root := by
    unfold isSnapshotType at snapshots
    simp only [Bool.or_eq_true, decide_eq_true_iff] at snapshots
    rcases snapshots with rfl | rfl <;> rfl
  have notGateway : type ≠ "gateway_register" := by
    rintro rfl
    exact absurd snapshots (by decide)
  cases parsed : parseObject pc payload with
  | none =>
      unfold PcData.handleConfigSnapshot
      rw [register, if_neg (by decide), parsed]
      apply answersWith_refused (ackFits_plain isInt64_zero isInt64_zero rfl rfl rfl) rfl _ rfl
        not_contentStored_none
      simp [answerHeader, parsed, snapshots, PcData.refusedSnapshot]
  | some root =>
      have header : answerHeader pc state type payload =
          ⟨if unversioned root then extractGatewayIdCompat root else snapshotGateway state root, "",
            getJsonInt64 root "seq" 0⟩ := by
        simp [answerHeader, parsed, headerOfRoot, snapshots, notGateway]
      have fits : IsInt64 (getJsonInt64 root "seq" 0) := isInt64_getJsonInt64 root _
      have version : IsInt64 (messageConfigVersion root) := isInt64_getJsonInt64Any root _
      rw [Option.bind_some, content, header, handleConfigSnapshot_eq register parsed]
      split
      · rename_i without
        apply answersWith_refused (ackFits_plain fits version rfl rfl rfl) rfl _ rfl
        · rw [snapshotContentOf, if_pos (Or.inl without)]
          exact not_contentStored_none
        · rfl
      · rename_i versioned
        rw [Bool.not_eq_true] at versioned
        split
        · rename_i unnamed
          apply answersWith_refused (ackFits_plain fits version rfl rfl rfl) rfl rfl rfl
          rw [snapshotContentOf, if_pos (Or.inr (Or.inl unnamed))]
          exact not_contentStored_none
        · rename_i named
          split
          · rename_i nothing
            apply answersWith_refused (ackFits_plain fits version rfl rfl rfl) rfl rfl rfl
            rw [snapshotContentOf, if_pos (Or.inr (Or.inr nothing))]
            exact not_contentStored_none
          · rename_i selects
            rw [Bool.not_eq_true] at selects
            exact snapshotOf_answers (lists root parsed) versioned named selects

/-! ## The handler -/

theorem not_alarm_of_mem {types : List String} (noAlarm : "alarm_event" ∉ types)
    (noCommand : "command" ∉ types) (listed : extractJsonStringValue payload "type" ∈ types) :
    isAlarmMessage payload = false := by
  have other : extractJsonStringValue payload "type" ≠ "alarm_event" ∧
      extractJsonStringValue payload "type" ≠ "command" := by
    constructor
    · intro same
      exact noAlarm (same ▸ listed)
    · intro same
      exact noCommand (same ▸ listed)
  rw [isAlarmMessage, decide_eq_false other.1, decide_eq_false other.2]
  rfl

/-- Each registration is answered as its branch reads it. -/
theorem handle_answers (stod : String -> Option Rat)
    (registers : extractJsonStringValue payload "type" ∈ registerTypes)
    (required : RegisterTopic (extractJsonStringValue payload "type") topic)
    (lists : forall root, parseObject pc payload = some root -> ListsFit nowMs root) :
    AnswersWith pc nowMs (extractJsonStringValue payload "type")
      (answerHeader pc state (extractJsonStringValue payload "type") payload)
      (contentOf pc payload nowMs state) state (state.handle pc nowMs stod topic payload) := by
  have noAlarm := not_alarm_of_mem (by decide) (by decide) registers
  unfold RegisterTopic at required
  unfold contentOf
  unfold PcData.handle
  simp only [registerTypes, List.mem_cons, List.not_mem_nil, or_false] at registers
  rcases registers with named | named | named | named | named | named
  · simp only [named, noAlarm, Bool.false_eq_true, String.reduceEq, if_false, if_true] at required ⊢
    exact gatewayRegister_answers required
  · simp only [named, noAlarm, Bool.false_eq_true, String.reduceEq, or_false, if_false, if_true]
      at required ⊢
    exact portRegister_answers required
  · simp only [named, noAlarm, Bool.false_eq_true, String.reduceEq, or_false, if_false, if_true]
      at required ⊢
    exact portStatus_answers required
  · have noAnswer : isAnswer "config_snapshot" = false := by decide
    simp only [named, noAlarm, noAnswer, Bool.false_eq_true, String.reduceEq, or_false, if_false,
      if_true] at required ⊢
    exact configSnapshot_answers required rfl lists
  · have noAnswer : isAnswer "device_config_snapshot" = false := by decide
    simp only [named, noAlarm, noAnswer, Bool.false_eq_true, String.reduceEq, or_false, or_true,
      if_false, if_true] at required ⊢
    exact configSnapshot_answers required rfl lists
  · have noAnswer : isAnswer "device_register" = false := by decide
    simp only [named, noAlarm, noAnswer, Bool.false_eq_true, String.reduceEq, or_false, if_false,
      if_true] at required ⊢
    exact deviceRegister_answers required

/-- On another topic it is passed over. -/
theorem silent_off_topic (stod : String -> Option Rat)
    (registers : extractJsonStringValue payload "type" ∈ registerTypes)
    (other : ¬RegisterTopic (extractJsonStringValue payload "type") topic) :
    (state.handle pc nowMs stod topic payload).2 = [] := by
  have noAlarm := not_alarm_of_mem (by decide) (by decide) registers
  unfold RegisterTopic at other
  unfold PcData.handle
  simp only [registerTypes, List.mem_cons, List.not_mem_nil, or_false] at registers
  rcases registers with named | named | named | named | named | named
  · simp only [named, noAlarm, Bool.false_eq_true, String.reduceEq, if_false, if_true,
      Bool.not_eq_true] at other ⊢
    rw [PcData.handleGatewayRegister, other]
    rfl
  · simp only [named, noAlarm, Bool.false_eq_true, String.reduceEq, or_false, if_false, if_true,
      Bool.not_eq_true] at other ⊢
    rw [PcData.handlePortRegister, other]
    rfl
  · simp only [named, noAlarm, Bool.false_eq_true, String.reduceEq, or_false, if_false, if_true,
      Option.not_isSome_iff_eq_none] at other ⊢
    rw [PcData.handlePortStatus, other]
  · have noAnswer : isAnswer "config_snapshot" = false := by decide
    simp only [named, noAlarm, noAnswer, Bool.false_eq_true, String.reduceEq, or_false, if_false,
      if_true, Bool.not_eq_true] at other ⊢
    rw [PcData.handleConfigSnapshot, other]
    rfl
  · have noAnswer : isAnswer "device_config_snapshot" = false := by decide
    simp only [named, noAlarm, noAnswer, Bool.false_eq_true, String.reduceEq, or_false, or_true,
      if_false, if_true, Bool.not_eq_true] at other ⊢
    rw [PcData.handleConfigSnapshot, other]
    rfl
  · have noAnswer : isAnswer "device_register" = false := by decide
    simp only [named, noAlarm, noAnswer, Bool.false_eq_true, String.reduceEq, or_false, if_false,
      if_true, Bool.not_eq_true] at other ⊢
    rw [PcData.handleDeviceRegister, other]
    rfl

end Branches
end Link
end Imx6Gateway
