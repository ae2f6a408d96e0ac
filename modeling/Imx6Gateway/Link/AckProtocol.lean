import Imx6Gateway.Board.CommandHandler
import Imx6Gateway.Link.RegisterAnswers
import Imx6Gateway.Pc.GatewayMirror

namespace Imx6Gateway
namespace Link

open Library Board Pc

/-!
# The protocol of acknowledgements

Pc_data is to answer each message of a board but telemetry and answers, and
neither program is to answer an answer.  Here is what a message is owed: one
answer that is addressed to the gateway the message names, with its type, its
number, and whether its content has been stored.  What the branches of the
handler answer is then compared with that.
-/

/-! ## What a message is owed -/

/-- The types of the messages of a board, but telemetry, alarms and answers. -/
def businessTypes : List String :=
  registerTypes ++ ["gateway_heartbeat", "gateway_status", "threshold_config"]

def IsBusiness (payload : String) : Prop :=
  isAlarmMessage payload = true ∨ extractJsonStringValue payload "type" ∈ businessTypes

instance isBusinessDecidable (payload : String) : Decidable (IsBusiness payload) :=
  inferInstanceAs (Decidable (_ ∨ _))

/-- The topic on which the message belongs. -/
def RequiredTopic (pc : JsonCodec) (topic payload : String) : Prop :=
  if isAlarmMessage payload then
    (parsePortUpTopic topic).isSome = true ∨
      isValidGatewayUpTopic topic (PcData.fallbackGatewayId pc payload) = true
  else if extractJsonStringValue payload "type" = "gateway_heartbeat" ∨
      extractJsonStringValue payload "type" = "gateway_status" then
    isValidGatewayUpTopic topic (PcData.fallbackGatewayId pc payload) = true
  else if extractJsonStringValue payload "type" = "threshold_config" then True
  else RegisterTopic (extractJsonStringValue payload "type") topic

instance requiredTopicDecidable (pc : JsonCodec) (topic payload : String) :
    Decidable (RequiredTopic pc topic payload) :=
  inferInstanceAs (Decidable (ite _ _ _))

/-- The gateway that the message names, or else its topic. -/
def namedGateway (pc : JsonCodec) (topic payload : String) : String :=
  orElse (PcData.fallbackGatewayId pc payload) (((parsePortUpTopic topic).map Prod.fst).getD "")

/-- The topic of an answer to a gateway, or to one of its ports. -/
def answerTopic (gatewayId portId : String) : String :=
  if portId = "" then defaultCmdTopic gatewayId else makePortCommandTopic gatewayId portId

/-- The board reads the publication as an answer to the gateway, with the type
and the number of a message and whether its content has been stored. -/
structure AckFor (library : JsonC) (publication : Publication) (gatewayId type : String) (seq : Int)
    (stored : Prop) : Prop where
  topic : exists portId, publication.topic = answerTopic gatewayId portId
  read : exists root ok, library.parse publication.payload = some root ∧
    root.lookup "gatewayId" = some (.str gatewayId) ∧ root.lookup "cmd" = some (.str type) ∧
    root.lookup "seq" = some (.int seq) ∧ root.lookup "ok" = some (.bool ok) ∧
    (ok = true ↔ stored)

/-- The publications that the board takes for answers. -/
def acksOf (library : JsonC) (publications : List Publication) : List Publication :=
  publications.filter fun publication => mqttPayloadIsAck library publication.payload

/-- The only answer is the one that the message is owed. -/
def Acknowledged (link : Exchange) (stod : String -> Option Rat) (state : PcData) (nowMs : Int)
    (topic payload : String) : Prop :=
  exists publication,
    acksOf link.board (state.handle link.pc nowMs stod topic payload).2 = [publication] ∧
    AckFor link.board publication (namedGateway link.pc topic payload)
      (extractJsonStringValue payload "type") (PcData.fallbackSeq link.pc payload)
      (ContentStored (contentOf link.pc payload nowMs state) state
        (state.handle link.pc nowMs stod topic payload).1)

section Handler

variable {pc : JsonCodec} {nowMs : Int} {state : PcData} {topic payload : String}

/-- A registration belongs on the topic of its branch. -/
theorem registerTopic_of_required (registers : extractJsonStringValue payload "type" ∈ registerTypes)
    (required : RequiredTopic pc topic payload) :
    RegisterTopic (extractJsonStringValue payload "type") topic := by
  have noAlarm := not_alarm_of_mem (by decide) (by decide) registers
  have noState : ¬(extractJsonStringValue payload "type" = "gateway_heartbeat" ∨
      extractJsonStringValue payload "type" = "gateway_status") := by
    rintro (same | same)
    · rw [same] at registers
      exact absurd registers (by decide)
    · rw [same] at registers
      exact absurd registers (by decide)
  have noThreshold : extractJsonStringValue payload "type" ≠ "threshold_config" := by
    intro same
    rw [same] at registers
    exact absurd registers (by decide)
  rw [RequiredTopic, noAlarm, if_neg Bool.false_ne_true, if_neg noState, if_neg noThreshold]
    at required
  exact required

/-- No other message of a board is answered. -/
theorem silent_handle (stod : String -> Option Rat) (business : IsBusiness payload)
    (other : extractJsonStringValue payload "type" ∉ registerTypes) :
    (state.handle pc nowMs stod topic payload).2 = [] := by
  unfold PcData.handle
  rcases business with alarm | listed
  · simp only [alarm, if_true]
    split
    · rfl
    · rfl
  · have noAlarm := not_alarm_of_mem (by decide) (by decide) listed
    have among := (List.mem_append.mp listed).resolve_left other
    simp only [List.mem_cons, List.not_mem_nil, or_false] at among
    rcases among with named | named | named
    · simp only [named, noAlarm, Bool.false_eq_true, String.reduceEq, true_or, if_false, if_true]
    · simp only [named, noAlarm, Bool.false_eq_true, String.reduceEq, or_true, if_false, if_true]
    · have noAnswer : isAnswer "threshold_config" = false := by decide
      simp only [named, noAlarm, noAnswer, Bool.false_eq_true, String.reduceEq, or_false, if_false,
        if_true]

end Handler

/-! ## What the board reads of it -/

section Reading

variable (link : Exchange) (clock : Int64) {ack : RegisterAck}

theorem isAck_buildRegisterAck (fits : AckFits ack) :
    mqttPayloadIsAck link.board (link.pc.print (buildRegisterAckJson ack clock.toInt)) = true := by
  have read := link.board_reads _ (wire_buildRegisterAckJson fits clock)
  have type : (buildRegisterAckJson ack clock.toInt).lookup "type" = some (.str "ack") := rfl
  rw [mqttPayloadIsAck, read]
  dsimp only
  rw [type]
  rfl

theorem ackFor_iff (fits : AckFits ack) (gatewayId type : String) (seq : Int) (stored : Prop) :
    AckFor link.board ⟨registerAckTopic ack, link.pc.print (buildRegisterAckJson ack clock.toInt)⟩
        gatewayId type seq stored ↔
      ack.gatewayId = gatewayId ∧ ack.cmd = type ∧ ack.seq = seq ∧ (ack.ok = true ↔ stored) := by
  have read := link.board_reads _ (wire_buildRegisterAckJson fits clock)
  constructor
  · rintro ⟨-, root, ok, parsed, gateway, cmd, number, flag, truth⟩
    cases read.symm.trans parsed
    have gateways : some (Json.str ack.gatewayId) = some (.str gatewayId) := gateway
    have cmds : some (Json.str ack.cmd) = some (.str type) := cmd
    have numbers : some (Json.int ack.seq) = some (.int seq) := number
    have flags : some (Json.bool ack.ok) = some (.bool ok) := flag
    cases gateways
    cases cmds
    cases numbers
    cases flags
    exact ⟨rfl, rfl, rfl, truth⟩
  · rintro ⟨rfl, rfl, rfl, truth⟩
    exact ⟨⟨ack.portId, rfl⟩, buildRegisterAckJson ack clock.toInt, ack.ok, read, rfl, rfl, rfl,
      rfl, truth⟩

/-- An answer of a branch is the one that is owed exactly if it is sent to the
gateway that is named and has the number of the message. -/
theorem owed_iff {type gatewayId : String} {seq : Int} {header : Header}
    {content : Option Content} {before : PcData} {result : PcData × List Publication}
    (answers : AnswersWith link.pc clock.toInt type header content before result)
    (named : gatewayId ≠ "") :
    (exists publication, acksOf link.board result.2 = [publication] ∧
        AckFor link.board publication gatewayId type seq
          (ContentStored content before result.1)) ↔
      header.gatewayId = gatewayId ∧ header.seq = seq ∧
        isValidPublishTopic (answerTopic header.gatewayId header.portId) = true := by
  rcases answers with ⟨ack, published, fits, cmd, rfl, truth⟩
  have isAck := isAck_buildRegisterAck link clock fits
  by_cases sent : ack.gatewayId ≠ "" ∧ isValidPublishTopic (registerAckTopic ack) = true
  · rw [published, publishRegisterAck_eq link.pc clock.toInt sent.1 sent.2]
    have only : acksOf link.board (some (⟨registerAckTopic ack,
        link.pc.print (buildRegisterAckJson ack clock.toInt)⟩ : Publication)).toList =
        [⟨registerAckTopic ack, link.pc.print (buildRegisterAckJson ack clock.toInt)⟩] := by
      simp only [acksOf, Option.toList_some, List.filter_cons, isAck, if_true, List.filter_nil]
    rw [only]
    constructor
    · rintro ⟨publication, same, owed⟩
      cases same
      have read := (ackFor_iff link clock fits gatewayId type seq _).mp owed
      exact ⟨read.1, read.2.2.1, sent.2⟩
    · rintro ⟨gateway, number, -⟩
      exact ⟨_, rfl, (ackFor_iff link clock fits gatewayId type seq _).mpr
        ⟨gateway, cmd, number, truth⟩⟩
  · have none : publishRegisterAck link.pc clock.toInt ack = none := by
      unfold publishRegisterAck
      split
      · rfl
      · rename_i gateway
        rw [if_neg fun valid => sent ⟨gateway, valid⟩]
    rw [published, none]
    refine iff_of_false ?_ ?_
    · rintro ⟨publication, same, -⟩
      cases same
    · rintro ⟨rfl, -, valid⟩
      exact sent ⟨named, valid⟩

end Reading

/-! ## When a message is acknowledged -/

/-- The site of a device names the gateway of the message, and the `int` under
`sequence`, or else under `seq`, is the number of the message. -/
def DeviceReads (gatewayId : String) (root : Json) : Prop :=
  getJsonString root "type" = "device_register" ->
    getJsonString (siteOf root) "gatewayId" = gatewayId ∧
      getJsonInt root "sequence" (getJsonInt root "seq" 0) % 2 ^ 32 = messageSeq root

/-- The number of the snapshot stands under `seq`, and a request that waits
under this number is for the gateway of the message. -/
def SnapshotReads (state : PcData) (gatewayId : String) (root : Json) : Prop :=
  getJsonInt64 root "seq" 0 = messageSeq root ∧
    (unversioned root = false -> forall pending, waitingRequest state root = some pending ->
      pending.gatewayId = gatewayId)

/-- The type has an answer, its branch finds the gateway and the number that the
message names, and the topic of the answer can be published on. -/
structure AckCondition (pc : JsonCodec) (state : PcData) (topic payload : String) : Prop where
  registers : extractJsonStringValue payload "type" ∈ registerTypes
  status : extractJsonStringValue payload "type" = "port_status" ->
    PcData.fallbackGatewayId pc payload ≠ ""
  device : extractJsonStringValue payload "type" = "device_register" -> forall root,
    parseObject pc payload = some root -> DeviceReads (namedGateway pc topic payload) root
  snapshot : isSnapshotType (extractJsonStringValue payload "type") = true -> forall root,
    parseObject pc payload = some root -> SnapshotReads state (namedGateway pc topic payload) root
  valid : isValidPublishTopic (answerTopic (namedGateway pc topic payload)
    (answerHeader pc state (extractJsonStringValue payload "type") payload).portId) = true

section Condition

variable {pc : JsonCodec} {state : PcData} {topic payload type gatewayId : String}

theorem namedGateway_eq (named : PcData.fallbackGatewayId pc payload ≠ "") :
    namedGateway pc topic payload = PcData.fallbackGatewayId pc payload :=
  orElse_of_ne _ named

/-- The topic of registrations names no gateway. -/
theorem fallback_of_register (register : PcData.isValidRegisterTopic topic = true)
    (named : namedGateway pc topic payload ≠ "") : PcData.fallbackGatewayId pc payload ≠ "" := by
  intro absent
  rw [PcData.isValidRegisterTopic, decide_eq_true_iff] at register
  have noPort : parsePortUpTopic topic = none := by
    rw [register]
    rfl
  rw [namedGateway, absent, noPort] at named
  exact named rfl

theorem fallback_eq_named_iff (named : namedGateway pc topic payload ≠ "") :
    PcData.fallbackGatewayId pc payload = namedGateway pc topic payload ↔
      PcData.fallbackGatewayId pc payload ≠ "" := by
  constructor
  · intro same
    rw [same]
    exact named
  · exact fun own => (namedGateway_eq own).symm

/-- Most branches read what the handler reads of a message that it refuses. -/
theorem plain_header
    (noSnapshot : isSnapshotType type = true -> parseObject pc payload = none)
    (noDevice : type = "device_register" -> forall root, parseObject pc payload = some root ->
      getJsonString root "type" ≠ "device_register") :
    (answerHeader pc state type payload).gatewayId = PcData.fallbackGatewayId pc payload ∧
      (answerHeader pc state type payload).seq = PcData.fallbackSeq pc payload := by
  unfold answerHeader PcData.fallbackGatewayId PcData.fallbackSeq
  cases parsed : parseObject pc payload with
  | none => exact ⟨rfl, rfl⟩
  | some root =>
      rw [Option.map_some, Option.getD_some, Option.map_some, Option.getD_some, headerOfRoot]
      split
      · exact ⟨rfl, rfl⟩
      · split
        · rename_i snapshot
          rw [noSnapshot snapshot] at parsed
          cases parsed
        · split
          · rename_i device
            exact absurd device.2 (noDevice device.1 root parsed)
          · exact ⟨rfl, rfl⟩

/-- The branch finds the gateway and the number of the message. -/
def HeaderAgrees (pc : JsonCodec) (state : PcData) (topic payload type : String) : Prop :=
  (answerHeader pc state type payload).gatewayId = namedGateway pc topic payload ∧
    (answerHeader pc state type payload).seq = PcData.fallbackSeq pc payload

theorem plain_agrees_iff (named : namedGateway pc topic payload ≠ "")
    (noSnapshot : isSnapshotType type = true -> parseObject pc payload = none)
    (noDevice : type = "device_register" -> forall root, parseObject pc payload = some root ->
      getJsonString root "type" ≠ "device_register") :
    HeaderAgrees pc state topic payload type ↔ PcData.fallbackGatewayId pc payload ≠ "" := by
  have plain := @plain_header pc state payload type noSnapshot noDevice
  rw [HeaderAgrees, plain.1, plain.2, fallback_eq_named_iff named]
  exact and_iff_left rfl

theorem device_agrees_iff (named : namedGateway pc topic payload ≠ "")
    (own : PcData.fallbackGatewayId pc payload ≠ "") :
    HeaderAgrees pc state topic payload "device_register" ↔
      forall root, parseObject pc payload = some root ->
        DeviceReads (namedGateway pc topic payload) root := by
  by_cases registered : exists root, parseObject pc payload = some root ∧
      getJsonString root "type" = "device_register"
  · rcases registered with ⟨root, parsed, device⟩
    have header : headerOfRoot state "device_register" root =
        ⟨getJsonString (siteOf root) "gatewayId", getJsonString (siteOf root) "portId",
          getJsonInt root "sequence" (getJsonInt root "seq" 0) % 2 ^ 32⟩ := by
      simp [headerOfRoot, isSnapshotType, device]
    rw [HeaderAgrees, answerHeader, PcData.fallbackSeq, parsed, Option.map_some, Option.getD_some,
      Option.map_some, Option.getD_some, header]
    constructor
    · rintro ⟨gateway, seq⟩ other same -
      cases same
      exact ⟨gateway, seq⟩
    · intro reads
      exact reads root rfl device
  · rw [plain_agrees_iff named (fun snapshot => absurd snapshot (by decide))]
    · refine iff_of_true own ?_
      intro root parsed device
      exact absurd ⟨root, parsed, device⟩ registered
    · intro _ root parsed device
      exact registered ⟨root, parsed, device⟩

theorem snapshot_agrees_iff (snapshots : isSnapshotType type = true)
    (named : namedGateway pc topic payload ≠ "")
    (own : PcData.fallbackGatewayId pc payload ≠ "") :
    HeaderAgrees pc state topic payload type ↔
      forall root, parseObject pc payload = some root ->
        SnapshotReads state (namedGateway pc topic payload) root := by
  have notGateway : type ≠ "gateway_register" := by
    rintro rfl
    exact absurd snapshots (by decide)
  have notDevice : type ≠ "device_register" := by
    rintro rfl
    exact absurd snapshots (by decide)
  cases parsed : parseObject pc payload with
  | none =>
      rw [plain_agrees_iff named (fun _ => parsed) (fun device => absurd device notDevice)]
      refine iff_of_true own ?_
      intro root same
      cases same
  | some root =>
      have gateway : extractGatewayIdCompat root = namedGateway pc topic payload := by
        rw [namedGateway_eq own, PcData.fallbackGatewayId, parsed]
      have header : headerOfRoot state type root =
          ⟨if unversioned root then extractGatewayIdCompat root else snapshotGateway state root, "",
            getJsonInt64 root "seq" 0⟩ := by
        simp [headerOfRoot, snapshots, notGateway]
      have found : (if unversioned root then extractGatewayIdCompat root
          else snapshotGateway state root) = namedGateway pc topic payload ↔
          (unversioned root = false -> forall pending, waitingRequest state root = some pending ->
            pending.gatewayId = namedGateway pc topic payload) := by
        cases unversioned root with
        | true => exact iff_of_true gateway fun same => by cases same
        | false =>
            rw [if_neg Bool.false_ne_true, snapshotGateway]
            cases waitingRequest state root with
            | none => exact iff_of_true gateway fun _ pending same => by cases same
            | some pending =>
                constructor
                · intro same _ other waits
                  cases waits
                  exact same
                · exact fun all => all rfl pending rfl
      rw [HeaderAgrees, answerHeader, PcData.fallbackSeq, parsed, Option.map_some, Option.getD_some,
        Option.map_some, Option.getD_some, header]
      dsimp only
      rw [found]
      constructor
      · rintro ⟨waits, seq⟩ other same
        cases same
        exact ⟨seq, waits⟩
      · intro reads
        have all := reads root rfl
        exact ⟨all.2, all.1⟩

/-- All types with an answer but one belong on the topic of registrations. -/
theorem own_of_required (registers : extractJsonStringValue payload "type" ∈ registerTypes)
    (other : extractJsonStringValue payload "type" ≠ "port_status")
    (required : RequiredTopic pc topic payload) (named : namedGateway pc topic payload ≠ "") :
    PcData.fallbackGatewayId pc payload ≠ "" := by
  have belongs := registerTopic_of_required registers required
  rw [RegisterTopic, if_neg other] at belongs
  exact fallback_of_register belongs named

theorem header_agrees_iff (registers : extractJsonStringValue payload "type" ∈ registerTypes)
    (required : RequiredTopic pc topic payload) (named : namedGateway pc topic payload ≠ "") :
    HeaderAgrees pc state topic payload (extractJsonStringValue payload "type") ↔
      (extractJsonStringValue payload "type" = "port_status" ->
        PcData.fallbackGatewayId pc payload ≠ "") ∧
      (extractJsonStringValue payload "type" = "device_register" -> forall root,
        parseObject pc payload = some root -> DeviceReads (namedGateway pc topic payload) root) ∧
      (isSnapshotType (extractJsonStringValue payload "type") = true -> forall root,
        parseObject pc payload = some root ->
          SnapshotReads state (namedGateway pc topic payload) root) := by
  have own := fun other => own_of_required registers other required named
  generalize extractJsonStringValue payload "type" = type at registers own ⊢
  by_cases snapshots : isSnapshotType type = true
  · have other : type ≠ "port_status" ∧ type ≠ "device_register" := by
      constructor
      · rintro rfl
        exact absurd snapshots (by decide)
      · rintro rfl
        exact absurd snapshots (by decide)
    rw [snapshot_agrees_iff snapshots named (own other.1)]
    constructor
    · intro reads
      exact ⟨fun same => absurd same other.1, fun same => absurd same other.2, fun _ => reads⟩
    · rintro ⟨-, -, reads⟩
      exact reads snapshots
  · by_cases device : type = "device_register"
    · subst device
      rw [device_agrees_iff named (own (by decide))]
      constructor
      · intro reads
        exact ⟨fun same => absurd same (by decide), fun _ => reads,
          fun same => absurd same snapshots⟩
      · rintro ⟨-, reads, -⟩
        exact reads rfl
    · rw [plain_agrees_iff named (fun same => absurd same snapshots)
        (fun same => absurd same device)]
      constructor
      · intro names
        exact ⟨fun _ => names, fun same => absurd same device, fun same => absurd same snapshots⟩
      · rintro ⟨status, -, -⟩
        by_cases port : type = "port_status"
        · exact status port
        · exact own port

end Condition

theorem acknowledged_iff_condition (link : Exchange) (stod : String -> Option Rat) (state : PcData)
    (clock : Int64) {topic payload : String} (business : IsBusiness payload)
    (required : RequiredTopic link.pc topic payload)
    (named : namedGateway link.pc topic payload ≠ "")
    (lists : forall root, parseObject link.pc payload = some root -> ListsFit clock.toInt root) :
    Acknowledged link stod state clock.toInt topic payload ↔
      AckCondition link.pc state topic payload := by
  by_cases registers : extractJsonStringValue payload "type" ∈ registerTypes
  · have answers := @handle_answers link.pc clock.toInt state topic payload stod registers
      (registerTopic_of_required registers required) lists
    have agrees := @header_agrees_iff link.pc state topic payload registers required named
    rw [Acknowledged, owed_iff link clock answers named]
    constructor
    · rintro ⟨gateway, seq, valid⟩
      have reads := agrees.mp ⟨gateway, seq⟩
      rw [gateway] at valid
      exact ⟨registers, reads.1, reads.2.1, reads.2.2, valid⟩
    · intro condition
      have header := agrees.mpr ⟨condition.status, condition.device, condition.snapshot⟩
      refine ⟨header.1, header.2, ?_⟩
      rw [header.1]
      exact condition.valid
  · refine iff_of_false ?_ fun condition => registers condition.registers
    rintro ⟨publication, same, -⟩
    rw [silent_handle stod business registers] at same
    cases same

/-! ## Answers are not answered -/

/-- What follows from an answer is at most a request for a snapshot. -/
theorem request_of_followUp {pc : JsonCodec} {nowMs : Int} {state : PcData} {root : Json}
    {completion : Completion} {publication : Publication}
    (published : publication ∈ (state.followUp pc nowMs root completion).2) :
    publication.payload =
      pc.print (buildRequestConfigSnapshotJson completion.target.gatewayId nowMs) := by
  unfold PcData.followUp at published
  dsimp only at published
  split_ifs at published
  · cases published
  · have sent := Option.mem_toList.mp published
    unfold publishConfigSnapshotRequest at sent
    split_ifs at sent
    rw [mqttPublish_eq_some sent]
  · cases published

theorem wire_requestConfigSnapshot (gatewayId : String) (clock : Int64) :
    (buildRequestConfigSnapshotJson gatewayId clock.toInt).Wire Json.maxDepth := by
  have now : IsInt64 clock.toInt := ⟨clock.le_toInt, clock.toInt_lt⟩
  have named : (Json.obj [("gatewayId", .str gatewayId)]).Wire 30 := by
    rw [Json.wire_obj_succ]
    refine ⟨List.nodup_singleton "gatewayId", ?_⟩
    intro member inside
    rw [List.mem_singleton.mp inside]
    exact Json.wire_str 29 _
  unfold buildRequestConfigSnapshotJson Json.maxDepth
  rw [Json.wire_obj_succ]
  constructor
  · change ["type", "cmd", "seq", "cmdType", "gatewayId", "timestampMs", "target", "payload"].Nodup
    decide
  · intro member inside
    simp only [List.mem_cons, List.not_mem_nil, or_false] at inside
    rcases inside with rfl | rfl | rfl | rfl | rfl | rfl | rfl | rfl
    · exact Json.wire_str 30 _
    · exact Json.wire_str 30 _
    · exact wire_isInt64 30 now
    · exact Json.wire_str 30 _
    · exact Json.wire_str 30 _
    · exact wire_isInt64 30 now
    · exact named
    · exact named

theorem request_not_ack (link : Exchange) (clock : Int64) (gatewayId : String) :
    mqttPayloadIsAck link.board
      (link.pc.print (buildRequestConfigSnapshotJson gatewayId clock.toInt)) = false := by
  have read := link.board_reads _ (wire_requestConfigSnapshot gatewayId clock)
  have type : (buildRequestConfigSnapshotJson gatewayId clock.toInt).lookup "type" =
      some (.str "command") := rfl
  rw [mqttPayloadIsAck, read]
  dsimp only
  rw [type]
  rfl

/-- Pc_data answers no answer. -/
theorem no_ack_of_answer (link : Exchange) (stod : String -> Option Rat) (state : PcData)
    (clock : Int64) {topic payload : String}
    (answer : isAnswer (extractJsonStringValue payload "type") = true) :
    acksOf link.board (state.handle link.pc clock.toInt stod topic payload).2 = [] := by
  have handled : (state.handle link.pc clock.toInt stod topic payload).2 =
      (state.handleAnswer link.pc clock.toInt topic payload).2 := by
    unfold PcData.handle isAlarmMessage
    simp only [answer, if_true]
    unfold isAnswer at answer
    simp only [List.contains_iff_mem, List.mem_cons, List.not_mem_nil, or_false] at answer
    rcases answer with named | named | named
    · simp [named]
    · simp [named]
    · simp [named]
  rw [handled, acksOf, List.filter_eq_nil_iff]
  intro publication published
  unfold PcData.handleAnswer at published
  dsimp only at published
  split at published
  · rw [request_of_followUp published, request_not_ack]
    exact Bool.false_ne_true
  · cases published

/-! ## The board -/

/-- The text that the callback hands on as a command. -/
def commandOf : Received -> Option String
  | .unknownTopic => none
  | .taken _ command => command

/-- What the board answers to a message. -/
def boardAnswer (getFloat : Json -> Limit) (library : JsonC) (outcomes : CommandOutcomes)
    (nowMs : Int64) (topic payload : String) : Option BoardAck :=
  (commandOf (mqttMessageHandler library topic payload)).bind
    (dataCommandProcessMessage getFloat library outcomes nowMs)

/-- The topic belongs to a port of the board. -/
def IsOwnPortTopic (topic : String) : Prop :=
  exists portId, mqttParsePortCommandTopic tokenSize tokenSize topic = some (defaultGatewayId, portId)

section Board

variable (getFloat : Json -> Limit) (library : JsonC) (outcomes : CommandOutcomes) (nowMs : Int64)
  {topic payload type : String} {root : Json}

/-- The message as it is in the buffer has this type. -/
def HasType (payload type : String) : Prop :=
  exists root, library.parse (copyText mqttPayloadMax payload) = some root ∧
    root.lookup "type" = some (.str type)

theorem board_foreign (foreign : ¬IsOwnPortTopic topic) :
    boardAnswer getFloat library outcomes nowMs topic payload = none := by
  unfold boardAnswer mqttMessageHandler
  split
  · rfl
  · rename_i topicGateway topicPort parsed
    split
    · rename_i own
      rw [own] at parsed
      exact absurd ⟨topicPort, parsed⟩ foreign
    · rfl

/-- A message with another type is refused with an answer. -/
theorem processRoot_refuses (member : root.lookup "type" = some (.str type)) (noAck : type ≠ "ack")
    (nonempty : type ≠ "") (noCommand : type ≠ "command") :
    processRoot getFloat library outcomes root nowMs ≠ none := by
  have text : memberText library root "type" = some type := by
    rw [memberText, member]
    rfl
  have other : some type ≠ none ∧ some type ≠ some "" ∧ some type ≠ some "command" :=
    ⟨Option.some_ne_none type, fun same => nonempty (Option.some.inj same),
      fun same => noCommand (Option.some.inj same)⟩
  unfold processRoot
  dsimp only
  rw [text, if_neg fun same => noAck (Option.some.inj same)]
  cases (getObjectAny root commandKeys).bind library.getString with
  | some cmd =>
      dsimp only
      rw [if_pos other]
      exact Option.some_ne_none _
  | none =>
      dsimp only
      rw [if_pos ⟨other.1, other.2.1⟩]
      exact Option.some_ne_none _

/-- On its own topics the board knows an answer by the type `ack` alone. -/
theorem board_own (own : IsOwnPortTopic topic) (typed : HasType library payload type)
    (nonempty : type ≠ "") (noCommand : type ≠ "command") :
    boardAnswer getFloat library outcomes nowMs topic payload = none ↔ type = "ack" := by
  rcases own with ⟨portId, parsed⟩
  rcases typed with ⟨root, read, member⟩
  have isAck : mqttPayloadIsAck library (copyText mqttPayloadMax payload) =
      decide (type = "ack") := by
    rw [mqttPayloadIsAck, read]
    dsimp only
    rw [member]
    simp [JsonC.getString]
  unfold boardAnswer mqttMessageHandler
  rw [parsed]
  dsimp only
  rw [if_pos rfl, isAck]
  by_cases ack : type = "ack"
  · rw [ack]
    exact iff_of_true rfl rfl
  · rw [decide_eq_false ack, if_neg Bool.false_ne_true]
    have refused := processRoot_refuses getFloat library outcomes nowMs member ack nonempty noCommand
    change dataCommandProcessMessage getFloat library outcomes nowMs _ = none ↔ type = "ack"
    rw [dataCommandProcessMessage, read]
    exact iff_of_false refused ack

/-- The board leaves an answer alone exactly if it has the type `ack`, or comes
on a topic that is not its own. -/
theorem board_silent_iff (answer : isAnswer type = true) (typed : HasType library payload type) :
    boardAnswer getFloat library outcomes nowMs topic payload = none ↔
      (type = "ack" ∨ ¬IsOwnPortTopic topic) := by
  have other : type ≠ "" ∧ type ≠ "command" := by
    constructor
    · rintro rfl
      exact absurd answer (by decide)
    · rintro rfl
      exact absurd answer (by decide)
  by_cases own : IsOwnPortTopic topic
  · rw [board_own getFloat library outcomes nowMs own typed other.1 other.2]
    exact (or_iff_left (not_not.mpr own)).symm
  · exact iff_of_true (board_foreign getFloat library outcomes nowMs own) (Or.inr own)

end Board

/-- A message of a board gets the answer it is owed exactly if it is a
registration, a state of a port or a snapshot whose branch reads the gateway
and the number that the message names.  Pc_data answers no answer; the board
answers those that have another type than `ack`. -/
theorem ack_protocol_iff (link : Exchange) (stod : String -> Option Rat) :
    (forall (state : PcData) (clock : Int64) (topic payload : String), IsBusiness payload ->
      RequiredTopic link.pc topic payload -> namedGateway link.pc topic payload ≠ "" ->
      (forall root, parseObject link.pc payload = some root -> ListsFit clock.toInt root) ->
      (Acknowledged link stod state clock.toInt topic payload ↔
        AckCondition link.pc state topic payload)) ∧
    (forall (state : PcData) (clock : Int64) (topic payload : String),
      isAnswer (extractJsonStringValue payload "type") = true ->
      acksOf link.board (state.handle link.pc clock.toInt stod topic payload).2 = []) ∧
    forall (getFloat : Json -> Limit) (outcomes : CommandOutcomes) (nowMs : Int64)
      (topic payload type : String), isAnswer type = true -> HasType link.board payload type ->
      (boardAnswer getFloat link.board outcomes nowMs topic payload = none ↔
        (type = "ack" ∨ ¬IsOwnPortTopic topic)) := by
  refine ⟨?_, ?_, ?_⟩
  · intro state clock topic payload business required named lists
    exact acknowledged_iff_condition link stod state clock business required named lists
  · intro state clock topic payload answer
    exact no_ack_of_answer link stod state clock answer
  · intro getFloat outcomes nowMs topic payload type answer typed
    exact board_silent_iff getFloat link.board outcomes nowMs answer typed

/-- The memory of a program that has just started. -/
def startedPc : PcData :=
  seeded blankDatabase 0

def heartbeat : String :=
  gatewayText "gateway_heartbeat" []

/-- A heartbeat is stored and not answered, and a finished command is. -/
theorem heartbeat_unacknowledged :
    (IsBusiness heartbeat ∧ RequiredTopic Exchange.jsonText.pc "gateway/g1/up" heartbeat ∧
      namedGateway Exchange.jsonText.pc "gateway/g1/up" heartbeat = "g1" ∧
      ¬Acknowledged Exchange.jsonText (fun _ => none) startedPc (1000 : Int64).toInt "gateway/g1/up"
        heartbeat) ∧
    HasType Exchange.jsonText.board "\x7b\"type\":\"command_ack\"\x7d" "command_ack" ∧
    boardAnswer (fun _ => none) Exchange.jsonText.board ⟨.ok (), true, .ok, .ok⟩ 1000
      "cmd/gateway_001/port_001" "\x7b\"type\":\"command_ack\"\x7d" ≠ none := by
  have business : IsBusiness heartbeat := by decide +kernel
  have typed : HasType Exchange.jsonText.board "\x7b\"type\":\"command_ack\"\x7d"
      "command_ack" := by
    rw [HasType, copyText_of_fits (by decide)]
    exact ⟨.obj [("type", .str "command_ack")], rfl, rfl⟩
  refine ⟨⟨business, by decide +kernel, by decide +kernel, ?_⟩, typed, ?_⟩
  · rintro ⟨publication, same, -⟩
    rw [silent_handle _ business (by decide +kernel)] at same
    cases same
  · have own : IsOwnPortTopic "cmd/gateway_001/port_001" := ⟨"port_001", rfl⟩
    rw [Ne, board_own _ _ _ _ own typed (by decide) (by decide)]
    decide

def portRegistration : String :=
  gatewayText "port_register" [("portId", .str "p1"), ("seq", .int 7)]

theorem port_registration_acknowledged :
    Acknowledged Exchange.jsonText (fun _ => none) startedPc (1000 : Int64).toInt "gateway/register"
      portRegistration := by
  have parsed : parseObject Exchange.jsonText.pc portRegistration =
      some (.obj [("type", .str "port_register"), ("gatewayId", .str "g1"), ("portId", .str "p1"),
        ("seq", .int 7)]) := rfl
  have lists (root : Json) (read : parseObject Exchange.jsonText.pc portRegistration = some root) :
      ListsFit (1000 : Int64).toInt root := by
    cases parsed.symm.trans read
    intro gatewayId selected snapshot entries
    cases entries
  refine ((ack_protocol_iff Exchange.jsonText (fun _ => none)).1 startedPc 1000 "gateway/register"
    portRegistration (by decide +kernel) (by decide +kernel) (by decide +kernel) lists).mpr ?_
  have type : extractJsonStringValue portRegistration "type" = "port_register" := by decide +kernel
  refine ⟨by decide +kernel, by decide +kernel, ?_, ?_, by decide +kernel⟩
  · rw [type]
    exact fun same => absurd same (by decide)
  · rw [type]
    exact fun same => absurd same (by decide)

end Link
end Imx6Gateway
