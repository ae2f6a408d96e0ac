import Imx6Gateway.Board.CommandHandler
import Imx6Gateway.Board.ThresholdAlarm
import Imx6Gateway.Link.Exchange
import Imx6Gateway.Pc.CommandAck

namespace Imx6Gateway
namespace Link

open Library Board Pc

/-!
# Commands and their answers

Pc_data takes an answer only from the topic of a port.  The board sends the
results of its port manager there, but every answer of `data_ack_send` goes to
the topic of the gateway and is ignored.  The theorem says for each command
exactly whether its answer completes the command that waits for it.
-/

/-- The text of an answer as it is published. -/
def ackText (link : Exchange) (ack : BoardAck) : String :=
  if ack.finite then link.board.print ack.json else link.boardNonFinite ack.json

/-- A command Pc_data may forward, with an identifier the board keeps whole. -/
structure RemoteCommand (library : JsonC) where
  root : Json
  cmd : String
  cmdId : String
  allowed : isRemoteCommandAllowed cmd = true
  isCommand : root.lookup "type" = some (.str "command")
  named : (getObjectAny root commandKeys).bind library.getString = some cmd
  identified : jsonGetStringAny library root cmdIdKeys "" = cmdId
  nonempty : cmdId ≠ ""
  short : textBytes cmdId < 128

/-- The waiting command is completed with the success the board reports. -/
def Answered (link : Exchange) (commands : List PendingCommandTarget)
    (target : PendingCommandTarget) (answer : Option BoardAck) : Prop :=
  exists ack ok completion, answer = some ack ∧ ack.json.lookup "ok" = some (.bool ok) ∧
    (handleAck link.pc commands ack.topic (ackText link ack)).2 = some completion ∧
    completion.target = target ∧ completion.success = ok

/-! ## Answers on the topic of the gateway -/

theorem handleAck_gatewayTopic (pc : JsonCodec) (commands : List PendingCommandTarget)
    (payload : String) : (handleAck pc commands gatewayUpTopic payload).2 = none := by
  have noPort : parsePortUpTopic gatewayUpTopic = none :=
    parsePortUpTopic_gateway (by decide) (by decide)
  unfold handleAck
  rw [noPort]
  split <;> rfl

/-! ## Answers on the topic of a port -/

theorem handleAck_unreadable {pc : JsonCodec} (commands : List PendingCommandTarget)
    (topic : String) {payload : String} (unreadable : pc.parse payload = none) :
    (handleAck pc commands topic payload).2 = none := by
  unfold handleAck
  rw [unreadable]
  split
  · rfl
  · split
    · rename_i impossible
      cases impossible
    · rfl

section PortAnswers

variable {json : Json} {cmdId cmd : String} {ok : Bool} {slot : Int32}

theorem members_cmdId (members : AnswerMembers json cmdId cmd ok slot) (nonempty : cmdId ≠ "") :
    getJsonStringAny json ["cmd_id", "cmdId", "commandId"] = cmdId := by
  rw [getJsonStringAny, getJsonString_of_lookup members.cmdIdMember, if_pos nonempty]

theorem members_gatewayId (members : AnswerMembers json cmdId cmd ok slot) :
    extractGatewayIdCompat json = defaultGatewayId := by
  have first : getJsonStringAny json ["gatewayId", "gateway_id"] = defaultGatewayId := by
    rw [getJsonStringAny, getJsonString_of_lookup members.gatewayMember, if_pos (by decide)]
  rw [extractGatewayIdCompat, first, orElse, if_neg (by decide)]

theorem members_portId (members : AnswerMembers json cmdId cmd ok slot) :
    extractPortIdCompat json = "" ∨ extractPortIdCompat json = portIdFromSlot slot.toInt := by
  have site : memberObject json "site" = none := by rw [memberObject, members.siteMember]
  by_cases port : 0 ≤ slot.toInt
  · have named := (portIdFromSlot_level slot.toInt).1
    have first : getJsonStringAny json ["portId", "port_id"] = portIdFromSlot slot.toInt := by
      rw [getJsonStringAny,
        getJsonString_of_lookup (members.portMember.trans (if_pos port)), if_pos named]
    right
    rw [extractPortIdCompat, first, orElse, if_neg named]
  · have none : getJsonStringAny json ["portId", "port_id"] = "" := by
      simp [getJsonStringAny, getJsonString, members.portMember, members.portAlias, port]
    left
    rw [extractPortIdCompat, none, site]
    rfl

theorem members_success (members : AnswerMembers json cmdId cmd ok slot) :
    isFinalBusinessSuccess json = ok := by
  rw [isFinalBusinessSuccess, getJsonString_of_lookup members.stageMember,
    getJsonBool_of_lookup false members.okMember, getJsonString_of_lookup members.statusMember]
  cases ok <;> rfl

/-- A final answer keeps the board's success, unless it speaks of a removal
that was never asked for. -/
theorem complete_success (members : AnswerMembers json cmdId cmd ok slot) (nonempty : cmd ≠ "")
    {target : PendingCommandTarget}
    (removal : cmd = "remove_device" -> target.commandType = "remove_device") :
    (complete json target).target = target ∧ (complete json target).success = ok := by
  have named : getJsonStringAny json ["cmd", "commandType", "command"] = cmd := by
    rw [getJsonStringAny, getJsonString_of_lookup members.cmdMember, if_pos nonempty]
  have noFailure : ¬ (ok = true ∧ cmd = "remove_device" ∧
      target.commandType ≠ "remove_device") := fun failure => failure.2.2 (removal failure.2.1)
  simp only [complete, named, if_neg nonempty, members_success members]
  rw [if_neg noFailure]
  exact ⟨rfl, rfl⟩

theorem parsePortUpTopic_portUpTopic (slot : Int32) :
    parsePortUpTopic (portUpTopic slot) = some (defaultGatewayId, portIdFromSlot slot.toInt) :=
  parsePortUpTopic_port (by decide) (by decide) (portIdFromSlot_level slot.toInt).1
    (portIdFromSlot_level slot.toInt).2

/-- A readable answer on the topic of its port completes the command. -/
theorem handleAck_members {pc : JsonCodec} {payload : String}
    {commands : List PendingCommandTarget} {target : PendingCommandTarget}
    (type : extractJsonStringValue payload "type" = "ack")
    (parsed : pc.parse payload = some json) (isObj : json.isObj = true)
    (members : AnswerMembers json cmdId cmd ok slot) (nonempty : cmdId ≠ "") (named : cmd ≠ "")
    (waiting : findPendingCommand commands cmdId = some target)
    (removal : cmd = "remove_device" -> target.commandType = "remove_device") :
    exists completion, (handleAck pc commands (portUpTopic slot) payload).2 = some completion ∧
      completion.target = target ∧ completion.success = ok := by
  refine ⟨complete json target, ?_, complete_success members named removal⟩
  have same : identityMismatch json defaultGatewayId (portIdFromSlot slot.toInt) = false := by
    rw [identityMismatch, members_gatewayId members]
    rcases members_portId members with none | port
    · simp [none]
    · simp [port]
  have found := members_cmdId members nonempty
  have final := getJsonString_of_lookup members.stageMember
  rcases Json.isObj_iff.mp isObj with ⟨fields, rfl⟩
  unfold handleAck
  rw [type, parsePortUpTopic_portUpTopic, parsed]
  simp [isAnswer, same, found, nonempty, waiting, final]

end PortAnswers

section Completion

variable (link : Exchange) {context : AckContext} {seq : UInt32} {cmd : String} {ok : Bool}
  {reason message : String} {slot deviceId : Int32} {details : List (String × Json)}
  {finite : Bool} {commands : List PendingCommandTarget} {target : PendingCommandTarget}

theorem extract_portAck (plain : Details details) :
    extractJsonStringValue (link.board.print
      (portAck context seq cmd ok reason message slot deviceId details finite).json) "type" =
      "ack" := by
  rcases portAck_front plain with ⟨rest, shape⟩
  rcases link.board_compact ("type", "ack") [] rest (by decide) with ⟨tail, text⟩
  rw [shape]
  exact extract_first [] (by decide) text

/-- A result of the port manager completes the command. -/
theorem handleAck_portAck (plain : Details details) (nonempty : context.cmdId ≠ "")
    (named : cmd ≠ "") (waiting : findPendingCommand commands context.cmdId = some target)
    (removal : cmd = "remove_device" -> target.commandType = "remove_device") :
    exists completion, (handleAck link.pc commands (portUpTopic slot) (link.board.print
      (portAck context seq cmd ok reason message slot deviceId details finite).json)).2 =
        some completion ∧ completion.target = target ∧ completion.success = ok :=
  handleAck_members (extract_portAck link plain) (link.pc_reads _ (wire_portAck plain)) rfl
    (answerMembers_portAck plain nonempty) nonempty named waiting removal

end Completion

/-! ## The answer of each handler -/

/-- A result that is published for a port and can be read. -/
def PortResult (context : AckContext) (cmd : String) (ack : BoardAck) : Prop :=
  exists seq ok reason message slot deviceId details, Details details ∧
    ack = portAck context seq cmd ok reason message slot deviceId details true

theorem details_deviceDetails (slot slaveId : Int32) (deviceType : String) :
    Details (deviceDetails slot slaveId deviceType) := by
  constructor <;> intro member inside <;> unfold deviceDetails at inside <;>
    simp only [List.mem_cons, List.not_mem_nil, or_false] at inside <;>
    rcases inside with rfl | rfl | rfl | rfl | rfl <;> simp [ackKeys]

theorem details_append {first second : List (String × Json)} (left : Details first)
    (right : Details second) : Details (first ++ second) := by
  constructor
  · intro member inside
    exact (List.mem_append.mp inside).elim (left.keys member) (right.keys member)
  · intro member inside
    exact (List.mem_append.mp inside).elim (left.values member) (right.values member)

theorem details_memberIf (written : Bool) {key : String} {value : Json} (free : key ∉ ackKeys)
    (wire : value.Wire 30) : Details (Json.memberIf written key value) := by
  constructor <;> intro member inside <;> unfold Json.memberIf at inside <;> split at inside
  · rw [List.mem_singleton.mp inside]
    exact free
  · cases inside
  · rw [List.mem_singleton.mp inside]
    exact wire
  · cases inside

theorem portResult_deviceResult (context : AckContext) (seq : UInt32) (cmd : String) (ok : Bool)
    (reason message : String) (slot slaveId : Int32) (deviceType : String) (poll : Int32) :
    PortResult context cmd
      (ackSendDeviceResult context seq cmd ok reason message slot slaveId deviceType poll) :=
  ⟨seq, ok, reason, message, slot, slaveId, _,
    details_append (details_deviceDetails slot slaveId deviceType)
      (details_append (details_memberIf _ (by decide) (wire_jsonInt 30 poll))
        (details_memberIf _ (by decide) (wire_jsonInt 30 poll))), rfl⟩

theorem portResult_relayResult (context : AckContext) (seq : UInt32) (cmd : String) (ok : Bool)
    (reason message : String) (slot slaveId deviceId : Int32) (states : BitVec 16) :
    PortResult context cmd
      (ackSendRelayResult context seq cmd ok reason message slot slaveId deviceId states) := by
  refine ⟨seq, ok, reason, message, slot, _, _, ⟨?_, ?_⟩, rfl⟩
  · intro member inside
    simp only [List.mem_cons, List.not_mem_nil, or_false] at inside
    rcases inside with rfl | rfl | rfl | rfl | rfl <;> simp [ackKeys]
  · intro member inside
    simp only [List.mem_cons, List.not_mem_nil, or_false] at inside
    rcases inside with rfl | rfl | rfl | rfl | rfl
    iterate 4 exact wire_jsonInt 30 _
    rw [Json.wire_arr_succ]
    intro item isState
    rcases List.mem_map.mp isState with ⟨bit, -, rfl⟩
    exact Json.wire_bool 29 _

theorem wire_pointJson (depth : Nat) (point : RequestedPoint) :
    (pointJson point).Wire (depth + 1) := by
  have limit : forall value : Option Limit, (limitJson value).Wire depth := by
    intro value
    unfold limitJson
    split
    · exact wire_jsonSingle depth _
    · exact Json.wire_null depth
  rw [pointJson, Json.wire_obj_succ]
  refine ⟨by simp, ?_⟩
  intro member inside
  simp only [List.mem_cons, List.not_mem_nil, or_false] at inside
  rcases inside with rfl | rfl | rfl
  · exact Json.wire_bool depth _
  · exact limit _
  · exact limit _

theorem details_thresholdDetails (config : RequestedThresholds) :
    Details (thresholdDetails config) := by
  constructor
  · intro member inside
    simp only [thresholdDetails, List.mem_cons, List.not_mem_nil, or_false] at inside
    rcases inside with rfl | rfl | rfl <;> simp [ackKeys]
  · intro member inside
    simp only [thresholdDetails, List.mem_cons, List.not_mem_nil, or_false] at inside
    rcases inside with rfl | rfl | rfl
    · exact Json.wire_bool 30 _
    · exact Json.wire_bool 30 _
    · rw [Json.wire_obj_succ]
      refine ⟨by simp, ?_⟩
      intro point which
      rcases List.mem_pair.mp which with rfl | rfl <;> exact wire_pointJson 28 _

theorem portResult_thresholdResult (context : AckContext) (seq : UInt32) (cmd : String)
    (ok : Bool) (reason message : String) (slot slaveId : Int32) (deviceType : String)
    {config : RequestedThresholds} (finite : config.Finite) :
    PortResult context cmd
      (ackSendThresholdResult context seq cmd ok reason message slot slaveId deviceType config) := by
  refine ⟨seq, ok, reason, message, slot, slaveId, _,
    details_append (details_deviceDetails slot slaveId deviceType)
      (details_thresholdDetails config), ?_⟩
  rw [ackSendThresholdResult, decide_eq_true finite]

/-- The handler does not leave through `data_ack_send`, and every limit it
answers with is a number. -/
def AnsweredOnPort (getFloat : Json -> Limit) (library : JsonC) (cmd : String) (root : Json) :
    Prop :=
  cmd = "set_relay" ∨
  ((cmd = "add_device" ∨ cmd = "remove_device") ∧
    forall reason, targetSlot library root ≠ some (.error reason)) ∨
  ((cmd = "set_device_threshold" ∨ cmd = "set_threshold") ∧
    exists config, parseSensorThresholdConfig getFloat root = some config ∧ config.Finite)

section Handlers

variable (getFloat : Json -> Limit) (library : JsonC) (outcomes : CommandOutcomes)
  (context : AckContext) (seq : UInt32) (root : Json)

theorem handleAddDevice_cases (cmd : String) :
    (forall reason, targetSlot library root ≠ some (.error reason)) ∧
        PortResult context cmd (handleAddDevice library outcomes context seq root cmd) ∨
      (exists reason, targetSlot library root = some (.error reason)) ∧
        (handleAddDevice library outcomes context seq root cmd).topic = gatewayUpTopic := by
  unfold handleAddDevice
  split
  · rename_i reason refused
    exact .inr ⟨⟨reason, refused⟩, rfl⟩
  · rename_i accepted
    refine .inl ⟨accepted, ?_⟩
    simp only
    split
    · apply portResult_deviceResult
    · split <;> apply portResult_deviceResult

theorem handleRemoveDevice_cases (cmd : String) :
    (forall reason, targetSlot library root ≠ some (.error reason)) ∧
        PortResult context cmd (handleRemoveDevice library outcomes context seq root cmd) ∨
      (exists reason, targetSlot library root = some (.error reason)) ∧
        (handleRemoveDevice library outcomes context seq root cmd).topic = gatewayUpTopic := by
  unfold handleRemoveDevice
  split
  · rename_i reason refused
    exact .inr ⟨⟨reason, refused⟩, rfl⟩
  · rename_i accepted
    refine .inl ⟨accepted, ?_⟩
    apply portResult_deviceResult

theorem handleSetRelay_portResult (cmd : String) :
    PortResult context cmd (handleSetRelay outcomes context seq root cmd) := by
  unfold handleSetRelay
  simp only
  split <;> apply portResult_relayResult

theorem handleGetConfig_topic (cmd : String) :
    (handleGetConfig library outcomes context seq root cmd).topic = gatewayUpTopic := by
  unfold handleGetConfig
  simp only
  repeat' split
  all_goals rfl

theorem handleSetDeviceThreshold_cases (cmd : String) :
    (exists config, parseSensorThresholdConfig getFloat root = some config ∧ config.Finite) ∧
        PortResult context cmd
          (handleSetDeviceThreshold getFloat outcomes context seq root cmd) ∨
      ¬ (exists config, parseSensorThresholdConfig getFloat root = some config ∧ config.Finite) ∧
        ((handleSetDeviceThreshold getFloat outcomes context seq root cmd).topic = gatewayUpTopic ∨
          (handleSetDeviceThreshold getFloat outcomes context seq root cmd).finite = false) := by
  unfold handleSetDeviceThreshold
  cases parsed : parseSensorThresholdConfig getFloat root with
  | none =>
      right
      refine ⟨?_, .inl rfl⟩
      rintro ⟨config, impossible, -⟩
      cases impossible
  | some config =>
      by_cases finite : config.Finite
      · left
        exact ⟨⟨config, rfl, finite⟩, portResult_thresholdResult _ _ _ _ _ _ _ _ _ finite⟩
      · right
        refine ⟨?_, .inr (decide_eq_false finite)⟩
        rintro ⟨other, same, otherFinite⟩
        cases same
        exact finite otherFinite

/-- Every command Pc_data may forward is answered, in one of two ways. -/
theorem processCommandMessage_cases {cmd : String} (allowed : isRemoteCommandAllowed cmd = true) :
    exists ack, processCommandMessage getFloat library outcomes context seq root cmd = some ack ∧
      (AnsweredOnPort getFloat library cmd root ∧ PortResult context cmd ack ∨
        ¬ AnsweredOnPort getFloat library cmd root ∧
          (ack.topic = gatewayUpTopic ∨ ack.finite = false)) := by
  unfold isRemoteCommandAllowed at allowed
  rw [List.contains_iff_mem] at allowed
  simp only [List.mem_cons, List.not_mem_nil, or_false] at allowed
  rcases allowed with rfl | rfl | rfl | rfl | rfl | rfl | rfl | rfl
  · refine ⟨handleAddDevice library outcomes context seq root "add_device", rfl, ?_⟩
    rcases handleAddDevice_cases library outcomes context seq root "add_device" with
      ⟨accepted, result⟩ | ⟨⟨reason, refused⟩, topic⟩
    · exact .inl ⟨.inr (.inl ⟨.inl rfl, accepted⟩), result⟩
    · refine .inr ⟨?_, .inl topic⟩
      simp [AnsweredOnPort, refused]
  · refine ⟨handleRemoveDevice library outcomes context seq root "remove_device", rfl, ?_⟩
    rcases handleRemoveDevice_cases library outcomes context seq root "remove_device" with
      ⟨accepted, result⟩ | ⟨⟨reason, refused⟩, topic⟩
    · exact .inl ⟨.inr (.inl ⟨.inr rfl, accepted⟩), result⟩
    · refine .inr ⟨?_, .inl topic⟩
      simp [AnsweredOnPort, refused]
  · exact ⟨_, rfl, .inl ⟨.inl rfl, handleSetRelay_portResult outcomes context seq root "set_relay"⟩⟩
  · refine ⟨handleSetDeviceThreshold getFloat outcomes context seq root "set_device_threshold",
      rfl, ?_⟩
    rcases handleSetDeviceThreshold_cases getFloat outcomes context seq root "set_device_threshold"
      with ⟨parsed, result⟩ | ⟨refused, ending⟩
    · exact .inl ⟨.inr (.inr ⟨.inl rfl, parsed⟩), result⟩
    · refine .inr ⟨?_, ending⟩
      simpa [AnsweredOnPort] using refused
  · refine ⟨handleSetDeviceThreshold getFloat outcomes context seq root "set_threshold", rfl, ?_⟩
    rcases handleSetDeviceThreshold_cases getFloat outcomes context seq root "set_threshold"
      with ⟨parsed, result⟩ | ⟨refused, ending⟩
    · exact .inl ⟨.inr (.inr ⟨.inr rfl, parsed⟩), result⟩
    · refine .inr ⟨?_, ending⟩
      simpa [AnsweredOnPort] using refused
  · exact ⟨_, rfl, .inr ⟨by simp [AnsweredOnPort],
      .inl (handleGetConfig_topic library outcomes context seq root "get_config")⟩⟩
  · exact ⟨_, rfl, .inr ⟨by simp [AnsweredOnPort],
      .inl (handleGetConfig_topic library outcomes context seq root "request_config_snapshot")⟩⟩
  · exact ⟨_, rfl, .inr ⟨by simp [AnsweredOnPort], .inl rfl⟩⟩

end Handlers

/-! ## The answer to a command -/

section Answers

variable (link : Exchange) {commands : List PendingCommandTarget} {target : PendingCommandTarget}

theorem not_answered_gateway {ack : BoardAck} (topic : ack.topic = gatewayUpTopic) :
    ¬ Answered link commands target (some ack) := by
  rintro ⟨published, ok, completion, same, -, completed, -⟩
  cases same
  rw [topic, handleAck_gatewayTopic] at completed
  cases completed

theorem not_answered_notFinite {ack : BoardAck} (broken : ack.finite = false) :
    ¬ Answered link commands target (some ack) := by
  rintro ⟨published, ok, completion, same, -, completed, -⟩
  cases same
  have unreadable := link.pc_refuses ack.json
  rw [ackText, broken, if_neg Bool.false_ne_true, handleAck_unreadable _ _ unreadable] at completed
  cases completed

theorem answered_portResult {context : AckContext} {cmd : String} {ack : BoardAck}
    (result : PortResult context cmd ack) (nonempty : context.cmdId ≠ "") (named : cmd ≠ "")
    (waiting : findPendingCommand commands context.cmdId = some target)
    (removal : cmd = "remove_device" -> target.commandType = "remove_device") :
    Answered link commands target (some ack) := by
  rcases result with ⟨seq, ok, reason, message, slot, deviceId, details, plain, rfl⟩
  rcases handleAck_portAck link plain nonempty named waiting removal
    with ⟨completion, completed, whose, success⟩
  exact ⟨_, ok, completion, rfl, (answerMembers_portAck plain nonempty).okMember, completed, whose,
    success⟩

/-- The board reads a command as Pc_data means it. -/
theorem processRoot_remoteCommand (getFloat : Json -> Limit) (outcomes : CommandOutcomes)
    (nowMs : Int64) (command : RemoteCommand link.board) :
    processRoot getFloat link.board outcomes command.root nowMs =
      processCommandMessage getFloat link.board outcomes ⟨command.cmdId, nowMs⟩
        (commandSeq command.root) (commandEffectiveRoot command.root) command.cmd := by
  have type : memberText link.board command.root "type" = some "command" := by
    rw [memberText, command.isCommand]
    rfl
  have whole : setCurrentCmdId command.cmdId = command.cmdId := copyText_of_fits command.short
  unfold processRoot
  simp [type, command.named, command.identified, whole]

/-- The answer to a command completes it, with the success the board reports,
exactly when the handler publishes a readable result for a port. -/
theorem answered_iff (getFloat : Json -> Limit) (outcomes : CommandOutcomes) (nowMs : Int64)
    (command : RemoteCommand link.board)
    (waiting : findPendingCommand commands command.cmdId = some target)
    (removal : command.cmd = "remove_device" -> target.commandType = "remove_device") :
    Answered link commands target
        (processRoot getFloat link.board outcomes command.root nowMs) ↔
      AnsweredOnPort getFloat link.board command.cmd (commandEffectiveRoot command.root) := by
  have named : command.cmd ≠ "" := by
    intro empty
    have impossible := command.allowed
    rw [empty] at impossible
    exact absurd impossible (by decide)
  rw [processRoot_remoteCommand]
  rcases processCommandMessage_cases getFloat link.board outcomes ⟨command.cmdId, nowMs⟩
    (commandSeq command.root) (commandEffectiveRoot command.root) command.allowed with
    ⟨ack, answer, ⟨onPort, result⟩ | ⟨elsewhere, ending⟩⟩
  · rw [answer]
    exact iff_of_true
      (answered_portResult link result command.nonempty named waiting removal) onPort
  · rw [answer]
    apply iff_of_false _ elsewhere
    rcases ending with gateway | broken
    · exact not_answered_gateway link gateway
    · exact not_answered_notFinite link broken

end Answers

/-- A command as Pc_data writes it, with the members its handler reads. -/
def commandRoot (cmd : String) (rest : List (String × Json)) : Json :=
  .obj ([("type", .str "command"), ("cmd", .str cmd), ("cmd_id", .str "c1"), ("seq", .int 7),
    ("cmdType", .str cmd)] ++ rest)

def sampleCommand (cmd : String) (rest : List (String × Json))
    (allowed : isRemoteCommandAllowed cmd = true) : RemoteCommand JsonC.jsonText where
  root := commandRoot cmd rest
  cmd := cmd
  cmdId := "c1"
  allowed := allowed
  isCommand := rfl
  named := rfl
  identified := rfl
  nonempty := by decide
  short := by decide

def sampleTarget (cmd : String) : PendingCommandTarget :=
  ⟨"c1", 7, 7, cmd, defaultGatewayId, "port_001", 1, 0⟩

def allSucceed : CommandOutcomes := ⟨.ok (), true, .ok, .ok⟩

def relayMembers : List (String × Json) :=
  [("slot", .int 0), ("slave_id", .int 1), ("states", .arr [.bool true])]

theorem relayCommand_answered :
    Answered Exchange.jsonText [sampleTarget "set_relay"] (sampleTarget "set_relay")
      (processRoot (fun _ => none) JsonC.jsonText allSucceed
        (commandRoot "set_relay" relayMembers) 0) :=
  (answered_iff Exchange.jsonText (fun _ => none) allSucceed 0
    (sampleCommand "set_relay" relayMembers (by decide)) (by decide)
    (fun impossible => absurd impossible (by decide))).mpr (.inl rfl)

/-- The board reports success to `get_config`, and the command goes on waiting. -/
theorem getConfig_not_answered :
    (processRoot (fun _ => none) JsonC.jsonText allSucceed (commandRoot "get_config" []) 0).map
        (fun ack => (ack.topic, ack.json.lookup "ok")) =
      some ("gateway/gateway_001/up", some (.bool true)) ∧
    findPendingCommand [sampleTarget "get_config"] "c1" = some (sampleTarget "get_config") ∧
    ¬ Answered Exchange.jsonText [sampleTarget "get_config"] (sampleTarget "get_config")
      (processRoot (fun _ => none) JsonC.jsonText allSucceed (commandRoot "get_config" []) 0) := by
  have process : processRoot (fun _ => none) JsonC.jsonText allSucceed
      (commandRoot "get_config" []) 0 =
      some (ackSend ⟨"c1", 0⟩ 7 "get_config" true "" "config snapshot published") :=
    processRoot_remoteCommand Exchange.jsonText (fun _ => none) allSucceed 0
      (sampleCommand "get_config" [] (by decide))
  rw [process]
  refine ⟨?_, by decide, not_answered_gateway Exchange.jsonText rfl⟩
  exact congrArg (fun ok => some ("gateway/gateway_001/up", ok)) ackSend_ok

end Link
end Imx6Gateway
