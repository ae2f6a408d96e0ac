import Imx6Gateway.Link.AssembledText

namespace Imx6Gateway
namespace Link

open Library JsonDocument Pc

/-!
# Reading the assembled messages

A reader of JSON takes the text of a message apart again.  It decodes the
strings that `jsonEscape` has treated completely and refuses the message when
one of them has another control character, or when a number is not finite.  A
message that is not refused is read as the tree that the rest of this
development computes with.
-/

namespace Assembled

/-! ## Fragments -/

theorem Fragment.isSome_read_iff (fragment : Fragment) :
    fragment.read.isSome = true ↔ fragment.Valid := by
  cases fragment with
  | text value => exact isSome_json_iff (.text value)
  | integer value => exact iff_of_true rfl trivial
  | boolean value => exact iff_of_true rfl trivial
  | double value =>
      cases value with
      | finite value => exact iff_of_true (StreamNumber.isSome_numeral_json value) trivial
      | other special => exact iff_of_false Bool.false_ne_true id
  | printed value => exact iff_of_true rfl trivial

theorem shows_fragment {jsonValueToString : Json -> List Char} (fragment : Fragment)
    (prints : forall value, fragment = .printed value -> Prints jsonValueToString value) :
    forall depth, (fragment.shown jsonValueToString).length ≤ depth ->
      Shows depth (fragment.shown jsonValueToString) fragment.read := by
  intro depth enough
  cases fragment with
  | text value => exact shows_streamed .nan depth (.text value)
  | integer value => exact shows_int depth value
  | boolean value => exact shows_bool depth value
  | double value =>
      cases value with
      | finite value => exact shows_numeral depth (StreamNumber.numeral value.1)
      | other special => exact shows_special special depth
  | printed value => exact prints value rfl depth enough

/-! ## Reading the texts -/

section Reading

variable {jsonValueToString : Json -> List Char} {message : PcMessage}

theorem parse_literal (value : String) :
    parse (String.ofList (literal value)) =
      if Clean value.toList then some (.str value) else none := by
  apply parse_shows
  rw [String.toList_ofList]
  exact shows_streamed .nan _ (.text value)

/-- The literal decodes to the string exactly if the string is clean. -/
theorem parse_literal_iff (value : String) :
    parse (String.ofList (literal value)) = some (.str value) ↔ Clean value.toList := by
  rw [parse_literal]
  by_cases clean : Clean value.toList
  · rw [if_pos clean]
    exact iff_of_true rfl clean
  · rw [if_neg clean]
    exact iff_of_false (by rintro ⟨⟩) clean

theorem parse_message (printable : message.Printable jsonValueToString) :
    parse (message.text jsonValueToString) = message.assembly.value Fragment.read := by
  apply Assembly.parse_text
  intro fragment among
  apply shows_fragment fragment
  rintro value rfl
  exact printable value among

theorem isSome_parse_message_iff (printable : message.Printable jsonValueToString) :
    (parse (message.text jsonValueToString)).isSome = true ↔ message.Valid := by
  rw [parse_message printable, Assembly.isSome_value_iff]
  apply forall_congr'
  intro fragment
  rw [Fragment.isSome_read_iff]

end Reading

/-! ## The arguments of an acknowledgement -/

/-- The members of an object are all valid. -/
def ValidMembers (members : List (PlainKey × Assembly Fragment)) : Prop :=
  forall member, member ∈ members -> forall fragment, fragment ∈ member.2.pieces -> fragment.Valid

@[simp]
theorem validMembers_nil : ValidMembers [] :=
  List.forall_mem_nil _

@[simp]
theorem validMembers_append (members others : List (PlainKey × Assembly Fragment)) :
    ValidMembers (members ++ others) ↔ ValidMembers members ∧ ValidMembers others :=
  List.forall_mem_append

@[simp]
theorem validMembers_string (name value : String) (plain : Plain name)
    (members : List (PlainKey × Assembly Fragment)) :
    ValidMembers (key name (string value) plain :: members) ↔
      Clean value.toList ∧ ValidMembers members :=
  List.forall_mem_cons.trans (and_congr_left' Assembly.forall_pieces_leaf)

@[simp]
theorem validMembers_int (name : String) (value : Int) (plain : Plain name)
    (members : List (PlainKey × Assembly Fragment)) :
    ValidMembers (key name (int value) plain :: members) ↔ ValidMembers members :=
  List.forall_mem_cons.trans
    ((and_congr_left' Assembly.forall_pieces_leaf).trans (Iff.of_eq (true_and _)))

@[simp]
theorem validMembers_bool (name : String) (value : Bool) (plain : Plain name)
    (members : List (PlainKey × Assembly Fragment)) :
    ValidMembers (key name (bool value) plain :: members) ↔ ValidMembers members :=
  List.forall_mem_cons.trans
    ((and_congr_left' Assembly.forall_pieces_leaf).trans (Iff.of_eq (true_and _)))

theorem clean_empty : Clean "".toList := by decide

/-- A string that is left out when it is empty. -/
@[simp]
theorem validMembers_optional (name value : String) (plain : Plain name) :
    ValidMembers (if value ≠ "" then [key name (string value) plain] else []) ↔
      Clean value.toList := by
  by_cases empty : value = ""
  · rw [if_neg (not_not_intro empty), empty]
    exact iff_of_true validMembers_nil clean_empty
  · rw [if_pos empty, validMembers_string]
    exact and_iff_left validMembers_nil

/-- Fixed texts and numbers do not matter. -/
theorem valid_commandAck_iff {cmdId : String} {ok : Bool} {reason : String} {seq : Int}
    {commandType stage message : String} {boardSeq : Int} {gatewayId portId : String}
    {deviceId nowMs : Int} :
    (PcMessage.commandAck cmdId ok reason seq commandType stage message boardSeq gatewayId portId
      deviceId nowMs).Valid ↔
      Clean cmdId.toList ∧ Clean reason.toList ∧ Clean commandType.toList ∧ Clean stage.toList ∧
        Clean message.toList ∧ Clean gatewayId.toList ∧ Clean portId.toList := by
  have device : ValidMembers (if 0 < deviceId then [key "deviceId" (int deviceId),
      key "device_id" (int deviceId), key "slave_id" (int deviceId)] else []) := by
    split <;> simp only [validMembers_int, validMembers_nil]
  have accepted : Clean (if stage = "" then "accepted" else stage).toList ↔ Clean stage.toList := by
    by_cases empty : stage = ""
    · rw [if_pos empty, empty]
      exact iff_of_true (by decide) clean_empty
    · rw [if_neg empty]
  have status : Clean stage.toList -> Clean (if decide (stage = "done") then
      (if (decide (stage = "done") && ok) then "success" else "failed")
      else if stage = "" then "accepted" else stage).toList := by
    intro clean
    split
    · split <;> decide
    · exact accepted.mpr clean
  have fixed : Clean "command_ack".toList := by decide
  refine Assembly.forall_pieces_object.trans ?_
  change ValidMembers _ ↔ _
  simp only [List.flatten_cons, List.flatten_nil, List.append_nil, validMembers_append,
    validMembers_string, validMembers_int, validMembers_bool, validMembers_nil,
    validMembers_optional, device, fixed, accepted]
  constructor
  · rintro ⟨⟨-, cmdId, command, -, -, -, stage, -, reason, message, -⟩, gatewayId, portId, -⟩
    exact ⟨cmdId, reason, command, stage, message, gatewayId, portId⟩
  · rintro ⟨cmdId, reason, command, stage, message, gatewayId, portId⟩
    exact ⟨⟨trivial, cmdId, command, command, command, command, stage, status stage, reason,
      message, trivial⟩, gatewayId, portId, trivial, trivial⟩

/-! ## What a valid message means -/

namespace Fragment

def tree : Fragment -> Json
  | text value => .str value
  | integer value => .int value
  | boolean value => .bool value
  | double (.finite value) => streamNumber (some value.1)
  | double (.other _) => .null
  | printed value => value

theorem read_valid {fragment : Fragment} (valid : fragment.Valid) :
    fragment.read = some fragment.tree := by
  rcases Option.isSome_iff_exists.mp ((isSome_read_iff fragment).mpr valid) with ⟨json, found⟩
  cases fragment with
  | text value => exact if_pos valid
  | integer value => rfl
  | boolean value => rfl
  | double value =>
      cases value with
      | finite value =>
          have same : streamJson (some value.1) = some json := found
          rw [found, tree, streamNumber, same, Option.getD_some]
      | other special => exact valid.elim
  | printed value => rfl

end Fragment

theorem parse_valid {jsonValueToString : Json -> List Char} {message : PcMessage}
    (printable : message.Printable jsonValueToString) (valid : message.Valid) :
    parse (message.text jsonValueToString) = some (message.assembly.tree Fragment.tree) := by
  rw [parse_message printable]
  exact Assembly.value_eq_some fun fragment among => Fragment.read_valid (valid fragment among)

/-- The call of `publishRegisterAck`. -/
def registerAckMessage (ack : RegisterAck) (nowMs : Int) : PcMessage :=
  .registerAck ack.cmd ack.seq ack.ok (if ack.ok then "success" else "failed") ack.gatewayId
    ack.portId ack.configVersion (if ack.ok then "saved" else ack.reason)
    (if ack.ok then "regsit save ok" else ack.message) (!ack.ok && ack.retryable)
    ack.registeredDeviceCount ack.registeredPointCount ack.deviceId nowMs

/-! The trees are those with which the other parts of this development compute. -/

theorem tree_registerAck (ack : RegisterAck) (nowMs : Int) :
    (registerAckMessage ack nowMs).assembly.tree Fragment.tree =
      Pc.buildRegisterAckJson ack nowMs := by
  have optional : forall (written : Prop) [Decidable written] (name : String)
      (item : Assembly Fragment) (plain : Plain name),
      (if written then [key name item plain] else []).map (fun member =>
        (member.1.name, member.2.tree Fragment.tree)) =
        Json.memberIf written name (item.tree Fragment.tree) := by
    intro written _ name item plain
    unfold Json.memberIf
    by_cases holds : written
    · rw [if_pos holds, if_pos (decide_eq_true holds)]
      rfl
    · rw [if_neg holds, if_neg (by simpa using holds)]
      rfl
  unfold Pc.buildRegisterAckJson registerAckMessage
  rw [PcMessage.assembly, buildRegisterAckJson, Assembly.tree_object, List.map_flatten]
  simp only [List.map_cons, List.map_nil, optional]
  cases ack.ok <;> rfl

theorem tree_requestConfigSnapshot (gatewayId : String) (nowMs : Int) :
    (PcMessage.requestConfigSnapshot gatewayId nowMs nowMs).assembly.tree Fragment.tree =
      Pc.buildRequestConfigSnapshotJson gatewayId nowMs := rfl

theorem tree_getConfigCommand (pending : SyncGatewayPending) :
    (PcMessage.getConfigCommand pending).assembly.tree Fragment.tree =
      Pc.buildGetConfigCommandJson pending := by
  have devices := Assembly.tree_array Fragment.tree (pending.devices.map fun device => .object
    [key "portId" (string device.portId), key "deviceId" (int device.deviceId)])
  rw [List.map_map] at devices
  unfold Pc.buildGetConfigCommandJson
  exact congrArg (fun items => Json.obj [("type", .str "command"), ("cmd", .str "get_config"),
    ("seq", .int pending.seq),
    ("target", .obj [("gatewayId", .str pending.gatewayId), ("devices", items)])]) devices

theorem tree_setRelay (nowMs : Int) (cmdId gatewayId portId : String) (boardSeq slot slaveId : Int)
    (flags : List Bool) (states : List Json) :
    (PcMessage.setRelay cmdId boardSeq gatewayId portId slaveId nowMs slot flags
      (.arr states)).assembly.tree Fragment.tree =
      setRelayJson nowMs cmdId gatewayId portId boardSeq slot slaveId flags states := by
  have streamed : (Assembly.array (flags.map bool)).tree Fragment.tree =
      .arr (flags.map .bool) := by
    rw [Assembly.tree_array, List.map_map]
    rfl
  rw [setRelayJson, ← streamed]
  rfl

/-- The text of the points is the one that is read back point by point. -/
theorem text_latestPoints (jsonValueToString : Json -> List Char)
    (special : SnapshotPoint -> NotFinite) (numberValue : SnapshotPoint -> StreamDouble)
    (points : List SnapshotPoint)
    (streamed : forall stored, stored ∈ points ->
      (Fragment.double (numberValue stored)).shown jsonValueToString =
        (Streamed.number stored.point.numberValue).shown (special stored)) :
    (PcMessage.latestPoints (points.map fun stored => ⟨stored, numberValue stored⟩)).text
      jsonValueToString = latestPointsText special points := by
  have each : forall stored, stored ∈ points ->
      (latestPoint ⟨stored, numberValue stored⟩).text (Fragment.shown jsonValueToString) =
        pointText (special stored) stored := by
    intro stored inside
    have number := streamed stored inside
    unfold latestPoint pointText streamedPoint streamedValue
    rw [Assembly.text_object]
    congr 1
    by_cases text : stored.point.valueType = .text
    · simp only [if_pos text]
      rfl
    · simp only [if_neg text, List.map_append, List.map_cons, List.map_nil, ← number]
      rfl
  have listed : ((points.map fun stored => (⟨stored, numberValue stored⟩ : StreamedPoint)).map
      latestPoint).map (Assembly.text (Fragment.shown jsonValueToString)) =
      points.map fun stored => pointText (special stored) stored := by
    rw [List.map_map, List.map_map]
    exact List.map_congr_left each
  have items := Assembly.text_array (Fragment.shown jsonValueToString)
    ((points.map fun stored => (⟨stored, numberValue stored⟩ : StreamedPoint)).map latestPoint)
  rw [listed] at items
  unfold PcMessage.text latestPointsText
  rw [PcMessage.assembly, buildLatestPointsJson, Assembly.text_object, List.length_map]
  simp only [List.map_cons, List.map_nil, key, items]
  rfl

/-! ## All texts and messages -/

/-- A literal decodes to its string exactly if no control character is left in
it, and a message is JSON exactly if that holds of all its strings and its
numbers are finite. -/
theorem assembled_valid_iff (jsonValueToString : Json -> List Char) :
    (forall text : String,
      parse (String.ofList (literal text)) = some (.str text) ↔ Clean text.toList) ∧
    forall message : PcMessage, message.Printable jsonValueToString ->
      ((parse (message.text jsonValueToString)).isSome = true ↔ message.Valid) :=
  ⟨parse_literal_iff, fun _ printable => isSome_parse_message_iff printable⟩

def sampleStates : Json := .arr [.bool true, .bool false]

def sampleRelay : PcMessage :=
  .setRelay "a\nb" 5 "gateway_001" "port_001" 3 1000 0 [true, false] sampleStates

theorem prints_sampleStates : Prints (JsonText.valueText false 2) sampleStates := by
  intro depth enough
  cases depth with
  | zero => cases enough
  | succ depth =>
      exact @shows_array Bool depth boolText (fun flag => some (.bool flag)) [true, false]
        fun flag _ => shows_bool depth flag

/-- A command with a line break in its identifier. -/
theorem assembled_valid_relay :
    (parse (sampleRelay.text (JsonText.valueText false 2))).isSome = true := by
  have printable : sampleRelay.Printable (JsonText.valueText false 2) := by
    intro value among
    have same : value = sampleStates := by
      simpa [sampleRelay, PcMessage.assembly, setRelayPayload, Assembly.pieces, Assembly.fold,
        Assembly.foldMembers, Assembly.foldItems, key, string, int, bool, printed] using among
    rw [same]
    exact prints_sampleStates
  have valid : sampleRelay.Valid := by decide +kernel
  exact ((assembled_valid_iff (JsonText.valueText false 2)).2 sampleRelay printable).mpr valid

/-- The refusal of a command whose gateway is the text `"\u0001"`. -/
theorem control_character_left :
    parse (String.ofList (literal "\x01")) ≠ some (.str "\x01") ∧
      (parse ((PcMessage.commandAck "1" false "unsupported_command" 7 "reboot" "done"
        "unsupported command" 7 "\x01" "" 0 1000).text fun _ => [])).isSome = false := by
  have unclean : ¬Clean "\x01".toList := by decide
  constructor
  · exact fun decoded => unclean ((parse_literal_iff _).mp decoded)
  · rw [← Bool.not_eq_true, isSome_parse_message_iff]
    · intro valid
      have strings := valid_commandAck_iff.mp valid
      exact unclean strings.2.2.2.2.2.1
    · intro value among
      simp [PcMessage.assembly, buildCommandAckJson, Assembly.pieces, Assembly.fold,
        Assembly.foldMembers, key, string, int, bool] at among

end Assembled
end Link
end Imx6Gateway
