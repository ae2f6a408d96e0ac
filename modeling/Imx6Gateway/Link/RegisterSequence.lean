import Imx6Gateway.Board.ConfigSync
import Imx6Gateway.Link.RegisterAnswers
import Imx6Gateway.Pc.GatewayMirror

namespace Imx6Gateway
namespace Link

open Library Board Pc

/-!
# The numbers of registrations in their answers

The board numbers its registrations with 32 bits and looks for the number in
the answer.  Pc_data reads it in each branch of its handler in another way:
most branches with 64 bits, the one for a device with the accessor for an
`int`.
-/

/-- The message has the number under `seq`, and no other under `sequence`. -/
def CarriesSeq (root : Json) (seq : UInt32) : Prop :=
  root.lookup "seq" = some (.int seq.toNat) ∧
    (root.lookup "sequence" = none ∨ root.lookup "sequence" = some (.int seq.toNat))

/-- The board reads the text as an answer to its message of this type and number. -/
def Answers (library : JsonC) (cmd : String) (seq : UInt32) (payload : String) : Prop :=
  exists ack, ConfigSync.parseAck library payload = some ack ∧ ack.cmd = cmd ∧ ack.seq = seq

/-! ## What the board reads of an answer -/

theorem clampInt64_of_isInt64 {value : Int} (isInt : IsInt64 value) :
    JsonC.clampInt64 value = value := by
  unfold IsInt64 at isInt
  unfold JsonC.clampInt64 JsonC.int64Min JsonC.int64Max
  omega

theorem ofInt_eq_iff {value : Int} (low : 0 ≤ value) (high : value < 2 ^ 32) (seq : UInt32) :
    UInt32.ofInt value = seq ↔ value = seq.toNat := by
  have small : value.toNat < 2 ^ 32 := by omega
  rw [← UInt32.toNat_inj, UInt32.ofInt, Int.emod_eq_of_lt low high,
    UInt32.toNat_ofNat_of_lt' small]
  omega

/-- The board reads the type and the number of an answer. -/
theorem answers_buildRegisterAck_iff (link : Exchange) {ack : RegisterAck} (fits : AckFits ack)
    (clock : Int64) (registers : ConfigSync.isRegisterCmd ack.cmd = true) (seq : UInt32) :
    Answers link.board ack.cmd seq (link.pc.print (buildRegisterAckJson ack clock.toInt)) ↔
      UInt32.ofInt ack.seq = seq := by
  have read := link.board_reads _ (wire_buildRegisterAckJson fits clock)
  have type : (buildRegisterAckJson ack clock.toInt).lookup "type" = some (.str "ack") := rfl
  have cmd : (buildRegisterAckJson ack clock.toInt).lookup "cmd" = some (.str ack.cmd) := rfl
  have number : (buildRegisterAckJson ack clock.toInt).lookup "seq" = some (.int ack.seq) := rfl
  unfold Answers ConfigSync.parseAck
  simp only [read, ConfigSync.stringMember, type, cmd, number, JsonC.getString, Option.elim, JsonC.getInt64,
    clampInt64_of_isInt64 fits.seq, registers, bind, Option.bind, guard, if_true, pure]
  constructor
  · rintro ⟨found, same, -, number⟩
    cases same
    exact number
  · intro number
    exact ⟨_, rfl, rfl, number⟩

/-! ## What is published -/

/-- Everything published is an answer of this type with this number. -/
def AnsweredWith (pc : JsonCodec) (nowMs : Int) (cmd : String) (seq : Int)
    (publications : List Publication) : Prop :=
  forall publication, publication ∈ publications ->
    exists ack, publication.payload = pc.print (buildRegisterAckJson ack nowMs) ∧
      ack.cmd = cmd ∧ ack.seq = seq ∧ AckFits ack

theorem answeredWith_nil (pc : JsonCodec) (nowMs : Int) (cmd : String) (seq : Int) :
    AnsweredWith pc nowMs cmd seq [] := by
  intro publication inside
  cases inside

theorem isInt64_seq (seq : UInt32) : IsInt64 seq.toNat := by
  have small := seq.toNat_lt
  unfold IsInt64
  omega

theorem getJsonInt64_seq {root : Json} {seq : UInt32} (carried : CarriesSeq root seq) :
    getJsonInt64 root "seq" 0 = seq.toNat := by
  have fits := isInt64_seq seq
  rw [getJsonInt64, carried.1]
  exact toInt64_of_range fits.1 fits.2

theorem messageSeq_eq {root : Json} {seq : UInt32} (carried : CarriesSeq root seq) :
    messageSeq root = seq.toNat := by
  have present : firstMember root ["seq", "sequence"] = some "seq" := by
    rw [firstMember, List.find?_cons_of_pos (by rw [carried.1]; rfl)]
  rw [messageSeq, getJsonInt64Any, present]
  exact getJsonInt64_seq carried

section Numbers

variable {pc : JsonCodec} {state : PcData} {topic payload : String} {root : Json} {seq : UInt32}

/-- The number that `parseDeviceRegister` reads. -/
theorem deviceSequence_eq (carried : CarriesSeq root seq) :
    getJsonInt root "sequence" (getJsonInt root "seq" 0) = toInt seq.toNat := by
  rcases carried.2 with absent | same
  · rw [getJsonInt, absent]
    exact getJsonInt_of_lookup 0 carried.1
  · exact getJsonInt_of_lookup _ same

/-- The number in the answer to a device. -/
def deviceAnswerSeq (root : Json) (seq : UInt32) : Int :=
  if getJsonString root "type" = "device_register" then toInt seq.toNat % 2 ^ 32 else seq.toNat

/-- The number in the answer to a message of this type. -/
def answerSeq (type : String) (root : Json) (seq : UInt32) : Int :=
  if type = "device_register" then deviceAnswerSeq root seq else seq.toNat

/-- The number that a branch reads is the one in its answer. -/
theorem header_seq {type : String} (parsed : parseObject pc payload = some root)
    (carried : CarriesSeq root seq) :
    (answerHeader pc state type payload).seq = answerSeq type root seq := by
  have number := messageSeq_eq carried
  rw [answerHeader, parsed, Option.map_some, Option.getD_some, headerOfRoot, answerSeq]
  split
  · rename_i gateway
    rw [if_neg (by rw [gateway]; decide)]
    exact number
  · split
    · rename_i snapshot
      have notDevice : type ≠ "device_register" := by
        rintro rfl
        exact absurd snapshot (by decide)
      rw [if_neg notDevice]
      exact getJsonInt64_seq carried
    · split
      · rename_i device
        rw [if_pos device.1, deviceAnswerSeq, if_pos device.2]
        dsimp only
        rw [deviceSequence_eq carried]
      · rename_i other
        split
        · rename_i device
          rw [deviceAnswerSeq, if_neg fun own => other ⟨device, own⟩]
          exact number
        · exact number

theorem handle_answered (nowMs : Int) (stod : String -> Option Rat)
    (type : extractJsonStringValue payload "type" ∈ registerTypes)
    (parsed : parseObject pc payload = some root) (carried : CarriesSeq root seq)
    (lists : ListsFit nowMs root) :
    AnsweredWith pc nowMs (extractJsonStringValue payload "type")
      (answerSeq (extractJsonStringValue payload "type") root seq)
      (state.handle pc nowMs stod topic payload).2 := by
  by_cases required : RegisterTopic (extractJsonStringValue payload "type") topic
  · have fit (other : Json) (read : parseObject pc payload = some other) : ListsFit nowMs other := by
      cases parsed.symm.trans read
      exact lists
    have number := @header_seq pc state payload root seq (extractJsonStringValue payload "type")
      parsed carried
    rcases @handle_answers pc nowMs state topic payload stod type required fit with
      ⟨ack, published, fits, cmd, header, -⟩
    rw [header] at number
    rw [published]
    intro publication inside
    exact ⟨ack, payload_of_published (Option.mem_toList.mp inside), cmd, number, fits⟩
  · rw [silent_off_topic stod type required]
    exact answeredWith_nil _ _ _ _

end Numbers

/-! ## The number that comes back -/

theorem answerSeq_range (type : String) (root : Json) (seq : UInt32) :
    0 ≤ answerSeq type root seq ∧ answerSeq type root seq < 2 ^ 32 := by
  have small := seq.toNat_lt
  unfold answerSeq deviceAnswerSeq
  split_ifs <;> omega

/-- The number is kept, unless the accessor for an `int` cannot hold it. -/
theorem answerSeq_eq_iff (type : String) (root : Json) (seq : UInt32) :
    answerSeq type root seq = seq.toNat ↔
      (type = "device_register" -> getJsonString root "type" = "device_register" ->
        seq.toNat ≤ 2 ^ 31) := by
  have small := seq.toNat_lt
  unfold answerSeq deviceAnswerSeq toInt
  split_ifs with device read fits
  · have narrow : seq.toNat ≤ 2 ^ 31 := by omega
    have kept : (seq.toNat : Int) % 2 ^ 32 = seq.toNat := by omega
    exact ⟨fun _ _ _ => narrow, fun _ => kept⟩
  · have wide : 2 ^ 31 ≤ seq.toNat := by omega
    constructor
    · intro kept _ _
      omega
    · intro narrow
      have bound := narrow device read
      omega
  · exact ⟨fun _ _ same => absurd same read, fun _ => rfl⟩
  · exact ⟨fun _ same => absurd same device, fun _ => rfl⟩

theorem isRegisterCmd_of_mem {type : String} (listed : type ∈ registerTypes) :
    ConfigSync.isRegisterCmd type = true := by
  simp only [registerTypes, List.mem_cons, List.not_mem_nil, or_false] at listed
  rcases listed with rfl | rfl | rfl | rfl | rfl | rfl <;> decide

/-- A registration that waits under the number is matched by its answer. -/
theorem activeMatch_of_answers {library : JsonC} {type payload : String} {seq : UInt32}
    {sync : ConfigSync} (answers : Answers library type seq payload) (nonzero : seq ≠ 0)
    (number : sync.pendingSeq = seq) (cmd : sync.pendingCmd = type) :
    exists ack, ConfigSync.parseAck library payload = some ack ∧
      ConfigSync.activeMatch ack sync = true := by
  rcases answers with ⟨ack, read, ofType, ofNumber⟩
  refine ⟨ack, read, ?_⟩
  simp [ConfigSync.activeMatch, ofType, ofNumber, nonzero, number, cmd]

theorem answers_iff_answerSeq (link : Exchange) (stod : String -> Option Rat) (state : PcData)
    (clock : Int64) (topic payload : String) (root : Json) (seq : UInt32)
    (parsed : parseObject link.pc payload = some root) (carried : CarriesSeq root seq)
    (type : extractJsonStringValue payload "type" ∈ registerTypes)
    (lists : ListsFit clock.toInt root) (publication : Publication)
    (published : publication ∈ (state.handle link.pc clock.toInt stod topic payload).2) :
    Answers link.board (extractJsonStringValue payload "type") seq publication.payload ↔
      answerSeq (extractJsonStringValue payload "type") root seq = seq.toNat := by
  rcases handle_answered clock.toInt stod type parsed carried lists publication published with
    ⟨ack, printed, cmd, number, fits⟩
  have registers : ConfigSync.isRegisterCmd ack.cmd = true := by
    rw [cmd]
    exact isRegisterCmd_of_mem type
  have range := answerSeq_range (extractJsonStringValue payload "type") root seq
  rw [printed, ← cmd, answers_buildRegisterAck_iff link fits clock registers, number, cmd]
  exact ofInt_eq_iff range.1 range.2 seq

/-- The answer to a registration carries its number, and is matched with it,
except for the large numbers of device registrations. -/
theorem register_answered_iff (link : Exchange) (stod : String -> Option Rat) (state : PcData)
    (clock : Int64) (topic payload : String) (root : Json) (seq : UInt32)
    (parsed : parseObject link.pc payload = some root) (carried : CarriesSeq root seq)
    (type : extractJsonStringValue payload "type" ∈ registerTypes)
    (lists : ListsFit clock.toInt root) (publication : Publication)
    (published : publication ∈ (state.handle link.pc clock.toInt stod topic payload).2) :
    (Answers link.board (extractJsonStringValue payload "type") seq publication.payload ↔
      (extractJsonStringValue payload "type" = "device_register" ->
        getJsonString root "type" = "device_register" -> seq.toNat ≤ 2 ^ 31)) ∧
    (Answers link.board (extractJsonStringValue payload "type") seq publication.payload ->
      forall sync : ConfigSync, seq ≠ 0 -> sync.pendingSeq = seq ->
        sync.pendingCmd = extractJsonStringValue payload "type" ->
        exists ack, ConfigSync.parseAck link.board publication.payload = some ack ∧
          ConfigSync.activeMatch ack sync = true) := by
  constructor
  · rw [answers_iff_answerSeq link stod state clock topic payload root seq parsed carried type
      lists publication published]
    exact answerSeq_eq_iff _ root seq
  · intro answers sync nonzero pending cmd
    exact activeMatch_of_answers answers nonzero pending cmd

/-! ## A device without a port -/

def portlessRegister (seq : UInt32) : Json :=
  .obj [("type", .str "device_register"), ("seq", .int seq.toNat), ("sequence", .int seq.toNat),
    ("gatewayId", .str "g1")]

def portlessText (seq : UInt32) : String :=
  Exchange.jsonText.board.print (portlessRegister seq)

theorem parseObject_portless (seq : UInt32) :
    parseObject Exchange.jsonText.pc (portlessText seq) = some (portlessRegister seq) := by
  have wire : (portlessRegister seq).Wire Json.maxDepth := by
    unfold portlessRegister Json.maxDepth
    rw [Json.wire_obj_succ]
    constructor
    · change ["type", "seq", "sequence", "gatewayId"].Nodup
      decide
    · intro member inside
      simp only [List.mem_cons, List.not_mem_nil, or_false] at inside
      rcases inside with rfl | rfl | rfl | rfl
      · exact Json.wire_str 30 _
      · exact wire_isInt64 30 (isInt64_seq seq)
      · exact wire_isInt64 30 (isInt64_seq seq)
      · exact Json.wire_str 30 _
  have read := Exchange.jsonText.pc_reads _ wire
  unfold portlessText
  unfold portlessRegister at read ⊢
  exact parseObject_of_parse read

theorem carries_portless (seq : UInt32) : CarriesSeq (portlessRegister seq) seq :=
  ⟨rfl, Or.inr rfl⟩

theorem listsFit_portless (nowMs : Int) (seq : UInt32) : ListsFit nowMs (portlessRegister seq) := by
  intro gatewayId selected snapshot read
  cases read

/-- The registration is refused, and answered. -/
def portlessAnswers (seq : UInt32) : List Publication :=
  ((seeded blankDatabase 0).handle Exchange.jsonText.pc (1000 : Int64).toInt
    (fun _ => none) "gateway/register" (portlessText seq)).2

/-- A number of the upper half comes back as `2^31`. -/
theorem large_number_lost :
    parseObject Exchange.jsonText.pc (portlessText 3000000000) =
        some (portlessRegister 3000000000) ∧
      CarriesSeq (portlessRegister 3000000000) 3000000000 ∧
      exists publication, publication ∈ portlessAnswers 3000000000 ∧
        ¬ Answers Exchange.jsonText.board "device_register" 3000000000 publication.payload := by
  have parsed := parseObject_portless 3000000000
  have type : extractJsonStringValue (portlessText 3000000000) "type" = "device_register" := by
    decide +kernel
  have answered : portlessAnswers 3000000000 ≠ [] := by decide +kernel
  refine ⟨parsed, carries_portless _, (portlessAnswers 3000000000).head answered,
    List.head_mem answered, ?_⟩
  have exact_iff := answers_iff_answerSeq Exchange.jsonText (fun _ => none)
    (seeded blankDatabase 0) 1000 "gateway/register" (portlessText 3000000000) _ _ parsed
    (carries_portless _) (by rw [type]; decide) (listsFit_portless _ _) _ (List.head_mem answered)
  rw [type] at exact_iff
  rw [exact_iff]
  decide

theorem small_number_answered :
    exists publication, publication ∈ portlessAnswers 7 ∧
      Answers Exchange.jsonText.board (extractJsonStringValue (portlessText 7) "type") 7
        publication.payload := by
  have answered : portlessAnswers 7 ≠ [] := by decide +kernel
  refine ⟨(portlessAnswers 7).head answered, List.head_mem answered, ?_⟩
  exact (register_answered_iff Exchange.jsonText (fun _ => none) (seeded blankDatabase 0) 1000
    "gateway/register" (portlessText 7) (portlessRegister 7) 7 (parseObject_portless 7)
    (carries_portless 7) (by decide +kernel) (listsFit_portless _ 7) _
    (List.head_mem answered)).1.mpr fun _ _ => by decide

end Link
end Imx6Gateway
