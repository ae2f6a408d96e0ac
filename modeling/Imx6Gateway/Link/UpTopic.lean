import Imx6Gateway.Board.MqttTopic
import Imx6Gateway.Pc.Topics

namespace Imx6Gateway
namespace Link

open Library Board

/-!
# Topics of the ports

A port reports on `gateway/<gateway>/<port>/up`.  Both programs have a parser
for such topics.  The board's one goes through the topic from the front and
compares what is left behind the port with the fixed end.  The one of Pc_data
takes the fixed beginning and the fixed end away first and then divides the
rest.  Each is characterized by the topics it takes, and not compared with the
other step by step.
-/

/-- The topic a port reports on. -/
def upTopic (gatewayId portId : String) : String :=
  "gateway/" ++ gatewayId ++ "/" ++ portId ++ "/up"

/-- An identifier that fills one level of a topic. -/
def FillsLevel (identifier : String) : Prop :=
  identifier ≠ "" ∧ '/' ∉ identifier.toList

instance fillsLevelDecidable (identifier : String) : Decidable (FillsLevel identifier) :=
  inferInstanceAs (Decidable (_ ∧ _))

/-- The topic is the one of this port at this gateway. -/
def ReportsFor (topic gatewayId portId : String) : Prop :=
  FillsLevel gatewayId ∧ FillsLevel portId ∧ topic = upTopic gatewayId portId

theorem toList_upTopic (gatewayId portId : String) :
    (upTopic gatewayId portId).toList =
      "gateway/".toList ++ (gatewayId.toList ++ '/' :: (portId.toList ++ '/' :: "up".toList)) := by
  simp only [upTopic, String.toList_append, List.append_assoc]
  rfl

/-- Topics are compared character by character. -/
theorem eq_upTopic_of_toList {topic : String} {gateway port : List Char}
    (levels : topic.toList = "gateway/".toList ++ (gateway ++ '/' :: (port ++ '/' :: "up".toList))) :
    topic = upTopic (String.ofList gateway) (String.ofList port) := by
  apply String.toList_inj.mp
  simp only [levels, toList_upTopic, String.toList_ofList]

theorem fillsLevel_ofList {level : List Char} (nonempty : level ≠ []) (absent : '/' ∉ level) :
    FillsLevel (String.ofList level) := by
  refine ⟨fun empty => nonempty ?_, ?_⟩
  · rw [← String.toList_ofList (l := level), empty, String.toList_empty]
  · rw [String.toList_ofList]
    exact absent

/-- The two identifiers can be read off the topic. -/
theorem reportsFor_unique {topic gatewayId portId otherGateway otherPort : String}
    (reports : ReportsFor topic gatewayId portId) (other : ReportsFor topic otherGateway otherPort) :
    gatewayId = otherGateway ∧ portId = otherPort := by
  have same := congrArg String.toList (reports.2.2.symm.trans other.2.2)
  rw [toList_upTopic, toList_upTopic, List.append_cancel_left_eq,
    append_first_separator_inj reports.1.2 other.1.2,
    append_first_separator_inj reports.2.1.2 other.2.1.2] at same
  exact ⟨String.toList_inj.mp same.1, String.toList_inj.mp same.2.1⟩

/-! ## The two parsers -/

theorem parsePortUpTopic_eq_some_iff (topic gatewayId portId : String) :
    Pc.parsePortUpTopic topic = some (gatewayId, portId) ↔ ReportsFor topic gatewayId portId := by
  constructor
  · intro parsed
    unfold Pc.parsePortUpTopic at parsed
    cases found : between "gateway/".toList "/up".toList topic.toList with
    | none => simp only [found, reduceCtorEq] at parsed
    | some body =>
        simp only [found] at parsed
        cases cut : cutAt '/' body with
        | none => simp only [cut, reduceCtorEq] at parsed
        | some parts =>
            rcases parts with ⟨gateway, port⟩
            simp only [cut] at parsed
            by_cases refused : gateway = [] ∨ port = [] ∨ '/' ∈ port
            · rw [if_pos refused] at parsed
              cases parsed
            · rw [if_neg refused] at parsed
              cases parsed
              rw [not_or, not_or] at refused
              have divided := cutAt_eq_some cut
              have whole := (between_eq_some_iff.mp found).2
              refine ⟨fillsLevel_ofList refused.1 divided.2,
                fillsLevel_ofList refused.2.1 refused.2.2, eq_upTopic_of_toList ?_⟩
              rw [whole, divided.1, List.append_assoc, List.append_assoc, List.cons_append]
              rfl
  · rintro ⟨gateway, port, same⟩
    rw [same]
    exact Pc.parsePortUpTopic_port gateway.1 gateway.2 port.1 port.2

/-- The board's parser with the sizes of the two buffers it copies into. -/
theorem mqttParsePortUpTopic_eq_some_iff (gatewaySize portSize : Nat)
    (topic gatewayId portId : String) :
    mqttParsePortUpTopic gatewaySize portSize topic = some (gatewayId, portId) ↔
      ReportsFor topic gatewayId portId ∧
        textBytes gatewayId < gatewaySize ∧ textBytes portId < portSize := by
  constructor
  · intro parsed
    unfold mqttParsePortUpTopic at parsed
    cases found : afterFront "gateway/".toList topic.toList with
    | none => simp only [found, reduceCtorEq] at parsed
    | some rest =>
        simp only [found] at parsed
        cases cut : cutAt '/' rest with
        | none => simp only [cut, reduceCtorEq] at parsed
        | some parts =>
            rcases parts with ⟨gateway, afterGateway⟩
            simp only [cut] at parsed
            by_cases noGateway : gateway = []
            · rw [if_pos noGateway] at parsed
              cases parsed
            · rw [if_neg noGateway] at parsed
              cases again : cutAt '/' afterGateway with
              | none => simp only [again, reduceCtorEq] at parsed
              | some ends =>
                  rcases ends with ⟨port, afterPort⟩
                  simp only [again] at parsed
                  by_cases refused : port = [] ∨ afterPort ≠ "up".toList
                  · rw [if_pos refused] at parsed
                    cases parsed
                  · rw [if_neg refused] at parsed
                    rw [not_or, not_not] at refused
                    have divided := cutAt_eq_some cut
                    have dividedAgain := cutAt_eq_some again
                    rcases Option.bind_eq_some_iff.mp parsed with ⟨first, gatewayCopied, parsed⟩
                    rcases Option.bind_eq_some_iff.mp parsed with ⟨second, portCopied, parsed⟩
                    cases parsed
                    rcases copyToken_eq_some gatewayCopied with ⟨rfl, gatewayFits⟩
                    rcases copyToken_eq_some portCopied with ⟨rfl, portFits⟩
                    refine ⟨⟨fillsLevel_ofList noGateway divided.2,
                      fillsLevel_ofList refused.1 dividedAgain.2, eq_upTopic_of_toList ?_⟩,
                      gatewayFits, portFits⟩
                    rw [afterFront_eq_some_iff.mp found, divided.1, dividedAgain.1, refused.2]
  · rintro ⟨⟨gateway, port, same⟩, gatewayFits, portFits⟩
    have noGateway := fun empty => gateway.1 (String.toList_eq_nil_iff.mp empty)
    have noPort := fun empty => port.1 (String.toList_eq_nil_iff.mp empty)
    have taken : ¬ (portId.toList = [] ∨ "up".toList ≠ "up".toList) := by
      rw [not_or, not_not]
      exact ⟨noPort, rfl⟩
    unfold mqttParsePortUpTopic
    rw [same, toList_upTopic]
    simp only [afterFront_append, cutAt_append _ gateway.2, cutAt_append _ port.2, if_neg noGateway,
      if_neg taken, copyToken_toList, if_pos gatewayFits, if_pos portFits]
    rfl

/-- The topic the board's builder writes for a port. -/
theorem mqttMakePortUpTopic_eq_some {bufferSize : Nat} {portId topic : String}
    (built : mqttMakePortUpTopic bufferSize portId = some topic) :
    portId ≠ "" ∧ topic = upTopic defaultGatewayId portId := by
  unfold mqttMakePortUpTopic at built
  by_cases empty : portId = ""
  · rw [if_pos empty] at built
    cases built
  · rw [if_neg empty, printTopic] at built
    split at built
    · cases built
      exact ⟨empty, rfl⟩
    · cases built

/-- When the board's buffers hold the two identifiers, the parsers take the same
topics for the same ports, and among them is every topic built for a port. -/
theorem up_topic_parsers_agree (gatewaySize portSize : Nat) (topic : String)
    (fits : forall gatewayId portId, ReportsFor topic gatewayId portId ->
      textBytes gatewayId < gatewaySize ∧ textBytes portId < portSize) :
    mqttParsePortUpTopic gatewaySize portSize topic = Pc.parsePortUpTopic topic ∧
      (forall gatewayId portId, FillsLevel gatewayId -> FillsLevel portId ->
        topic = upTopic gatewayId portId ->
          mqttParsePortUpTopic gatewaySize portSize topic = some (gatewayId, portId) ∧
          Pc.parsePortUpTopic topic = some (gatewayId, portId)) ∧
      forall bufferSize portId, mqttMakePortUpTopic bufferSize portId = some topic ->
        topic = upTopic defaultGatewayId portId ∧
          ('/' ∉ portId.toList ->
            mqttParsePortUpTopic gatewaySize portSize topic = some (defaultGatewayId, portId) ∧
            Pc.parsePortUpTopic topic = some (defaultGatewayId, portId)) := by
  have taken : forall gatewayId portId, ReportsFor topic gatewayId portId ->
      mqttParsePortUpTopic gatewaySize portSize topic = some (gatewayId, portId) ∧
      Pc.parsePortUpTopic topic = some (gatewayId, portId) := by
    intro gatewayId portId reports
    have copied := fits gatewayId portId reports
    exact ⟨(mqttParsePortUpTopic_eq_some_iff _ _ _ _ _).mpr ⟨reports, copied⟩,
      (parsePortUpTopic_eq_some_iff _ _ _).mpr reports⟩
  refine ⟨?_, ?_, ?_⟩
  · apply Option.ext
    rintro ⟨gatewayId, portId⟩
    rw [mqttParsePortUpTopic_eq_some_iff, parsePortUpTopic_eq_some_iff]
    exact and_iff_left_of_imp (fits gatewayId portId)
  · intro gatewayId portId gateway port same
    exact taken gatewayId portId ⟨gateway, port, same⟩
  · intro bufferSize portId built
    have written := mqttMakePortUpTopic_eq_some built
    refine ⟨written.2, fun level => ?_⟩
    have gateway := defaultGatewayId_level
    exact taken defaultGatewayId portId
      ⟨⟨gateway.1, gateway.2.1⟩, ⟨written.1, level⟩, written.2⟩

/-- A port whose identifier is the end of every topic. -/
theorem up_topic_parsers_agree_up :
    mqttParsePortUpTopic tokenSize tokenSize "gateway/g/up/up" = some ("g", "up") ∧
      Pc.parsePortUpTopic "gateway/g/up/up" = some ("g", "up") := by
  have built : ReportsFor "gateway/g/up/up" "g" "up" :=
    ⟨by decide, by decide, by decide⟩
  have agreement := up_topic_parsers_agree tokenSize tokenSize "gateway/g/up/up"
    (fun gatewayId portId reports => by
      rcases reportsFor_unique reports built with ⟨rfl, rfl⟩
      exact ⟨by decide, by decide⟩)
  exact agreement.2.1 "g" "up" built.1 built.2.1 built.2.2

end Link
end Imx6Gateway
