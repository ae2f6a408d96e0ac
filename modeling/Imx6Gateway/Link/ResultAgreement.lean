import Imx6Gateway.Ui.CommandResult

namespace Imx6Gateway
namespace Link

open Library Pc Ui

/-!
# The three reports of one result

Pc_data reports the end of a command three times: to the user interface, in
the log of the database, and to the user interface again as an entry of the
log.  The removal of a device goes on in the database after the first report,
and its failure only reaches the other two.
-/

/-- What is decided outside the handler while it works on a final answer: the
connection to the user interface at both messages, and the database. -/
structure AckOutcome where
  clientForAck : Bool
  clientForUpdate : Bool
  databaseOpen : Bool
  deleteCommitted : Bool
  logUpdated : Bool

/-- The result of `deleteDeviceData`. -/
def deleteDeviceData (outcome : AckOutcome) (target : PendingCommandTarget) : Bool :=
  outcome.databaseOpen && target.gatewayId ≠ "" && target.portId ≠ "" && 0 < target.deviceId &&
    outcome.deleteCommitted

/-- What the handler sends and writes, as far as it succeeds. -/
structure AckReports where
  commandAck : Option UiMessage
  logged : Option CommandLogRow
  logUpdate : Option UiMessage

def reportAck (outcome : AckOutcome) (ack : MatchedAck) : AckReports :=
  let (status, reason, message) := ackLog ack (deleteDeviceData outcome ack.target)
  { commandAck :=
      if outcome.clientForAck && isFinalAck ack.root then
        some (.commandAck ack.target.commandId (ackCommandType ack) "done"
          (complete ack.root ack.target).success (ackReason ack)
          (complete ack.root ack.target).message)
      else none
    logged :=
      if outcome.databaseOpen && outcome.logUpdated then some ⟨status, reason, message⟩ else none
    logUpdate :=
      if outcome.clientForUpdate then
        some (.commandLogUpdate ack.target.commandId (ackCommandType ack) status reason message)
      else none }

/-- The status in the text of a message. -/
def messageStatus (message : UiMessage) : String :=
  getJsonString (messageJson message) "status"

/-- The results that are reported. -/
def AckReports.statuses (reports : AckReports) : List String :=
  reports.commandAck.toList.map messageStatus ++
    (reports.logged.toList.map CommandLogRow.status ++
      reports.logUpdate.toList.map messageStatus)

def AckReports.Agree (reports : AckReports) : Prop :=
  forall first, first ∈ reports.statuses -> forall second, second ∈ reports.statuses ->
    first = second

/-- The board has removed the device, and the database does not. -/
def RemovalFails (outcome : AckOutcome) (ack : MatchedAck) : Prop :=
  isFinalBusinessSuccess ack.root = true ∧ ackCommandType ack = "remove_device" ∧
    ack.target.commandType = "remove_device" ∧ deleteDeviceData outcome ack.target = false

/-- The user interface hears of the success, and someone of the failure. -/
def Noticed (outcome : AckOutcome) : Prop :=
  outcome.clientForAck = true ∧
    (outcome.clientForUpdate = true ∨ outcome.databaseOpen = true ∧ outcome.logUpdated = true)

/-! ## The status of each report -/

theorem messageStatus_commandAck (commandId commandType reason message : String) (ok : Bool) :
    messageStatus (.commandAck commandId commandType "done" ok reason message) =
      if ok then "success" else "failed" := by
  cases ok <;> rfl

/-- The flag in the message says the same as its status. -/
theorem ok_commandAck (commandId commandType reason message : String) (ok : Bool) :
    getJsonBool (messageJson (.commandAck commandId commandType "done" ok reason message)) "ok"
      false = ok := by
  cases ok <;> rfl

theorem messageStatus_commandLogUpdate (commandId commandType status reason message : String) :
    messageStatus (.commandLogUpdate commandId commandType status reason message) = status := rfl

variable {outcome : AckOutcome} {ack : MatchedAck}

/-- For a command to remove a device, the answer decides. -/
theorem complete_removal (own : ack.target.commandType = "remove_device") :
    (complete ack.root ack.target).success = isFinalBusinessSuccess ack.root := by
  unfold complete
  dsimp only
  rw [if_neg (fun wrong => wrong.2.2 own)]

theorem ackLog_removalFails (fails : RemovalFails outcome ack) :
    (ackLog ack (deleteDeviceData outcome ack.target)).1 = "failed" := by
  rcases fails with ⟨success, removal, own, kept⟩
  unfold ackLog
  dsimp only
  rw [complete_removal own, success, removal, own, kept]
  rfl

theorem ackLog_otherwise (final : isFinalAck ack.root = true)
    (removed : ¬RemovalFails outcome ack) :
    (ackLog ack (deleteDeviceData outcome ack.target)).1 =
      if (complete ack.root ack.target).success then "success" else "failed" := by
  unfold ackLog
  dsimp only
  rw [if_neg]
  · rw [final, if_pos rfl]
  · intro fails
    simp only [Bool.and_eq_true, decide_eq_true_eq, Bool.not_eq_true'] at fails
    refine removed ⟨?_, fails.1.1.2, fails.1.2, fails.2⟩
    rw [← complete_removal fails.1.2]
    exact fails.1.1.1

/-- The three statuses, as far as there are any. -/
theorem statuses_reportAck (final : isFinalAck ack.root = true) :
    (reportAck outcome ack).statuses =
      (if outcome.clientForAck then
          [if (complete ack.root ack.target).success then "success" else "failed"] else []) ++
        ((if outcome.databaseOpen && outcome.logUpdated then
            [(ackLog ack (deleteDeviceData outcome ack.target)).1] else []) ++
          if outcome.clientForUpdate then
            [(ackLog ack (deleteDeviceData outcome ack.target)).1] else []) := by
  unfold AckReports.statuses reportAck
  dsimp only
  rw [final, Bool.and_true]
  refine congrArg₂ _ ?_ (congrArg₂ _ ?_ ?_)
  · cases outcome.clientForAck
    · rfl
    · exact congrArg (fun status => [status]) (messageStatus_commandAck _ _ _ _ _)
  · cases outcome.databaseOpen && outcome.logUpdated <;> rfl
  · cases outcome.clientForUpdate <;> rfl

theorem mem_ite_singleton {condition : Bool} {status own : String}
    (listed : status ∈ if condition then [own] else []) : status = own := by
  cases condition with
  | false => cases listed
  | true => exact List.mem_singleton.mp listed

/-- The reports of a final answer differ exactly if the board removed the
device, the database did not, and both are heard of. -/
theorem reports_agree_iff (outcome : AckOutcome) (ack : MatchedAck)
    (final : isFinalAck ack.root = true) :
    (reportAck outcome ack).Agree ↔ ¬(RemovalFails outcome ack ∧ Noticed outcome) := by
  by_cases fails : RemovalFails outcome ack
  · have success : (complete ack.root ack.target).success = true := by
      rw [complete_removal fails.2.2.1]
      exact fails.1
    rw [AckReports.Agree, statuses_reportAck final, success, ackLog_removalFails fails,
      and_iff_right fails, Noticed]
    cases outcome.clientForAck <;> cases outcome.clientForUpdate <;>
      cases outcome.databaseOpen <;> cases outcome.logUpdated <;> simp
  · have same : forall status, status ∈ (reportAck outcome ack).statuses ->
        status = if (complete ack.root ack.target).success then "success" else "failed" := by
      rw [statuses_reportAck final, ackLog_otherwise final fails]
      intro status reported
      rcases List.mem_append.mp reported with told | rest
      · exact mem_ite_singleton told
      · rcases List.mem_append.mp rest with logged | updated
        · exact mem_ite_singleton logged
        · exact mem_ite_singleton updated
    refine iff_of_true (fun first one second other => ?_) (fun failed => fails failed.1)
    exact (same first one).trans (same second other).symm

/-! ## The handler as the thread of MQTT runs it -/

theorem ackLog_status_ne_empty (ack : MatchedAck) (deleteOk : Bool) :
    (ackLog ack deleteOk).1 ≠ "" := by
  unfold ackLog
  dsimp only
  split
  · exact (by decide : "failed" ≠ "")
  · split
    · exact (by decide : "success" ≠ "")
    · split
      · exact (by decide : "failed" ≠ "")
      · exact (by decide : "sent" ≠ "")

/-- With one connection for both messages and a log that can be written, the
thread of MQTT makes these reports. -/
theorem continueMqtt_reportAck {world : CommandWorld} (matched : world.mqtt = .matched ack)
    (named : ack.target.commandId ≠ "") (deleteCommitted : Bool)
    (own : outcome = ⟨world.hasClient, world.hasClient, world.databaseOpen, deleteCommitted, true⟩) :
    let after := ((world.continueMqtt false).continueMqtt
      (deleteDeviceData outcome ack.target)).continueMqtt false
    after.toUi = world.toUi ++ ((reportAck outcome ack).commandAck.toList ++
        (reportAck outcome ack).logUpdate.toList) ∧
      after.commandLog = match (reportAck outcome ack).logged with
        | some row => world.commandLog.updateWhere (fun key _ => key = ack.target.commandId)
            fun _ => row
        | none => world.commandLog := by
  have status := ackLog_status_ne_empty ack (deleteDeviceData outcome ack.target)
  have client : outcome.clientForAck = world.hasClient ∧ outcome.clientForUpdate = world.hasClient ∧
      outcome.databaseOpen = world.databaseOpen ∧ outcome.logUpdated = true := by
    rw [own]
    exact ⟨rfl, rfl, rfl, rfl⟩
  constructor
  · cases connected : world.hasClient <;> cases final : isFinalAck ack.root <;>
      simp [CommandWorld.continueMqtt, CommandWorld.sendMessage,
        CommandWorld.updateCommandLogByCommandId, reportAck, matched, client, connected, final]
  · cases opened : world.databaseOpen <;>
      simp [CommandWorld.continueMqtt, CommandWorld.sendMessage,
        CommandWorld.updateCommandLogByCommandId, reportAck, matched, client, opened, named, status]

/-- The removal of a device that is acknowledged by the board. -/
def removalAck : MatchedAck where
  target := ⟨"cmd_1", 1, 50001, "remove_device", "gateway_001", "port_001", 3, 0⟩
  root := .obj [("type", .str "ack"), ("cmd_id", .str "cmd_1"), ("cmd", .str "remove_device"),
    ("stage", .str "done"), ("ok", .bool true), ("status", .str "success")]

/-- A connected user interface, and a database that fails to delete. -/
def failingDelete : AckOutcome := ⟨true, true, true, false, true⟩

theorem removal_agree_iff :
    (reportAck failingDelete removalAck).Agree ↔
      ¬(RemovalFails failingDelete removalAck ∧ Noticed failingDelete) :=
  reports_agree_iff failingDelete removalAck (by decide)

/-- The user interface is told of a success first and of a failure then. -/
theorem removal_disagrees : ¬(reportAck failingDelete removalAck).Agree := by
  intro agree
  have one : "success" ∈ (reportAck failingDelete removalAck).statuses := by decide
  have other : "failed" ∈ (reportAck failingDelete removalAck).statuses := by decide
  have same := agree _ one _ other
  revert same
  decide

end Link
end Imx6Gateway
