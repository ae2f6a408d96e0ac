import Imx6Gateway.Pc.CommandThreads
import Imx6Gateway.Ui.AlarmView

namespace Imx6Gateway
namespace Ui

open Library

/-!
# The result of a command

`CommandManager` keeps the commands that have been sent until a message of
Pc_data ends them, either as successful or as failed.  The texts for the user,
the timers and the relay channels of a command are left out.
-/

structure CommandRecord where
  command : String
  gatewayId : String
  portId : String
  state : String
  ok : Bool
  reason : String
deriving DecidableEq

inductive CommandOutcome where
  | succeeded
  | failed
deriving DecidableEq

/-- `m_pending`, and the commands that `finishCommand` has been called for. -/
structure CommandManager where
  pending : Table String CommandRecord
  finished : List (String × CommandOutcome)

def boolOr (value : Option Json) (other : Bool) : Bool :=
  match value with
  | some (.bool found) => found
  | _ => other

def stringAny (object : Json) : List String -> String
  | [] => ""
  | key :: keys =>
      if textOr (object.lookup key) "" ≠ "" then textOr (object.lookup key) ""
      else stringAny object keys

def ackSuccess (object : Json) : Bool :=
  if textOr (object.lookup "stage") "" ≠ "done" then false
  else
    let status := textOr (object.lookup "status") ""
    if status ≠ "" then status = "success" && boolOr (object.lookup "ok") false
    else boolOr (object.lookup "ok") false

namespace CommandManager

def insert (manager : CommandManager) (cmdId : String) (record : CommandRecord) :
    CommandManager :=
  { manager with pending := manager.pending.put cmdId record }

def finishCommand (manager : CommandManager) (cmdId : String) (outcome : CommandOutcome) :
    CommandManager where
  pending := AList.erase cmdId manager.pending
  finished := manager.finished ++ [(cmdId, outcome)]

/-- The record with what an acknowledgement says. -/
def acknowledged (record : CommandRecord) (object : Json) : CommandRecord :=
  let cmd := stringAny object ["cmd", "commandType", "command"]
  let reason := textOr (object.lookup "reason") ""
  { record with
    ok := ackSuccess object
    command := if cmd ≠ "" then cmd else record.command
    reason := if reason = "" then textOr (object.lookup "message") "" else reason }

def onCommandAck (manager : CommandManager) (object : Json) : CommandManager :=
  let cmdId := textOr (object.lookup "cmd_id") ""
  let stage := textOr (object.lookup "stage") ""
  let status := textOr (object.lookup "status") ""
  match if cmdId = "" then none else manager.pending.get cmdId with
  | none => manager
  | some pending =>
      let record := acknowledged pending object
      if stage = "done" ∧ status = "success" ∧ record.ok then
        manager.finishCommand cmdId .succeeded
      else if stage = "sent" ∧ record.ok then
        manager.insert cmdId { record with ok := false, state := "running" }
      else if stage = "done" ∧ !record.ok then
        (manager.insert cmdId { record with state := "failed" }).finishCommand cmdId .failed
      else if stage = "done" ∧ record.ok then manager.finishCommand cmdId .succeeded
      else
        let goesOn := stage = "sent" ∨ stage = "accepted" ∨ record.ok
        let kept := manager.insert cmdId
          { record with state := if goesOn then "running" else "failed" }
        if goesOn then kept else kept.finishCommand cmdId .failed

def onCommandLogUpdate (manager : CommandManager) (object : Json) : CommandManager :=
  let cmdId := textOr (object.lookup "cmd_id") ""
  let stage := textOr (object.lookup "stage") ""
  let ok := ackSuccess object
  let status := textOr (object.lookup "status") (if ok then "success" else "failed")
  let reason := textOr (object.lookup "reason") ""
  match if cmdId = "" then none else manager.pending.get cmdId with
  | none => manager
  | some record =>
      if stage = "sent" then manager
      else if stage = "done" ∧ ok then manager.finishCommand cmdId .succeeded
      else if stage = "done" then
        if status = "timeout" then
          manager.insert cmdId
            { record with
              state := "timeout_waiting_ack"
              reason := if reason = "" then textOr (object.lookup "message") "" else reason }
        else manager.finishCommand cmdId .failed
      else manager

/-- The two messages about commands that the main window passes on. -/
def handleMessage (manager : CommandManager) (object : Json) : CommandManager :=
  let type := textOr (object.lookup "type") ""
  if type = "ack" ∨ type = "command_ack" then manager.onCommandAck object
  else if type = "command_log_update" then manager.onCommandLogUpdate object
  else manager

/-! ## Success -/

variable {manager : CommandManager} {object : Json} {commandId : String}

theorem succeeded_finishCommand {cmdId : String} {outcome : CommandOutcome}
    (finished : (commandId, CommandOutcome.succeeded) ∈
      (manager.finishCommand cmdId outcome).finished) :
    (commandId, CommandOutcome.succeeded) ∈ manager.finished ∨
      commandId = cmdId ∧ outcome = .succeeded := by
  rcases List.mem_append.mp finished with before | new
  · exact Or.inl before
  · have same := List.mem_singleton.mp new
    injection same with name result
    exact Or.inr ⟨name, result.symm⟩

/-- A command succeeds by an acknowledgement that says so. -/
theorem succeeded_onCommandAck
    (finished : (commandId, CommandOutcome.succeeded) ∈ (manager.onCommandAck object).finished) :
    (commandId, CommandOutcome.succeeded) ∈ manager.finished ∨
      commandId = textOr (object.lookup "cmd_id") "" ∧ ackSuccess object = true := by
  unfold onCommandAck at finished
  dsimp only at finished
  split at finished
  · exact Or.inl finished
  · split_ifs at finished with first sent failed second
    · exact (succeeded_finishCommand finished).imp_right fun done => ⟨done.1, first.2.2⟩
    · exact Or.inl finished
    · rcases succeeded_finishCommand finished with before | ⟨-, impossible⟩
      · exact Or.inl before
      · cases impossible
    · exact (succeeded_finishCommand finished).imp_right fun done => ⟨done.1, second.2⟩
    · exact Or.inl finished
    · rcases succeeded_finishCommand finished with before | ⟨-, impossible⟩
      · exact Or.inl before
      · cases impossible

theorem succeeded_onCommandLogUpdate
    (finished : (commandId, CommandOutcome.succeeded) ∈
      (manager.onCommandLogUpdate object).finished) :
    (commandId, CommandOutcome.succeeded) ∈ manager.finished ∨
      commandId = textOr (object.lookup "cmd_id") "" ∧ ackSuccess object = true := by
  unfold onCommandLogUpdate at finished
  dsimp only at finished
  generalize textOr (object.lookup "status") _ = status at finished
  split at finished
  · exact Or.inl finished
  · split at finished
    · exact Or.inl finished
    · split at finished
      · rename_i done
        exact (succeeded_finishCommand finished).imp_right fun both => ⟨both.1, done.2⟩
      · split at finished
        · split at finished
          · exact Or.inl finished
          · rcases succeeded_finishCommand finished with before | ⟨-, impossible⟩
            · exact Or.inl before
            · cases impossible
        · exact Or.inl finished

theorem succeeded_handleMessage
    (finished : (commandId, CommandOutcome.succeeded) ∈ (manager.handleMessage object).finished) :
    (commandId, CommandOutcome.succeeded) ∈ manager.finished ∨
      commandId = textOr (object.lookup "cmd_id") "" ∧ ackSuccess object = true := by
  unfold handleMessage at finished
  dsimp only at finished
  split_ifs at finished
  · exact succeeded_onCommandAck finished
  · exact succeeded_onCommandLogUpdate finished
  · exact Or.inl finished

end CommandManager

/-! ## The messages of Pc_data -/

/-- Numbers, the device and the time are left out. -/
def buildCommandAckJson (cmdId commandType stage : String) (ok : Bool) (reason message : String) :
    Json :=
  let finalDone := stage = "done"
  let effectiveOk := finalDone && ok
  let status := if finalDone then (if effectiveOk then "success" else "failed")
    else if stage = "" then "accepted" else stage
  .obj [("type", .str "command_ack"), ("cmd_id", .str cmdId), ("cmd", .str commandType),
    ("cmdType", .str commandType), ("command", .str commandType),
    ("commandType", .str commandType),
    ("stage", .str (if stage = "" then "accepted" else stage)), ("status", .str status),
    ("ok", .bool effectiveOk), ("reason", .str reason), ("message", .str message)]

def buildCommandLogUpdateJson (cmdId commandType status reason message : String) : Json :=
  .obj [("type", .str "command_log_update"), ("cmd_id", .str cmdId), ("cmd", .str commandType),
    ("command", .str commandType), ("commandType", .str commandType),
    ("cmdType", .str commandType),
    ("stage", .str (if status = "sent" ∨ status = "waiting" then "sent" else "done")),
    ("status", .str status), ("ok", .bool (status = "success")), ("reason", .str reason),
    ("message", .str message)]

def messageJson : Pc.UiMessage -> Json
  | .commandAck commandId commandType stage ok reason message =>
      buildCommandAckJson commandId commandType stage ok reason message
  | .commandLogUpdate commandId commandType status reason message =>
      buildCommandLogUpdateJson commandId commandType status reason message

/-- The command that a message reports as successful. -/
def succeeds : Pc.UiMessage -> Option String
  | .commandAck commandId _ stage ok _ _ => if stage = "done" && ok then some commandId else none
  | .commandLogUpdate commandId _ status _ _ =>
      if status = "success" then some commandId else none

theorem ackSuccess_commandAck (cmdId commandType stage : String) (ok : Bool)
    (reason message : String) :
    ackSuccess (buildCommandAckJson cmdId commandType stage ok reason message) =
      (stage = "done" && ok) := by
  by_cases done : stage = "done"
  · subst done
    cases ok <;> rfl
  · have named : (if stage = "" then "accepted" else stage) ≠ "done" := by
      split
      · decide
      · exact done
    rw [decide_eq_false done]
    exact if_pos named

theorem ackSuccess_commandLogUpdate (cmdId commandType status reason message : String) :
    ackSuccess (buildCommandLogUpdateJson cmdId commandType status reason message) =
      (status = "success" : Bool) := by
  change (if (if status = "sent" ∨ status = "waiting" then "sent" else "done") ≠ "done" then false
    else if status ≠ "" then decide (status = "success") && decide (status = "success")
    else decide (status = "success")) = decide (status = "success")
  by_cases ended : status = "success"
  · subst ended
    rfl
  · rw [decide_eq_false ended]
    simp

theorem succeeds_of_ackSuccess {message : Pc.UiMessage}
    (success : ackSuccess (messageJson message) = true) :
    succeeds message = some (textOr ((messageJson message).lookup "cmd_id") "") := by
  cases message with
  | commandAck commandId commandType stage ok reason text =>
      exact if_pos ((ackSuccess_commandAck _ _ _ _ _ _).symm.trans success)
  | commandLogUpdate commandId commandType status reason text =>
      have ended := (ackSuccess_commandLogUpdate _ _ _ _ _).symm.trans success
      exact if_pos (of_decide_eq_true ended)

end Ui
end Imx6Gateway
