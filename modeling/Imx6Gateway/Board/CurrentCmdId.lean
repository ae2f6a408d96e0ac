import Imx6Gateway.Board.CommandAck
import Imx6Gateway.Library.SharedVariable

namespace Imx6Gateway
namespace Board

open Library

/-!
# The identifier of the command that is processed

The local interface and the MQTT client call `data_command_process_message`
from threads of their own, and both keep the `cmd_id` of their command in
`g_data_ack_current_cmd_id` while its handler builds answers.  Two commands
may be processed at the same time; their calls on the variable can come in any
order.
-/

/-- Where a command comes from, and so which thread processes it. -/
inductive CommandSource where
  | ipc
  | mqtt
deriving DecidableEq

/-- The calls on the variable. -/
inductive CmdIdCall where
  | setCurrentCmdId (cmdId : String)
  | buildAck
  | clearCurrentCmdId
deriving DecidableEq

def CmdIdCall.access : CmdIdCall -> Access String
  | .setCurrentCmdId cmdId => .write (Board.setCurrentCmdId cmdId)
  | .buildAck => .read
  | .clearCurrentCmdId => .write ""

/-- The calls of `data_command_process_message` for a command whose handler
sends a number of answers. -/
def processing (cmdId : String) (acks : Nat) : List CmdIdCall :=
  .setCurrentCmdId cmdId :: (List.replicate acks .buildAck ++ [.clearCurrentCmdId])

/-- `data_ack_add_current_cmd_id`: the member of an answer. -/
def addCurrentCmdId (current : String) : List (String × Json) :=
  Json.memberIf (current ≠ "") "cmd_id" (.str current)

theorem ackBody_eq (context : AckContext) (seq : UInt32) (cmd : String) (ok : Bool)
    (reason message : String) : exists rest,
      ackBody context seq cmd ok reason message = addCurrentCmdId context.cmdId ++ rest :=
  ⟨_, rfl⟩

theorem addCurrentCmdId_injective : Function.Injective addCurrentCmdId := by
  intro first second same
  by_cases empty : first = "" <;> by_cases alsoEmpty : second = "" <;>
    simp_all [addCurrentCmdId, Json.memberIf]

/-! ## Interleavings -/

abbrev Schedule : Type := List (CommandSource × CmdIdCall)

def callsOf (source : CommandSource) (schedule : Schedule) : List CmdIdCall :=
  (schedule.filter fun call => call.1 = source).map Prod.snd

/-- An order of the calls of two commands, each of which keeps its own order. -/
structure Interleaving (cmdId : CommandSource -> String) (acks : CommandSource -> Nat) where
  schedule : Schedule
  calls : forall source, callsOf source schedule = processing (cmdId source) (acks source)

def accesses (schedule : Schedule) : List (CommandSource × Access String) :=
  schedule.map fun call => (call.1, call.2.access)

/-- The answers that are built, each with the value its builder found. -/
def builtAcks (schedule : Schedule) : List (CommandSource × String) :=
  ((SharedVariable.system "").run (accesses schedule)).reads

/-- Every answer has the identifier of the command whose handler sent it. -/
def CarryOwn (cmdId : CommandSource -> String) (schedule : Schedule) : Prop :=
  forall ack, ack ∈ builtAcks schedule ->
    addCurrentCmdId ack.2 = addCurrentCmdId (cmdId ack.1)

/-- The identifier fits the variable, and what is set or cleared between the
start of a command and its answer, if anything is, ends with the same
identifier. -/
def Undisturbed (cmdId : CommandSource -> String) (schedule : Schedule) : Prop :=
  forall source before between after,
    schedule = before ++ (source, .setCurrentCmdId (cmdId source)) ::
      (between ++ (source, .buildAck) :: after) ->
    textBytes (cmdId source) < 128 ∧
      forall last, (SharedVariable.writes (accesses between)).getLast? = some last ->
        last = cmdId source

section Condition

variable {cmdId : CommandSource -> String} {acks : CommandSource -> Nat}

theorem callsOf_split (source : CommandSource) (earlier after : Schedule) (call : CmdIdCall) :
    callsOf source (earlier ++ (source, call) :: after) =
      callsOf source earlier ++ call :: callsOf source after := by
  simp [callsOf]

theorem mem_of_mem_callsOf {source : CommandSource} {schedule : Schedule} {call : CmdIdCall}
    (inside : call ∈ callsOf source schedule) : (source, call) ∈ schedule := by
  simpa [callsOf] using inside

/-- An answer is built after its own command was set. -/
theorem Interleaving.started (run : Interleaving cmdId acks) {source : CommandSource}
    {earlier after : Schedule} (built : run.schedule = earlier ++ (source, .buildAck) :: after) :
    exists before between,
      earlier = before ++ (source, .setCurrentCmdId (cmdId source)) :: between := by
  have calls := run.calls source
  rw [built, callsOf_split, processing] at calls
  cases own : callsOf source earlier with
  | nil =>
      rw [own] at calls
      cases calls
  | cons first rest =>
      have listed : first ∈ callsOf source earlier := by
        rw [own]
        exact List.mem_cons_self
      rw [own] at calls
      have set : first = .setCurrentCmdId (cmdId source) := (List.cons.inj calls).1
      rw [set] at listed
      exact List.append_of_mem (mem_of_mem_callsOf listed)

/-- Whatever the variable holds has at most 127 bytes. -/
theorem fits_writes {schedule : Schedule} {value : String}
    (written : value ∈ SharedVariable.writes (accesses schedule)) : textBytes value < 128 := by
  rcases List.mem_filterMap.mp written with ⟨access, inside, wrote⟩
  rcases List.mem_map.mp inside with ⟨⟨source, call⟩, -, rfl⟩
  cases call with
  | setCurrentCmdId cmdId =>
      cases wrote
      exact Nat.lt_succ_of_le (textBytes_clip_le 127 cmdId)
  | buildAck => cases wrote
  | clearCurrentCmdId =>
      cases wrote
      decide

/-- What a builder finds, seen from the start of its own command. -/
theorem lastWrite_between (source : CommandSource) (before between : Schedule) :
    SharedVariable.lastWrite "" (accesses (before ++
        (source, .setCurrentCmdId (cmdId source)) :: between)) =
      (SharedVariable.writes (accesses between)).getLast?.getD
        (setCurrentCmdId (cmdId source)) := by
  rw [accesses, List.map_append, List.map_cons, SharedVariable.lastWrite_append,
    ← SharedVariable.lastWrite_eq_getD]
  rfl

theorem found_own_iff {own : String} {between : Schedule} :
    (SharedVariable.writes (accesses between)).getLast?.getD (setCurrentCmdId own) = own ↔
      textBytes own < 128 ∧
        forall last, (SharedVariable.writes (accesses between)).getLast? = some last ->
          last = own := by
  cases written : (SharedVariable.writes (accesses between)).getLast? with
  | none =>
      rw [Option.getD_none]
      constructor
      · intro kept
        refine ⟨?_, fun _ impossible => nomatch impossible⟩
        rw [← kept]
        exact Nat.lt_succ_of_le (textBytes_clip_le 127 own)
      · rintro ⟨fits, -⟩
        exact copyText_of_fits fits
  | some last =>
      rw [Option.getD_some]
      constructor
      · rintro rfl
        exact ⟨fits_writes (List.mem_of_getLast? written), fun _ same => (Option.some.inj same).symm⟩
      · rintro ⟨-, same⟩
        exact same last rfl

theorem mem_builtAcks_iff {schedule : Schedule} {source : CommandSource} {value : String} :
    (source, value) ∈ builtAcks schedule ↔
      exists earlier after, schedule = earlier ++ (source, .buildAck) :: after ∧
        value = SharedVariable.lastWrite "" (accesses earlier) := by
  rw [builtAcks, SharedVariable.mem_reads_iff]
  constructor
  · rintro ⟨before, after, split, same⟩
    rcases List.map_eq_append_iff.mp split with ⟨earlier, rest, rfl, rfl, tail⟩
    rcases List.map_eq_cons_iff.mp tail with ⟨⟨own, call⟩, later, rfl, access, -⟩
    have builds : call = .buildAck := by
      cases call <;> cases access
      rfl
    have named : own = source := congrArg Prod.fst access
    rw [named, builds]
    exact ⟨earlier, later, rfl, same⟩
  · rintro ⟨earlier, after, rfl, same⟩
    exact ⟨accesses earlier, accesses after, List.map_append, same⟩

/-- The answers of two commands carry their own identifiers exactly if the
commands leave each other's answers alone. -/
theorem carryOwn_iff (run : Interleaving cmdId acks) :
    CarryOwn cmdId run.schedule ↔ Undisturbed cmdId run.schedule := by
  constructor
  · intro own source before between after split
    have built : (source, SharedVariable.lastWrite "" (accesses (before ++
        (source, .setCurrentCmdId (cmdId source)) :: between))) ∈ builtAcks run.schedule := by
      refine mem_builtAcks_iff.mpr ⟨_, after, ?_, rfl⟩
      rw [split, List.append_assoc, List.cons_append]
    have carried := addCurrentCmdId_injective (own _ built)
    rw [lastWrite_between] at carried
    exact found_own_iff.mp carried
  · rintro undisturbed ⟨source, value⟩ built
    rcases mem_builtAcks_iff.mp built with ⟨earlier, after, split, rfl⟩
    rcases run.started split with ⟨before, between, rfl⟩
    have found := undisturbed source before between after (by
      rw [split, List.append_assoc, List.cons_append])
    refine congrArg addCurrentCmdId ?_
    rw [lastWrite_between]
    exact found_own_iff.mpr found

end Condition

/-- Two commands with one answer each; the second begins before the first has
answered. -/
def overtaken : Interleaving (fun | .ipc => "a" | .mqtt => "b") (fun _ => 1) where
  schedule := [(.ipc, .setCurrentCmdId "a"), (.mqtt, .setCurrentCmdId "b"), (.ipc, .buildAck),
    (.ipc, .clearCurrentCmdId), (.mqtt, .buildAck), (.mqtt, .clearCurrentCmdId)]
  calls source := by cases source <;> rfl

/-- The first answer has the identifier of the second command, and the second
answer has none. -/
theorem overtaken_not_own :
    ¬CarryOwn (fun | .ipc => "a" | .mqtt => "b") overtaken.schedule := by
  intro own
  have built : (CommandSource.ipc, "b") ∈ builtAcks overtaken.schedule := by decide
  have carried := addCurrentCmdId_injective (own _ built)
  revert carried
  decide

end Board
end Imx6Gateway
