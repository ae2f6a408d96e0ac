import Imx6Gateway.Board.ConfigSync
import Imx6Gateway.Library.Transition

namespace Imx6Gateway
namespace Board

open Library

/-!
# Runs of the registration module with their history

The module itself forgets which seqs a message was sent under and which of
them were confirmed.  A `SyncWorld` pairs its state with the list of all
registrations issued so far, in order; the position in that list is the mark
of the registration.  The history is written by every step and read by none,
so it records a run without influencing it.
-/

/-- One registration and what happened to it. -/
structure Registration where
  cmd : String
  payload : String
  /-- Every seq it was sent under, the first one at the issuing call. -/
  sentUnder : List UInt32
  /-- The issuing call promised to deliver it. -/
  promised : Bool
  /-- It was active or queued when the issuing call returned. -/
  stored : Bool
  /-- A positive acknowledgement of its cmd and one of its seqs arrived. -/
  acked : Bool
  /-- A refusal with `retryable` false, of its cmd and one of its seqs, arrived. -/
  refused : Bool
deriving DecidableEq

structure SyncWorld where
  sync : ConfigSync
  history : List Registration
deriving DecidableEq

/-- The entry points, with everything they are called with or observe. -/
inductive SyncEvent where
  | markSent (env : Surroundings) (seq : UInt32) (cmd payload portId : String)
  | publishLatestSnapshot (env : Surroundings) (seq : UInt32) (exported : Option String)
  | handleAckJson (nowMs : Int) (payload : String)
  | tick (env : Surroundings)
  | nextSeq

namespace ConfigSync

/-- The active message as a record. -/
def activeEntry (state : ConfigSync) : Option Pending :=
  if state.hasActivePending then
    some { seq := state.pendingSeq, cmd := state.pendingCmd, portId := state.pendingPortId,
           payload := state.pendingSnapshot, mark := state.pendingMark }
  else none

/-- The message is active or queued. -/
def Holds (state : ConfigSync) (entry : Pending) : Prop :=
  state.activeEntry = some entry ∨ entry ∈ state.queue

/-- Some stored message has the mark. -/
def holdsMark (state : ConfigSync) (mark : Nat) : Bool :=
  state.activeEntry.any (fun entry => entry.mark = mark) ||
    state.queue.slots.any (fun slot => slot.any fun entry => entry.mark = mark)

end ConfigSync

/-- The acknowledgement names the registration's cmd and one of its seqs. -/
def Registration.namedBy (registration : Registration) (ack : ConfigSync.Ack) : Bool :=
  ack.cmd = registration.cmd && registration.sentUnder.contains ack.seq

/-- What an acknowledgement tells about a registration. -/
def Registration.note (ack : ConfigSync.Ack) (registration : Registration) : Registration :=
  { registration with
    acked := registration.acked || (ack.ok && registration.namedBy ack)
    refused := registration.refused || (!ack.ok && !ack.retryable && registration.namedBy ack) }

def Registration.sendUnder (seq : UInt32) (registration : Registration) : Registration :=
  { registration with sentUnder := seq :: registration.sentUnder }

def Effect.isPublish : Effect -> Bool
  | .offlinePublishOrCache .. => true
  | .ipcServerSend _ => false

namespace SyncWorld

open ConfigSync

def initial : SyncWorld := ⟨ConfigSync.initial, []⟩

/-- A message that is about to be issued, with its mark. -/
def newEntry (world : SyncWorld) (seq : UInt32) (cmd payload portId : String) : Pending where
  seq := seq
  cmd := cmd
  portId := portId
  payload := payload
  mark := world.history.length

/-- The registration that an issuing call adds to the history. -/
def issued (world : SyncWorld) (outcome : Outcome) (seq : UInt32) (cmd payload : String)
    (promised : Bool) : Registration where
  cmd := cmd
  payload := payload
  sentUnder := [seq]
  promised := promised
  stored := outcome.state.holdsMark world.history.length
  acked := false
  refused := false

variable (library : JsonC)

/-- The text that `publishLatestSnapshot` publishes, if it gets that far. -/
def latestSnapshotText (state : ConfigSync) (exported : Option String) : Option String :=
  (exported.bind library.parse).map fun root =>
    library.print (stampVersion (versionAtLeastOne (state.configVersion + 1)) root)

/-- The module's step, with the history kept alongside.  `markSent` promises
delivery when it returns `DATA_SEND_OK` for a nonzero seq, and
`publishLatestSnapshot` when it returns `DATA_SEND_OK`. -/
def step (world : SyncWorld) : SyncEvent -> SyncWorld
  | .markSent env seq cmd payload portId =>
      let outcome := markSent env (world.newEntry seq cmd payload portId) world.sync
      { sync := outcome.state
        history :=
          if payload = "" then world.history
          else world.history ++ [world.issued outcome seq cmd payload
            (outcome.code = DataSendCode.ok.toInt && seq ≠ 0)] }
  | .publishLatestSnapshot env seq exported =>
      let outcome := publishLatestSnapshot library env seq exported world.history.length world.sync
      { sync := outcome.state
        history :=
          match latestSnapshotText library world.sync exported with
          | none => world.history
          | some text => world.history ++ [world.issued outcome seq "config_snapshot" text
              (outcome.code = DataSendCode.ok.toInt)] }
  | .handleAckJson nowMs payload =>
      { sync := (handleAckJson library nowMs payload world.sync).state
        history :=
          match parseAck library payload with
          | none => world.history
          | some ack => world.history.map (Registration.note ack) }
  | .tick env =>
      let outcome := tick library env world.sync
      { sync := outcome.state
        history :=
          if outcome.effects.any Effect.isPublish then
            world.history.modify outcome.state.pendingMark
              (Registration.sendUnder outcome.state.pendingSeq)
          else world.history }
  | .nextSeq => { world with sync := (nextSeq world.sync).2 }

def system : TransitionSystem SyncWorld SyncEvent where
  initial := initial
  step := step library

/-! ## Messages for concrete runs -/

/-- A connected board at a time, with a working publisher. -/
def online (nowMs : Int) : Surroundings := ⟨nowMs, true, 0⟩

/-- A registration message, cut down to the fields this module looks at. -/
def registerText (cmd : String) (seq : Nat) : String :=
  JsonC.jsonText.print (.obj [("type", .str cmd), ("seq", .int seq)])

/-- An acknowledgement with the fields the board reads; no version is sent
when `configVersion` is zero. -/
def ackText (cmd : String) (seq configVersion : Nat) (ok retryable : Bool) : String :=
  JsonC.jsonText.print (.obj ([("type", .str "ack"), ("cmd", .str cmd), ("seq", .int seq)] ++
    (if configVersion = 0 then [] else [("configVersion", .int configVersion)]) ++
    [("ok", .bool ok), ("retryable", .bool retryable)]))

end SyncWorld
end Board
end Imx6Gateway
