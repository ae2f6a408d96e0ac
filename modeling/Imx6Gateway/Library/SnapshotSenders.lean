import Mathlib.Logic.Function.Basic

namespace Imx6Gateway
namespace Library

/-!
# Several senders of one content

A content changes, and a receiver is to have the last one.  One thread, the
publisher, sends it when a flag says that it has changed, and many changes may
share one message.  Other threads send it for reasons of their own.  Each of
them first reads the content and then sends what it has read, so that another
one may be faster.

The receiver is said to be covered if it has the content or if a message with
the content is still to come.  Nothing that the publisher does to the flag
uncovers it; a message can, if it was read too early.
-/

variable {V ι : Type}

/-- Where the publisher is in its loop. -/
inductive PublisherPhase (V : Type) where
  | waiting
  | sleeping
  | checking
  | reading
  | holding (content : V)
deriving DecidableEq

/-- A thread that has to send the content has not read it yet, or holds it. -/
inductive SenderPhase (V : Type) where
  | idle
  | called
  | holding (content : V)
deriving DecidableEq

structure SnapshotSenders (V ι : Type) where
  /-- The content has changed, and the flag is not set for it yet. -/
  owing : Bool
  dirty : Bool
  publisher : PublisherPhase V
  sender : ι -> SenderPhase V
  connected : Bool
  /-- What the receiver that is there has got last. -/
  shown : Option V

namespace SnapshotSenders

/-- The threads at their start. -/
def start : SnapshotSenders V ι where
  owing := false
  dirty := false
  publisher := .waiting
  sender := fun _ => .idle
  connected := false
  shown := none

/-! ## The steps -/

def mark (senders : SnapshotSenders V ι) : SnapshotSenders V ι :=
  { senders with owing := false, dirty := true }

/-- A change that the flag will be set for. -/
def owe (senders : SnapshotSenders V ι) : SnapshotSenders V ι :=
  { senders with owing := true }

def wake (senders : SnapshotSenders V ι) : SnapshotSenders V ι :=
  match senders.publisher with
  | .waiting => if senders.dirty then { senders with publisher := .sleeping } else senders
  | _ => senders

/-- The flag is taken after the sleep. -/
def take (senders : SnapshotSenders V ι) : SnapshotSenders V ι :=
  match senders.publisher with
  | .sleeping =>
      if senders.dirty then { senders with dirty := false, publisher := .checking }
      else { senders with publisher := .waiting }
  | _ => senders

def check (senders : SnapshotSenders V ι) : SnapshotSenders V ι :=
  match senders.publisher with
  | .checking => { senders with publisher := if senders.connected then .reading else .waiting }
  | _ => senders

def read (content : V) (senders : SnapshotSenders V ι) : SnapshotSenders V ι :=
  match senders.publisher with
  | .reading => { senders with publisher := .holding content }
  | _ => senders

/-- A message that cannot be written ends the connection. -/
def deliver (written : Bool) (content : V) (senders : SnapshotSenders V ι) :
    SnapshotSenders V ι :=
  if !senders.connected then senders
  else if written then { senders with shown := some content }
  else { senders with connected := false, shown := none }

theorem deliver_away {senders : SnapshotSenders V ι} (away : senders.connected = false)
    (written : Bool) (content : V) : deliver written content senders = senders := by
  rw [deliver, away]
  rfl

theorem deliver_written {senders : SnapshotSenders V ι} (connected : senders.connected = true)
    (content : V) : deliver true content senders = { senders with shown := some content } := by
  rw [deliver, connected]
  rfl

theorem deliver_failed {senders : SnapshotSenders V ι} (connected : senders.connected = true)
    (content : V) :
    deliver false content senders = { senders with connected := false, shown := none } := by
  rw [deliver, connected]
  rfl

/-- The publisher sets the flag again if it could not send. -/
def publish (written : Bool) (senders : SnapshotSenders V ι) : SnapshotSenders V ι :=
  match senders.publisher with
  | .holding content =>
      let sent := deliver written content { senders with publisher := .waiting }
      if senders.connected && written then sent else { sent with dirty := true }
  | _ => senders

section Threads

variable [DecidableEq ι]

def setSender (thread : ι) (phase : SenderPhase V) (senders : SnapshotSenders V ι) :
    SnapshotSenders V ι :=
  { senders with sender := Function.update senders.sender thread phase }

/-- A thread has done something after which it sends the content. -/
def call (thread : ι) (senders : SnapshotSenders V ι) : SnapshotSenders V ι :=
  senders.setSender thread .called

def senderReads (thread : ι) (content : V) (senders : SnapshotSenders V ι) :
    SnapshotSenders V ι :=
  match senders.sender thread with
  | .called => senders.setSender thread (.holding content)
  | _ => senders

def senderSends (thread : ι) (written : Bool) (senders : SnapshotSenders V ι) :
    SnapshotSenders V ι :=
  match senders.sender thread with
  | .holding content => deliver written content (senders.setSender thread .idle)
  | _ => senders

/-- A receiver comes, and a thread will send it the content. -/
def connect (thread : ι) (senders : SnapshotSenders V ι) : SnapshotSenders V ι :=
  ({ senders with connected := true, shown := none } : SnapshotSenders V ι).call thread

def disconnect (senders : SnapshotSenders V ι) : SnapshotSenders V ι :=
  { senders with connected := false, shown := none }

end Threads

/-! ## What is still to come -/

/-- Something that follows will make the publisher or a thread send the content. -/
def Coming (content : V) (senders : SnapshotSenders V ι) : Prop :=
  senders.owing = true ∨ senders.dirty = true ∨ senders.publisher = .checking ∨
    senders.publisher = .reading ∨ senders.publisher = .holding content ∨
    exists thread, senders.sender thread = .called ∨ senders.sender thread = .holding content

def Covered (content : V) (senders : SnapshotSenders V ι) : Prop :=
  senders.connected = true -> senders.shown = some content ∨ senders.Coming content

/-- Nothing is under way. -/
structure AtRest (senders : SnapshotSenders V ι) : Prop where
  owing : senders.owing = false
  dirty : senders.dirty = false
  publisher : senders.publisher = .waiting
  sender : forall thread, senders.sender thread = .idle

theorem covered_start (content : V) : (start : SnapshotSenders V ι).Covered content :=
  fun connected => nomatch connected

/-- At rest a covered receiver has the content. -/
theorem shown_of_covered {content : V} {senders : SnapshotSenders V ι}
    (covered : senders.Covered content) (rest : senders.AtRest)
    (connected : senders.connected = true) : senders.shown = some content := by
  rcases covered connected with shown | coming
  · exact shown
  · rcases coming with owing | dirty | phase | phase | phase | ⟨thread, called | holding⟩
    · exact nomatch rest.owing.symm.trans owing
    · exact nomatch rest.dirty.symm.trans dirty
    · exact nomatch rest.publisher.symm.trans phase
    · exact nomatch rest.publisher.symm.trans phase
    · exact nomatch rest.publisher.symm.trans phase
    · exact nomatch (rest.sender thread).symm.trans called
    · exact nomatch (rest.sender thread).symm.trans holding

theorem covered_owe (content : V) (senders : SnapshotSenders V ι) :
    senders.owe.Covered content :=
  fun _ => Or.inr (Or.inl rfl)

theorem covered_mark (content : V) (senders : SnapshotSenders V ι) :
    senders.mark.Covered content :=
  fun _ => Or.inr (Or.inr (Or.inl rfl))

theorem covered_of_disconnected {content : V} {senders : SnapshotSenders V ι}
    (away : senders.connected = false) : senders.Covered content :=
  fun connected => nomatch away.symm.trans connected

theorem covered_disconnect (content : V) (senders : SnapshotSenders V ι) :
    senders.disconnect.Covered content :=
  covered_of_disconnected rfl

/-! ## The loop of the publisher -/

section Publisher

variable {content : V} {senders : SnapshotSenders V ι}

/-- The sleep before the flag is taken changes nothing. -/
theorem covered_wake (covered : senders.Covered content) : senders.wake.Covered content := by
  unfold wake
  split
  · rename_i waiting
    split
    · rename_i dirty
      exact fun _ => Or.inr (Or.inr (Or.inl dirty))
    · exact covered
  · exact covered

/-- The flag is cleared before the content is read, so that a change after the
reading sets it again. -/
theorem covered_take (covered : senders.Covered content) : senders.take.Covered content := by
  unfold take
  split
  · rename_i sleeping
    split
    · exact fun _ => Or.inr (Or.inr (Or.inr (Or.inl rfl)))
    · rename_i clean
      intro connected
      rcases covered connected with shown | owing | dirty | phase | phase | phase | other
      · exact Or.inl shown
      · exact Or.inr (Or.inl owing)
      · exact absurd dirty clean
      · exact nomatch sleeping.symm.trans phase
      · exact nomatch sleeping.symm.trans phase
      · exact nomatch sleeping.symm.trans phase
      · exact Or.inr (Or.inr (Or.inr (Or.inr (Or.inr (Or.inr other)))))
  · exact covered

/-- Without a receiver the change is dropped. -/
theorem covered_check (covered : senders.Covered content) : senders.check.Covered content := by
  unfold check
  split
  · intro connected
    refine Or.inr (Or.inr (Or.inr (Or.inr (Or.inl ?_))))
    exact if_pos connected
  · exact covered

theorem covered_read (covered : senders.Covered content) :
    (senders.read content).Covered content := by
  unfold read
  split
  · exact fun _ => Or.inr (Or.inr (Or.inr (Or.inr (Or.inr (Or.inl rfl)))))
  · exact covered

/-- A message has the content, or something is to come after it. -/
def Timely (content message : V) (after : SnapshotSenders V ι) : Prop :=
  message = content ∨ after.Coming content

/-- What is written is timely. -/
def PublishTimely (content : V) (written : Bool) (senders : SnapshotSenders V ι) : Prop :=
  forall message, senders.publisher = .holding message -> senders.connected = true ->
    written = true -> Timely content message { senders with publisher := .waiting }

theorem covered_deliver_iff (content message : V) :
    (deliver true message senders).Covered content ↔
      (senders.connected = true -> Timely content message senders) := by
  cases connected : senders.connected with
  | false =>
      rw [deliver_away connected]
      refine iff_of_true (covered_of_disconnected connected) ?_
      exact fun away => nomatch away
  | true =>
      rw [deliver_written connected]
      constructor
      · intro covered _
        rcases covered connected with shown | coming
        · exact Or.inl (Option.some.inj shown)
        · exact Or.inr coming
      · intro timely _
        rcases timely rfl with same | coming
        · exact Or.inl (congrArg some same)
        · exact Or.inr coming

/-- What a thread sends is timely if it is written. -/
theorem covered_sent_iff (content message : V) (written : Bool) :
    (deliver written message senders).Covered content ↔
      (senders.connected = true -> written = true -> Timely content message senders) := by
  cases written with
  | true =>
      rw [covered_deliver_iff]
      exact ⟨fun timely connected _ => timely connected, fun timely connected =>
        timely connected rfl⟩
  | false =>
      refine iff_of_true ?_ (fun _ failed => nomatch failed)
      cases connected : senders.connected with
      | false =>
          rw [deliver_away connected]
          exact covered_of_disconnected connected
      | true =>
          rw [deliver_failed connected]
          exact covered_of_disconnected rfl

theorem covered_publish_iff (covered : senders.Covered content) (written : Bool) :
    (senders.publish written).Covered content ↔ PublishTimely content written senders := by
  unfold publish PublishTimely
  split
  · rename_i message holding
    dsimp only
    split
    · refine (covered_sent_iff content message written).trans ?_
      constructor
      · intro timely other same
        cases holding.symm.trans same
        exact timely
      · exact fun timely => timely message holding
    · rename_i unsent
      refine iff_of_true (fun _ => Or.inr (Or.inr (Or.inl rfl))) ?_
      intro other _ connected written
      rw [connected, written] at unsent
      exact absurd rfl unsent
  · rename_i other
    refine iff_of_true covered ?_
    exact fun message holding => absurd holding (other message)

end Publisher

/-! ## The other threads -/

section Threads

variable [DecidableEq ι] {content : V} {senders : SnapshotSenders V ι}

theorem covered_call (content : V) (thread : ι) (senders : SnapshotSenders V ι) :
    (senders.call thread).Covered content := by
  intro _
  refine Or.inr (Or.inr (Or.inr (Or.inr (Or.inr (Or.inr ⟨thread, Or.inl ?_⟩)))))
  exact Function.update_self _ _ _

theorem covered_connect (content : V) (thread : ι) (senders : SnapshotSenders V ι) :
    (senders.connect thread).Covered content :=
  covered_call content thread _

theorem covered_senderReads (covered : senders.Covered content) (thread : ι) :
    (senders.senderReads thread content).Covered content := by
  unfold senderReads
  split
  · intro _
    refine Or.inr (Or.inr (Or.inr (Or.inr (Or.inr (Or.inr ⟨thread, Or.inr ?_⟩)))))
    exact Function.update_self _ _ _
  · exact covered

def SendTimely (content : V) (thread : ι) (written : Bool) (senders : SnapshotSenders V ι) : Prop :=
  forall message, senders.sender thread = .holding message -> senders.connected = true ->
    written = true -> Timely content message (senders.setSender thread .idle)

theorem covered_senderSends_iff (covered : senders.Covered content) (thread : ι)
    (written : Bool) :
    (senders.senderSends thread written).Covered content ↔
      SendTimely content thread written senders := by
  unfold senderSends SendTimely
  split
  · rename_i message holding
    refine (covered_sent_iff content message written).trans ?_
    constructor
    · intro timely other same
      cases holding.symm.trans same
      exact timely
    · exact fun timely => timely message holding
  · rename_i other
    refine iff_of_true covered ?_
    exact fun message holding => absurd holding (other message)

end Threads
end SnapshotSenders

end Library
end Imx6Gateway
