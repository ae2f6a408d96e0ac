import Imx6Gateway.Board.SyncHistory

namespace Imx6Gateway
namespace Board

open Library

/-!
# Where a pending message goes

For each operation of the registration module: which messages are held
afterwards, which ones stay, and which one it can drop.  A held message is
the active one or a queued one.  Queued messages are copies that already fit
their buffers, so moving one to the active place changes nothing in it.
-/

/-- The copy of a message in the module's buffers. -/
def Pending.stored (entry : Pending) : Pending :=
  { entry with
    cmd := copyText maxCmdNameLen entry.cmd
    portId := copyText portIdLen entry.portId
    payload := copyText configSyncPayloadMax entry.payload }

theorem Pending.stored_stored (entry : Pending) : entry.stored.stored = entry.stored := by
  simp only [Pending.stored, copyText_copyText]

namespace ConfigSync

/-- The fields that say which messages are held and whether they are retried. -/
structure PendingView where
  seq : UInt32
  cmd : String
  portId : String
  payload : String
  mark : Nat
  queue : SlotTable Pending configSyncPendingMax
  retryable : Bool
  lastSendTimeMs : Int

def view (state : ConfigSync) : PendingView where
  seq := state.pendingSeq
  cmd := state.pendingCmd
  portId := state.pendingPortId
  payload := state.pendingSnapshot
  mark := state.pendingMark
  queue := state.queue
  retryable := state.retryable
  lastSendTimeMs := state.lastSendTimeMs

def PendingView.activeEntry (view : PendingView) : Option Pending :=
  if view.payload ≠ "" && view.seq ≠ 0 then
    some { seq := view.seq, cmd := view.cmd, portId := view.portId, payload := view.payload,
           mark := view.mark }
  else none

theorem activeEntry_eq_view (state : ConfigSync) : state.activeEntry = state.view.activeEntry := rfl

theorem activeEntry_congr {first second : ConfigSync} (same : first.view = second.view) :
    first.activeEntry = second.activeEntry := by
  rw [activeEntry_eq_view, activeEntry_eq_view, same]

theorem holds_congr {first second : ConfigSync} (same : first.view = second.view)
    (entry : Pending) : first.Holds entry ↔ second.Holds entry := by
  have queues : first.queue = second.queue := congrArg PendingView.queue same
  rw [Holds, Holds, activeEntry_congr same, queues]

@[simp]
theorem view_announceSyncing (connected : Bool) (state : ConfigSync) :
    (announceSyncing connected state).view = state.view := rfl

@[simp]
theorem view_announceAcked (done : String) (state : ConfigSync) :
    (announceAcked done state).view = state.view := by
  unfold announceAcked
  split <;> rfl

/-- Every queued message fits its buffers. -/
def QueueStored (state : ConfigSync) : Prop :=
  forall entry, entry ∈ state.queue -> entry.stored = entry

/-! ## Storing -/

theorem activeEntry_setActivePending (nowMs : Int) (entry : Pending) (state : ConfigSync)
    (nonzero : entry.seq ≠ 0) (nonempty : entry.payload ≠ "") :
    (setActivePending nowMs entry state).activeEntry = some entry.stored := by
  have kept : copyText configSyncPayloadMax entry.payload ≠ "" :=
    copyText_ne_empty nonempty (by decide)
  simp [activeEntry, hasActivePending, setActivePending, Pending.stored, nonzero, kept]

theorem holds_setActivePending {nowMs : Int} {entry held : Pending} {state : ConfigSync}
    (holds : (setActivePending nowMs entry state).Holds held) :
    held = entry.stored ∨ held ∈ state.queue := by
  rcases holds with active | queued
  · left
    simp only [activeEntry] at active
    split at active
    · cases active
      rfl
    · cases active
  · exact Or.inr queued

/-- The message that issuing another one with this seq and cmd overwrites. -/
def overwritten (seq : UInt32) (cmd : String) (state : ConfigSync) : Option Pending :=
  if !state.hasActivePending then none
  else if samePending seq cmd state then state.activeEntry
  else state.queue.first fun queued => queued.seq = seq && queued.cmd = cmd

theorem enqueuePending_cases (entry : Pending) (state : ConfigSync)
    (queueStored : state.QueueStored) :
    ((enqueuePending entry state).1 = .ok ∧
      (exists queue, (enqueuePending entry state).2 = { state with queue := queue } ∧
        entry.stored ∈ queue ∧
        (forall held, held ∈ queue -> held = entry.stored ∨ held ∈ state.queue) ∧
        forall held, held ∈ state.queue -> held ∈ queue ∨
          (state.queue.first fun queued => queued.seq = entry.seq && queued.cmd = entry.cmd) =
            some held)) ∨
    ((enqueuePending entry state).1 = .mqttQueueFull ∧ (enqueuePending entry state).2 = state ∧
      (state.queue.first fun queued => queued.seq = entry.seq && queued.cmd = entry.cmd) = none ∧
      none ∉ state.queue.slots) := by
  unfold enqueuePending
  split
  · rename_i queue modified
    rcases SlotTable.mem_of_modifyFirst modified with
      ⟨old, first, member, passes, changed, keeps, origins⟩
    simp only [Bool.and_eq_true, decide_eq_true_eq] at passes
    have cmdFits : copyText maxCmdNameLen entry.cmd = entry.cmd := by
      have fits := congrArg Pending.cmd (queueStored old member)
      rw [← passes.2]
      exact fits
    have same : { old with
        portId := copyText portIdLen entry.portId
        payload := copyText configSyncPayloadMax entry.payload
        mark := entry.mark } = entry.stored := by
      simp only [Pending.stored, cmdFits, passes]
    rw [same] at changed
    refine Or.inl ⟨rfl, queue, rfl, changed, ?_, ?_⟩
    · intro held inQueue
      rcases origins held inQueue with new | old
      · exact Or.inl (new.trans same)
      · exact Or.inr old
    · intro held inQueue
      rcases keeps held inQueue with dropped | stays
      · subst dropped
        exact Or.inr first
      · exact Or.inl stays
  · split
    · rename_i queue inserted
      rcases SlotTable.mem_of_insertFree inserted with ⟨new, keeps, origins⟩
      exact Or.inl ⟨rfl, queue, rfl, new, origins, fun held inQueue => Or.inl (keeps held inQueue)⟩
    · rename_i noMatch _ full
      exact Or.inr ⟨rfl, rfl, SlotTable.modifyFirst_eq_none_iff_first.mp noMatch,
        SlotTable.insertFree_eq_none.mp full⟩

/-- A stored message is retried at once, or the active one is left alone. -/
theorem storePending_active {nowMs : Int} {entry : Pending} {state : ConfigSync}
    (queueStored : state.QueueStored) :
    (storePending nowMs entry state).2.retryable = true ∨
      ((storePending nowMs entry state).2.retryable = state.retryable ∧
        (storePending nowMs entry state).2.activeEntry = state.activeEntry) := by
  unfold storePending
  split
  · exact Or.inl rfl
  · rcases enqueuePending_cases entry state queueStored with ⟨-, queue, same, -⟩ | ⟨-, same, -⟩
    · rw [same]
      exact Or.inr ⟨rfl, rfl⟩
    · rw [same]
      exact Or.inr ⟨rfl, rfl⟩

/-- Only the new message can be held in addition. -/
theorem holds_storePending {nowMs : Int} {entry held : Pending} {state : ConfigSync}
    (queueStored : state.QueueStored) (holds : (storePending nowMs entry state).2.Holds held) :
    held = entry.stored ∨ state.Holds held := by
  unfold storePending at holds
  split at holds
  · rcases holds_setActivePending holds with new | queued
    · exact Or.inl new
    · exact Or.inr (Or.inr queued)
  · rcases enqueuePending_cases entry state queueStored with ⟨-, queue, same, -, origins, -⟩ | ⟨-, same, -⟩
    · rw [same] at holds
      rcases holds with active | queued
      · exact Or.inr (Or.inl active)
      · rcases origins held queued with new | old
        · exact Or.inl new
        · exact Or.inr (Or.inr old)
    · rw [same] at holds
      exact Or.inr holds

/-- Only the overwritten message can be dropped. -/
theorem storePending_keeps {nowMs : Int} {entry held : Pending} {state : ConfigSync}
    (queueStored : state.QueueStored) (holds : state.Holds held) :
    (storePending nowMs entry state).2.Holds held ∨
      overwritten entry.seq entry.cmd state = some held := by
  unfold storePending overwritten
  cases active : state.hasActivePending with
  | false =>
      have noActive : state.activeEntry = none := by simp [activeEntry, active]
      rcases holds with isActive | queued
      · rw [noActive] at isActive
        cases isActive
      · exact Or.inl (Or.inr queued)
  | true =>
      simp only [Bool.not_true, Bool.false_or, Bool.false_eq_true, if_false]
      split
      · rcases holds with isActive | queued
        · exact Or.inr isActive
        · exact Or.inl (Or.inr queued)
      · rcases enqueuePending_cases entry state queueStored with
          ⟨-, queue, same, -, -, keeps⟩ | ⟨-, same, -⟩
        · rw [same]
          rcases holds with isActive | queued
          · exact Or.inl (Or.inl isActive)
          · rcases keeps held queued with stays | dropped
            · exact Or.inl (Or.inr stays)
            · exact Or.inr dropped
        · rw [same]
          exact Or.inl holds

/-- A message with a nonzero seq that was taken is held. -/
theorem storePending_holds (nowMs : Int) (entry : Pending) {state : ConfigSync}
    (queueStored : state.QueueStored) (nonempty : entry.payload ≠ "") (nonzero : entry.seq ≠ 0)
    (taken : (storePending nowMs entry state).1 = .ok) :
    (storePending nowMs entry state).2.Holds entry.stored := by
  unfold storePending at taken ⊢
  split
  · exact Or.inl (activeEntry_setActivePending nowMs entry state nonzero nonempty)
  · rename_i queued
    rw [if_neg queued] at taken
    rcases enqueuePending_cases entry state queueStored with ⟨-, queue, same, new, -, -⟩ | ⟨full, -⟩
    · rw [same]
      exact Or.inr new
    · rw [full] at taken
      cases taken

/-- A message that overwrites another one is held. -/
theorem storePending_holds_of_overwritten (nowMs : Int) {entry old : Pending} {state : ConfigSync}
    (queueStored : state.QueueStored) (nonempty : entry.payload ≠ "")
    (replaces : overwritten entry.seq entry.cmd state = some old) :
    (storePending nowMs entry state).2.Holds entry.stored := by
  unfold overwritten at replaces
  unfold storePending
  cases active : state.hasActivePending with
  | false =>
      rw [active] at replaces
      cases replaces
  | true =>
      rw [active] at replaces
      simp only [Bool.not_true, Bool.false_or, Bool.false_eq_true, if_false] at replaces ⊢
      split
      · rename_i same
        have nonzero : entry.seq ≠ 0 := by
          simp only [samePending, hasActivePending, Bool.and_eq_true, decide_eq_true_eq]
            at same active
          rw [← same.1]
          exact active.2
        exact Or.inl (activeEntry_setActivePending nowMs entry state nonzero nonempty)
      · rename_i other
        rw [if_neg other] at replaces
        rcases enqueuePending_cases entry state queueStored with
          ⟨-, queue, same, new, -, -⟩ | ⟨-, -, noMatch, -⟩
        · rw [same]
          exact Or.inr new
        · rw [noMatch] at replaces
          cases replaces

/-- The overwritten message carries the same seq and cmd. -/
theorem overwritten_spec {seq : UInt32} {cmd : String} {state : ConfigSync} {old : Pending}
    (replaces : overwritten seq cmd state = some old) :
    state.Holds old ∧ old.seq = seq ∧ old.cmd = cmd := by
  unfold overwritten at replaces
  split at replaces
  · cases replaces
  · split at replaces
    · rename_i same
      simp only [samePending, Bool.and_eq_true, decide_eq_true_eq] at same
      refine ⟨Or.inl replaces, ?_⟩
      unfold activeEntry at replaces
      split at replaces
      · cases replaces
        exact same
      · cases replaces
    · rcases SlotTable.mem_of_first replaces with ⟨member, passes⟩
      simp only [Bool.and_eq_true, decide_eq_true_eq] at passes
      exact ⟨Or.inr member, passes⟩

/-- The message is refused: it is neither active nor queued already, and
every slot is used. -/
def queueFullFor (seq : UInt32) (cmd : String) (state : ConfigSync) : Bool :=
  state.hasActivePending && !samePending seq cmd state &&
    (state.queue.first fun queued => queued.seq = seq && queued.cmd = cmd).isNone &&
    !state.queue.slots.contains none

theorem enqueuePending_code (entry : Pending) (state : ConfigSync) :
    (enqueuePending entry state).1 =
      if (state.queue.first fun queued => queued.seq = entry.seq && queued.cmd = entry.cmd).isNone &&
          !state.queue.slots.contains none then .mqttQueueFull
      else .ok := by
  unfold enqueuePending
  split
  · rename_i queue modified
    rcases SlotTable.mem_of_modifyFirst modified with ⟨old, first, -⟩
    simp only [first, Option.isNone_some, Bool.false_and, Bool.false_eq_true, if_false]
  · rename_i noMatch
    have none := SlotTable.modifyFirst_eq_none_iff_first.mp noMatch
    split
    · rename_i queue inserted
      rcases SlotTable.insertFree_eq_some inserted with ⟨before, after, split, -⟩
      simp [split]
    · rename_i full
      simp [none, SlotTable.insertFree_eq_none.mp full]

theorem storePending_ok_iff {nowMs : Int} {entry : Pending} {state : ConfigSync} :
    (storePending nowMs entry state).1 = .ok ↔ queueFullFor entry.seq entry.cmd state = false := by
  unfold storePending queueFullFor
  split
  · rename_i direct
    simp only [Bool.or_eq_true, Bool.not_eq_true'] at direct
    rcases direct with idle | same
    · simp [idle]
    · simp [same]
  · rename_i queued
    simp only [Bool.or_eq_true, Bool.not_eq_true', not_or, Bool.not_eq_false,
      Bool.not_eq_true] at queued
    rw [enqueuePending_code, queued.1, queued.2]
    simp only [Bool.not_false, Bool.and_true, Bool.true_and]
    split
    · rename_i full
      rw [full]
      simp only [reduceCtorEq]
    · rename_i room
      rw [Bool.not_eq_true] at room
      rw [room]
      exact ⟨fun _ => rfl, fun _ => rfl⟩

/-- A refused message changes nothing. -/
theorem storePending_of_full {nowMs : Int} {entry : Pending} {state : ConfigSync}
    (queueStored : state.QueueStored) (full : queueFullFor entry.seq entry.cmd state = true) :
    (storePending nowMs entry state).2 = state := by
  have refused : (storePending nowMs entry state).1 ≠ .ok := by
    intro taken
    rw [storePending_ok_iff.mp taken] at full
    cases full
  unfold storePending at refused ⊢
  split
  · rename_i direct
    rw [if_pos direct] at refused
    exact absurd rfl refused
  · rename_i queued
    rw [if_neg queued] at refused
    rcases enqueuePending_cases entry state queueStored with ⟨taken, -⟩ | ⟨-, same, -⟩
    · exact absurd taken refused
    · exact same

/-- A message that overwrites another one is not refused. -/
theorem room_of_overwritten {seq : UInt32} {cmd : String} {state : ConfigSync} {old : Pending}
    (replaces : overwritten seq cmd state = some old) : queueFullFor seq cmd state = false := by
  unfold overwritten at replaces
  unfold queueFullFor
  split at replaces
  · cases replaces
  · split at replaces
    · rename_i same
      rw [same]
      simp only [Bool.not_true, Bool.and_false, Bool.false_and]
    · rw [replaces]
      simp only [Option.isNone_some, Bool.and_false, Bool.false_and]

theorem toInt_eq_ok_iff (code : DataSendCode) :
    code.toInt = DataSendCode.ok.toInt ↔ code = .ok := by
  cases code <;> decide

/-! ## Promotion -/

theorem view_promoteNextPending_congr (nowMs : Int) {first second : ConfigSync}
    (same : first.view = second.view) :
    (promoteNextPending nowMs first).view = (promoteNextPending nowMs second).view := by
  have active : first.hasActivePending = second.hasActivePending := by
    have payloads : first.pendingSnapshot = second.pendingSnapshot :=
      congrArg PendingView.payload same
    have seqs : first.pendingSeq = second.pendingSeq := congrArg PendingView.seq same
    rw [hasActivePending, hasActivePending, payloads, seqs]
  have queues : first.queue = second.queue := congrArg PendingView.queue same
  unfold promoteNextPending
  rw [active, queues]
  split
  · exact same
  · split
    · rfl
    · exact same

theorem promoteNextPending_of_active {nowMs : Int} {state : ConfigSync}
    (active : state.hasActivePending = true) : promoteNextPending nowMs state = state := by
  rw [promoteNextPending, if_pos active]

theorem holds_promoteNextPending {nowMs : Int} {held : Pending} {state : ConfigSync}
    (queueStored : state.QueueStored) (holds : (promoteNextPending nowMs state).Holds held) :
    state.Holds held := by
  unfold promoteNextPending at holds
  split at holds
  · exact holds
  · split at holds
    · rename_i entry queue taken
      rcases SlotTable.mem_of_takeFirst taken with ⟨-, member, -, -, origins⟩
      rcases holds_setActivePending holds with promoted | queued
      · rw [promoted, queueStored entry member]
        exact Or.inr member
      · exact Or.inr (origins held queued)
    · exact holds

/-- Promotion loses a message only if its seq is zero. -/
theorem promoteNextPending_keeps (nowMs : Int) {held : Pending} {state : ConfigSync}
    (queueStored : state.QueueStored)
    (nonempty : forall entry, entry ∈ state.queue -> entry.payload ≠ "")
    (holds : state.Holds held) (nonzero : held.seq ≠ 0) :
    (promoteNextPending nowMs state).Holds held := by
  unfold promoteNextPending
  split
  · exact holds
  · rename_i idle
    have noActive : state.activeEntry = none := by simp [activeEntry, idle]
    split
    · rename_i entry queue taken
      rcases SlotTable.mem_of_takeFirst taken with ⟨-, member, -, keeps, -⟩
      rcases holds with active | queued
      · rw [noActive] at active
        cases active
      · rcases keeps held queued with promoted | stays
        · subst promoted
          have active := activeEntry_setActivePending nowMs held { state with queue := queue }
            nonzero (nonempty held member)
          rw [queueStored held member] at active
          exact Or.inl active
        · exact Or.inr stays
    · exact holds

/-- A promoted message may be retried. -/
theorem promoteNextPending_retryable {nowMs : Int} {state : ConfigSync} :
    promoteNextPending nowMs state = state ∨
      (promoteNextPending nowMs state).retryable = true := by
  unfold promoteNextPending
  split
  · exact Or.inl rfl
  · split
    · exact Or.inr rfl
    · exact Or.inl rfl

/-! ## Acknowledgements -/

/-- The queued message an acknowledgement removes. -/
def queuedMatch (ack : Ack) (state : ConfigSync) : Option Pending :=
  if !activeMatch ack state && ack.seq ≠ 0 then
    state.queue.first fun queued => queued.seq = ack.seq && (ack.cmd = "" || queued.cmd = ack.cmd)
  else none

theorem queuedMatch_spec {ack : Ack} {state : ConfigSync} {entry : Pending}
    (found : queuedMatch ack state = some entry) :
    entry ∈ state.queue ∧ entry.seq = ack.seq ∧ ack.seq ≠ 0 ∧
      (ack.cmd = "" ∨ entry.cmd = ack.cmd) := by
  unfold queuedMatch at found
  split at found
  · rename_i searched
    rcases SlotTable.mem_of_first found with ⟨member, passes⟩
    simp only [Bool.and_eq_true, Bool.or_eq_true, decide_eq_true_eq] at passes searched
    exact ⟨member, passes.1, searched.2, passes.2⟩
  · cases found

/-- `queued_match` and the state it leaves. -/
theorem matchQueued_cases (ack : Ack) (state : ConfigSync) :
    ((matchQueued ack state) = (false, state) ∧ queuedMatch ack state = none) ∨
    exists entry queue, matchQueued ack state = (true, { state with queue := queue }) ∧
      queuedMatch ack state = some entry ∧
      (forall held, held ∈ state.queue -> held = entry ∨ held ∈ queue) ∧
      forall held, held ∈ queue -> held ∈ state.queue := by
  unfold matchQueued queuedMatch removeQueuedPending
  split
  · split
    · rename_i entry queue taken
      rcases SlotTable.mem_of_takeFirst taken with ⟨first, -, -, keeps, origins⟩
      exact Or.inr ⟨entry, queue, rfl, first, keeps, origins⟩
    · rename_i missing
      refine Or.inl ⟨rfl, ?_⟩
      rw [SlotTable.first_eq_none]
      exact SlotTable.takeFirst_eq_none.mp missing
  · exact Or.inl ⟨rfl, rfl⟩

theorem holds_matchQueued {ack : Ack} {state : ConfigSync} {held : Pending}
    (holds : (matchQueued ack state).2.Holds held) : state.Holds held := by
  rcases matchQueued_cases ack state with ⟨same, -⟩ | ⟨entry, queue, same, -, -, origins⟩
  · rw [same] at holds
    exact holds
  · rw [same] at holds
    rcases holds with active | queued
    · exact Or.inl active
    · exact Or.inr (origins held queued)

theorem matchQueued_keeps {ack : Ack} {state : ConfigSync} {held : Pending}
    (holds : state.Holds held) :
    (matchQueued ack state).2.Holds held ∨ queuedMatch ack state = some held := by
  rcases matchQueued_cases ack state with ⟨same, -⟩ | ⟨entry, queue, same, found, keeps, -⟩
  · rw [same]
    exact Or.inl holds
  · rw [same]
    rcases holds with active | queued
    · exact Or.inl (Or.inl active)
    · rcases keeps held queued with removed | stays
      · subst removed
        exact Or.inr found
      · exact Or.inl (Or.inr stays)

/-- The state with the matching queued message removed and the flag taken over. -/
def noted (ack : Ack) (state : ConfigSync) : ConfigSync :=
  { (matchQueued ack state).2 with retryable := ack.retryable }

theorem holds_noted (ack : Ack) (state : ConfigSync) (held : Pending) :
    (noted ack state).Holds held ↔ (matchQueued ack state).2.Holds held := Iff.rfl

theorem queue_noted (ack : Ack) (state : ConfigSync) (entry : Pending)
    (member : entry ∈ (noted ack state).queue) : entry ∈ state.queue := by
  have removed : entry ∈ (matchQueued ack state).2.queue := member
  rcases matchQueued_cases ack state with ⟨same, -⟩ | ⟨_, queue, same, -, -, origins⟩
  · rw [same] at removed
    exact removed
  · rw [same] at removed
    exact origins entry removed

theorem activeEntry_noted (ack : Ack) (state : ConfigSync) :
    (noted ack state).activeEntry = state.activeEntry := by
  have removed : (matchQueued ack state).2.activeEntry = state.activeEntry := by
    rcases matchQueued_cases ack state with ⟨same, -⟩ | ⟨entry, queue, same, -⟩
    · rw [same]
    · rw [same]
      rfl
  exact removed

/-- The held messages and the retry flag after an acknowledgement that is not
stale. -/
def settled (nowMs : Int) (ack : Ack) (state : ConfigSync) : ConfigSync :=
  if ack.ok then
    if activeMatch ack state then promoteNextPending nowMs (clearActive (noted ack state))
    else if isSnapshotCmd ack.cmd then promoteNextPending nowMs (noted ack state)
    else noted ack state
  else noted ack state

theorem view_handleAck (nowMs : Int) (ack : Ack) (state : ConfigSync) :
    (handleAck nowMs ack state).state.view =
      if staleSnapshotAck ack state then state.view else (settled nowMs ack state).view := by
  unfold handleAck
  dsimp only
  split
  · rename_i stale
    simp only [staleSnapshotAck, Bool.and_eq_true, Bool.not_eq_true'] at stale
    rcases matchQueued_cases ack state with ⟨same, -⟩ | ⟨entry, queue, same, -⟩
    · rw [same]
    · rw [same] at stale
      cases stale.2
  · unfold settled
    cases ack.ok with
    | false =>
        simp only [Bool.false_eq_true, if_false]
        rfl
    | true =>
        simp only [if_true, applyPositive]
        split
        · rename_i snapshot
          rw [view_announceAcked]
          split <;> exact view_promoteNextPending_congr nowMs rfl
        · split
          · rw [view_announceAcked]
            exact view_promoteNextPending_congr nowMs rfl
          · rw [view_announceAcked]
            rfl

theorem holds_clearActive {state : ConfigSync} {held : Pending}
    (holds : (clearActive state).Holds held) : held ∈ state.queue := by
  rcases holds with active | queued
  · have none : (clearActive state).activeEntry = none := rfl
    rw [none] at active
    cases active
  · exact queued

/-- An acknowledgement adds no message. -/
theorem holds_handleAck {nowMs : Int} {ack : Ack} {state : ConfigSync} {held : Pending}
    (queueStored : state.QueueStored) (holds : (handleAck nowMs ack state).state.Holds held) :
    state.Holds held := by
  have same := view_handleAck nowMs ack state
  have notedStored : (noted ack state).QueueStored :=
    fun entry member => queueStored entry (queue_noted ack state entry member)
  split at same
  · exact (holds_congr same held).mp holds
  · have after : (settled nowMs ack state).Holds held := (holds_congr same held).mp holds
    have inNoted : (noted ack state).Holds held := by
      unfold settled at after
      split at after
      · split at after
        · have cleared : (clearActive (noted ack state)).Holds held :=
            holds_promoteNextPending notedStored after
          exact Or.inr (holds_clearActive cleared)
        · split at after
          · exact holds_promoteNextPending notedStored after
          · exact after
      · exact after
    exact holds_matchQueued ((holds_noted ack state held).mp inNoted)

/-- Which message an acknowledgement can take away. -/
theorem handleAck_keeps {nowMs : Int} {ack : Ack} {state : ConfigSync} {held : Pending}
    (queueStored : state.QueueStored)
    (nonempty : forall entry, entry ∈ state.queue -> entry.payload ≠ "")
    (holds : state.Holds held) (nonzero : held.seq ≠ 0) :
    (handleAck nowMs ack state).state.Holds held ∨ queuedMatch ack state = some held ∨
      (ack.ok = true ∧ activeMatch ack state = true ∧ state.activeEntry = some held) := by
  have same := view_handleAck nowMs ack state
  have notedStored : (noted ack state).QueueStored :=
    fun entry member => queueStored entry (queue_noted ack state entry member)
  have notedNonempty : forall entry, entry ∈ (noted ack state).queue -> entry.payload ≠ "" :=
    fun entry member => nonempty entry (queue_noted ack state entry member)
  split at same
  · exact Or.inl ((holds_congr same held).mpr holds)
  · rcases matchQueued_keeps holds with kept | removed
    · have inNoted : (noted ack state).Holds held := (holds_noted ack state held).mpr kept
      by_cases cleared : ack.ok = true ∧ activeMatch ack state = true ∧
          state.activeEntry = some held
      · exact Or.inr (Or.inr cleared)
      · left
        apply (holds_congr same held).mpr
        unfold settled
        split
        · rename_i positive
          split
          · rename_i matched
            have queued : held ∈ (noted ack state).queue := by
              rcases inNoted with active | queued
              · rw [activeEntry_noted] at active
                exact absurd ⟨positive, matched, active⟩ cleared
              · exact queued
            exact promoteNextPending_keeps _ notedStored
              notedNonempty (Or.inr queued) nonzero
          · split
            · exact promoteNextPending_keeps _ notedStored notedNonempty inNoted nonzero
            · exact inNoted
        · exact inNoted
    · exact Or.inr (Or.inl removed)

/-! ## Retries -/

/-- The tick will try to send the active message again. -/
def retryDue (env : Surroundings) (state : ConfigSync) : Bool :=
  state.hasActivePending && env.mqttConnected && state.retryable &&
    configSyncRetryIntervalMs ≤ env.nowMs - state.lastSendTimeMs

/-- The text a retry sends. -/
def retryText (library : JsonC) (state : ConfigSync) (root : Json) : String :=
  library.print (restamp (state.syncSeq + 1) state.configVersion root)

theorem sendPending_cases (library : JsonC) (env : Surroundings) (seq : UInt32)
    {state : ConfigSync} (nonempty : state.pendingSnapshot ≠ "") :
    (library.parse state.pendingSnapshot = none ∧
      (sendPending library env seq state).effects = [] ∧
      (sendPending library env seq state).state = state) ∨
    (exists root info, library.parse state.pendingSnapshot = some root ∧
      (sendPending library env seq state).effects =
        [.offlinePublishOrCache mqttGatewayRegisterTopic
          (library.print (restamp seq state.configVersion root)) info] ∧
      (sendPending library env seq state).state.view =
        { state.view with
          seq := seq
          payload := copyText configSyncPayloadMax
            (library.print (restamp seq state.configVersion root))
          lastSendTimeMs := env.nowMs }) := by
  unfold sendPending
  rw [if_neg nonempty]
  split
  · rename_i failed
    exact Or.inl ⟨failed, rfl, rfl⟩
  · rename_i root parsed
    exact Or.inr ⟨root, _, parsed, rfl, rfl⟩

theorem promoteNextPending_lastSend {nowMs : Int} {state : ConfigSync}
    (idle : state.hasActivePending = false)
    (promoted : (promoteNextPending nowMs state).hasActivePending = true) :
    (promoteNextPending nowMs state).lastSendTimeMs = nowMs := by
  unfold promoteNextPending at promoted ⊢
  rw [idle] at promoted ⊢
  simp only [Bool.false_eq_true, if_false] at promoted ⊢
  split at promoted
  · rfl
  · rw [idle] at promoted
    cases promoted

/-- The state in which a retry calls `sendPending`. -/
def retried (state : ConfigSync) : ConfigSync :=
  announceRetry (nextSeq { state with retryCount := state.retryCount + 1 }).2

theorem retried_fields (state : ConfigSync) :
    (retried state).view = state.view ∧ (retried state).configVersion = state.configVersion := by
  unfold retried announceRetry
  split <;> exact ⟨rfl, rfl⟩

theorem tick_of_due (library : JsonC) (env : Surroundings) (state : ConfigSync)
    (due : retryDue env state = true) :
    tick library env state =
      ⟨0, (sendPending library env (state.syncSeq + 1) (retried state)).state,
        (sendPending library env (state.syncSeq + 1) (retried state)).effects ++
          [(sendPending library env (state.syncSeq + 1) (retried state)).state.publishState]⟩ := by
  simp only [retryDue, Bool.and_eq_true, decide_eq_true_eq] at due
  rcases due with ⟨⟨⟨active, connected⟩, retryable⟩, late⟩
  have pastTimeout : ¬ env.nowMs - state.lastSendTimeMs < configSyncAckTimeoutMs := by
    simp only [configSyncRetryIntervalMs, configSyncAckTimeoutMs] at late ⊢
    omega
  unfold tick
  dsimp only
  rw [promoteNextPending_of_active active, if_neg (by rw [active]; exact Bool.false_ne_true),
    if_neg (by rw [connected]; exact Bool.false_ne_true),
    if_neg (by rw [retryable]; exact Bool.false_ne_true), if_neg pastTimeout,
    if_neg (not_lt.mpr late)]
  rfl

/-- A tick that is not due leaves the promoted state's messages alone. -/
theorem tick_of_not_due (library : JsonC) (env : Surroundings) (state : ConfigSync)
    (early : (promoteNextPending env.nowMs state).hasActivePending = true ->
      env.mqttConnected = true -> (promoteNextPending env.nowMs state).retryable = true ->
        env.nowMs - (promoteNextPending env.nowMs state).lastSendTimeMs <
          configSyncRetryIntervalMs) :
    (tick library env state).effects.any Effect.isPublish = false ∧
      (tick library env state).state.view = (promoteNextPending env.nowMs state).view := by
  unfold tick
  dsimp only
  generalize promoteNextPending env.nowMs state = promoted at early ⊢
  split
  · exact ⟨rfl, rfl⟩
  split
  · split <;> exact ⟨rfl, rfl⟩
  split
  · exact ⟨rfl, rfl⟩
  split
  · exact ⟨rfl, rfl⟩
  split
  · split <;> exact ⟨rfl, rfl⟩
  · rename_i active connected retryable _ late
    simp only [Bool.not_eq_true', Bool.not_eq_false] at active connected retryable
    exact absurd (early active connected retryable) late

/-- What a tick can do to the pending messages: nothing but promotion, a
failed attempt on a text that does not parse, or a retry. -/
theorem tick_cases (library : JsonC) (env : Surroundings) (state : ConfigSync) :
    (retryDue env state = false ∧
      (tick library env state).effects.any Effect.isPublish = false ∧
      (tick library env state).state.view = (promoteNextPending env.nowMs state).view) ∨
    (retryDue env state = true ∧ library.parse state.pendingSnapshot = none ∧
      (tick library env state).effects.any Effect.isPublish = false ∧
      (tick library env state).state.view = state.view) ∨
    (exists root info state', retryDue env state = true ∧
      library.parse state.pendingSnapshot = some root ∧
      (tick library env state).effects =
        [.offlinePublishOrCache mqttGatewayRegisterTopic (retryText library state root) info,
          publishState state'] ∧
      (tick library env state).state.view =
        { state.view with
          seq := state.syncSeq + 1
          payload := copyText configSyncPayloadMax (retryText library state root)
          lastSendTimeMs := env.nowMs }) := by
  cases due : retryDue env state with
  | false =>
      refine Or.inl ⟨rfl, tick_of_not_due library env state ?_⟩
      intro active connected retryable
      by_cases wasActive : state.hasActivePending = true
      · rw [promoteNextPending_of_active wasActive] at retryable ⊢
        simp only [retryDue, wasActive, connected, retryable, Bool.and_self, Bool.true_and,
          decide_eq_false_iff_not] at due
        exact not_le.mp due
      · rw [promoteNextPending_lastSend (by simpa using wasActive) active, sub_self]
        decide
  | true =>
      have active : state.hasActivePending = true := by
        simp only [retryDue, Bool.and_eq_true] at due
        exact due.1.1.1
      rcases retried_fields state with ⟨sameView, sameVersion⟩
      have sameText : (retried state).pendingSnapshot = state.pendingSnapshot :=
        congrArg PendingView.payload sameView
      have nonempty : (retried state).pendingSnapshot ≠ "" := by
        simp only [hasActivePending, Bool.and_eq_true, decide_eq_true_eq] at active
        rw [sameText]
        exact active.1
      right
      rw [tick_of_due library env state due]
      rcases sendPending_cases library env (state.syncSeq + 1) nonempty with
        ⟨failed, effects, unchanged⟩ | ⟨root, info, parsed, effects, sent⟩
      · left
        rw [sameText] at failed
        refine ⟨rfl, failed, ?_, ?_⟩
        · rw [effects]
          rfl
        · rw [unchanged]
          exact sameView
      · right
        rw [sameText] at parsed
        rw [sameVersion] at effects sent
        refine ⟨root, info, (sendPending library env (state.syncSeq + 1) (retried state)).state,
          rfl, parsed, ?_, ?_⟩
        · rw [effects]
          rfl
        · rw [sent, sameView]
          rfl

end ConfigSync
end Board
end Imx6Gateway
