import Imx6Gateway.Board.SyncLedger
import Imx6Gateway.Library.ArrivalOrder

namespace Imx6Gateway
namespace Board

open Library

/-!
# The order in which queued registrations become active

`promote_next_pending_locked` takes the first used element of the array, and
`enqueue_pending_locked` fills the first unused one.  An element that a
promotion or an acknowledgement has emptied is filled again in front of the
registrations that still wait, and the new one then becomes active first.

The order of arrival is kept beside the module.  A registration that is
issued again with its seq and cmd keeps its place.
-/

namespace ConfigSync

variable (library : JsonC)

/-- The state in which a step calls `promote_next_pending_locked`. -/
def promotionCall (state : ConfigSync) : SyncEvent -> Option ConfigSync
  | .tick _ => some state
  | .handleAckJson _ payload =>
      (parseAck library payload).bind fun ack =>
        if staleSnapshotAck ack state || !ack.ok then none
        else if activeMatch ack state then some (clearActive (noted ack state))
        else if isSnapshotCmd ack.cmd then some (noted ack state)
        else none
  | .markSent _ _ _ _ _ | .publishLatestSnapshot _ _ _ | .nextSeq => none

/-- The element of the array that the call makes active. -/
def promotedCell (state : ConfigSync) : Option Nat :=
  if state.hasActivePending then none else state.queue.firstUsed

/-- The unused element that `enqueue_pending_locked` fills, when a message
with this seq and cmd is issued. -/
def queuedCell (state : ConfigSync) (seq : UInt32) (cmd : String) : Option Nat :=
  if !state.hasActivePending || samePending seq cmd state ||
      (state.queue.first fun queued => queued.seq = seq && queued.cmd = cmd).isSome then none
  else state.queue.firstFree

theorem promoteNextPending_promoted {state : ConfigSync} {cell : Nat}
    (promoted : state.promotedCell = some cell) (nowMs : Int) :
    exists entry queue, state.queue.record cell = some entry ∧
      promoteNextPending nowMs state = setActivePending nowMs entry { state with queue := queue } ∧
      forall other, queue.record other = if other = cell then none else state.queue.record other := by
  rw [promotedCell] at promoted
  split at promoted
  · cases promoted
  · rename_i inactive
    cases taken : state.queue.takeFirst (fun _ => true) with
    | none =>
        have used := List.find?_some promoted
        rcases Option.isSome_iff_exists.mp used with ⟨entry, found⟩
        have stored : entry ∈ state.queue :=
          List.mem_of_getElem? (Option.join_eq_some_iff.mp found)
        cases SlotTable.takeFirst_eq_none.mp taken entry stored
    | some pair =>
        rcases SlotTable.takeFirst_any taken with ⟨index, first, found, rest⟩
        cases promoted.symm.trans first
        refine ⟨pair.1, pair.2, found, ?_, rest⟩
        rw [promoteNextPending, if_neg inactive, taken]

theorem isUsed_promoteNextPending {nowMs : Int} {state : ConfigSync} {cell : Nat}
    (used : (promoteNextPending nowMs state).queue.isUsed cell = true) :
    state.queue.isUsed cell = true := by
  rw [promoteNextPending] at used
  split at used
  · exact used
  · split at used
    · rename_i entry queue taken
      exact SlotTable.isUsed_of_takeFirst taken used
    · exact used

theorem isUsed_noted {ack : Ack} {state : ConfigSync} {cell : Nat}
    (used : (noted ack state).queue.isUsed cell = true) : state.queue.isUsed cell = true := by
  change (matchQueued ack state).2.queue.isUsed cell = true at used
  rw [matchQueued] at used
  split at used
  · rw [removeQueuedPending] at used
    split at used
    · rename_i entry queue taken
      exact SlotTable.isUsed_of_takeFirst taken used
    · exact used
  · exact used

/-- The registrations that wait when the call is made waited before the step. -/
theorem isUsed_promotionCall {state call : ConfigSync} {event : SyncEvent} {cell : Nat}
    (called : promotionCall library state event = some call)
    (used : call.queue.isUsed cell = true) : state.queue.isUsed cell = true := by
  cases event with
  | tick env =>
      cases called
      exact used
  | handleAckJson nowMs payload =>
      rcases Option.bind_eq_some_iff.mp called with ⟨ack, -, chosen⟩
      split at chosen
      · cases chosen
      · split at chosen
        · cases chosen
          exact isUsed_noted used
        · split at chosen
          · cases chosen
            exact isUsed_noted used
          · cases chosen
  | markSent env seq cmd payload portId => cases called
  | publishLatestSnapshot env seq exported => cases called
  | nextSeq => cases called

theorem queue_of_view {first second : ConfigSync} (same : first.view = second.view) :
    first.queue = second.queue :=
  congrArg PendingView.queue same

theorem queue_handleAck (nowMs : Int) (ack : Ack) (state : ConfigSync) :
    (handleAck nowMs ack state).state.queue =
      if staleSnapshotAck ack state then state.queue else (settled nowMs ack state).queue := by
  have same := congrArg PendingView.queue (view_handleAck nowMs ack state)
  change (handleAck nowMs ack state).state.queue = _ at same
  rw [same]
  split <;> rfl

theorem isUsed_settled {nowMs : Int} {ack : Ack} {state : ConfigSync} {cell : Nat}
    (used : (settled nowMs ack state).queue.isUsed cell = true) :
    state.queue.isUsed cell = true := by
  rw [settled] at used
  split at used
  · split at used
    · have cleared : (clearActive (noted ack state)).queue.isUsed cell = true :=
        isUsed_promoteNextPending used
      exact isUsed_noted cleared
    · split at used
      · exact isUsed_noted (isUsed_promoteNextPending used)
      · exact isUsed_noted used
  · exact isUsed_noted used

/-- Only the first unused element is filled. -/
theorem isUsed_storePending {nowMs : Int} {entry : Pending} {state : ConfigSync} {cell : Nat}
    (used : (storePending nowMs entry state).2.queue.isUsed cell = true) :
    state.queue.isUsed cell = true ∨ state.queuedCell entry.seq entry.cmd = some cell := by
  rw [storePending] at used
  split at used
  · exact Or.inl used
  · rename_i queued
    rw [enqueuePending] at used
    split at used
    · rename_i queue modified
      rw [SlotTable.isUsed_modifyFirst modified] at used
      exact Or.inl used
    · rename_i missing
      have unknown := SlotTable.modifyFirst_eq_none_iff_first.mp missing
      split at used
      · rename_i queue inserted
        rcases SlotTable.isUsed_insertFree inserted with ⟨index, free, filled⟩
        rcases (filled cell).mp used with here | before
        · right
          rw [here, queuedCell, unknown, Option.isSome_none, Bool.or_false, if_neg queued]
          exact free
        · exact Or.inl before
      · exact Or.inl used

/-- The step makes the registration of that element active. -/
theorem view_of_promotion {world : SyncWorld} {event : SyncEvent} {call : ConfigSync} {cell : Nat}
    (called : promotionCall library world.sync event = some call)
    (promoted : call.promotedCell = some cell) :
    exists nowMs entry queue, call.queue.record cell = some entry ∧
      (SyncWorld.step library world event).sync.view =
        (setActivePending nowMs entry { call with queue := queue }).view := by
  suffices taken : exists nowMs, (SyncWorld.step library world event).sync.view =
      (promoteNextPending nowMs call).view by
    rcases taken with ⟨nowMs, view⟩
    rcases promoteNextPending_promoted promoted nowMs with ⟨entry, queue, found, same, -⟩
    exact ⟨nowMs, entry, queue, found, view.trans (congrArg ConfigSync.view same)⟩
  have inactive : call.hasActivePending = false := by
    rw [promotedCell] at promoted
    split at promoted
    · cases promoted
    · rename_i inactive
      exact Bool.eq_false_iff.mpr inactive
  cases event with
  | tick env =>
      cases called
      have notDue : retryDue env world.sync ≠ true := by
        simp [retryDue, inactive]
      rcases SyncWorld.step_tick_cases library world env with
        ⟨-, view, -⟩ | ⟨due, -⟩ | ⟨root, due, -⟩
      · exact ⟨env.nowMs, view⟩
      · exact absurd due notDue
      · exact absurd due notDue
  | handleAckJson nowMs payload =>
      rcases Option.bind_eq_some_iff.mp called with ⟨ack, parsed, chosen⟩
      have answered : (SyncWorld.step library world (.handleAckJson nowMs payload)).sync =
          (handleAck nowMs ack world.sync).state := by
        change (handleAckJson library nowMs payload world.sync).state = _
        rw [handleAckJson, parsed]
      refine ⟨nowMs, ?_⟩
      rw [answered, view_handleAck]
      split at chosen
      · cases chosen
      · rename_i accepted
        rw [Bool.or_eq_true, not_or, Bool.not_eq_true', Bool.not_eq_false] at accepted
        rw [if_neg accepted.1, settled, if_pos accepted.2]
        split at chosen
        · rename_i matched
          cases chosen
          rw [if_pos matched]
        · rename_i unmatched
          split at chosen
          · rename_i snapshot
            cases chosen
            rw [if_neg unmatched, if_pos snapshot]
          · cases chosen
  | markSent env seq cmd payload portId => cases called
  | publishLatestSnapshot env seq exported => cases called
  | nextSeq => cases called

end ConfigSync

/-! ## Runs with the order of arrival -/

/-- The module with the elements of its array in the order in which they were
filled. -/
structure WaitingLine where
  world : SyncWorld
  order : List Nat
deriving DecidableEq

namespace WaitingLine

open ConfigSync

variable (library : JsonC)

def step (line : WaitingLine) (event : SyncEvent) : WaitingLine :=
  let next := SyncWorld.step library line.world event
  ⟨next, SlotTable.follow line.order next.sync.queue⟩

def system : TransitionSystem WaitingLine SyncEvent where
  initial := ⟨SyncWorld.initial, []⟩
  step := step library

/-- If the step makes a queued registration active, it is the one that has
been waiting longest. -/
def PromotesInTurn (line : WaitingLine) (event : SyncEvent) : Prop :=
  forall call, call ∈ promotionCall library line.world.sync event ->
    forall cell, cell ∈ call.promotedCell ->
      (line.order.filter call.queue.isUsed).head? = some cell

instance promotesInTurnDecidable (line : WaitingLine) (event : SyncEvent) :
    Decidable (PromotesInTurn library line event) :=
  inferInstanceAs (Decidable (forall call, call ∈ _ -> forall cell, cell ∈ _ -> _ = _))

/-- No registration waits behind the element that is filled. -/
def NoneBehind (state : ConfigSync) (seq : UInt32) (cmd : String) : Prop :=
  forall cell, cell ∈ state.queuedCell seq cmd ->
    forall other, other ∈ List.range configSyncPendingMax ->
      state.queue.isUsed other = true -> other < cell

instance noneBehindDecidable (state : ConfigSync) (seq : UInt32) (cmd : String) :
    Decidable (NoneBehind state seq cmd) :=
  inferInstanceAs (Decidable (forall cell, cell ∈ _ -> _))

/-- A registration is queued only behind those that wait. -/
def QueuesBehind (line : WaitingLine) : SyncEvent -> Prop
  | .markSent _ seq cmd payload _ => payload ≠ "" -> NoneBehind line.world.sync seq cmd
  | .publishLatestSnapshot _ seq exported =>
      SyncWorld.latestSnapshotText library line.world.sync exported ≠ none ->
        NoneBehind line.world.sync seq "config_snapshot"
  | .handleAckJson _ _ | .tick _ | .nextSeq => True

instance queuesBehindDecidable (line : WaitingLine) :
    forall event, Decidable (QueuesBehind library line event)
  | .markSent _ _ _ _ _ => inferInstanceAs (Decidable (_ -> _))
  | .publishLatestSnapshot _ _ _ => inferInstanceAs (Decidable (_ -> _))
  | .handleAckJson _ _ | .tick _ | .nextSeq => isTrue trivial

/-- The array keeps the order of arrival. -/
structure Sound (line : WaitingLine) : Prop where
  lists : SlotTable.Lists line.order line.world.sync.queue
  inOrder : SlotTable.InOrder line.order

theorem sound_of_behind {line : WaitingLine} (sound : line.Sound) (next : SyncWorld)
    (behind : forall new, next.sync.queue.isUsed new = true ->
      line.world.sync.queue.isUsed new = false ->
        forall old, line.world.sync.queue.isUsed old = true -> old < new) :
    Sound ⟨next, SlotTable.follow line.order next.sync.queue⟩ where
  lists := SlotTable.lists_follow line.order next.sync.queue
  inOrder := SlotTable.inOrder_follow sound.inOrder sound.lists behind

/-- Nothing is queued. -/
theorem sound_of_shrinks {line : WaitingLine} (sound : line.Sound) {next : SyncWorld}
    (shrinks : forall cell, next.sync.queue.isUsed cell = true ->
      line.world.sync.queue.isUsed cell = true) :
    Sound ⟨next, SlotTable.follow line.order next.sync.queue⟩ := by
  apply sound_of_behind sound
  intro new used fresh
  rw [shrinks new used] at fresh
  cases fresh

/-- One registration is stored. -/
theorem sound_of_issues {line : WaitingLine} (sound : line.Sound) {event : SyncEvent}
    {env : Surroundings} {seq version : UInt32} {cmd payload portId : String}
    {added : Registration}
    (issues : SyncWorld.Issues library line.world event env seq cmd payload portId version added)
    (behind : NoneBehind line.world.sync seq cmd) : (line.step library event).Sound := by
  apply sound_of_behind sound
  intro new used fresh old waits
  rw [issues.next] at used
  have counted : (line.world.sync.queue.isUsed new = true) ∨
      line.world.sync.queuedCell seq cmd = some new := isUsed_storePending used
  rcases counted with before | filled
  · cases before.symm.trans fresh
  · exact behind new filled old (List.mem_range.mpr (SlotTable.lt_size_of_isUsed waits)) waits

theorem Sound.step {line : WaitingLine} (sound : line.Sound) (event : SyncEvent)
    (behind : QueuesBehind library line event) : (line.step library event).Sound := by
  cases event with
  | markSent env seq cmd payload portId =>
      rcases SyncWorld.markSent_cases library line.world env seq cmd payload portId with
        ⟨-, same⟩ | ⟨version, added, issues, -⟩
      · apply sound_of_shrinks sound
        intro cell used
        rw [same] at used
        exact used
      · exact sound_of_issues library sound issues (behind issues.nonempty)
  | publishLatestSnapshot env seq exported =>
      rcases SyncWorld.publishLatestSnapshot_cases library line.world env seq exported with
        ⟨-, same⟩ | ⟨text, version, added, published, issues, -⟩
      · apply sound_of_shrinks sound
        intro cell used
        rw [same] at used
        exact used
      · apply sound_of_issues library sound issues
        apply behind
        rw [published]
        exact Option.some_ne_none text
  | handleAckJson nowMs payload =>
      apply sound_of_shrinks sound
      intro cell used
      change (handleAckJson library nowMs payload line.world.sync).state.queue.isUsed cell = true
        at used
      rw [handleAckJson] at used
      split at used
      · exact used
      · rw [queue_handleAck] at used
        split at used
        · exact used
        · exact isUsed_settled used
  | tick env =>
      apply sound_of_shrinks sound
      intro cell used
      rcases SyncWorld.step_tick_cases library line.world env with
        ⟨-, view, -⟩ | ⟨-, -, view, -⟩ | ⟨root, -, -, view, -⟩
      · rw [queue_of_view view] at used
        exact isUsed_promoteNextPending used
      · rw [queue_of_view view] at used
        exact used
      · have queue : (SyncWorld.step library line.world (.tick env)).sync.queue =
            line.world.sync.queue := congrArg PendingView.queue view
        rw [queue] at used
        exact used
  | nextSeq =>
      apply sound_of_shrinks sound
      exact fun cell used => used

/-- In a run whose registrations are queued behind those that wait, every
promotion takes the one that has been waiting longest. -/
theorem promoted_in_turn (events : List SyncEvent)
    (behind : (system library).Admissible (QueuesBehind library) events) :
    forall before event after, events = before ++ event :: after ->
      PromotesInTurn library ((system library).run before) event := by
  intro before event after split
  have start : Sound ⟨SyncWorld.initial, []⟩ :=
    ⟨SlotTable.lists_empty, List.Pairwise.nil⟩
  have sound : ((system library).run before).Sound := by
    apply (system library).invariant_run start
    · exact fun line event sound behind => sound.step library event behind
    · rw [split] at behind
      exact (system library).admissible_initial behind
  intro call called cell promoted
  rw [Option.mem_def, promotedCell] at promoted
  split at promoted
  · cases promoted
  · rw [← SlotTable.firstUsed_eq_head sound.inOrder]
    · exact promoted
    · intro index used
      exact (sound.lists index).mpr (isUsed_promotionCall library called used)

/-! ## Concrete runs -/

/-- A device is registered. -/
def register (seq : Nat) : SyncEvent :=
  .markSent (SyncWorld.online seq) (UInt32.ofNat seq) "device_register"
    (SyncWorld.registerText "device_register" seq) "port_001"

/-- The registration is confirmed. -/
def confirm (seq : Nat) : SyncEvent :=
  .handleAckJson (1000 + seq) (SyncWorld.ackText "device_register" seq 0 true false)

/-- The fourth device is registered when nobody waits. -/
def patientRun : List SyncEvent :=
  [register 1, register 2, register 3, confirm 1, confirm 2, register 4, confirm 3]

theorem patientRun_in_turn :
    PromotesInTurn JsonC.jsonText
      ((system JsonC.jsonText).run [register 1, register 2, register 3, confirm 1]) (confirm 2) :=
  promoted_in_turn JsonC.jsonText patientRun (by decide +kernel)
    [register 1, register 2, register 3, confirm 1] (confirm 2) [register 4, confirm 3] rfl

/-- The fourth device is registered while the third one waits, and becomes
active before it. -/
theorem registered_later_promoted_first :
    ¬forall events before event after, events = before ++ event :: after ->
      PromotesInTurn JsonC.jsonText ((system JsonC.jsonText).run before) event := by
  intro inTurn
  have promoted := inTurn _ [register 1, register 2, register 3, confirm 1, register 4]
    (confirm 2) [] rfl
  revert promoted
  decide +kernel

end WaitingLine

end Board
end Imx6Gateway
