import Imx6Gateway.Board.OfflineRows
import Imx6Gateway.Board.Publications

namespace Imx6Gateway
namespace Board

open Library

/-!
# The way of an accepted message

A message that `publishOrCache` accepts waits in the table of the cache or in
the send ring until `mqtt_poll` hands it to `mqtt_publish`, whose result the
program does not read.  A flush removes a row as soon as the ring has taken
its message, and gives a row up at the fifth refusal.
-/

/-- The ring carries the numbers of its messages along; what `mqtt_send` has
put into it has none. -/
structure PublishWorld where
  queue : OfflineQueue
  ring : SendRing
  connected : Bool
  marks : List (Option Nat)
  published : List (Option Nat × MqttItem)

/-- A poll comes with the outcome of `mqtt_publish`. -/
inductive PublishEvent where
  | init
  | setCacheEnabled (enabled : Bool)
  | setFlushEnabled (enabled : Bool)
  | clearPending
  | arrange (rows : List CacheRow)
  | setConnected (connected : Bool)
  | publish (item : MqttItem) (metadata : PublishMeta)
  | cache (index : Nat) (now : Int)
  | startFlush
  | send (index : Nat)
  | finish (index : Nat)
  | mqttSend (item : MqttItem)
  | poll (succeeds : Bool)
deriving DecidableEq

namespace PublishWorld

/-- `mqtt_send_direct_if_connected` and `mqtt_send`, which has the same body. -/
def sendDirect (world : PublishWorld) (mark : Option Nat) (item : MqttItem) :
    PublishWorld × Bool :=
  if world.connected then
    match queuePush world.ring item with
    | some ring => ({ world with ring := ring, marks := world.marks ++ [mark] }, true)
    | none => (world, false)
  else (world, false)

/-- The first half of `publishOrCache`. -/
def publish (world : PublishWorld) (item : MqttItem) (metadata : PublishMeta) : PublishWorld :=
  let (sent, taken) := world.sendDirect (some world.queue.accepted.length) item
  { sent with queue := world.queue.step (.publish item metadata taken) }

/-- One send of a flush. -/
def send (world : PublishWorld) (index : Nat) : PublishWorld :=
  match world.queue.offered index with
  | some (row, _) =>
      let (sent, taken) := world.sendDirect (some row.message.mark) row.message.item
      { sent with queue := world.queue.step (.send index taken) }
  | none => world

/-- The part of `mqtt_poll` behind the connection: one item a round. -/
def poll (world : PublishWorld) (succeeds : Bool) : PublishWorld :=
  if world.connected then
    match queuePop world.ring with
    | some (item, ring) =>
        { world with
          ring := ring
          marks := world.marks.tail
          published :=
            if succeeds then world.published ++ [(world.marks.headD none, item)]
            else world.published }
    | none => world
  else world

def step (world : PublishWorld) : PublishEvent -> PublishWorld
  | .init => { world with queue := world.queue.step .init }
  | .setCacheEnabled enabled => { world with queue := world.queue.step (.setCacheEnabled enabled) }
  | .setFlushEnabled enabled => { world with queue := world.queue.step (.setFlushEnabled enabled) }
  | .clearPending => { world with queue := world.queue.step .clearPending }
  | .arrange rows => { world with queue := world.queue.step (.arrange rows) }
  | .setConnected connected => { world with connected := connected }
  | .publish item metadata => world.publish item metadata
  | .cache index now => { world with queue := world.queue.step (.cache index now) }
  | .startFlush => { world with queue := world.queue.step .startFlush }
  | .send index => world.send index
  | .finish index => { world with queue := world.queue.step (.finish index) }
  | .mqttSend item => (world.sendDirect none item).1
  | .poll succeeds => world.poll succeeds

def system : TransitionSystem PublishWorld PublishEvent where
  initial := ⟨OfflineQueue.start, SendRing.start, false, [], []⟩
  step := step

/-- The ring with the numbers of its messages. -/
def held (world : PublishWorld) : List (Option Nat × MqttItem) :=
  world.marks.zip world.ring.contents

/-- The message itself is in the ring or was published. -/
def Delivered (world : PublishWorld) (message : Outgoing) : Prop :=
  (some message.mark, message.item) ∈ world.published ∨
    (some message.mark, message.item) ∈ world.held

def Kept (world : PublishWorld) (message : Outgoing) : Prop :=
  world.Delivered message ∨
    (∃ row, row ∈ world.queue.rows ∧ row.status = .pending ∧ row.message = message) ∨
      message ∈ world.queue.evicted

/-- The ring would take an item. -/
def takes (world : PublishWorld) : Bool :=
  world.connected && !world.ring.isFull

/-- The ring only takes what fits into a slot, a numbered message that is
popped is published, and no pending row is refused for the fifth time. -/
def KeepsMessages (world : PublishWorld) : PublishEvent -> Prop
  | .publish item _ => world.takes = true -> item.Fits
  | .send index =>
      forall offer, offer ∈ world.queue.offered index -> world.takes = true ->
        offer.1.message.item.Fits
  | .poll succeeds =>
      world.connected = true -> (world.marks.headD none).isSome = true -> succeeds = true
  | .finish index =>
      forall answer, answer ∈ world.queue.answer index -> answer.2 = false ->
        forall row, row ∈ world.queue.rows -> row.id = answer.1.id -> row.status = .pending ->
          row.sendCount + 1 < 5
  | _ => True

/-! ## Where a message is after a step -/

theorem sendDirect_cases (world : PublishWorld) (mark : Option Nat) (item : MqttItem) :
    (∃ ring, world.takes = true ∧ queuePush world.ring item = some ring ∧
        world.sendDirect mark item =
          ({ world with ring := ring, marks := world.marks ++ [mark] }, true)) ∨
      world.takes = false ∧ world.sendDirect mark item = (world, false) := by
  unfold sendDirect takes
  cases world.connected with
  | true =>
      cases full : world.ring.isFull with
      | true =>
          refine Or.inr ⟨rfl, ?_⟩
          rw [if_pos rfl, queuePush, if_pos full]
      | false =>
          have stored : queuePush world.ring item = some (world.ring.push item.slot) := by
            rw [queuePush, if_neg (Bool.eq_false_iff.mp full)]
          refine Or.inl ⟨_, rfl, stored, ?_⟩
          rw [if_pos rfl, stored]
  | false => exact Or.inr ⟨rfl, if_neg Bool.false_ne_true⟩

def Aligned (world : PublishWorld) : Prop :=
  world.marks.length = world.ring.contents.length

theorem aligned_push {world : PublishWorld} {ring : SendRing} {item : MqttItem}
    (aligned : world.Aligned) (mark : Option Nat) (stored : queuePush world.ring item = some ring) :
    Aligned { world with ring := ring, marks := world.marks ++ [mark] } := by
  unfold Aligned at aligned ⊢
  rw [queuePush_contents stored, List.length_append, List.length_append, aligned]
  rfl

theorem held_push {world : PublishWorld} {ring : SendRing} {item : MqttItem}
    (aligned : world.Aligned) (mark : Option Nat) (stored : queuePush world.ring item = some ring) :
    held { world with ring := ring, marks := world.marks ++ [mark] } =
      world.held ++ [(mark, item.slot)] := by
  unfold held
  rw [queuePush_contents stored, List.zip_append aligned]
  rfl

/-- What the ring has taken is delivered, and nothing gets lost by it. -/
theorem delivered_push {world : PublishWorld} {ring : SendRing} {item : MqttItem}
    (aligned : world.Aligned) (mark : Option Nat) (stored : queuePush world.ring item = some ring)
    {message : Outgoing} (delivered : world.Delivered message) :
    Delivered { world with ring := ring, marks := world.marks ++ [mark] } message := by
  rcases delivered with published | waits
  · exact Or.inl published
  · refine Or.inr ?_
    rw [held_push aligned mark stored]
    exact List.mem_append_left _ waits

theorem delivered_new {world : PublishWorld} {ring : SendRing} {message : Outgoing}
    (aligned : world.Aligned) (fits : message.item.Fits)
    (stored : queuePush world.ring message.item = some ring) :
    Delivered { world with ring := ring, marks := world.marks ++ [some message.mark] } message := by
  refine Or.inr ?_
  rw [held_push aligned _ stored, MqttItem.slot_of_fits fits]
  exact List.mem_append_right _ (List.mem_singleton.mpr rfl)

theorem mem_lost {before after : List CacheRow} {row : CacheRow} (stored : row ∈ before)
    (gone : row ∉ after) : row.message ∈ OfflineQueue.lost before after :=
  List.mem_map.mpr ⟨row, List.mem_filter.mpr ⟨stored, decide_eq_true gone⟩, rfl⟩

/-- Messages stay kept when their copies and their rows do. -/
theorem Kept.mono {world later : PublishWorld} {message : Outgoing} (kept : world.Kept message)
    (delivered : world.Delivered message -> later.Delivered message)
    (rows : forall row, row ∈ world.queue.rows -> row.status = .pending ->
      row.message = message -> later.Kept message)
    (evicted : message ∈ world.queue.evicted -> message ∈ later.queue.evicted) :
    later.Kept message := by
  rcases kept with copy | ⟨row, stored, pending, same⟩ | removed
  · exact Or.inl (delivered copy)
  · exact rows row stored pending same
  · exact Or.inr (Or.inr (evicted removed))

structure Invariant (world : PublishWorld) : Prop where
  consistent : world.queue.Consistent
  aligned : world.Aligned
  kept : forall message, message ∈ world.queue.accepted -> world.Kept message
  removing : forall flush, flush ∈ world.queue.running -> forall row,
    flush.answered = some (row, true) -> world.Delivered row.message

/-- A step that changes none of the stores. -/
theorem Invariant.settings {world : PublishWorld} (invariant : Invariant world)
    {queue : OfflineQueue} (consistent : queue.Consistent)
    (rows : forall row, row ∈ world.queue.rows -> row.status = .pending ->
      row ∈ queue.rows ∨ row.message ∈ queue.evicted)
    (accepted : queue.accepted = world.queue.accepted) (running : queue.running = world.queue.running)
    (evicted : world.queue.evicted ⊆ queue.evicted) : Invariant { world with queue := queue } where
  consistent := consistent
  aligned := invariant.aligned
  kept := by
    intro message inside
    apply (invariant.kept message (accepted ▸ inside)).mono
    · exact id
    · rintro row stored pending rfl
      rcases rows row stored pending with stays | removed
      · exact Or.inr (Or.inl ⟨row, stays, pending, rfl⟩)
      · exact Or.inr (Or.inr removed)
    · exact fun removed => evicted removed
  removing := by
    intro flush runs
    exact invariant.removing flush (running ▸ runs)

theorem Invariant.clearPending {world : PublishWorld} (invariant : Invariant world) :
    Invariant { world with queue := world.queue.step .clearPending } := by
  apply invariant.settings (OfflineQueue.consistent_step _ _ invariant.consistent)
  · intro row stored pending
    simp only [OfflineQueue.step]
    split
    · refine Or.inr (List.mem_append_right _ (mem_lost stored ?_))
      intro stays
      exact of_decide_eq_true (List.mem_filter.mp stays).2 pending
    · exact Or.inl stored
  · simp only [OfflineQueue.step]
    split <;> rfl
  · simp only [OfflineQueue.step]
    split <;> rfl
  · simp only [OfflineQueue.step]
    split
    · exact List.subset_append_left _ _
    · exact List.Subset.refl _

theorem Invariant.arrange {world : PublishWorld} (invariant : Invariant world)
    (rows : List CacheRow) :
    Invariant { world with queue := world.queue.step (.arrange rows) } := by
  apply invariant.settings (OfflineQueue.consistent_step _ _ invariant.consistent)
  · intro row stored _
    simp only [OfflineQueue.step]
    split
    · rename_i same
      exact Or.inl (same.mem_iff.mpr stored)
    · exact Or.inl stored
  · simp only [OfflineQueue.step]
    split <;> rfl
  · simp only [OfflineQueue.step]
    split <;> rfl
  · simp only [OfflineQueue.step]
    split <;> exact List.Subset.refl _

/-- A message that the queue accepts when it stores it. -/
theorem Invariant.cache {world : PublishWorld} (invariant : Invariant world) (index : Nat)
    (now : Int) : Invariant { world with queue := world.queue.step (.cache index now) } := by
  have consistent := OfflineQueue.consistent_step _ (.cache index now) invariant.consistent
  simp only [OfflineQueue.step, OfflineQueue.cache] at consistent ⊢
  split at consistent
  · rename_i item metadata found
    obtain ⟨samples, ⟨_, result⟩ | ⟨_, result⟩⟩ := OfflineQueue.cacheMessage_cases
      { world.queue with waiting := world.queue.waiting.eraseIdx index } item metadata now
    · rw [result] at consistent ⊢
      -- Each row of the longer table is still there or was taken by the cleanup.
      have table : forall row, row ∈ world.queue.rows ++ [world.queue.newRow item metadata now] ->
          row.status = .pending -> Kept
            { world with
              queue := OfflineQueue.store
                { world.queue with
                  waiting := world.queue.waiting.eraseIdx index
                  samples := samples }
                (world.queue.newRow item metadata now) } row.message := by
        intro row stored pending
        by_cases stays : row ∈ enforceMaxRecords
            (world.queue.rows ++ [world.queue.newRow item metadata now])
        · exact Or.inr (Or.inl ⟨row, stays, pending, rfl⟩)
        · exact Or.inr (Or.inr (List.mem_append_right _ (mem_lost stored stays)))
      refine ⟨consistent, invariant.aligned, ?_, invariant.removing⟩
      intro message inside
      rcases List.mem_append.mp inside with old | new
      · apply (invariant.kept message old).mono
        · exact id
        · rintro row stored pending rfl
          exact table row (List.mem_append_left _ stored) pending
        · exact List.mem_append_left _
      · rw [List.mem_singleton.mp new]
        exact table _ (List.mem_append_right _ (List.mem_singleton.mpr rfl)) rfl
    · rw [result] at consistent ⊢
      exact invariant.settings consistent (fun row stored _ => Or.inl stored) rfl rfl
        (List.Subset.refl _)
  · exact invariant

theorem Invariant.startFlush {world : PublishWorld} (invariant : Invariant world) :
    Invariant { world with queue := world.queue.step .startFlush } := by
  have consistent := OfflineQueue.consistent_step _ .startFlush invariant.consistent
  simp only [OfflineQueue.step] at consistent ⊢
  rcases world.queue.startFlush_cases with result | result
  · rw [result]
    exact invariant
  · rw [result] at consistent ⊢
    refine ⟨consistent, invariant.aligned, invariant.kept, ?_⟩
    intro flush runs row answered
    rcases List.mem_append.mp runs with old | new
    · exact invariant.removing flush old row answered
    · rw [List.mem_singleton.mp new] at answered
      cases answered

/-- The rows under a removed id carry the message that the ring has taken. -/
theorem Invariant.finish {world : PublishWorld} (invariant : Invariant world) {index : Nat}
    (condition : world.KeepsMessages (.finish index)) :
    Invariant { world with queue := world.queue.step (.finish index) } := by
  have consistent := OfflineQueue.consistent_step _ (.finish index) invariant.consistent
  simp only [OfflineQueue.step] at consistent ⊢
  rcases world.queue.finish_cases index with
    result | ⟨rest, done, taken, running, found, form, result⟩
  · rw [result]
    exact invariant
  · have runs := List.mem_of_getElem? found
    have answer : world.queue.answer index = some (done, taken) := by
      rw [OfflineQueue.answer, found]
      rfl
    rw [result] at consistent ⊢
    refine ⟨consistent, invariant.aligned, ?_, ?_⟩
    · intro message inside
      apply (invariant.kept message inside).mono
      · exact id
      · rintro row stored pending rfl
        cases taken with
        | true =>
            by_cases removed : row.id = done.id
            · have same := (invariant.consistent.tracked.sameRow row
                (OfflineQueue.mem_allRows_of_table stored) done
                (OfflineQueue.mem_allRows_of_flush runs (Flush.mem_rows_of_answered rfl))).mp removed
              rw [same]
              exact Or.inl (invariant.removing _ runs done rfl)
            · exact Or.inr (Or.inl
                ⟨row, List.mem_filter.mpr ⟨stored, decide_eq_true removed⟩, pending, rfl⟩)
        | false =>
            refine Or.inr (Or.inl ⟨if row.id = done.id then row.sendFailed else row,
              List.mem_map.mpr ⟨row, stored, rfl⟩, ?_, ?_⟩)
            · split
              · rename_i refused
                have few := condition (done, false) answer rfl row stored refused pending
                rw [CacheRow.sendFailed, if_neg (Nat.not_le_of_lt few)]
                exact pending
              · exact pending
            · split <;> rfl
      · exact id
    · intro flush inside row answered
      rcases form with rfl | rfl
      · rcases List.mem_or_eq_of_mem_set inside with old | rfl
        · exact invariant.removing flush old row answered
        · cases answered
      · exact invariant.removing flush (List.mem_of_mem_eraseIdx inside) row answered

/-- The ring takes an item; the queue stays as it is. -/
theorem Invariant.push {world : PublishWorld} (invariant : Invariant world) {ring : SendRing}
    {item : MqttItem} (mark : Option Nat) (stored : queuePush world.ring item = some ring) :
    Invariant { world with ring := ring, marks := world.marks ++ [mark] } where
  consistent := invariant.consistent
  aligned := aligned_push invariant.aligned mark stored
  kept := by
    intro message inside
    apply (invariant.kept message inside).mono
    · exact delivered_push invariant.aligned mark stored
    · exact fun row table pending same => Or.inr (Or.inl ⟨row, table, pending, same⟩)
    · exact id
  removing := by
    intro flush runs row answered
    exact delivered_push invariant.aligned mark stored (invariant.removing flush runs row answered)

theorem Invariant.publish {world : PublishWorld} (invariant : Invariant world) {item : MqttItem}
    {metadata : PublishMeta} (condition : world.KeepsMessages (.publish item metadata)) :
    Invariant (world.publish item metadata) := by
  unfold PublishWorld.publish
  rcases world.sendDirect_cases (some world.queue.accepted.length) item with
    ⟨ring, takes, stored, result⟩ | ⟨_, result⟩
  · rw [result]
    have pushed := invariant.push (some world.queue.accepted.length) stored
    refine ⟨?_, pushed.aligned, ?_, pushed.removing⟩
    · exact OfflineQueue.consistent_step _ (.publish item metadata true) invariant.consistent
    · intro message inside
      rcases List.mem_append.mp inside with old | new
      · exact pushed.kept message old
      · rw [List.mem_singleton.mp new]
        exact Or.inl (delivered_new invariant.aligned (condition takes) stored)
  · rw [result]
    have consistent := OfflineQueue.consistent_step _ (.publish item metadata false)
      invariant.consistent
    exact invariant.settings consistent (fun row stored _ => Or.inl stored) rfl rfl
      (List.Subset.refl _)

theorem Invariant.send {world : PublishWorld} (invariant : Invariant world) {index : Nat}
    (condition : world.KeepsMessages (.send index)) : Invariant (world.send index) := by
  unfold PublishWorld.send
  have consistent := fun taken =>
    OfflineQueue.consistent_step _ (.send index taken) invariant.consistent
  simp only [OfflineQueue.step] at consistent ⊢
  cases offer : world.queue.offered index with
  | none => exact invariant
  | some offer' =>
      rcases offer' with ⟨row, rest⟩
      simp only
      -- The flush waits for its answer; all other flushes are as they were.
      have others : forall taken flush, flush ∈ (world.queue.send index taken).running ->
          forall other, flush.answered = some (other, true) ->
            flush ∈ world.queue.running ∨ taken = true ∧ other = row := by
        intro taken flush runs other answered
        rcases world.queue.send_cases index taken with ⟨none, _⟩ | ⟨row', rest', offered, _, result⟩
        · cases offer.symm.trans none
        · cases offer.symm.trans offered
          rw [result] at runs
          rcases List.mem_or_eq_of_mem_set runs with old | rfl
          · exact Or.inl old
          · cases answered
            exact Or.inr ⟨rfl, rfl⟩
      have same : forall taken, (world.queue.send index taken).accepted = world.queue.accepted ∧
          (world.queue.send index taken).rows = world.queue.rows ∧
          (world.queue.send index taken).evicted = world.queue.evicted := by
        intro taken
        unfold OfflineQueue.send
        split <;> exact ⟨rfl, rfl, rfl⟩
      rcases world.sendDirect_cases (some row.message.mark) row.message.item with
        ⟨ring, takes, stored, result⟩ | ⟨_, result⟩
      · rw [result]
        have pushed := invariant.push (some row.message.mark) stored
        refine ⟨consistent true, pushed.aligned, ?_, ?_⟩
        · intro message inside
          rw [(same true).1] at inside
          apply (pushed.kept message inside).mono
          · exact id
          · intro other table pending equal
            refine Or.inr (Or.inl ⟨other, ?_, pending, equal⟩)
            rw [(same true).2.1]
            exact table
          · rw [(same true).2.2]
            exact id
        · intro flush runs other answered
          rcases others true flush runs other answered with old | ⟨_, rfl⟩
          · exact pushed.removing flush old other answered
          · have fits := condition (other, rest) offer takes
            exact delivered_new invariant.aligned fits stored
      · rw [result]
        refine ⟨consistent false, invariant.aligned, ?_, ?_⟩
        · intro message inside
          rw [(same false).1] at inside
          apply (invariant.kept message inside).mono
          · exact id
          · intro other table pending equal
            refine Or.inr (Or.inl ⟨other, ?_, pending, equal⟩)
            rw [(same false).2.1]
            exact table
          · rw [(same false).2.2]
            exact id
        · intro flush runs other answered
          rcases others false flush runs other answered with old | ⟨impossible, _⟩
          · exact invariant.removing flush old other answered
          · cases impossible

/-- The oldest message of the ring is published. -/
theorem Invariant.poll {world : PublishWorld} (invariant : Invariant world) {succeeds : Bool}
    (condition : world.KeepsMessages (.poll succeeds)) : Invariant (world.poll succeeds) := by
  unfold PublishWorld.poll
  split
  · rename_i connected
    cases taken : queuePop world.ring with
    | none => exact invariant
    | some pop =>
        rcases pop with ⟨item, ring⟩
        simp only
        have contents := queuePop_contents taken
        have aligned := invariant.aligned
        unfold Aligned at aligned
        rw [contents] at aligned
        rcases List.exists_cons_of_length_eq_add_one aligned with ⟨mark, marks, equal⟩
        have held : world.held = (mark, item) :: marks.zip ring.contents := by
          rw [PublishWorld.held, contents, equal, List.zip_cons_cons]
        have delivered : forall message, world.Delivered message -> Delivered
            { world with
              ring := ring
              marks := world.marks.tail
              published :=
                if succeeds then world.published ++ [(world.marks.headD none, item)]
                else world.published } message := by
          intro message before
          unfold Delivered at before ⊢
          rw [held] at before
          rcases before with published | waits
          · refine Or.inl ?_
            split
            · exact List.mem_append_left _ published
            · exact published
          · rcases List.mem_cons.mp waits with first | behind
            · -- It has a number, so its publication has succeeded.
              have numbered : world.marks.headD none = some message.mark := by
                rw [equal]
                exact (Prod.mk.inj first).1.symm
              have done := condition connected (by rw [numbered]; rfl)
              refine Or.inl ?_
              rw [if_pos done, numbered, ← (Prod.mk.inj first).2]
              exact List.mem_append_right _ (List.mem_singleton.mpr rfl)
            · refine Or.inr ?_
              rw [PublishWorld.held, equal]
              exact behind
        refine ⟨invariant.consistent, ?_, ?_, ?_⟩
        · unfold Aligned
          rw [equal] at aligned ⊢
          exact Nat.succ.inj aligned
        · intro message inside
          apply (invariant.kept message inside).mono (delivered message)
          · exact fun row table pending same => Or.inr (Or.inl ⟨row, table, pending, same⟩)
          · exact id
        · intro flush runs row answered
          exact delivered row.message (invariant.removing flush runs row answered)
  · exact invariant

theorem invariant_step (world : PublishWorld) (event : PublishEvent) (invariant : Invariant world)
    (condition : world.KeepsMessages event) : Invariant (world.step event) := by
  have consistent := fun queueEvent =>
    OfflineQueue.consistent_step world.queue queueEvent invariant.consistent
  cases event with
  | init => exact ⟨consistent .init, invariant.aligned, invariant.kept, invariant.removing⟩
  | setCacheEnabled enabled =>
      exact ⟨consistent (.setCacheEnabled enabled), invariant.aligned, invariant.kept,
        invariant.removing⟩
  | setFlushEnabled enabled =>
      exact ⟨consistent (.setFlushEnabled enabled), invariant.aligned, invariant.kept,
        invariant.removing⟩
  | clearPending => exact invariant.clearPending
  | arrange rows => exact invariant.arrange rows
  | setConnected connected =>
      exact ⟨invariant.consistent, invariant.aligned, invariant.kept, invariant.removing⟩
  | publish item metadata => exact invariant.publish condition
  | cache index now => exact invariant.cache index now
  | startFlush => exact invariant.startFlush
  | send index => exact invariant.send condition
  | finish index => exact invariant.finish condition
  | mqttSend item =>
      simp only [step]
      rcases world.sendDirect_cases none item with ⟨ring, _, stored, result⟩ | ⟨_, result⟩
      · rw [result]
        exact invariant.push none stored
      · rw [result]
        exact invariant
  | poll succeeds => exact invariant.poll condition

theorem invariant_initially : Invariant system.initial where
  consistent := OfflineQueue.consistent_start
  aligned := rfl
  kept := by
    intro message inside
    cases inside
  removing := by
    intro flush runs
    cases runs

/-- In a run whose steps meet the condition, every accepted message is
somewhere. -/
theorem accepted_kept (events : List PublishEvent)
    (condition : system.Admissible KeepsMessages events) (message : Outgoing)
    (accepted : message ∈ (system.run events).queue.accepted) :
    (system.run events).Kept message :=
  (system.invariant_run invariant_initially invariant_step condition).kept message accepted

instance (world : PublishWorld) (event : PublishEvent) : Decidable (world.KeepsMessages event) := by
  unfold KeepsMessages
  split <;> infer_instance

def alarmItem (payload : String) : MqttItem :=
  ⟨"gateway/gateway_001/port_001/up", payload⟩

/-- An alarm goes through the table, the flush and the ring. -/
def carefulRun : List PublishEvent :=
  [.init, .setFlushEnabled true,
    .publish (alarmItem "high") (alarmMeta 0 1 "temperature" 1000), .cache 0 1000,
    .setConnected true, .startFlush, .send 0, .finish 0, .poll true]

theorem accepted_kept_carefulRun :
    system.Admissible KeepsMessages carefulRun ∧
      ⟨0, alarmItem "high", 3⟩ ∈ (system.run carefulRun).queue.accepted ∧
        (system.run carefulRun).Kept ⟨0, alarmItem "high", 3⟩ :=
  have condition := by decide +kernel
  have accepted := by decide +kernel
  ⟨condition, accepted, accepted_kept carefulRun condition _ accepted⟩

/-- An alarm is popped from the ring and `mqtt_publish` fails. -/
def lossyRun : List PublishEvent :=
  [.init, .setConnected true, .publish (alarmItem "high") (alarmMeta 0 1 "temperature" 1000),
    .poll false]

instance (world : PublishWorld) (message : Outgoing) : Decidable (world.Delivered message) :=
  inferInstanceAs (Decidable (_ ∨ _))

instance (world : PublishWorld) (message : Outgoing) : Decidable (world.Kept message) :=
  inferInstanceAs (Decidable (_ ∨ _ ∨ _))

/-- No store has it any more. -/
theorem lossyRun_loses :
    ⟨0, alarmItem "high", 3⟩ ∈ (system.run lossyRun).queue.accepted ∧
      ¬ (system.run lossyRun).Kept ⟨0, alarmItem "high", 3⟩ := by
  decide +kernel

end PublishWorld
end Board
end Imx6Gateway
