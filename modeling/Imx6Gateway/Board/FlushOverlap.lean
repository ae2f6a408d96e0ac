import Imx6Gateway.Board.OfflineRows
import Imx6Gateway.Board.Publications

namespace Imx6Gateway
namespace Board

open Library

/-!
# Overlapping flushes

A flush loads its rows, and then it sends each of them and removes it in two
steps.  Nothing keeps a second flush, which a command may start, from loading
the same rows in between.  This file says when each stored message is sent
only once, and when only sent messages leave the table.
-/

namespace OfflineQueue

/-- The message has a row in the table. -/
def Stored (rows : List CacheRow) (message : Outgoing) : Prop :=
  ∃ row, row ∈ rows ∧ row.message = message

instance (rows : List CacheRow) (message : Outgoing) : Decidable (Stored rows message) :=
  decidable_of_iff (message ∈ rows.map CacheRow.message) List.mem_map

/-- No message has been sent twice, and a message without a row has been sent. -/
structure SentOnce (queue : OfflineQueue) : Prop where
  once : queue.sent.Nodup
  kept : forall message, message ∈ queue.accepted ->
    message ∈ queue.sent ∨ Stored queue.rows message

/-- The rows that a cleanup takes after this insertion have been sent. -/
def CleansSent (queue : OfflineQueue) (row : CacheRow) : Prop :=
  forall other, other ∈ queue.rows ++ [row] ->
    other.message ∈ queue.sent ∨ Stored (enforceMaxRecords (queue.rows ++ [row])) other.message

/-- A send that succeeds is the first one of its message, and the cleanup
after an insertion takes no row that has not been sent. -/
def SendsOnce (queue : OfflineQueue) : QueueEvent -> Prop
  | .send index true =>
      match queue.offered index with
      | some (row, _) => row.message ∉ queue.sent
      | none => True
  | .cache index now =>
      match queue.waiting[index]? with
      | some (item, metadata) =>
          queue.stores metadata = true -> CleansSent queue (queue.newRow item metadata now)
      | none => True
  | _ => True

instance (queue : OfflineQueue) (row : CacheRow) : Decidable (CleansSent queue row) :=
  inferInstanceAs (Decidable (forall other, other ∈ queue.rows ++ [row] -> _))

instance (queue : OfflineQueue) (event : QueueEvent) : Decidable (SendsOnce queue event) := by
  unfold SendsOnce
  split
  · split <;> infer_instance
  · split <;> infer_instance
  · infer_instance

/-- The steps of flushes, publications and settings.  Only an explicit clear
is left out. -/
def NoClear (_queue : OfflineQueue) (event : QueueEvent) : Prop :=
  event ≠ .clearPending

instance (queue : OfflineQueue) (event : QueueEvent) : Decidable (NoClear queue event) :=
  inferInstanceAs (Decidable (_ ≠ _))

/-! ## The bookkeeping -/

/-- Stored messages have been accepted, and what a flush is about to remove
has been sent. -/
structure Booked (queue : OfflineQueue) : Prop where
  consistent : Consistent queue
  accepted : forall row, row ∈ queue.rows -> row.message ∈ queue.accepted
  passed : forall flush done, flush ∈ queue.running -> flush.answered = some (done, true) ->
    done.message ∈ queue.sent

theorem passed_cacheMessage {queue : OfflineQueue} (item : MqttItem) (metadata : PublishMeta)
    (now : Int) : (queue.cacheMessage item metadata now).running = queue.running ∧
      (queue.cacheMessage item metadata now).sent = queue.sent := by
  rcases cacheMessage_cases queue item metadata now with ⟨samples, ⟨-, result⟩ | ⟨-, result⟩⟩
  · rw [result]
    exact ⟨rfl, rfl⟩
  · rw [result]
    exact ⟨rfl, rfl⟩

theorem accepted_cacheMessage {queue : OfflineQueue} (booked : Booked queue) (item : MqttItem)
    (metadata : PublishMeta) (now : Int) {row : CacheRow}
    (stored : row ∈ (queue.cacheMessage item metadata now).rows) :
    row.message ∈ (queue.cacheMessage item metadata now).accepted := by
  rcases cacheMessage_cases queue item metadata now with ⟨samples, ⟨-, result⟩ | ⟨-, result⟩⟩
  · rw [result] at stored ⊢
    rcases List.mem_append.mp (enforceMaxRecords_subset _ stored) with old | new
    · exact List.mem_append_left _ (booked.accepted row old)
    · rw [List.mem_singleton.mp new]
      exact List.mem_append_right _ List.mem_cons_self
  · rw [result] at stored ⊢
    exact booked.accepted row stored

/-- No step brings a row whose message has not been accepted. -/
theorem accepted_step (queue : OfflineQueue) (event : QueueEvent) (booked : Booked queue)
    {row : CacheRow} (stored : row ∈ (queue.step event).rows) :
    row.message ∈ (queue.step event).accepted := by
  cases event with
  | init => exact booked.accepted row stored
  | setCacheEnabled enabled => exact booked.accepted row stored
  | setFlushEnabled enabled => exact booked.accepted row stored
  | clearPending =>
      simp only [step] at stored ⊢
      split at stored
      · rw [if_pos ‹_›]
        exact booked.accepted row (List.mem_filter.mp stored).1
      · rw [if_neg ‹_›]
        exact booked.accepted row stored
  | arrange rows =>
      simp only [step] at stored ⊢
      split at stored
      · rename_i same
        rw [if_pos same]
        exact booked.accepted row (same.subset stored)
      · rw [if_neg ‹_›]
        exact booked.accepted row stored
  | publish item metadata taken =>
      cases taken with
      | true => exact List.mem_append_left _ (booked.accepted row stored)
      | false => exact booked.accepted row stored
  | cache index now =>
      simp only [step, cache] at stored ⊢
      cases found : queue.waiting[index]? with
      | none =>
          rw [found] at stored
          exact booked.accepted row stored
      | some entry =>
          rw [found] at stored
          have dequeued : Booked { queue with waiting := queue.waiting.eraseIdx index } :=
            ⟨booked.consistent.fewerRows (List.Subset.refl _) rfl rfl rfl rfl, booked.accepted,
              booked.passed⟩
          exact accepted_cacheMessage dequeued entry.1 entry.2 now stored
  | startFlush =>
      simp only [step] at stored ⊢
      rcases startFlush_cases queue with result | result
      · rw [result] at stored ⊢
        exact booked.accepted row stored
      · rw [result] at stored ⊢
        exact booked.accepted row stored
  | send index taken =>
      simp only [step] at stored ⊢
      rcases send_cases queue index taken with ⟨-, result⟩ | ⟨offer, rest, -, -, result⟩
      · rw [result] at stored ⊢
        exact booked.accepted row stored
      · rw [result] at stored ⊢
        exact booked.accepted row stored
  | finish index =>
      simp only [step] at stored ⊢
      rcases finish_cases queue index with result | ⟨rest, done, taken, running, -, -, result⟩
      · rw [result] at stored ⊢
        exact booked.accepted row stored
      · rw [result] at stored ⊢
        rcases entered_row stored with ⟨earlier, before, -, message, -⟩
        rw [← message]
        exact booked.accepted earlier before

theorem booked_step (queue : OfflineQueue) (event : QueueEvent) (booked : Booked queue) :
    Booked (queue.step event) := by
  refine ⟨consistent_step queue event booked.consistent,
    fun row stored => accepted_step queue event booked stored, ?_⟩
  intro flush done runs answered
  cases event with
  | init => exact booked.passed flush done runs answered
  | setCacheEnabled enabled => exact booked.passed flush done runs answered
  | setFlushEnabled enabled => exact booked.passed flush done runs answered
  | clearPending =>
      simp only [step] at runs ⊢
      split at runs
      · rename_i ready
        rw [if_pos ready]
        exact booked.passed flush done runs answered
      · rename_i closed
        rw [if_neg closed]
        exact booked.passed flush done runs answered
  | arrange rows =>
      simp only [step] at runs ⊢
      split at runs
      · rename_i same
        rw [if_pos same]
        exact booked.passed flush done runs answered
      · rename_i other
        rw [if_neg other]
        exact booked.passed flush done runs answered
  | publish item metadata taken =>
      cases taken with
      | true => exact List.mem_append_left _ (booked.passed flush done runs answered)
      | false => exact booked.passed flush done runs answered
  | cache index now =>
      simp only [step, cache] at runs ⊢
      cases found : queue.waiting[index]? with
      | none =>
          rw [found] at runs
          exact booked.passed flush done runs answered
      | some entry =>
          rw [found] at runs
          dsimp only at runs ⊢
          rw [(passed_cacheMessage entry.1 entry.2 now).1] at runs
          rw [(passed_cacheMessage entry.1 entry.2 now).2]
          exact booked.passed flush done runs answered
  | startFlush =>
      simp only [step] at runs ⊢
      rcases startFlush_cases queue with result | result
      · rw [result] at runs ⊢
        exact booked.passed flush done runs answered
      · rw [result] at runs ⊢
        rcases List.mem_append.mp runs with old | new
        · exact booked.passed flush done old answered
        · rw [List.mem_singleton.mp new] at answered
          cases answered
  | send index taken =>
      simp only [step] at runs ⊢
      rcases send_cases queue index taken with ⟨-, result⟩ | ⟨row, rest, -, -, result⟩
      · rw [result] at runs ⊢
        exact booked.passed flush done runs answered
      · rw [result] at runs ⊢
        have grows : queue.sent ⊆ if taken then queue.sent ++ [row.message] else queue.sent := by
          split
          · exact List.subset_append_left _ _
          · exact List.Subset.refl _
        rcases List.mem_or_eq_of_mem_set runs with old | new
        · exact grows (booked.passed flush done old answered)
        · rw [new] at answered
          injection answered with both
          injection both with same success
          rw [← same, success, if_pos rfl]
          exact List.mem_append_right _ List.mem_cons_self
  | finish index =>
      simp only [step] at runs ⊢
      rcases finish_cases queue index with result | ⟨rest, row, taken, running, -, moved, result⟩
      · rw [result] at runs ⊢
        exact booked.passed flush done runs answered
      · rw [result] at runs ⊢
        dsimp only at runs ⊢
        rcases moved with rfl | rfl
        · rcases List.mem_or_eq_of_mem_set runs with old | new
          · exact booked.passed flush done old answered
          · rw [new] at answered
            cases answered
        · exact booked.passed flush done (List.mem_of_mem_eraseIdx runs) answered

theorem booked_start : Booked start := by
  refine ⟨consistent_start, ?_, ?_⟩
  · intro row stored
    cases stored
  · intro flush done runs _
    cases runs

/-! ## One step -/

theorem sentOnce_of_same {queue later : OfflineQueue} (once : SentOnce queue)
    (sent : later.sent = queue.sent) (accepted : later.accepted = queue.accepted)
    (rows : forall message, Stored queue.rows message -> Stored later.rows message) :
    SentOnce later := by
  refine ⟨sent ▸ once.once, ?_⟩
  intro message taken
  rw [accepted] at taken
  rcases once.kept message taken with done | stored
  · exact Or.inl (sent ▸ done)
  · exact Or.inr (rows message stored)

theorem sentOnce_publish {queue : OfflineQueue} (booked : Booked queue) (once : SentOnce queue)
    (item : MqttItem) (metadata : PublishMeta) (taken : Bool) :
    SentOnce (queue.publish item metadata taken) := by
  cases taken with
  | false => exact sentOnce_of_same once rfl rfl fun _ stored => stored
  | true =>
      constructor
      · change (queue.sent ++ [queue.next item metadata.priority]).Nodup
        rw [List.nodup_append]
        refine ⟨once.once, List.nodup_singleton _, ?_⟩
        intro old inside new isNew same
        have bound := booked.consistent.tracked.sentNumbered old inside
        rw [same, List.mem_singleton.mp isNew] at bound
        exact Nat.lt_irrefl _ bound
      · intro message inside
        rcases List.mem_append.mp inside with old | new
        · rcases once.kept message old with done | stored
          · exact Or.inl (List.mem_append_left _ done)
          · exact Or.inr stored
        · exact Or.inl (List.mem_append_right _ new)

theorem stored_loaded {rows : List CacheRow} {row : CacheRow} (inside : row ∈ rows) :
    Stored rows row.message :=
  ⟨row, inside, rfl⟩

theorem sentOnce_cache_iff {queue : OfflineQueue} (booked : Booked queue) (once : SentOnce queue)
    (item : MqttItem) (metadata : PublishMeta) (now : Int) :
    SentOnce (queue.cacheMessage item metadata now) ↔
      (queue.stores metadata = true -> CleansSent queue (queue.newRow item metadata now)) := by
  rcases cacheMessage_cases queue item metadata now with
    ⟨samples, ⟨stores, result⟩ | ⟨refuses, result⟩⟩
  · rw [result]
    constructor
    · intro after _ row inside
      apply after.kept row.message
      change row.message ∈ queue.accepted ++ [(queue.newRow item metadata now).message]
      rcases List.mem_append.mp inside with old | new
      · exact List.mem_append_left _ (booked.accepted row old)
      · rw [List.mem_singleton.mp new]
        exact List.mem_append_right _ List.mem_cons_self
    · intro cleans
      refine ⟨once.once, ?_⟩
      intro message inside
      change message ∈ queue.accepted ++ [(queue.newRow item metadata now).message] at inside
      rcases List.mem_append.mp inside with old | new
      · rcases once.kept message old with done | ⟨row, stored, rfl⟩
        · exact Or.inl done
        · exact cleans stores row (List.mem_append_left _ stored)
      · rw [List.mem_singleton.mp new]
        exact cleans stores _ (List.mem_append_right _ List.mem_cons_self)
  · rw [result]
    refine iff_of_true (sentOnce_of_same once rfl rfl fun _ stored => stored) ?_
    intro impossible
    rw [refuses] at impossible
    cases impossible

theorem sentOnce_send_iff {queue : OfflineQueue} (once : SentOnce queue) (index : Nat) :
    SentOnce (queue.send index true) ↔ SendsOnce queue (.send index true) := by
  rcases send_cases queue index true with ⟨none, result⟩ | ⟨row, rest, offer, -, result⟩
  · rw [result, SendsOnce, none]
    exact iff_of_true once trivial
  · rw [result, SendsOnce, offer]
    constructor
    · intro after again
      have twice := (List.nodup_append.mp after.once).2.2
      exact twice row.message again row.message List.mem_cons_self rfl
    · intro new
      constructor
      · change (queue.sent ++ [row.message]).Nodup
        rw [List.nodup_append]
        refine ⟨once.once, List.nodup_singleton _, ?_⟩
        intro old inside message isNew same
        rw [same, List.mem_singleton.mp isNew] at inside
        exact new inside
      · intro message taken
        rcases once.kept message taken with done | stored
        · exact Or.inl (List.mem_append_left _ done)
        · exact Or.inr stored

theorem sentOnce_send_refused {queue : OfflineQueue} (once : SentOnce queue) (index : Nat) :
    SentOnce (queue.send index false) := by
  rcases send_cases queue index false with ⟨-, result⟩ | ⟨row, rest, -, -, result⟩
  · rw [result]
    exact once
  · rw [result]
    exact sentOnce_of_same once rfl rfl fun _ stored => stored

/-- A row that leaves the table after its send has been sent. -/
theorem sentOnce_finish {queue : OfflineQueue} (booked : Booked queue) (once : SentOnce queue)
    (index : Nat) : SentOnce (queue.finish index) := by
  rcases finish_cases queue index with result | ⟨rest, done, taken, running, found, -, result⟩
  · rw [result]
    exact once
  · rw [result]
    have runs := List.mem_of_getElem? found
    refine ⟨once.once, ?_⟩
    intro message inside
    rcases once.kept message inside with passed | ⟨row, stored, rfl⟩
    · exact Or.inl passed
    · cases taken with
      | false =>
          refine Or.inr ⟨if row.id = done.id then row.sendFailed else row, ?_, ?_⟩
          · exact List.mem_map.mpr ⟨row, stored, rfl⟩
          · split <;> rfl
      | true =>
          by_cases same : row.id = done.id
          · have copies := booked.consistent.tracked.sameRow row (mem_allRows_of_table stored) done
              (mem_allRows_of_flush runs (Flush.mem_rows_of_answered rfl))
            rw [copies.mp same]
            exact Or.inl (booked.passed _ done runs rfl)
          · refine Or.inr ⟨row, ?_, rfl⟩
            exact List.mem_filter.mpr ⟨stored, decide_eq_true same⟩

theorem sentOnce_step_iff {queue : OfflineQueue} {event : QueueEvent} (booked : Booked queue)
    (noClear : NoClear queue event) (once : SentOnce queue) :
    SentOnce (queue.step event) ↔ SendsOnce queue event := by
  cases event with
  | init => exact iff_of_true (sentOnce_of_same once rfl rfl fun _ stored => stored) trivial
  | setCacheEnabled enabled =>
      exact iff_of_true (sentOnce_of_same once rfl rfl fun _ stored => stored) trivial
  | setFlushEnabled enabled =>
      exact iff_of_true (sentOnce_of_same once rfl rfl fun _ stored => stored) trivial
  | clearPending => exact absurd rfl noClear
  | arrange rows =>
      refine iff_of_true ?_ trivial
      simp only [step]
      split
      · rename_i same
        refine sentOnce_of_same once rfl rfl ?_
        rintro message ⟨row, stored, rfl⟩
        exact ⟨row, same.symm.subset stored, rfl⟩
      · exact once
  | publish item metadata taken =>
      exact iff_of_true (sentOnce_publish booked once item metadata taken) trivial
  | cache index now =>
      simp only [step, cache, SendsOnce]
      cases found : queue.waiting[index]? with
      | none => exact iff_of_true once trivial
      | some entry =>
          have dequeued : Booked { queue with waiting := queue.waiting.eraseIdx index } :=
            ⟨booked.consistent.fewerRows (List.Subset.refl _) rfl rfl rfl rfl, booked.accepted,
              booked.passed⟩
          exact sentOnce_cache_iff dequeued
            (sentOnce_of_same once rfl rfl fun _ stored => stored) entry.1 entry.2 now
  | startFlush =>
      refine iff_of_true ?_ trivial
      simp only [step]
      rcases startFlush_cases queue with result | result
      · rw [result]
        exact once
      · rw [result]
        exact sentOnce_of_same once rfl rfl fun _ stored => stored
  | send index taken =>
      cases taken with
      | true => exact sentOnce_send_iff once index
      | false => exact iff_of_true (sentOnce_send_refused once index) trivial
  | finish index => exact iff_of_true (sentOnce_finish booked once index) trivial

/-! ## Whole runs -/

theorem sentOnce_start : SentOnce start := by
  refine ⟨List.nodup_nil, ?_⟩
  intro message impossible
  cases impossible

def cachedAlarm : List QueueEvent :=
  [.init, .setFlushEnabled true,
    .publish ⟨"gateway/gateway_001/port_001/up", "alarm"⟩ (alarmMeta 0 1 "temperature" 1000) false,
    .cache 0 1000]

/-- The second flush starts when the first one has ended. -/
def flushedInTurn : List QueueEvent :=
  cachedAlarm ++ [.startFlush, .send 0 true, .finish 0, .startFlush]

/-- Both flushes load the row before one of them has removed it. -/
def flushedTwice : List QueueEvent :=
  cachedAlarm ++ [.startFlush, .startFlush, .send 0 true, .send 1 true]

end OfflineQueue
end Board
end Imx6Gateway
