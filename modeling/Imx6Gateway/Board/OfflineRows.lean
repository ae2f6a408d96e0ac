import Imx6Gateway.Board.OfflineCache

namespace Imx6Gateway
namespace Board

open Library

/-!
# The rows of the offline cache over whole runs

Accepted messages are numbered and row ids are never used twice, so a row in
the table and its copies in running flushes carry one message.  A pending row
whose message has been sent is one whose removal is still to come.
-/

/-- The copies of rows that a flush works on. -/
def Flush.rows (flush : Flush) : List CacheRow :=
  match flush.answered with
  | some (row, _) => row :: flush.remaining
  | none => flush.remaining

theorem Flush.mem_rows_of_remaining {flush : Flush} {row : CacheRow}
    (remains : row ∈ flush.remaining) : row ∈ flush.rows := by
  unfold rows
  split
  · exact List.mem_cons_of_mem _ remains
  · exact remains

theorem Flush.mem_rows_of_answered {flush : Flush} {row : CacheRow} {taken : Bool}
    (answered : flush.answered = some (row, taken)) : row ∈ flush.rows := by
  rw [rows, answered]
  exact List.mem_cons_self

namespace OfflineQueue

/-! ## The numbers of the accepted messages -/

structure Numbered (queue : OfflineQueue) : Prop where
  below : forall message, message ∈ queue.accepted -> message.mark < queue.accepted.length
  grow : queue.accepted.Pairwise fun first second => first.mark < second.mark

/-- One more message gets the next number. -/
theorem Numbered.next {queue later : OfflineQueue} (numbered : Numbered queue)
    {message : Outgoing} (mark : message.mark = queue.accepted.length)
    (accepted : later.accepted = queue.accepted ++ [message]) : Numbered later := by
  constructor
  · intro other
    rw [accepted, List.length_append, List.length_singleton, List.mem_append, List.mem_singleton]
    rintro (old | rfl)
    · exact Nat.lt_succ_of_lt (numbered.below other old)
    · exact mark ▸ Nat.lt_succ_self _
  · rw [accepted, List.pairwise_append]
    refine ⟨numbered.grow, List.pairwise_singleton _ _, ?_⟩
    intro old inside new isNew
    rw [List.mem_singleton.mp isNew, mark]
    exact numbered.below old inside

theorem Numbered.same {queue later : OfflineQueue} (numbered : Numbered queue)
    (accepted : later.accepted = queue.accepted) : Numbered later :=
  ⟨accepted ▸ numbered.below, accepted ▸ numbered.grow⟩

/-! ## Rows, copies and messages -/

def allRows (queue : OfflineQueue) : List CacheRow :=
  queue.rows ++ queue.running.flatMap Flush.rows

/-- One id, one message. -/
structure Tracked (queue : OfflineQueue) : Prop where
  numbered : forall row, row ∈ queue.allRows -> row.message.mark < queue.accepted.length
  identified : forall row, row ∈ queue.allRows -> row.id < queue.nextId
  sameRow : forall first, first ∈ queue.allRows -> forall second, second ∈ queue.allRows ->
    (first.id = second.id ↔ first.message = second.message)
  sentNumbered : forall message, message ∈ queue.sent -> message.mark < queue.accepted.length

/-- A sent message that is still pending in the table is about to be removed. -/
def Entered (queue : OfflineQueue) : Prop :=
  forall row, row ∈ queue.rows -> row.status = .pending -> row.message ∈ queue.sent ->
    ∃ flush done, flush ∈ queue.running ∧ flush.answered = some (done, true) ∧ done.id = row.id

/-- A step that adds no row. -/
theorem Tracked.shrink {queue later : OfflineQueue} (tracked : Tracked queue)
    (rows : forall row, row ∈ later.allRows -> ∃ earlier, earlier ∈ queue.allRows ∧
      earlier.id = row.id ∧ earlier.message = row.message)
    (nextId : later.nextId = queue.nextId)
    (accepted : queue.accepted.length ≤ later.accepted.length)
    (sent : forall message, message ∈ later.sent -> message.mark < later.accepted.length) :
    Tracked later := by
  constructor
  · intro row inside
    rcases rows row inside with ⟨earlier, before, _, message⟩
    rw [← message]
    exact (tracked.numbered earlier before).trans_le accepted
  · intro row inside
    rcases rows row inside with ⟨earlier, before, id, _⟩
    rw [← id, nextId]
    exact tracked.identified earlier before
  · intro first firstIn second secondIn
    rcases rows first firstIn with ⟨earlier, before, id, message⟩
    rcases rows second secondIn with ⟨earlier', before', id', message'⟩
    rw [← id, ← id', ← message, ← message']
    exact tracked.sameRow earlier before earlier' before'
  · exact sent

/-- A new row with a new id and a new number. -/
theorem Tracked.insert {queue later : OfflineQueue} {row : CacheRow} (tracked : Tracked queue)
    (id : row.id = queue.nextId) (mark : row.message.mark = queue.accepted.length)
    (rows : forall other, other ∈ later.allRows -> other ∈ queue.allRows ∨ other = row)
    (nextId : later.nextId = queue.nextId + 1)
    (accepted : later.accepted.length = queue.accepted.length + 1) (sent : later.sent = queue.sent) :
    Tracked later := by
  have different : forall old, old ∈ queue.allRows ->
      ¬ old.id = row.id ∧ ¬ old.message = row.message := by
    intro old inside
    constructor
    · intro same
      exact absurd (tracked.identified old inside) (by omega)
    · intro same
      have bound := tracked.numbered old inside
      rw [same, mark] at bound
      exact Nat.lt_irrefl _ bound
  constructor
  · intro other inside
    rw [accepted]
    rcases rows other inside with old | rfl
    · exact Nat.lt_succ_of_lt (tracked.numbered other old)
    · exact mark ▸ Nat.lt_succ_self _
  · intro other inside
    rw [nextId]
    rcases rows other inside with old | rfl
    · exact Nat.lt_succ_of_lt (tracked.identified other old)
    · exact id ▸ Nat.lt_succ_self _
  · intro first firstIn second secondIn
    rcases rows first firstIn with old | rfl
    · rcases rows second secondIn with old' | rfl
      · exact tracked.sameRow first old second old'
      · exact iff_of_false (different first old).1 (different first old).2
    · rcases rows second secondIn with old' | rfl
      · exact iff_of_false (fun same => (different second old').1 same.symm)
          (fun same => (different second old').2 same.symm)
      · exact iff_of_true rfl rfl
  · rw [sent, accepted]
    exact fun message inside => Nat.lt_succ_of_lt (tracked.sentNumbered message inside)

theorem mem_allRows_of_table {queue : OfflineQueue} {row : CacheRow} (stored : row ∈ queue.rows) :
    row ∈ queue.allRows :=
  List.mem_append_left _ stored

theorem mem_allRows_of_flush {queue : OfflineQueue} {flush : Flush} {row : CacheRow}
    (runs : flush ∈ queue.running) (works : row ∈ flush.rows) : row ∈ queue.allRows :=
  List.mem_append_right _ (List.mem_flatMap.mpr ⟨flush, runs, works⟩)

/-- Rows of the table and of the flushes, each with what they were before. -/
theorem allRows_cases {queue : OfflineQueue} {row : CacheRow} (inside : row ∈ queue.allRows) :
    row ∈ queue.rows ∨ ∃ flush, flush ∈ queue.running ∧ row ∈ flush.rows := by
  rcases List.mem_append.mp inside with stored | working
  · exact Or.inl stored
  · exact Or.inr (List.mem_flatMap.mp working)

/-! ## Every step keeps the bookkeeping -/

structure Consistent (queue : OfflineQueue) : Prop where
  numbered : Numbered queue
  tracked : Tracked queue
  entered : Entered queue

/-- The table loses rows and nothing else changes. -/
theorem Consistent.fewerRows {queue later : OfflineQueue} (consistent : Consistent queue)
    (rows : later.rows ⊆ queue.rows) (running : later.running = queue.running)
    (nextId : later.nextId = queue.nextId) (accepted : later.accepted = queue.accepted)
    (sent : later.sent = queue.sent) : Consistent later := by
  refine ⟨consistent.numbered.same accepted, ?_, ?_⟩
  · apply consistent.tracked.shrink
    · intro row inside
      refine ⟨row, ?_, rfl, rfl⟩
      rcases allRows_cases inside with stored | ⟨flush, runs, works⟩
      · exact mem_allRows_of_table (rows stored)
      · exact mem_allRows_of_flush (running ▸ runs) works
    · exact nextId
    · exact Nat.le_of_eq (congrArg List.length accepted).symm
    · rw [sent, accepted]
      exact consistent.tracked.sentNumbered
  · intro row stored pending wasSent
    rw [running]
    exact consistent.entered row (rows stored) pending (sent ▸ wasSent)

theorem Consistent.direct {queue : OfflineQueue} (consistent : Consistent queue)
    (item : MqttItem) (metadata : PublishMeta) :
    Consistent (queue.publish item metadata true) := by
  have longer : (queue.publish item metadata true).accepted.length = queue.accepted.length + 1 :=
    List.length_append
  refine ⟨consistent.numbered.next rfl rfl, ?_, ?_⟩
  · apply consistent.tracked.shrink
    · exact fun row inside => ⟨row, inside, rfl, rfl⟩
    · rfl
    · rw [longer]
      exact Nat.le_succ _
    · intro message inside
      rw [longer]
      rcases List.mem_append.mp inside with old | new
      · exact Nat.lt_succ_of_lt (consistent.tracked.sentNumbered message old)
      · rw [List.mem_singleton.mp new]
        exact Nat.lt_succ_self _
  · intro row stored pending wasSent
    rcases List.mem_append.mp wasSent with old | new
    · exact consistent.entered row stored pending old
    · have bound := consistent.tracked.numbered row (mem_allRows_of_table stored)
      rw [List.mem_singleton.mp new] at bound
      exact absurd bound (Nat.lt_irrefl _)

theorem newRow_id (queue : OfflineQueue) (item : MqttItem) (metadata : PublishMeta) (now : Int) :
    (queue.newRow item metadata now).id = queue.nextId := rfl

theorem newRow_mark (queue : OfflineQueue) (item : MqttItem) (metadata : PublishMeta) (now : Int) :
    (queue.newRow item metadata now).message.mark = queue.accepted.length := rfl

theorem Consistent.cacheMessage {queue : OfflineQueue} (consistent : Consistent queue)
    (item : MqttItem) (metadata : PublishMeta) (now : Int) :
    Consistent (queue.cacheMessage item metadata now) := by
  rcases cacheMessage_cases queue item metadata now with ⟨samples, ⟨_, result⟩ | ⟨_, result⟩⟩
  · -- The row is inserted first; the cleanup only takes rows away.
    have inserted : Consistent
        { queue with
          samples := samples
          rows := queue.rows ++ [queue.newRow item metadata now]
          nextId := queue.nextId + 1
          accepted := queue.accepted ++ [queue.next item metadata.priority] } := by
      refine ⟨consistent.numbered.next rfl rfl, ?_, ?_⟩
      · apply consistent.tracked.insert
        · exact queue.newRow_id item metadata now
        · exact queue.newRow_mark item metadata now
        · intro other inside
          rcases allRows_cases inside with stored | ⟨flush, runs, works⟩
          · rcases List.mem_append.mp stored with old | new
            · exact Or.inl (mem_allRows_of_table old)
            · exact Or.inr (List.mem_singleton.mp new)
          · exact Or.inl (mem_allRows_of_flush runs works)
        · rfl
        · exact List.length_append
        · rfl
      · intro row stored pending wasSent
        rcases List.mem_append.mp stored with old | new
        · exact consistent.entered row old pending wasSent
        · have bound := consistent.tracked.sentNumbered row.message wasSent
          rw [List.mem_singleton.mp new] at bound
          exact absurd bound (Nat.lt_irrefl _)
    rw [result]
    exact inserted.fewerRows (enforceMaxRecords_subset _) rfl rfl rfl rfl
  · rw [result]
    exact consistent.fewerRows (List.Subset.refl _) rfl rfl rfl rfl

theorem Consistent.startFlush {queue : OfflineQueue} (consistent : Consistent queue) :
    Consistent queue.startFlush := by
  rcases startFlush_cases queue with result | result
  · rw [result]
    exact consistent
  · rw [result]
    refine ⟨consistent.numbered.same rfl, ?_, ?_⟩
    · apply consistent.tracked.shrink
      · intro row inside
        refine ⟨row, ?_, rfl, rfl⟩
        rcases allRows_cases inside with stored | ⟨flush, runs, works⟩
        · exact mem_allRows_of_table stored
        · rcases List.mem_append.mp runs with old | new
          · exact mem_allRows_of_flush old works
          · rw [List.mem_singleton.mp new] at works
            exact mem_allRows_of_table (mem_of_mem_loadPending works).1
      · rfl
      · exact Nat.le_refl _
      · exact consistent.tracked.sentNumbered
    · intro row stored pending wasSent
      rcases consistent.entered row stored pending wasSent with ⟨flush, done, runs, entry⟩
      exact ⟨flush, done, List.mem_append_left _ runs, entry⟩

/-- The flushes at the other places stay. -/
theorem mem_set_of_ne {running : List Flush} {index : Nat} {old other new : Flush}
    (found : running[index]? = some old) (different : other ≠ old) (runs : other ∈ running) :
    other ∈ running.set index new := by
  rcases List.mem_iff_getElem?.mp runs with ⟨place, at_⟩
  have apart : index ≠ place := by
    rintro rfl
    exact different (Option.some.inj (at_.symm.trans found))
  exact List.mem_iff_getElem?.mpr ⟨place, (List.getElem?_set_ne apart).trans at_⟩

theorem mem_eraseIdx_of_ne {running : List Flush} {index : Nat} {old other : Flush}
    (found : running[index]? = some old) (different : other ≠ old) (runs : other ∈ running) :
    other ∈ running.eraseIdx index := by
  rcases List.mem_iff_getElem?.mp runs with ⟨place, at_⟩
  refine List.mem_eraseIdx_iff_getElem?.mpr ⟨place, ?_, at_⟩
  rintro rfl
  exact different (Option.some.inj (at_.symm.trans found))

theorem Consistent.send {queue : OfflineQueue} (consistent : Consistent queue) (index : Nat)
    (taken : Bool) : Consistent (queue.send index taken) := by
  rcases send_cases queue index taken with ⟨_, result⟩ | ⟨row, rest, _, found, result⟩
  · rw [result]
    exact consistent
  · have running := List.mem_of_getElem? found
    have offered : row ∈ queue.allRows := mem_allRows_of_flush running List.mem_cons_self
    have sent : forall message,
        message ∈ (if taken then queue.sent ++ [row.message] else queue.sent) ->
          message ∈ queue.sent ∨ taken = true ∧ message = row.message := by
      intro message inside
      split at inside
      · rename_i yes
        exact (List.mem_append.mp inside).imp_right
          (fun new => ⟨yes, List.mem_singleton.mp new⟩)
      · exact Or.inl inside
    rw [result]
    refine ⟨consistent.numbered.same rfl, ?_, ?_⟩
    · apply consistent.tracked.shrink
      · intro other inside
        refine ⟨other, ?_, rfl, rfl⟩
        rcases allRows_cases inside with stored | ⟨flush, runs, works⟩
        · exact mem_allRows_of_table stored
        · rcases List.mem_or_eq_of_mem_set runs with old | rfl
          · exact mem_allRows_of_flush old works
          · refine mem_allRows_of_flush running ?_
            cases taken with
            | true => exact works
            | false => exact List.mem_cons.mpr (Or.inl (List.mem_singleton.mp works))
      · rfl
      · exact Nat.le_refl _
      · intro message inside
        rcases sent message inside with old | ⟨_, rfl⟩
        · exact consistent.tracked.sentNumbered message old
        · exact consistent.tracked.numbered row offered
    · intro other stored pending wasSent
      rcases sent other.message wasSent with old | ⟨rfl, same⟩
      · rcases consistent.entered other stored pending old with ⟨flush, done, runs, answered, id⟩
        have different : flush ≠ ⟨row :: rest, none⟩ := by
          rintro rfl
          cases answered
        exact ⟨flush, done, mem_set_of_ne found different runs, answered, id⟩
      · have id := (consistent.tracked.sameRow row offered other
          (mem_allRows_of_table stored)).mpr same.symm
        have inside := (List.getElem?_eq_some_iff.mp found).1
        exact ⟨_, row, List.mem_set inside _, rfl, id⟩

/-- A row of the table after an answer has been entered. -/
theorem entered_row {rows : List CacheRow} {done row : CacheRow} {taken : Bool}
    (inside : row ∈ if taken then remove rows done.id else markSendFailed rows done.id) :
    ∃ earlier, earlier ∈ rows ∧ earlier.id = row.id ∧ earlier.message = row.message ∧
      earlier.timestampMs = row.timestampMs ∧ (row.status = .pending -> earlier.status = .pending) ∧
        (taken = true -> row.id ≠ done.id) := by
  split at inside
  · rcases List.mem_filter.mp inside with ⟨stored, kept⟩
    exact ⟨row, stored, rfl, rfl, rfl, id, fun _ => of_decide_eq_true kept⟩
  · rename_i refused
    rcases List.mem_map.mp inside with ⟨earlier, stored, rfl⟩
    refine ⟨earlier, stored, ?_, ?_, ?_, ?_, fun yes => absurd yes refused⟩
    · split <;> rfl
    · split <;> rfl
    · split <;> rfl
    · split
      · unfold CacheRow.sendFailed
        intro pending
        by_cases fifth : 5 ≤ earlier.sendCount + 1
        · rw [if_pos fifth] at pending
          cases pending
        · rwa [if_neg fifth] at pending
      · exact id

theorem Consistent.finish {queue : OfflineQueue} (consistent : Consistent queue) (index : Nat) :
    Consistent (queue.finish index) := by
  rcases finish_cases queue index with result | ⟨rest, done, taken, running, found, form, result⟩
  · rw [result]
    exact consistent
  · have runs := List.mem_of_getElem? found
    have works : forall flush, flush ∈ running -> forall row, row ∈ flush.rows ->
        row ∈ queue.allRows := by
      intro flush inside row working
      rcases form with rfl | rfl
      · rcases List.mem_or_eq_of_mem_set inside with old | rfl
        · exact mem_allRows_of_flush old working
        · exact mem_allRows_of_flush runs (Flush.mem_rows_of_remaining working)
      · exact mem_allRows_of_flush (List.mem_of_mem_eraseIdx inside) working
    have stays : forall flush, flush ∈ queue.running -> flush ≠ ⟨rest, some (done, taken)⟩ ->
        flush ∈ running := by
      intro flush inside different
      rcases form with rfl | rfl
      · exact mem_set_of_ne found different inside
      · exact mem_eraseIdx_of_ne found different inside
    rw [result]
    refine ⟨consistent.numbered.same rfl, ?_, ?_⟩
    · apply consistent.tracked.shrink
      · intro row inside
        rcases allRows_cases inside with stored | ⟨flush, inside, working⟩
        · rcases entered_row stored with ⟨earlier, before, id, message, _⟩
          exact ⟨earlier, mem_allRows_of_table before, id, message⟩
        · exact ⟨row, works flush inside row working, rfl, rfl⟩
      · rfl
      · exact Nat.le_refl _
      · exact consistent.tracked.sentNumbered
    · intro row stored pending wasSent
      rcases entered_row stored with ⟨earlier, before, id, message, _, wasPending, kept⟩
      rcases consistent.entered earlier before (wasPending pending) (message ▸ wasSent) with
        ⟨flush, sentRow, ran, answered, sameId⟩
      have different : flush ≠ ⟨rest, some (done, taken)⟩ := by
        rintro rfl
        cases answered
        exact kept rfl (id ▸ sameId.symm)
      exact ⟨flush, sentRow, stays flush ran different, answered, sameId.trans id⟩

theorem consistent_step (queue : OfflineQueue) (event : QueueEvent)
    (consistent : Consistent queue) : Consistent (queue.step event) := by
  cases event with
  | init => exact consistent.fewerRows (List.Subset.refl _) rfl rfl rfl rfl
  | setCacheEnabled enabled => exact consistent.fewerRows (List.Subset.refl _) rfl rfl rfl rfl
  | setFlushEnabled enabled => exact consistent.fewerRows (List.Subset.refl _) rfl rfl rfl rfl
  | clearPending =>
      simp only [step]
      split
      · exact consistent.fewerRows (List.filter_subset_self _) rfl rfl rfl rfl
      · exact consistent
  | arrange rows =>
      simp only [step]
      split
      · rename_i same
        exact consistent.fewerRows same.subset rfl rfl rfl rfl
      · exact consistent
  | publish item metadata taken =>
      cases taken with
      | true => exact consistent.direct item metadata
      | false => exact consistent.fewerRows (List.Subset.refl _) rfl rfl rfl rfl
  | cache index now =>
      simp only [step, cache]
      split
      · rename_i item metadata found
        have dequeued : Consistent { queue with waiting := queue.waiting.eraseIdx index } :=
          consistent.fewerRows (List.Subset.refl _) rfl rfl rfl rfl
        exact dequeued.cacheMessage item metadata now
      · exact consistent
  | startFlush => exact consistent.startFlush
  | send index taken => exact consistent.send index taken
  | finish index => exact consistent.finish index

theorem consistent_start : Consistent start := by
  constructor
  · constructor
    · intro message inside
      cases inside
    · exact List.Pairwise.nil
  · constructor
    · intro row inside
      cases inside
    · intro row inside
      cases inside
    · intro row inside
      cases inside
    · intro message inside
      cases inside
  · intro row inside
    cases inside

theorem consistent_run (events : List QueueEvent) : Consistent (system.run events) :=
  system.invariant_everywhere consistent_start consistent_step events

end OfflineQueue
end Board
end Imx6Gateway
