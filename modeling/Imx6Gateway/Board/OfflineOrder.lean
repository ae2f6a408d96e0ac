import Imx6Gateway.Board.OfflineRows
import Imx6Gateway.Board.Publications

namespace Imx6Gateway
namespace Board

open Library

/-!
# The order of the replay

Messages of one topic and one priority should reach the sender in the order
in which they were accepted.  The direct path does not look at the table, and
the table is read by time stamps that the producers choose.  The order holds
as long as nothing is sent past a stored message of its lane, the stamps of a
lane grow, and flushes do not overlap.
-/

namespace OfflineQueue

/-- Two messages of a lane never reach the sender the other way round. -/
def InOrder (queue : OfflineQueue) : Prop :=
  forall first second : Outgoing, first.SameLane second ->
    [first, second].Sublist queue.accepted -> ¬ [second, first].Sublist queue.sent

/-- The rows that a flush can still load and that have not been sent. -/
def unsent (queue : OfflineQueue) : List CacheRow :=
  queue.rows.filter fun row => row.status = .pending ∧ row.message ∉ queue.sent

def loaded (queue : OfflineQueue) : List CacheRow :=
  queue.running.flatMap Flush.remaining

/-- No message overtakes: a direct send finds no stored message of its lane, a
stored message is stamped later than those of its lane, and a flush begins
after the last one has ended. -/
def KeepsOrder (queue : OfflineQueue) : QueueEvent -> Prop
  | .publish item metadata true =>
      forall row, row ∈ queue.unsent ++ queue.loaded ->
        ¬ row.message.SameLane (queue.next item metadata.priority)
  | .cache index now =>
      forall entry, entry ∈ queue.waiting[index]? -> queue.stores entry.2 = true ->
        forall row, row ∈ queue.unsent ->
          row.message.SameLane (queue.next entry.1 entry.2.priority) ->
            row.timestampMs < storedTime entry.2 now
  | .startFlush => queue.running = []
  | _ => True

/-! ## The invariant of the runs that keep the order -/

structure Ordered (queue : OfflineQueue) : Prop where
  sentNumbered : forall message, message ∈ queue.sent -> message.mark < queue.accepted.length
  rowsNumbered : forall row, row ∈ queue.unsent ++ queue.loaded ->
    row.message.mark < queue.accepted.length
  sentSorted : queue.sent.Pairwise fun first second =>
    first.SameLane second -> first.mark ≤ second.mark
  sentFirst : forall message, message ∈ queue.sent ->
    forall row, row ∈ queue.unsent ++ queue.loaded ->
      message.SameLane row.message -> message.mark ≤ row.message.mark
  stamped : forall first, first ∈ queue.unsent -> forall second, second ∈ queue.unsent ->
    first.message.SameLane second.message -> first.message.mark < second.message.mark ->
      first.timestampMs < second.timestampMs
  single : queue.running.length ≤ 1
  flushSorted : forall flush, flush ∈ queue.running ->
    flush.remaining.Pairwise fun first second =>
      first.message.SameLane second.message -> first.message.mark ≤ second.message.mark
  flushFirst : forall flush, flush ∈ queue.running -> forall row, row ∈ flush.remaining ->
    forall other, other ∈ queue.unsent -> other.message.SameLane row.message ->
      other.message.mark < row.message.mark ->
        ∃ same, same ∈ flush.remaining ∧ same.message = other.message

/-- A step that sends nothing and adds no row. -/
theorem Ordered.shrink {queue later : OfflineQueue} (ordered : Ordered queue)
    (sent : later.sent = queue.sent) (accepted : later.accepted.length = queue.accepted.length)
    (rows : forall row, row ∈ later.unsent -> ∃ earlier, earlier ∈ queue.unsent ∧
      earlier.message = row.message ∧ earlier.timestampMs = row.timestampMs)
    (running : forall flush, flush ∈ later.running -> ∃ earlier, earlier ∈ queue.running ∧
      earlier.remaining = flush.remaining)
    (few : later.running.length ≤ queue.running.length) : Ordered later := by
  have backlog : forall row, row ∈ later.unsent ++ later.loaded ->
      ∃ earlier, earlier ∈ queue.unsent ++ queue.loaded ∧ earlier.message = row.message := by
    intro row inside
    rcases List.mem_append.mp inside with stored | loading
    · rcases rows row stored with ⟨earlier, before, same, _⟩
      exact ⟨earlier, List.mem_append_left _ before, same⟩
    · rcases List.mem_flatMap.mp loading with ⟨flush, runs, remains⟩
      rcases running flush runs with ⟨earlier, ran, same⟩
      refine ⟨row, List.mem_append_right _ (List.mem_flatMap.mpr ⟨earlier, ran, ?_⟩), rfl⟩
      rw [same]
      exact remains
  constructor
  · rw [sent, accepted]
    exact ordered.sentNumbered
  · intro row inside
    rcases backlog row inside with ⟨earlier, before, same⟩
    rw [accepted, ← same]
    exact ordered.rowsNumbered earlier before
  · rw [sent]
    exact ordered.sentSorted
  · rw [sent]
    intro message wasSent row inside lane
    rcases backlog row inside with ⟨earlier, before, same⟩
    rw [← same] at lane ⊢
    exact ordered.sentFirst message wasSent earlier before lane
  · intro first firstIn second secondIn lane less
    rcases rows first firstIn with ⟨earlier, before, same, time⟩
    rcases rows second secondIn with ⟨earlier', before', same', time'⟩
    rw [← same, ← same'] at lane less
    rw [← time, ← time']
    exact ordered.stamped earlier before earlier' before' lane less
  · exact few.trans ordered.single
  · intro flush runs
    rcases running flush runs with ⟨earlier, ran, same⟩
    rw [← same]
    exact ordered.flushSorted earlier ran
  · intro flush runs row remains other stored lane less
    rcases running flush runs with ⟨earlier, ran, same⟩
    rcases rows other stored with ⟨before, wasStored, message, _⟩
    rw [← same] at remains ⊢
    rw [← message] at lane less ⊢
    exact ordered.flushFirst earlier ran row remains before wasStored lane less

theorem mem_unsent {queue : OfflineQueue} {row : CacheRow} :
    row ∈ queue.unsent ↔
      row ∈ queue.rows ∧ row.status = .pending ∧ row.message ∉ queue.sent := by
  rw [unsent, List.mem_filter, decide_eq_true_iff]

/-- The rows are a part of the earlier ones. -/
theorem Ordered.fewerRows {queue later : OfflineQueue} (ordered : Ordered queue)
    (sent : later.sent = queue.sent) (accepted : later.accepted = queue.accepted)
    (rows : later.rows ⊆ queue.rows) (running : later.running = queue.running) :
    Ordered later := by
  apply ordered.shrink sent (congrArg List.length accepted)
  · intro row inside
    have stored := mem_unsent.mp inside
    rw [sent] at stored
    exact ⟨row, mem_unsent.mpr ⟨rows stored.1, stored.2⟩, rfl, rfl⟩
  · rw [running]
    exact fun flush runs => ⟨flush, runs, rfl⟩
  · rw [running]

/-- A direct send with nothing of its lane behind it. -/
theorem Ordered.direct {queue : OfflineQueue} (ordered : Ordered queue) (item : MqttItem)
    (metadata : PublishMeta) (free : queue.KeepsOrder (.publish item metadata true)) :
    Ordered (queue.publish item metadata true) := by
  have rows : forall row, row ∈ (queue.publish item metadata true).unsent -> row ∈ queue.unsent := by
    intro row inside
    have stored := mem_unsent.mp inside
    exact mem_unsent.mpr
      ⟨stored.1, stored.2.1, fun wasSent => stored.2.2 (List.mem_append_left _ wasSent)⟩
  have backlog : forall row, row ∈ (queue.publish item metadata true).unsent ++ queue.loaded ->
      row ∈ queue.unsent ++ queue.loaded := by
    intro row inside
    rcases List.mem_append.mp inside with stored | loading
    · exact List.mem_append_left _ (rows row stored)
    · exact List.mem_append_right _ loading
  have longer : (queue.publish item metadata true).accepted.length = queue.accepted.length + 1 :=
    List.length_append
  constructor
  · intro message inside
    rw [longer]
    rcases List.mem_append.mp inside with old | new
    · exact Nat.lt_succ_of_lt (ordered.sentNumbered message old)
    · rw [List.mem_singleton.mp new]
      exact Nat.lt_succ_self _
  · intro row inside
    rw [longer]
    exact Nat.lt_succ_of_lt (ordered.rowsNumbered row (backlog row inside))
  · refine List.pairwise_append.mpr ⟨ordered.sentSorted, List.pairwise_singleton _ _, ?_⟩
    intro old wasSent new isNew _
    rw [List.mem_singleton.mp isNew]
    exact Nat.le_of_lt (ordered.sentNumbered old wasSent)
  · intro message inside row behind lane
    rcases List.mem_append.mp inside with old | new
    · exact ordered.sentFirst message old row (backlog row behind) lane
    · rw [List.mem_singleton.mp new] at lane
      exact absurd ⟨lane.1.symm, lane.2.symm⟩ (free row (backlog row behind))
  · intro first firstIn second secondIn
    exact ordered.stamped first (rows first firstIn) second (rows second secondIn)
  · exact ordered.single
  · exact ordered.flushSorted
  · intro flush runs row remains other stored
    exact ordered.flushFirst flush runs row remains other (rows other stored)

/-- A new row that is stamped later than the rows of its lane. -/
theorem Ordered.insert {queue later : OfflineQueue} {row : CacheRow} (ordered : Ordered queue)
    (mark : row.message.mark = queue.accepted.length)
    (late : forall other, other ∈ queue.unsent -> other.message.SameLane row.message ->
      other.timestampMs < row.timestampMs)
    (rows : later.rows = queue.rows ++ [row]) (sent : later.sent = queue.sent)
    (accepted : later.accepted = queue.accepted ++ [row.message])
    (running : later.running = queue.running) : Ordered later := by
  have unsent : forall other, other ∈ later.unsent -> other ∈ queue.unsent ∨ other = row := by
    intro other inside
    have stored := mem_unsent.mp inside
    rw [rows, sent] at stored
    rcases List.mem_append.mp stored.1 with old | new
    · exact Or.inl (mem_unsent.mpr ⟨old, stored.2⟩)
    · exact Or.inr (List.mem_singleton.mp new)
  have backlog : forall other, other ∈ later.unsent ++ later.loaded ->
      other ∈ queue.unsent ++ queue.loaded ∨ other = row := by
    intro other inside
    rcases List.mem_append.mp inside with stored | loading
    · exact (unsent other stored).imp_left (List.mem_append_left _)
    · rw [loaded, running] at loading
      exact Or.inl (List.mem_append_right _ loading)
  have longer : later.accepted.length = queue.accepted.length + 1 := by
    rw [accepted, List.length_append, List.length_singleton]
  constructor
  · rw [sent, longer]
    exact fun message inside => Nat.lt_succ_of_lt (ordered.sentNumbered message inside)
  · intro other inside
    rw [longer]
    rcases backlog other inside with old | rfl
    · exact Nat.lt_succ_of_lt (ordered.rowsNumbered other old)
    · exact mark ▸ Nat.lt_succ_self _
  · rw [sent]
    exact ordered.sentSorted
  · rw [sent]
    intro message wasSent other inside lane
    rcases backlog other inside with old | rfl
    · exact ordered.sentFirst message wasSent other old lane
    · exact mark ▸ Nat.le_of_lt (ordered.sentNumbered message wasSent)
  · intro first firstIn second secondIn lane less
    rcases unsent first firstIn with old | rfl
    · rcases unsent second secondIn with old' | rfl
      · exact ordered.stamped first old second old' lane less
      · exact late first old lane
    · rcases unsent second secondIn with old' | rfl
      · have bound := ordered.rowsNumbered second (List.mem_append_left _ old')
        exact absurd less (by omega)
      · exact absurd less (Nat.lt_irrefl _)
  · rw [running]
    exact ordered.single
  · rw [running]
    exact ordered.flushSorted
  · rw [running]
    intro flush runs other remains new inside lane less
    rcases unsent new inside with old | rfl
    · exact ordered.flushFirst flush runs other remains new old lane less
    · have bound := ordered.rowsNumbered other
        (List.mem_append_right _ (List.mem_flatMap.mpr ⟨flush, runs, remains⟩))
      exact absurd less (by omega)

/-- In the order of the query, rows of a lane stand in the order of their
numbers. -/
theorem Ordered.mark_le_of_before {queue : OfflineQueue} (ordered : Ordered queue)
    {first second : CacheRow} (firstIn : first ∈ queue.unsent) (secondIn : second ∈ queue.unsent)
    (before : first.Before second) (lane : first.message.SameLane second.message) :
    first.message.mark ≤ second.message.mark := by
  by_contra later
  have time := ordered.stamped second secondIn first firstIn ⟨lane.1.symm, lane.2.symm⟩
    (Nat.lt_of_not_le later)
  have priority := lane.2
  unfold CacheRow.Before at before
  omega

theorem Ordered.startFlush {queue : OfflineQueue} (ordered : Ordered queue)
    (entered : Entered queue) (alone : queue.running = []) : Ordered queue.startFlush := by
  rcases startFlush_cases queue with result | result
  · rw [result]
    exact ordered
  · have running : queue.startFlush.running = [⟨loadPending queue.rows kFlushBatchSize, none⟩] := by
      rw [result, alone]
      rfl
    have unsent : queue.startFlush.unsent = queue.unsent := by
      rw [result]
      rfl
    have batch : forall row, row ∈ loadPending queue.rows kFlushBatchSize -> row ∈ queue.unsent := by
      intro row inside
      rcases mem_of_mem_loadPending inside with ⟨stored, pending⟩
      refine mem_unsent.mpr ⟨stored, pending, ?_⟩
      intro wasSent
      rcases entered row stored pending wasSent with ⟨flush, _, runs, _⟩
      rw [alone] at runs
      cases runs
    have backlog : forall row, row ∈ queue.startFlush.unsent ++ queue.startFlush.loaded ->
        row ∈ queue.unsent ++ queue.loaded := by
      intro row inside
      rw [unsent, loaded, running, List.flatMap_singleton] at inside
      rcases List.mem_append.mp inside with stored | loading
      · exact List.mem_append_left _ stored
      · exact List.mem_append_left _ (batch row loading)
    have accepted : queue.startFlush.accepted = queue.accepted := by rw [result]
    have sent : queue.startFlush.sent = queue.sent := by rw [result]
    constructor
    · rw [sent, accepted]
      exact ordered.sentNumbered
    · rw [accepted]
      exact fun row inside => ordered.rowsNumbered row (backlog row inside)
    · rw [sent]
      exact ordered.sentSorted
    · rw [sent]
      exact fun message wasSent row inside =>
        ordered.sentFirst message wasSent row (backlog row inside)
    · rw [unsent]
      exact ordered.stamped
    · rw [running]
      exact Nat.le_refl 1
    · rw [running]
      intro flush runs
      rw [List.mem_singleton.mp runs]
      refine (loadPending_sorted queue.rows kFlushBatchSize).imp_of_mem ?_
      intro first second firstIn secondIn before lane
      exact ordered.mark_le_of_before (batch first firstIn) (batch second secondIn) before lane
    · rw [running, unsent]
      intro flush runs row remains other stored lane less
      rw [List.mem_singleton.mp runs] at remains ⊢
      by_contra missing
      have left : other ∉ loadPending queue.rows kFlushBatchSize :=
        fun inside => missing ⟨other, inside, rfl⟩
      rcases mem_unsent.mp stored with ⟨inTable, pending, _⟩
      have order := ordered.mark_le_of_before (batch row remains) stored
        (loadPending_before remains inTable pending left) ⟨lane.1.symm, lane.2.symm⟩
      exact absurd less (Nat.not_lt_of_le order)

/-- The only flush. -/
theorem Ordered.running_eq {queue : OfflineQueue} (ordered : Ordered queue) {index : Nat}
    {flush : Flush} (found : queue.running[index]? = some flush) :
    queue.running = [flush] ∧ index = 0 := by
  have single := ordered.single
  have inside := (List.getElem?_eq_some_iff.mp found).1
  have first : index = 0 := by omega
  subst first
  rcases List.length_eq_one_iff.mp (by omega : queue.running.length = 1) with ⟨only, alone⟩
  rw [alone] at found ⊢
  cases found
  exact ⟨rfl, rfl⟩

/-- The flush sends the earliest message of each lane. -/
theorem Ordered.send {queue : OfflineQueue} (ordered : Ordered queue) (index : Nat)
    (taken : Bool) : Ordered (queue.send index taken) := by
  rcases send_cases queue index taken with ⟨_, result⟩ | ⟨row, rest, _, found, result⟩
  · rw [result]
    exact ordered
  · rcases ordered.running_eq found with ⟨alone, rfl⟩
    have running : (queue.send 0 taken).running =
        [⟨if taken then rest else [], some (row, taken)⟩] := by
      rw [result, alone]
      rfl
    have fewer : forall other, other ∈ (if taken then rest else []) -> taken = true ∧ other ∈ rest := by
      intro other inside
      cases taken with
      | true => exact ⟨rfl, inside⟩
      | false => cases inside
    have runs : (⟨row :: rest, none⟩ : Flush) ∈ queue.running := List.mem_of_getElem? found
    have sorted := List.pairwise_cons.mp (ordered.flushSorted _ runs)
    have accepted : (queue.send 0 taken).accepted = queue.accepted := by rw [result]
    have unsent : forall other, other ∈ (queue.send 0 taken).unsent -> other ∈ queue.unsent := by
      intro other inside
      have stored := mem_unsent.mp inside
      rw [result] at stored
      refine mem_unsent.mpr ⟨stored.1, stored.2.1, fun wasSent => stored.2.2 ?_⟩
      cases taken with
      | true => exact List.mem_append_left _ wasSent
      | false => exact wasSent
    have backlog : forall other, other ∈ (queue.send 0 taken).unsent ++ (queue.send 0 taken).loaded ->
        other ∈ queue.unsent ++ queue.loaded := by
      intro other inside
      rcases List.mem_append.mp inside with stored | loading
      · exact List.mem_append_left _ (unsent other stored)
      · rw [loaded, running, List.flatMap_singleton] at loading
        exact List.mem_append_right _
          (List.mem_flatMap.mpr ⟨_, runs, List.mem_cons_of_mem _ (fewer other loading).2⟩)
    have offered : row ∈ queue.unsent ++ queue.loaded :=
      List.mem_append_right _ (List.mem_flatMap.mpr ⟨_, runs, List.mem_cons_self⟩)
    -- No message of the lane that still waits has a smaller number.
    have first : forall other, other ∈ (queue.send 0 taken).unsent ++ (queue.send 0 taken).loaded ->
        row.message.SameLane other.message -> row.message.mark ≤ other.message.mark := by
      intro other inside lane
      rcases List.mem_append.mp inside with stored | loading
      · by_contra less
        obtain ⟨same, remains, equal⟩ := ordered.flushFirst _ runs row List.mem_cons_self other
          (unsent other stored) ⟨lane.1.symm, lane.2.symm⟩ (Nat.lt_of_not_le less)
        rcases List.mem_cons.mp remains with rfl | behind
        · exact less (Nat.le_of_eq (congrArg Outgoing.mark equal))
        · rw [← equal] at less lane
          exact less (sorted.1 same behind lane)
      · rw [loaded, running, List.flatMap_singleton] at loading
        exact sorted.1 other (fewer other loading).2 lane
    have sent : forall message, message ∈ (queue.send 0 taken).sent ->
        message ∈ queue.sent ∨ message = row.message := by
      intro message inside
      rw [result] at inside
      cases taken with
      | true => exact (List.mem_append.mp inside).imp_right List.mem_singleton.mp
      | false => exact Or.inl inside
    constructor
    · rw [accepted]
      intro message inside
      rcases sent message inside with old | rfl
      · exact ordered.sentNumbered message old
      · exact ordered.rowsNumbered row offered
    · rw [accepted]
      exact fun other inside => ordered.rowsNumbered other (backlog other inside)
    · rw [result]
      cases taken with
      | true =>
          refine List.pairwise_append.mpr ⟨ordered.sentSorted, List.pairwise_singleton _ _, ?_⟩
          intro old wasSent new isNew lane
          rw [List.mem_singleton.mp isNew] at lane ⊢
          exact ordered.sentFirst old wasSent row offered lane
      | false => exact ordered.sentSorted
    · intro message inside other behind lane
      rcases sent message inside with old | rfl
      · exact ordered.sentFirst message old other (backlog other behind) lane
      · exact first other behind lane
    · intro one oneIn two twoIn
      exact ordered.stamped one (unsent one oneIn) two (unsent two twoIn)
    · rw [running]
      exact Nat.le_refl 1
    · rw [running]
      intro flush inside
      rw [List.mem_singleton.mp inside]
      cases taken with
      | true => exact sorted.2
      | false => exact List.Pairwise.nil
    · rw [running]
      intro flush inside other remains earlier stored lane less
      rw [List.mem_singleton.mp inside] at remains ⊢
      rcases fewer other remains with ⟨rfl, behind⟩
      obtain ⟨same, still, equal⟩ := ordered.flushFirst _ runs other
        (List.mem_cons_of_mem _ behind) earlier (unsent earlier stored) lane less
      rcases List.mem_cons.mp still with rfl | stays
      · have unsentStill := (mem_unsent.mp stored).2.2
        rw [result] at unsentStill
        exact absurd (List.mem_append_right _ (List.mem_singleton.mpr equal.symm)) unsentStill
      · exact ⟨same, stays, equal⟩

theorem Ordered.finish {queue : OfflineQueue} (ordered : Ordered queue) (index : Nat) :
    Ordered (queue.finish index) := by
  rcases finish_cases queue index with result | ⟨rest, done, taken, running, found, form, result⟩
  · rw [result]
    exact ordered
  · rcases ordered.running_eq found with ⟨alone, rfl⟩
    have left : running = [⟨rest, none⟩] ∨ running = [] := by
      rw [alone] at form
      exact form
    rw [result]
    apply ordered.shrink
    · rfl
    · rfl
    · intro row inside
      rcases mem_unsent.mp inside with ⟨stored, pending, notSent⟩
      rcases entered_row stored with ⟨earlier, before, _, message, time, wasPending, _⟩
      refine ⟨earlier, mem_unsent.mpr ⟨before, wasPending pending, ?_⟩, message, time⟩
      rw [message]
      exact notSent
    · intro flush inside
      refine ⟨_, List.mem_of_getElem? found, ?_⟩
      rcases left with rfl | rfl
      · rw [List.mem_singleton.mp inside]
      · cases inside
    · rcases left with rfl | rfl
      · exact (List.getElem?_eq_some_iff.mp found).1
      · exact Nat.zero_le _

theorem Ordered.cache {queue : OfflineQueue} (ordered : Ordered queue) (index : Nat) (now : Int)
    (late : queue.KeepsOrder (.cache index now)) : Ordered (queue.cache index now) := by
  unfold OfflineQueue.cache
  split
  · rename_i item metadata found
    have dequeued : Ordered { queue with waiting := queue.waiting.eraseIdx index } :=
      ordered.fewerRows rfl rfl (List.Subset.refl _) rfl
    obtain ⟨samples, ⟨stores, result⟩ | ⟨_, result⟩⟩ := cacheMessage_cases
      { queue with waiting := queue.waiting.eraseIdx index } item metadata now
    · have inserted : Ordered
          { queue with
            samples := samples
            rows := queue.rows ++ [queue.newRow item metadata now]
            nextId := queue.nextId + 1
            accepted := queue.accepted ++ [queue.next item metadata.priority] } := by
        apply ordered.insert (queue.newRow_mark item metadata now)
        · exact late (item, metadata) found stores
        · rfl
        · rfl
        · rfl
        · rfl
      rw [result]
      exact inserted.fewerRows rfl rfl (enforceMaxRecords_subset _) rfl
    · rw [result]
      exact dequeued.fewerRows rfl rfl (List.Subset.refl _) rfl
  · exact ordered

theorem ordered_step (queue : OfflineQueue) (event : QueueEvent)
    (invariant : Consistent queue ∧ Ordered queue) (keeps : queue.KeepsOrder event) :
    Consistent (queue.step event) ∧ Ordered (queue.step event) := by
  rcases invariant with ⟨consistent, ordered⟩
  refine ⟨consistent_step queue event consistent, ?_⟩
  cases event with
  | init => exact ordered.fewerRows rfl rfl (List.Subset.refl _) rfl
  | setCacheEnabled enabled => exact ordered.fewerRows rfl rfl (List.Subset.refl _) rfl
  | setFlushEnabled enabled => exact ordered.fewerRows rfl rfl (List.Subset.refl _) rfl
  | clearPending =>
      simp only [step]
      split
      · exact ordered.fewerRows rfl rfl (List.filter_subset_self _) rfl
      · exact ordered
  | arrange rows =>
      simp only [step]
      split
      · rename_i same
        exact ordered.fewerRows rfl rfl same.subset rfl
      · exact ordered
  | publish item metadata taken =>
      cases taken with
      | true => exact ordered.direct item metadata keeps
      | false => exact ordered.fewerRows rfl rfl (List.Subset.refl _) rfl
  | cache index now => exact ordered.cache index now keeps
  | startFlush => exact ordered.startFlush consistent.entered keeps
  | send index taken => exact ordered.send index taken
  | finish index => exact ordered.finish index

theorem ordered_start : Ordered start := by
  constructor
  · intro message inside
    cases inside
  · intro row inside
    cases inside
  · exact List.Pairwise.nil
  · intro message inside
    cases inside
  · intro first firstIn
    cases firstIn
  · exact Nat.zero_le 1
  · intro flush runs
    cases runs
  · intro flush runs
    cases runs

/-- Growing numbers on both sides leave one order. -/
theorem inOrder_of_ordered {queue : OfflineQueue} (numbered : Numbered queue)
    (ordered : Ordered queue) : InOrder queue := by
  intro first second lane accepted sent
  have grows := List.pairwise_pair.mp (numbered.grow.sublist accepted)
  have falls := List.pairwise_pair.mp (ordered.sentSorted.sublist sent) ⟨lane.1.symm, lane.2.symm⟩
  exact Nat.not_lt_of_le falls grows

/-! ## Two alarms of one lane -/

instance (queue : OfflineQueue) : forall event, Decidable (queue.KeepsOrder event)
  | .publish _ _ true => inferInstanceAs (Decidable (forall row, row ∈ _ -> _))
  | .cache _ _ => inferInstanceAs (Decidable (forall entry, entry ∈ _ -> _))
  | .startFlush => inferInstanceAs (Decidable (_ = _))
  | .publish _ _ false | .init | .setCacheEnabled _ | .setFlushEnabled _ | .clearPending
  | .arrange _ | .send _ _ | .finish _ => isTrue trivial

def alarmItem (payload : String) : MqttItem :=
  ⟨"gateway/gateway_001/port_001/up", payload⟩

/-- A run whose steps keep the order replays in order. -/
theorem replay_inOrder (events : List QueueEvent) (keeps : system.Admissible KeepsOrder events) :
    InOrder (system.run events) := by
  have ordered := system.invariant_run ⟨consistent_start, ordered_start⟩ ordered_step keeps
  exact inOrder_of_ordered (consistent_run events).numbered ordered.2

/-- Two stored alarms are replayed, and the third one waits for the flush. -/
def patientRun : List QueueEvent :=
  [.init, .setFlushEnabled true,
    .publish (alarmItem "high") (alarmMeta 0 1 "temperature" 1000) false, .cache 0 1000,
    .publish (alarmItem "low") (alarmMeta 0 1 "temperature" 2000) false, .cache 0 2000,
    .startFlush, .send 0 true, .finish 0, .send 0 true,
    .publish (alarmItem "high") (alarmMeta 0 1 "temperature" 3000) true, .finish 0]

theorem replay_inOrder_patientRun :
    system.Admissible KeepsOrder patientRun ∧ InOrder (system.run patientRun) :=
  have keeps := by decide +kernel
  ⟨keeps, replay_inOrder patientRun keeps⟩

/-- The first alarm is stored while the link is down; the second one is sent
at once when it is up, before the flush. -/
def overtaken : List QueueEvent :=
  [.init, .setFlushEnabled true,
    .publish (alarmItem "high") (alarmMeta 0 1 "temperature" 1000) false, .cache 0 1000,
    .publish (alarmItem "low") (alarmMeta 0 1 "temperature" 2000) true, .startFlush, .send 0 true]

theorem overtaken_not_inOrder : ¬ InOrder (system.run overtaken) := by
  intro inOrder
  apply inOrder ⟨0, alarmItem "high", 3⟩ ⟨1, alarmItem "low", 3⟩
  · decide
  · decide +kernel
  · decide +kernel

end OfflineQueue
end Board
end Imx6Gateway
