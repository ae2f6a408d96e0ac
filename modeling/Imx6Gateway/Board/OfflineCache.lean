import Imx6Gateway.Board.SendRing
import Imx6Gateway.Library.Transition
import Mathlib.Data.List.Sort

namespace Imx6Gateway
namespace Board

open Library

/-!
# The offline cache of the board

`OfflinePublishQueue` offers every message to a sender and stores it in a
table when the sender refuses it.  A flush sends the stored messages again.
The lock is held for each use of the table but not while the sender runs, so
a publication is two steps here, and so is every send of a flush.

The table is a list; the order that a query leaves open is the order of this
list, and the environment may rearrange it at any time.
-/

/-! ## Which messages are worth a row -/

def kTelemetrySampleIntervalMs : Int := 60000

/-- `last_sample_time_`. -/
abbrev SampleTimes : Type := String -> Option Int

def sampleKey (metadata : PublishMeta) : String :=
  metadata.gatewayId ++ "." ++ metadata.portId ++ "." ++ toString metadata.deviceId ++ "." ++
    metadata.pointKey

def allowSample (times : SampleTimes) (metadata : PublishMeta) : Bool × SampleTimes :=
  let key := sampleKey metadata
  let now := metadata.timestampMs
  let allowed :=
    match times key with
    | none => true
    | some last => decide (now ≤ 0) || decide (kTelemetrySampleIntervalMs ≤ now - last)
  (allowed, bif allowed then Function.update times key (some now) else times)

/-- `OfflineCachePolicy::shouldCache`: a closed list of types. -/
def shouldCache (times : SampleTimes) (metadata : PublishMeta) : Bool × SampleTimes :=
  if metadata.messageType = "alarm_event" then (true, times)
  else if metadata.messageType = "ack" then (true, times)
  else if metadata.messageType = "device_status" then (metadata.statusChanged, times)
  else if metadata.messageType = "telemetry_pack" then
    if metadata.hasAlarm || metadata.hasInvalidData || metadata.statusChanged then (true, times)
    else allowSample times metadata
  else (false, times)

/-! ## The table -/

/-- A message with its priority.  The mark numbers the accepted messages; no
function of the source reads it. -/
structure Outgoing where
  mark : Nat
  item : MqttItem
  priority : Int
deriving DecidableEq

/-- Messages whose order is promised. -/
def Outgoing.SameLane (first second : Outgoing) : Prop :=
  first.item.topic = second.item.topic ∧ first.priority = second.priority

instance (first second : Outgoing) : Decidable (first.SameLane second) :=
  inferInstanceAs (Decidable (_ ∧ _))

inductive RowStatus where
  | pending
  | failed
deriving DecidableEq

structure CacheRow where
  id : Nat
  message : Outgoing
  timestampMs : Int
  sendCount : Nat
  status : RowStatus
deriving DecidableEq

def kFlushBatchSize : Nat := 50
def kMaxOfflineRecords : Nat := 5000
def kCleanupBatchSize : Nat := 100

/-- `ORDER BY priority DESC, timestamp_ms ASC`. -/
def CacheRow.Before (first second : CacheRow) : Prop :=
  second.message.priority < first.message.priority ∨
    first.message.priority = second.message.priority ∧ first.timestampMs ≤ second.timestampMs

instance : DecidableRel CacheRow.Before := fun first second =>
  inferInstanceAs (Decidable (second.message.priority < first.message.priority ∨
    first.message.priority = second.message.priority ∧ first.timestampMs ≤ second.timestampMs))

instance : Std.Total CacheRow.Before where
  total first second := by
    unfold CacheRow.Before
    omega

instance : IsTrans CacheRow CacheRow.Before where
  trans first second third := by
    unfold CacheRow.Before
    omega

/-- `ORDER BY timestamp_ms ASC`. -/
def CacheRow.Older (first second : CacheRow) : Prop :=
  first.timestampMs ≤ second.timestampMs

instance : DecidableRel CacheRow.Older := fun first second =>
  inferInstanceAs (Decidable (first.timestampMs ≤ second.timestampMs))

def loadPending (rows : List CacheRow) (limit : Nat) : List CacheRow :=
  ((rows.filter fun row => row.status = .pending).insertionSort CacheRow.Before).take limit

def remove (rows : List CacheRow) (id : Nat) : List CacheRow :=
  rows.filter fun row => row.id ≠ id

/-- The fifth failed send takes a row out of the flushes. -/
def CacheRow.sendFailed (row : CacheRow) : CacheRow :=
  { row with
    sendCount := row.sendCount + 1
    status := if 5 ≤ row.sendCount + 1 then .failed else row.status }

def markSendFailed (rows : List CacheRow) (id : Nat) : List CacheRow :=
  rows.map fun row => if row.id = id then row.sendFailed else row

def clearPending (rows : List CacheRow) : List CacheRow :=
  rows.filter fun row => row.status ≠ .pending

/-- The rows that `deleteOldByPriority` leaves, whatever their status is. -/
def deleteOldByPriority (rows : List CacheRow) (priority : Int) (limit : Nat) : List CacheRow :=
  let old := ((rows.filter fun row => row.message.priority = priority).insertionSort
    CacheRow.Older).take limit
  rows.filter fun row => row.id ∉ old.map CacheRow.id

/-- The inner loop of `enforceMaxRecords`: it ends when nothing is deleted. -/
def trimPriority (priority : Int) (rows : List CacheRow) : List CacheRow :=
  if kMaxOfflineRecords < rows.length then
    let kept := deleteOldByPriority rows priority kCleanupBatchSize
    if kept.length < rows.length then trimPriority priority kept else rows
  else rows
termination_by rows.length

def enforceMaxRecords (rows : List CacheRow) : List CacheRow :=
  if rows.length ≤ kMaxOfflineRecords then rows
  else trimPriority 1 (trimPriority 0 rows)

theorem trimPriority_subset (priority : Int) (rows : List CacheRow) :
    trimPriority priority rows ⊆ rows := by
  fun_induction trimPriority priority rows with
  | case1 rows many kept fewer =>
      rename_i ih
      intro row stays
      exact List.mem_of_mem_filter (ih stays)
  | case2 => exact List.Subset.refl _
  | case3 => exact List.Subset.refl _

theorem enforceMaxRecords_subset (rows : List CacheRow) : enforceMaxRecords rows ⊆ rows := by
  unfold enforceMaxRecords
  split
  · exact List.Subset.refl rows
  · intro row stays
    exact trimPriority_subset 0 rows (trimPriority_subset 1 _ stays)

/-- A batch leaves no earlier row behind. -/
theorem loadPending_before {rows : List CacheRow} {limit : Nat} {row other : CacheRow}
    (loaded : row ∈ loadPending rows limit) (stored : other ∈ rows)
    (pending : other.status = .pending) (left : other ∉ loadPending rows limit) :
    row.Before other := by
  have sorted := List.pairwise_insertionSort CacheRow.Before
    (rows.filter fun row => row.status = .pending)
  have present : other ∈ (rows.filter fun row => row.status = .pending).insertionSort
      CacheRow.Before :=
    (List.mem_insertionSort CacheRow.Before).mpr
      (List.mem_filter.mpr ⟨stored, decide_eq_true pending⟩)
  rw [← List.take_append_drop limit (List.insertionSort _ _)] at sorted present
  rcases List.mem_append.mp present with inside | behind
  · exact absurd inside left
  · exact (List.pairwise_append.mp sorted).2.2 row loaded other behind

theorem loadPending_sorted (rows : List CacheRow) (limit : Nat) :
    (loadPending rows limit).Pairwise CacheRow.Before :=
  (List.pairwise_insertionSort CacheRow.Before _).sublist (List.take_sublist limit _)

theorem mem_of_mem_loadPending {rows : List CacheRow} {limit : Nat} {row : CacheRow}
    (loaded : row ∈ loadPending rows limit) : row ∈ rows ∧ row.status = .pending := by
  have sorted := List.mem_of_mem_take loaded
  have filtered := List.mem_filter.mp ((List.mem_insertionSort CacheRow.Before).mp sorted)
  exact ⟨filtered.1, of_decide_eq_true filtered.2⟩

/-! ## The queue and its events -/

/-- A flush with the rows it has still to offer and the answer that it has
not yet entered in the table. -/
structure Flush where
  remaining : List CacheRow
  answered : Option (CacheRow × Bool)
deriving DecidableEq

structure OfflineQueue where
  initialized : Bool
  cacheEnabled : Bool
  flushEnabled : Bool
  samples : SampleTimes
  rows : List CacheRow
  nextId : Nat
  waiting : List (MqttItem × PublishMeta)
  running : List Flush
  accepted : List Outgoing
  sent : List Outgoing
  evicted : List Outgoing

/-- `publish`, `cache`, `send` and `finish` are the steps of `publishOrCache`
and `flushToMqttOnce` between two uses of the lock.  The flag is what the
sender answers. -/
inductive QueueEvent where
  | init
  | setCacheEnabled (enabled : Bool)
  | setFlushEnabled (enabled : Bool)
  | clearPending
  | arrange (rows : List CacheRow)
  | publish (item : MqttItem) (metadata : PublishMeta) (taken : Bool)
  | cache (index : Nat) (now : Int)
  | startFlush
  | send (index : Nat) (taken : Bool)
  | finish (index : Nat)
deriving DecidableEq

namespace OfflineQueue

/-- The message under the next number. -/
def next (queue : OfflineQueue) (item : MqttItem) (priority : Int) : Outgoing :=
  ⟨queue.accepted.length, item, priority⟩

def publish (queue : OfflineQueue) (item : MqttItem) (metadata : PublishMeta) (taken : Bool) :
    OfflineQueue :=
  if taken then
    { queue with
      accepted := queue.accepted ++ [queue.next item metadata.priority]
      sent := queue.sent ++ [queue.next item metadata.priority] }
  else { queue with waiting := queue.waiting ++ [(item, metadata)] }

def storedTime (metadata : PublishMeta) (now : Int) : Int :=
  if 0 < metadata.timestampMs then metadata.timestampMs else now

/-- The row that `insert` adds. -/
def newRow (queue : OfflineQueue) (item : MqttItem) (metadata : PublishMeta) (now : Int) :
    CacheRow where
  id := queue.nextId
  message := queue.next item metadata.priority
  timestampMs := storedTime metadata now
  sendCount := 0
  status := .pending

/-- What a cleanup takes from the table. -/
def lost (before after : List CacheRow) : List Outgoing :=
  (before.filter fun row => row ∉ after).map CacheRow.message

/-- The row is in the table before the cleanup runs. -/
def store (queue : OfflineQueue) (row : CacheRow) : OfflineQueue :=
  let rows := queue.rows ++ [row]
  { queue with
    rows := enforceMaxRecords rows
    nextId := queue.nextId + 1
    accepted := queue.accepted ++ [row.message]
    evicted := queue.evicted ++ lost rows (enforceMaxRecords rows) }

/-- `cacheMessage` would insert a row. -/
def stores (queue : OfflineQueue) (metadata : PublishMeta) : Bool :=
  queue.cacheEnabled && queue.initialized && (shouldCache queue.samples metadata).1

def cacheMessage (queue : OfflineQueue) (item : MqttItem) (metadata : PublishMeta) (now : Int) :
    OfflineQueue :=
  if queue.cacheEnabled && queue.initialized then
    let decision := shouldCache queue.samples metadata
    let decided := { queue with samples := decision.2 }
    if decision.1 then decided.store (queue.newRow item metadata now) else decided
  else queue

def cache (queue : OfflineQueue) (index : Nat) (now : Int) : OfflineQueue :=
  match queue.waiting[index]? with
  | some (item, metadata) =>
      { queue with waiting := queue.waiting.eraseIdx index }.cacheMessage item metadata now
  | none => queue

def startFlush (queue : OfflineQueue) : OfflineQueue :=
  if queue.initialized && queue.flushEnabled then
    match loadPending queue.rows kFlushBatchSize with
    | [] => queue
    | row :: rows => { queue with running := queue.running ++ [⟨row :: rows, none⟩] }
  else queue

/-- The row that the flush offers next. -/
def offered (queue : OfflineQueue) (index : Nat) : Option (CacheRow × List CacheRow) :=
  match queue.running[index]? with
  | some ⟨row :: rest, none⟩ => some (row, rest)
  | _ => none

/-- A refused row is the last one of its flush. -/
def send (queue : OfflineQueue) (index : Nat) (taken : Bool) : OfflineQueue :=
  match queue.offered index with
  | some (row, rest) =>
      { queue with
        running := queue.running.set index ⟨if taken then rest else [], some (row, taken)⟩
        sent := if taken then queue.sent ++ [row.message] else queue.sent }
  | none => queue

/-- A row that was taken leaves the table, and its flush goes on. -/
def finish (queue : OfflineQueue) (index : Nat) : OfflineQueue :=
  match queue.running[index]? with
  | some ⟨row :: rest, some (done, true)⟩ =>
      { queue with
        rows := remove queue.rows done.id
        running := queue.running.set index ⟨row :: rest, none⟩ }
  | some ⟨[], some (done, true)⟩ =>
      { queue with
        rows := remove queue.rows done.id
        running := queue.running.eraseIdx index }
  | some ⟨_, some (done, false)⟩ =>
      { queue with
        rows := markSendFailed queue.rows done.id
        running := queue.running.eraseIdx index }
  | _ => queue

def step (queue : OfflineQueue) : QueueEvent -> OfflineQueue
  | .init => { queue with initialized := true }
  | .setCacheEnabled enabled => { queue with cacheEnabled := enabled }
  | .setFlushEnabled enabled => { queue with flushEnabled := enabled }
  | .clearPending =>
      if queue.initialized then
        { queue with
          rows := Board.clearPending queue.rows
          evicted := queue.evicted ++ lost queue.rows (Board.clearPending queue.rows) }
      else queue
  | .arrange rows => if rows.Perm queue.rows then { queue with rows := rows } else queue
  | .publish item metadata taken => queue.publish item metadata taken
  | .cache index now => queue.cache index now
  | .startFlush => queue.startFlush
  | .send index taken => queue.send index taken
  | .finish index => queue.finish index

/-- The queue as the program starts, with an empty table. -/
def start : OfflineQueue where
  initialized := false
  cacheEnabled := true
  flushEnabled := false
  samples := fun _ => none
  rows := []
  nextId := 1
  waiting := []
  running := []
  accepted := []
  sent := []
  evicted := []

def system : TransitionSystem OfflineQueue QueueEvent where
  initial := start
  step := step

/-! ## What a step can do -/

theorem cacheMessage_cases (queue : OfflineQueue) (item : MqttItem) (metadata : PublishMeta)
    (now : Int) :
    ∃ samples,
      queue.stores metadata = true ∧
          queue.cacheMessage item metadata now =
            { queue with samples := samples }.store (queue.newRow item metadata now) ∨
        queue.stores metadata = false ∧
          queue.cacheMessage item metadata now = { queue with samples := samples } := by
  unfold cacheMessage stores
  by_cases open_ : (queue.cacheEnabled && queue.initialized) = true
  · refine ⟨(shouldCache queue.samples metadata).2, ?_⟩
    cases decision : (shouldCache queue.samples metadata).1 with
    | true => exact Or.inl ⟨by rw [open_, Bool.true_and], by rw [if_pos open_, if_pos decision]⟩
    | false =>
        refine Or.inr ⟨by rw [open_, Bool.true_and], ?_⟩
        rw [if_pos open_, if_neg (Bool.eq_false_iff.mp decision)]
  · refine ⟨queue.samples, Or.inr ⟨?_, if_neg open_⟩⟩
    rw [Bool.eq_false_iff.mpr open_, Bool.false_and]

theorem startFlush_cases (queue : OfflineQueue) :
    queue.startFlush = queue ∨
      queue.startFlush =
        { queue with running := queue.running ++ [⟨loadPending queue.rows kFlushBatchSize, none⟩] } := by
  unfold startFlush
  split
  · split
    · exact Or.inl rfl
    · rename_i row rows loaded
      rw [loaded]
      exact Or.inr rfl
  · exact Or.inl rfl

theorem send_cases (queue : OfflineQueue) (index : Nat) (taken : Bool) :
    queue.offered index = none ∧ queue.send index taken = queue ∨
      ∃ row rest, queue.offered index = some (row, rest) ∧
        queue.running[index]? = some ⟨row :: rest, none⟩ ∧
        queue.send index taken =
          { queue with
            running := queue.running.set index ⟨if taken then rest else [], some (row, taken)⟩
            sent := if taken then queue.sent ++ [row.message] else queue.sent } := by
  unfold send
  cases offer : queue.offered index with
  | none => exact Or.inl ⟨rfl, rfl⟩
  | some offer' =>
      rcases offer' with ⟨row, rest⟩
      refine Or.inr ⟨row, rest, rfl, ?_, rfl⟩
      unfold offered at offer
      split at offer
      · rename_i found
        cases offer
        exact found
      · cases offer

/-- The answer that `finish` enters in the table. -/
def answer (queue : OfflineQueue) (index : Nat) : Option (CacheRow × Bool) :=
  queue.running[index]?.bind Flush.answered

theorem finish_cases (queue : OfflineQueue) (index : Nat) :
    queue.finish index = queue ∨
      ∃ rest done taken running,
        queue.running[index]? = some ⟨rest, some (done, taken)⟩ ∧
        (running = queue.running.set index ⟨rest, none⟩ ∨
          running = queue.running.eraseIdx index) ∧
        queue.finish index =
          { queue with
            rows := if taken then remove queue.rows done.id else markSendFailed queue.rows done.id
            running := running } := by
  unfold finish
  split
  · rename_i row rest done found
    exact Or.inr ⟨row :: rest, done, true, _, found, Or.inl rfl, rfl⟩
  · rename_i done found
    exact Or.inr ⟨[], done, true, _, found, Or.inr rfl, rfl⟩
  · rename_i rest done found
    exact Or.inr ⟨rest, done, false, _, found, Or.inr rfl, rfl⟩
  · exact Or.inl rfl

end OfflineQueue
end Board
end Imx6Gateway
