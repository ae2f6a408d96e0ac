import Imx6Gateway.Board.CommandAck
import Imx6Gateway.Board.NoLoss
import Imx6Gateway.Board.OfflineRows
import Imx6Gateway.Board.Publications

namespace Imx6Gateway
namespace Board

open Library

/-!
# What is kept of a publication while the link is down

With the link down every direct send is refused.  A message is then kept by a
row of the offline cache, if the policy knows its type, or by the
registration module, if it is a registration and a place is free.
-/

namespace OfflineQueue

/-- `publishOrCache` with a sender that refuses. -/
def publishRefused (queue : OfflineQueue) (item : MqttItem) (metadata : PublishMeta)
    (nowMs : Int) : OfflineQueue :=
  (queue.publish item metadata false).cache queue.waiting.length nowMs

theorem publishRefused_eq (queue : OfflineQueue) (item : MqttItem) (metadata : PublishMeta)
    (nowMs : Int) :
    queue.publishRefused item metadata nowMs = queue.cacheMessage item metadata nowMs := by
  have last : (queue.waiting ++ [(item, metadata)])[queue.waiting.length]? =
      some (item, metadata) := List.getElem?_concat_length
  have rest : (queue.waiting ++ [(item, metadata)]).eraseIdx queue.waiting.length =
      queue.waiting := by
    rw [List.eraseIdx_append_of_length_le (Nat.le_refl _), Nat.sub_self, List.eraseIdx_cons_zero,
      List.append_nil]
  simp only [publishRefused, publish, Bool.false_eq_true, if_false, cache, last, rest]

/-- A pending row carries the message. -/
def HasRow (queue : OfflineQueue) (message : Outgoing) : Prop :=
  ∃ row, row ∈ queue.rows ∧ row.status = .pending ∧ row.message = message

theorem mem_deleteOldByPriority {rows : List CacheRow} {row : CacheRow} {priority : Int}
    {limit : Nat}
    (unique : forall first, first ∈ rows -> forall second, second ∈ rows ->
      first.id = second.id -> first.message = second.message)
    (stored : row ∈ rows) (other : row.message.priority ≠ priority) :
    row ∈ deleteOldByPriority rows priority limit := by
  refine List.mem_filter.mpr ⟨stored, decide_eq_true ?_⟩
  intro removed
  rcases List.mem_map.mp removed with ⟨old, taken, id⟩
  have sorted := List.mem_of_mem_take taken
  have low := List.mem_filter.mp ((List.mem_insertionSort CacheRow.Older).mp sorted)
  have same := unique old low.1 row stored id
  rw [← same] at other
  exact other (of_decide_eq_true low.2)

theorem mem_trimPriority {rows : List CacheRow} {row : CacheRow} {priority : Int}
    (unique : forall first, first ∈ rows -> forall second, second ∈ rows ->
      first.id = second.id -> first.message = second.message)
    (stored : row ∈ rows) (other : row.message.priority ≠ priority) :
    row ∈ trimPriority priority rows := by
  fun_induction trimPriority priority rows with
  | case1 rows many kept fewer =>
      rename_i ih
      apply ih
      · intro first firstIn second secondIn
        exact unique first (List.mem_of_mem_filter firstIn) second (List.mem_of_mem_filter secondIn)
      · exact mem_deleteOldByPriority unique stored other
  | case2 => exact stored
  | case3 => exact stored

/-- The cleanup only takes rows of the priorities 0 and 1. -/
theorem mem_enforceMaxRecords {rows : List CacheRow} {row : CacheRow}
    (unique : forall first, first ∈ rows -> forall second, second ∈ rows ->
      first.id = second.id -> first.message = second.message)
    (stored : row ∈ rows) (important : 1 < row.message.priority) :
    row ∈ enforceMaxRecords rows := by
  unfold enforceMaxRecords
  split
  · exact stored
  · apply mem_trimPriority
    · intro first firstIn second secondIn
      exact unique first (trimPriority_subset 0 rows firstIn) second
        (trimPriority_subset 0 rows secondIn)
    · exact mem_trimPriority unique stored (by omega)
    · omega

/-- The rows with a new one have distinct messages under distinct ids. -/
theorem unique_with_new {queue : OfflineQueue} (consistent : Consistent queue) (item : MqttItem)
    (metadata : PublishMeta) (nowMs : Int) :
    forall first, first ∈ queue.rows ++ [queue.newRow item metadata nowMs] ->
      forall second, second ∈ queue.rows ++ [queue.newRow item metadata nowMs] ->
        first.id = second.id -> first.message = second.message := by
  have new : forall row, row ∈ queue.rows -> row.id ≠ queue.nextId := fun row stored =>
    Nat.ne_of_lt (consistent.tracked.identified row (mem_allRows_of_table stored))
  intro first firstIn second secondIn same
  rcases List.mem_append.mp firstIn with old | isNew
  · rcases List.mem_append.mp secondIn with old' | isNew'
    · exact (consistent.tracked.sameRow first (mem_allRows_of_table old) second
        (mem_allRows_of_table old')).mp same
    · rw [List.mem_singleton.mp isNew'] at same
      exact absurd same (new first old)
  · rcases List.mem_append.mp secondIn with old' | isNew'
    · rw [List.mem_singleton.mp isNew] at same
      exact absurd same.symm (new second old')
    · rw [List.mem_singleton.mp isNew, List.mem_singleton.mp isNew']

/-- The next message is in no row yet. -/
theorem not_hasRow_next {queue : OfflineQueue} (consistent : Consistent queue) (item : MqttItem)
    (priority : Int) : ¬ queue.HasRow (queue.next item priority) := by
  rintro ⟨row, stored, -, same⟩
  have bound := consistent.tracked.numbered row (mem_allRows_of_table stored)
  rw [same] at bound
  exact Nat.lt_irrefl _ bound

/-- A refused message has a row afterwards precisely when the cache stores it
and the cleanup leaves it there. -/
theorem hasRow_publishRefused_iff {queue : OfflineQueue} (consistent : Consistent queue)
    (item : MqttItem) (metadata : PublishMeta) (nowMs : Int) :
    (queue.publishRefused item metadata nowMs).HasRow (queue.next item metadata.priority) ↔
      queue.stores metadata = true ∧ queue.newRow item metadata nowMs ∈
        enforceMaxRecords (queue.rows ++ [queue.newRow item metadata nowMs]) := by
  rw [publishRefused_eq]
  rcases cacheMessage_cases queue item metadata nowMs with
    ⟨samples, ⟨stores, result⟩ | ⟨refuses, result⟩⟩
  · rw [result, stores, eq_self_iff_true, true_and]
    constructor
    · rintro ⟨row, stays, -, same⟩
      rcases List.mem_append.mp (enforceMaxRecords_subset _ stays) with old | isNew
      · have bound := consistent.tracked.numbered row (mem_allRows_of_table old)
        rw [same] at bound
        exact absurd bound (Nat.lt_irrefl _)
      · rw [List.mem_singleton.mp isNew] at stays
        exact stays
    · intro stays
      exact ⟨_, stays, rfl, rfl⟩
  · rw [result, refuses]
    refine iff_of_false (not_hasRow_next consistent item metadata.priority) ?_
    rintro ⟨impossible, -⟩
    cases impossible

theorem newRow_kept {queue : OfflineQueue} (consistent : Consistent queue) (item : MqttItem)
    (metadata : PublishMeta) (nowMs : Int) (important : 1 < metadata.priority) :
    queue.newRow item metadata nowMs ∈
      enforceMaxRecords (queue.rows ++ [queue.newRow item metadata nowMs]) :=
  mem_enforceMaxRecords (unique_with_new consistent item metadata nowMs)
    (List.mem_append_right _ (List.mem_singleton.mpr rfl)) important

end OfflineQueue

/-! ## Registrations -/

namespace ConfigSync

/-- A message under this seq and cmd finds a place. -/
def HasRoom (state : ConfigSync) (seq : UInt32) (cmd : String) : Prop :=
  state.hasActivePending = false ∨ samePending seq cmd state = true ∨
    (state.queue.first fun queued => queued.seq = seq && queued.cmd = cmd).isSome = true ∨
      none ∈ state.queue.slots

/-- The message is held, unmodified, and is retried under its seq. -/
def Retries (state : ConfigSync) (seq : UInt32) (cmd payload : String) : Prop :=
  ∃ entry, state.Holds entry ∧ entry.seq = seq ∧ entry.cmd = cmd ∧ entry.payload = payload ∧ seq ≠ 0

theorem copyText_eq_iff {size : Nat} (positive : 0 < size) (source : String) :
    copyText size source = source ↔ textBytes source < size := by
  constructor
  · intro whole
    have bounded := textBytes_clip_le (size - 1) source
    rw [show clip (size - 1) source = source from whole] at bounded
    omega
  · exact copyText_of_fits

/-- What the module promises a registration. -/
def Admits (state : ConfigSync) (seq : UInt32) (cmd payload : String) : Prop :=
  seq ≠ 0 ∧ textBytes payload < configSyncPayloadMax ∧ state.HasRoom seq cmd

theorem samePending_of_activeEntry {state : ConfigSync} {entry : Pending}
    (active : state.activeEntry = some entry) :
    samePending entry.seq entry.cmd state = true := by
  rcases SyncWorld.fields_of_activeEntry active with ⟨seq, cmd, -⟩
  rw [samePending, seq, cmd, Bool.and_eq_true, decide_eq_true_iff, decide_eq_true_iff]
  exact ⟨rfl, rfl⟩

/-- A message that is held under the seq and cmd of an issued one is a copy
that fits, and the issued one has found room. -/
theorem room_of_holds_storePending {nowMs : Int} {entry held : Pending} {state : ConfigSync}
    (queueStored : state.QueueStored)
    (holds : (storePending nowMs entry state).2.Holds held) (seq : held.seq = entry.seq)
    (cmd : held.cmd = entry.cmd) : held.stored = held ∧ state.HasRoom entry.seq entry.cmd := by
  unfold storePending at holds
  split at holds
  · rename_i direct
    constructor
    · rcases holds_setActivePending holds with rfl | queued
      · exact entry.stored_stored
      · exact queueStored held queued
    · rcases Bool.or_eq_true_iff.mp direct with free | same
      · rw [Bool.not_eq_true'] at free
        exact Or.inl free
      · exact Or.inr (Or.inl same)
  · rename_i busy
    have notActive : state.activeEntry ≠ some held := by
      intro active
      have same := samePending_of_activeEntry active
      rw [seq, cmd] at same
      exact busy (Bool.or_eq_true_iff.mpr (Or.inr same))
    rcases enqueuePending_cases entry state queueStored with
      ⟨code, queue, result, -, origins, -⟩ | ⟨-, result, noMatch, -⟩
    · rw [result] at holds
      constructor
      · rcases holds with active | queued
        · exact absurd active notActive
        · rcases origins held queued with rfl | old
          · exact entry.stored_stored
          · exact queueStored held old
      · refine Or.inr (Or.inr ?_)
        by_contra noRoom
        rw [not_or, Option.not_isSome_iff_eq_none] at noRoom
        have full : (enqueuePending entry state).1 = .mqttQueueFull := by
          rw [enqueuePending, SlotTable.modifyFirst_eq_none_iff_first.mpr noRoom.1,
            SlotTable.insertFree_eq_none.mpr noRoom.2]
        rw [code] at full
        cases full
    · rw [result] at holds
      rcases holds with active | queued
      · exact absurd active notActive
      · have differs := SlotTable.first_eq_none.mp noMatch held queued
        rw [seq, cmd] at differs
        simp at differs

theorem retries_storePending_iff {nowMs : Int} {entry : Pending} {state : ConfigSync}
    (queueStored : state.QueueStored) (nonempty : entry.payload ≠ "")
    (cmdFits : textBytes entry.cmd < maxCmdNameLen) :
    (storePending nowMs entry state).2.Retries entry.seq entry.cmd entry.payload ↔
      state.Admits entry.seq entry.cmd entry.payload := by
  have whole : copyText maxCmdNameLen entry.cmd = entry.cmd := copyText_of_fits cmdFits
  constructor
  · rintro ⟨held, holds, seq, cmd, payload, nonzero⟩
    rcases room_of_holds_storePending queueStored holds seq cmd with ⟨copy, room⟩
    refine ⟨nonzero, (copyText_eq_iff (by decide) entry.payload).mp ?_, room⟩
    rw [← payload]
    exact congrArg Pending.payload copy
  · rintro ⟨nonzero, fits, room⟩
    have taken : (storePending nowMs entry state).1 = .ok := by
      unfold storePending
      split
      · rfl
      · rename_i busy
        rcases enqueuePending_cases entry state queueStored with
          ⟨code, -⟩ | ⟨-, -, noMatch, full⟩
        · exact code
        · rcases room with free | same | known | free
          · exact absurd (by rw [free]; rfl) busy
          · exact absurd (by rw [same, Bool.or_true]) busy
          · rw [noMatch] at known
            cases known
          · exact absurd free full
    refine ⟨entry.stored, storePending_holds _ _ queueStored nonempty nonzero taken, rfl, whole, ?_,
      nonzero⟩
    exact copyText_of_fits fits

theorem retries_congr {first second : ConfigSync} (same : first.view = second.view)
    (seq : UInt32) (cmd payload : String) :
    first.Retries seq cmd payload ↔ second.Retries seq cmd payload := by
  unfold Retries
  simp only [holds_congr same]

theorem retries_markSent_iff {env : Surroundings} {entry : Pending} {state : ConfigSync}
    (queueStored : state.QueueStored) (nonempty : entry.payload ≠ "")
    (cmdFits : textBytes entry.cmd < maxCmdNameLen) :
    (markSent env entry state).state.Retries entry.seq entry.cmd entry.payload ↔
      state.Admits entry.seq entry.cmd entry.payload := by
  rw [markSent, if_neg nonempty]
  rw [retries_congr (view_announceSyncing env.mqttConnected _)]
  exact retries_storePending_iff queueStored nonempty cmdFits

/-- The stamped export is published and issued. -/
theorem publishLatestSnapshot_some {library : JsonC} {env : Surroundings} {seq : UInt32}
    {exported : Option String} {mark : Nat} {state : ConfigSync} {text : String}
    (printed : SyncWorld.latestSnapshotText library state exported = some text) :
    text ≠ "" ∧ ∃ version timestampMs,
      (publishLatestSnapshot library env seq exported mark state).state =
        announceSyncing env.mqttConnected (storePending env.nowMs
          ⟨seq, "config_snapshot", defaultPortId, text, mark⟩
          { state with configVersion := version }).2 ∧
      (publishLatestSnapshot library env seq exported mark state).effects =
        [.offlinePublishOrCache mqttGatewayRegisterTopic text (configSnapshotMeta timestampMs),
          (publishLatestSnapshot library env seq exported mark state).state.publishState] := by
  rcases Option.map_eq_some_iff.mp printed with ⟨root, parsed, rfl⟩
  have wire : root.Wire Json.maxDepth := by
    rcases Option.bind_eq_some_iff.mp parsed with ⟨source, -, read⟩
    exact library.parse_wire source root read
  refine ⟨library.print_ne_empty (SyncWorld.wire_stamp wire),
    versionAtLeastOne (state.configVersion + 1),
    (publishLatestSnapshot library env seq exported mark state).state.lastSendTimeMs, ?_, ?_⟩
  · rw [publishLatestSnapshot, parsed]
  · rw [publishLatestSnapshot, parsed]
    rfl

end ConfigSync

/-! ## Publications while the link is down -/

/-- The texts that json-c prints for an object are not empty. -/
abbrev Payload : Type := { text : String // text ≠ "" }

/-- The messages of the board that must not get lost. -/
inductive BoardMessage where
  | ack (slot : Option Int32) (timestampMs : Int) (payload : Payload)
  | alarm (slot : Int32) (deviceId : Int) (pointKey : String) (payload : Payload)
  | gatewayRegister (seq : UInt32) (payload : Payload)
  | portRegister (seq : UInt32) (slot : Int32) (payload : Payload)
  | deviceRegister (seq : UInt32) (slot : Int32) (slaveId : Int) (payload : Payload)
  | configSnapshot (seq : UInt32) (exported : Option String)
  | thresholdConfig (slot : Int32) (deviceId : Int) (payload : Payload)
  | portStatus (slot : Int32) (connected : Bool) (payload : Payload)
  | deviceStatus (slot : Int32) (deviceId : Int) (pointKey : String) (valid : Bool) (timestampMs : Int)
      (payload : Payload)
deriving DecidableEq

/-- The stores of the board in a state that a run can reach. -/
structure Outbox where
  queue : OfflineQueue
  sync : ConfigSync
  log : StatusLog
  consistent : queue.Consistent
  queueStored : sync.QueueStored

/-- The two stores after a publication. -/
structure Stores where
  queue : OfflineQueue
  sync : ConfigSync

namespace Outbox

variable (library : JsonC) (box : Outbox) (nowMs : Int) (mark : Nat)

/-- The stores after any calls of the three modules. -/
def reached (queueEvents : List QueueEvent) (syncEvents : List SyncEvent)
    (observed : List (Int × Int × Bool)) : Outbox where
  queue := OfflineQueue.system.run queueEvents
  sync := ((SyncWorld.system library).run syncEvents).sync
  log := observed.foldl (fun log state => log.note state.1 state.2.1 state.2.2) .start
  consistent := OfflineQueue.consistent_run queueEvents
  queueStored :=
    ((SyncWorld.system library).invariant_everywhere (SyncWorld.linked_initial)
      (SyncWorld.linked_step library) syncEvents).queueStored

def offline : Surroundings := ⟨nowMs, false, DataSendCode.mqttNotReady.toInt⟩

/-- A message for the cache alone. -/
def offer (topic payload : String) (metadata : PublishMeta) : Stores :=
  ⟨box.queue.publishRefused ⟨topic, payload⟩ metadata nowMs, box.sync⟩

/-- The three registrations: publish, then mark as sent. -/
def register (seq : UInt32) (cmd payload portId : String) (metadata : PublishMeta) : Stores :=
  ⟨box.queue.publishRefused ⟨mqttGatewayRegisterTopic, payload⟩ metadata nowMs,
    (ConfigSync.markSent (offline nowMs) ⟨seq, cmd, portId, payload, mark⟩ box.sync).state⟩

def offerEffect (queue : OfflineQueue) : Effect -> OfflineQueue
  | .offlinePublishOrCache topic json info => queue.publishRefused ⟨topic, json⟩ info nowMs
  | .ipcServerSend _ => queue

/-- Whether `check_device_status_changed` reports a change. -/
def statusChanged (slot deviceId : Int) (valid : Bool) : Bool :=
  (checkDeviceStatusChanged box.log.statuses slot deviceId valid).1

def publish : BoardMessage -> Stores
  | .ack none timestampMs payload =>
      box.offer nowMs gatewayUpTopic payload (ackMeta "" timestampMs)
  | .ack (some slot) timestampMs payload =>
      box.offer nowMs (portUpTopic slot) payload (ackMeta (portIdFromSlot slot.toInt) timestampMs)
  | .alarm slot deviceId pointKey payload =>
      box.offer nowMs (portUpTopic slot) payload (alarmMeta slot.toInt deviceId pointKey nowMs)
  | .gatewayRegister seq payload =>
      box.register nowMs mark seq "gateway_register" payload defaultPortId
        (gatewayRegisterMeta nowMs)
  | .portRegister seq slot payload =>
      box.register nowMs mark seq "port_register" payload (portIdFromSlot slot.toInt)
        (portRegisterMeta slot.toInt nowMs)
  | .deviceRegister seq slot slaveId payload =>
      box.register nowMs mark seq "device_register" payload (portIdFromSlot slot.toInt)
        (deviceRegisterMeta slot.toInt slaveId nowMs)
  | .configSnapshot seq exported =>
      let outcome := ConfigSync.publishLatestSnapshot library (offline nowMs) seq exported mark
        box.sync
      ⟨outcome.effects.foldl (offerEffect nowMs) box.queue, outcome.state⟩
  | .thresholdConfig slot deviceId payload =>
      box.offer nowMs (portUpTopic slot) payload (thresholdConfigMeta slot.toInt deviceId nowMs)
  | .portStatus slot connected payload =>
      box.offer nowMs (portUpTopic slot) payload (portStatusMeta slot.toInt connected nowMs)
  | .deviceStatus slot deviceId pointKey valid timestampMs payload =>
      -- Telemetry stays local until the configuration is confirmed.
      if box.sync.telemetryAllowed then
        box.offer nowMs (portUpTopic slot) payload
          (deviceStatusMeta slot.toInt deviceId pointKey valid (box.statusChanged slot.toInt deviceId valid)
            timestampMs nowMs)
      else ⟨box.queue, box.sync⟩

/-- A published message: what a row would carry, and the registration that
the module would retry. -/
structure Letter where
  item : MqttItem
  priority : Int
  registration : Option (UInt32 × String)

/-- `none` when the export of a snapshot fails, and nothing is published. -/
def letter : BoardMessage -> Option Letter
  | .ack none _ payload => some ⟨⟨gatewayUpTopic, payload⟩, 3, none⟩
  | .ack (some slot) _ payload => some ⟨⟨portUpTopic slot, payload⟩, 3, none⟩
  | .alarm slot _ _ payload => some ⟨⟨portUpTopic slot, payload⟩, 3, none⟩
  | .gatewayRegister seq payload =>
      some ⟨⟨mqttGatewayRegisterTopic, payload⟩, 0, some (seq, "gateway_register")⟩
  | .portRegister seq _ payload =>
      some ⟨⟨mqttGatewayRegisterTopic, payload⟩, 0, some (seq, "port_register")⟩
  | .deviceRegister seq _ _ payload =>
      some ⟨⟨mqttGatewayRegisterTopic, payload⟩, 0, some (seq, "device_register")⟩
  | .configSnapshot seq exported =>
      (SyncWorld.latestSnapshotText library box.sync exported).map fun text =>
        ⟨⟨mqttGatewayRegisterTopic, text⟩, 0, some (seq, "config_snapshot")⟩
  | .thresholdConfig slot _ payload => some ⟨⟨portUpTopic slot, payload⟩, 0, none⟩
  | .portStatus slot connected payload =>
      some ⟨⟨portUpTopic slot, payload⟩, if connected then 1 else 2, none⟩
  | .deviceStatus slot deviceId _ valid _ payload =>
      some ⟨⟨portUpTopic slot, payload⟩,
        if !valid || box.statusChanged slot.toInt deviceId valid then 2 else 1, none⟩

/-- The message has a pending row or is held for retransmission. -/
def Covered (publication : BoardMessage) : Prop :=
  forall letter, letter ∈ box.letter library publication ->
    (box.publish library nowMs mark publication).queue.HasRow
        (box.queue.next letter.item letter.priority) ∨
      ∃ registration, registration ∈ letter.registration ∧
        (box.publish library nowMs mark publication).sync.Retries registration.1 registration.2
          letter.item.payload

variable {library box nowMs mark} in
theorem covered_iff_of_letter {publication : BoardMessage} {message : Letter}
    (isLetter : box.letter library publication = some message) :
    box.Covered library nowMs mark publication ↔
      (box.publish library nowMs mark publication).queue.HasRow
          (box.queue.next message.item message.priority) ∨
        ∃ registration, registration ∈ message.registration ∧
          (box.publish library nowMs mark publication).sync.Retries registration.1 registration.2
            message.item.payload := by
  unfold Covered
  rw [isLetter]
  constructor
  · exact fun covered => covered message rfl
  · rintro covered letter ⟨rfl⟩
    exact covered

/-- A validity that differs from the last published one. -/
def IsChange : BoardMessage -> Prop
  | .deviceStatus slot deviceId _ valid _ _ => box.log.lastValid slot.toInt deviceId = some (!valid)
  | _ => True

/-- The metadata and the row of a device state whose change goes unnoticed. -/
def sampleMeta (slot deviceId : Int) (pointKey : String) (timestampMs : Int) : PublishMeta :=
  deviceStatusMeta slot deviceId pointKey true false timestampMs nowMs

/-- Acknowledgements and alarms always.  Registrations and snapshots while
the registration module has room.  A validity change if telemetry is allowed,
and if the device became invalid, has an entry in the table of states, or is
sampled and survives the cleanup.  Threshold and port messages never. -/
def Coverable : BoardMessage -> Prop
  | .ack _ _ _ => True
  | .alarm _ _ _ _ => True
  | .gatewayRegister seq payload => box.sync.Admits seq "gateway_register" payload
  | .portRegister seq _ payload => box.sync.Admits seq "port_register" payload
  | .deviceRegister seq _ _ payload => box.sync.Admits seq "device_register" payload
  | .configSnapshot seq exported =>
      forall text, text ∈ SyncWorld.latestSnapshotText library box.sync exported ->
        box.sync.Admits seq "config_snapshot" text
  | .thresholdConfig _ _ _ => False
  | .portStatus _ _ _ => False
  | .deviceStatus slot deviceId pointKey valid timestampMs payload =>
      box.sync.telemetryAllowed = true ∧
        (valid = false ∨ (box.log.statuses.first (DeviceStatus.isFor slot.toInt deviceId)).isSome = true ∨
          (allowSample box.queue.samples
              (sampleMeta nowMs slot.toInt deviceId pointKey timestampMs)).1 = true ∧
            box.queue.newRow ⟨portUpTopic slot, payload⟩
                (sampleMeta nowMs slot.toInt deviceId pointKey timestampMs) nowMs ∈
              enforceMaxRecords (box.queue.rows ++
                [box.queue.newRow ⟨portUpTopic slot, payload⟩
                  (sampleMeta nowMs slot.toInt deviceId pointKey timestampMs) nowMs]))

/-! ## Which kinds the policy knows -/

theorem stores_iff {queue : OfflineQueue} (initialized : queue.initialized = true)
    (enabled : queue.cacheEnabled = true) (metadata : PublishMeta) :
    queue.stores metadata = (shouldCache queue.samples metadata).1 := by
  rw [OfflineQueue.stores, initialized, enabled]
  rfl

/-- A closed list of four types. -/
theorem shouldCache_unknown (times : SampleTimes) {metadata : PublishMeta}
    (unknown : metadata.messageType ∉ ["alarm_event", "ack", "device_status", "telemetry_pack"]) :
    (shouldCache times metadata).1 = false := by
  simp only [List.mem_cons, List.not_mem_nil, or_false, not_or] at unknown
  rcases unknown with ⟨alarm, ack, status, pack⟩
  rw [shouldCache, if_neg alarm, if_neg ack, if_neg status, if_neg pack]

section Kinds

variable {box} (initialized : box.queue.initialized = true) (enabled : box.queue.cacheEnabled = true)

include initialized enabled

/-- An important message of a known type gets a row. -/
theorem hasRow_offer {topic payload : String} {metadata : PublishMeta}
    (cached : (shouldCache box.queue.samples metadata).1 = true) (important : 1 < metadata.priority) :
    (box.offer nowMs topic payload metadata).queue.HasRow
      (box.queue.next ⟨topic, payload⟩ metadata.priority) := by
  apply (OfflineQueue.hasRow_publishRefused_iff box.consistent _ metadata nowMs).mpr
  constructor
  · rw [stores_iff initialized enabled, cached]
  · exact OfflineQueue.newRow_kept box.consistent _ metadata nowMs important

/-- A message of an unknown type gets none. -/
theorem not_hasRow_publishRefused {item : MqttItem} {metadata : PublishMeta}
    (unknown : metadata.messageType ∉ ["alarm_event", "ack", "device_status", "telemetry_pack"]) :
    ¬ (box.queue.publishRefused item metadata nowMs).HasRow
      (box.queue.next item metadata.priority) := by
  intro row
  have stored := ((OfflineQueue.hasRow_publishRefused_iff box.consistent item metadata nowMs).mp
    row).1
  rw [stores_iff initialized enabled, shouldCache_unknown _ unknown] at stored
  cases stored

/-- A registration is kept by the registration module or not at all. -/
theorem covered_registration_iff (item : MqttItem) (metadata : PublishMeta) (seq : UInt32)
    (cmd : String) {after : ConfigSync}
    (unknown : metadata.messageType ∉ ["alarm_event", "ack", "device_status", "telemetry_pack"])
    (retries : after.Retries seq cmd item.payload ↔ box.sync.Admits seq cmd item.payload) :
    ((box.queue.publishRefused item metadata nowMs).HasRow
          (box.queue.next item metadata.priority) ∨
        ∃ registration, registration ∈ some (seq, cmd) ∧
          after.Retries registration.1 registration.2 item.payload) ↔
      box.sync.Admits seq cmd item.payload := by
  constructor
  · rintro (row | ⟨registration, same, held⟩)
    · exact absurd row (not_hasRow_publishRefused nowMs initialized enabled unknown)
    · cases same
      exact retries.mp held
  · intro admits
    exact Or.inr ⟨(seq, cmd), rfl, retries.mpr admits⟩

/-- A state of a device that is stored as a change or as invalid. -/
theorem covered_deviceStatus_noticed {slot : Int32} {deviceId : Int} {pointKey : String} {valid : Bool}
    {timestampMs : Int} {payload : Payload} (allowed : box.sync.telemetryAllowed = true)
    (noticed : (!valid || box.statusChanged slot.toInt deviceId valid) = true) :
    (box.publish library nowMs mark
        (.deviceStatus slot deviceId pointKey valid timestampMs payload)).queue.HasRow
      (box.queue.next ⟨portUpTopic slot, payload⟩
        (if !valid || box.statusChanged slot.toInt deviceId valid then 2 else 1)) := by
  rw [publish, if_pos allowed]
  apply hasRow_offer nowMs initialized enabled
  · have flags : ((deviceStatusMeta slot.toInt deviceId pointKey valid
        (box.statusChanged slot.toInt deviceId valid) timestampMs nowMs).hasAlarm ||
        (deviceStatusMeta slot.toInt deviceId pointKey valid
          (box.statusChanged slot.toInt deviceId valid) timestampMs nowMs).hasInvalidData ||
        (deviceStatusMeta slot.toInt deviceId pointKey valid
          (box.statusChanged slot.toInt deviceId valid) timestampMs nowMs).statusChanged) = true := by
      exact noticed
    simp only [shouldCache, flags, if_true]
    rfl
  · change 1 < if (!valid || box.statusChanged slot.toInt deviceId valid) = true then (2 : Int) else 1
    rw [if_pos noticed]
    decide

end Kinds

/-- While MQTT is not connected, a publication is covered precisely under the
condition of its kind. -/
theorem covered_iff (box : Outbox) (initialized : box.queue.initialized = true)
    (enabled : box.queue.cacheEnabled = true) (publication : BoardMessage)
    (change : box.IsChange publication) :
    box.Covered library nowMs mark publication ↔ box.Coverable library nowMs publication := by
  have threeImportant : (1 : Int) < 3 := by decide
  cases publication with
  | ack slot timestampMs payload =>
      refine iff_of_true ?_ trivial
      cases slot with
      | none =>
          apply (covered_iff_of_letter rfl).mpr
          exact Or.inl (hasRow_offer nowMs initialized enabled rfl threeImportant)
      | some slot =>
          apply (covered_iff_of_letter rfl).mpr
          exact Or.inl (hasRow_offer nowMs initialized enabled rfl threeImportant)
  | alarm slot deviceId pointKey payload =>
      refine iff_of_true ?_ trivial
      apply (covered_iff_of_letter rfl).mpr
      exact Or.inl (hasRow_offer nowMs initialized enabled rfl threeImportant)
  | gatewayRegister seq payload =>
      rw [covered_iff_of_letter rfl]
      apply covered_registration_iff nowMs initialized enabled
        ⟨mqttGatewayRegisterTopic, payload⟩ (gatewayRegisterMeta nowMs) seq "gateway_register"
      · change "gateway_register" ∉ ["alarm_event", "ack", "device_status", "telemetry_pack"]
        decide
      · exact ConfigSync.retries_markSent_iff box.queueStored payload.2
          (show textBytes "gateway_register" < maxCmdNameLen by decide)
  | portRegister seq slot payload =>
      rw [covered_iff_of_letter rfl]
      apply covered_registration_iff nowMs initialized enabled
        ⟨mqttGatewayRegisterTopic, payload⟩ (portRegisterMeta slot.toInt nowMs) seq "port_register"
      · change "port_register" ∉ ["alarm_event", "ack", "device_status", "telemetry_pack"]
        decide
      · exact ConfigSync.retries_markSent_iff box.queueStored payload.2
          (show textBytes "port_register" < maxCmdNameLen by decide)
  | deviceRegister seq slot slaveId payload =>
      rw [covered_iff_of_letter rfl]
      apply covered_registration_iff nowMs initialized enabled
        ⟨mqttGatewayRegisterTopic, payload⟩ (deviceRegisterMeta slot.toInt slaveId nowMs) seq "device_register"
      · change "device_register" ∉ ["alarm_event", "ack", "device_status", "telemetry_pack"]
        decide
      · exact ConfigSync.retries_markSent_iff box.queueStored payload.2
          (show textBytes "device_register" < maxCmdNameLen by decide)
  | configSnapshot seq exported =>
      rw [Coverable]
      cases printed : SyncWorld.latestSnapshotText library box.sync exported with
      | none =>
          refine iff_of_true ?_ ?_
          · intro letter isLetter
            rw [Outbox.letter, printed] at isLetter
            cases isLetter
          · intro text isText
            cases isText
      | some text =>
          have isLetter : box.letter library (.configSnapshot seq exported) =
              some ⟨⟨mqttGatewayRegisterTopic, text⟩, 0, some (seq, "config_snapshot")⟩ := by
            rw [letter, printed]
            rfl
          rw [covered_iff_of_letter isLetter]
          have onlyText : (forall text', text' ∈ some text ->
              box.sync.Admits seq "config_snapshot" text') ↔
                box.sync.Admits seq "config_snapshot" text := by
            simp
          rw [onlyText]
          rcases ConfigSync.publishLatestSnapshot_some printed with
            ⟨nonempty, version, timestampMs, state, effects⟩
          have queue : (box.publish library nowMs mark (.configSnapshot seq exported)).queue =
              box.queue.publishRefused ⟨mqttGatewayRegisterTopic, text⟩
                (configSnapshotMeta timestampMs) nowMs := by
            rw [publish, effects]
            rfl
          rw [queue]
          apply covered_registration_iff nowMs initialized enabled
            ⟨mqttGatewayRegisterTopic, text⟩ (configSnapshotMeta timestampMs) seq "config_snapshot"
          · change "config_snapshot" ∉ ["alarm_event", "ack", "device_status", "telemetry_pack"]
            decide
          · rw [publish, state]
            apply (ConfigSync.retries_congr (ConfigSync.view_announceSyncing _ _) seq _ text).trans
            exact ConfigSync.retries_storePending_iff box.queueStored nonempty
              (show textBytes "config_snapshot" < maxCmdNameLen by decide)
  | thresholdConfig slot deviceId payload =>
      rw [covered_iff_of_letter rfl]
      refine iff_of_false ?_ id
      rintro (row | ⟨registration, impossible, -⟩)
      · apply not_hasRow_publishRefused nowMs initialized enabled _ row
        change "threshold_config" ∉ ["alarm_event", "ack", "device_status", "telemetry_pack"]
        decide
      · cases impossible
  | portStatus slot connected payload =>
      rw [covered_iff_of_letter rfl]
      refine iff_of_false ?_ id
      rintro (row | ⟨registration, impossible, -⟩)
      · apply not_hasRow_publishRefused nowMs initialized enabled _ row
        change "port_status" ∉ ["alarm_event", "ack", "device_status", "telemetry_pack"]
        decide
      · cases impossible
  | deviceStatus slot deviceId pointKey valid timestampMs payload =>
      rw [covered_iff_of_letter rfl]
      constructor
      · rintro (row | ⟨registration, impossible, -⟩)
        · by_cases allowed : box.sync.telemetryAllowed = true
          · refine ⟨allowed, ?_⟩
            cases valid with
            | false => exact Or.inl rfl
            | true =>
                refine Or.inr ?_
                cases known : box.log.statuses.first (DeviceStatus.isFor slot.toInt deviceId) with
                | some entry => exact Or.inl rfl
                | none =>
                    refine Or.inr ?_
                    have unnoticed : box.statusChanged slot.toInt deviceId true = false := by
                      rw [statusChanged, checkDeviceStatusChanged, known]
                    simp only [publish, if_pos allowed, unnoticed, offer] at row
                    have kept := (OfflineQueue.hasRow_publishRefused_iff box.consistent _ _
                      nowMs).mp row
                    rw [stores_iff initialized enabled] at kept
                    exact kept
          · rw [publish, if_neg allowed] at row
            exact absurd row (OfflineQueue.not_hasRow_next box.consistent _ _)
        · cases impossible
      · rintro ⟨allowed, kind⟩
        refine Or.inl ?_
        by_cases noticed : (!valid || box.statusChanged slot.toInt deviceId valid) = true
        · exact covered_deviceStatus_noticed library nowMs mark initialized enabled allowed noticed
        · rw [Bool.or_eq_true, not_or, Bool.not_eq_true', Bool.not_eq_false, Bool.not_eq_true]
            at noticed
          rcases noticed with ⟨rfl, unnoticed⟩
          rcases kind with impossible | known | ⟨sampled, kept⟩
          · cases impossible
          · -- The entry holds the last published validity.
            rcases Option.isSome_iff_exists.mp known with ⟨entry, found⟩
            have last := box.log.current slot.toInt deviceId entry found
            rw [show box.log.lastValid slot.toInt deviceId = some false from change] at last
            have stale : entry.valid = false := (Option.some.inj last).symm
            simp only [statusChanged, checkDeviceStatusChanged, found, stale] at unnoticed
            cases unnoticed
          · simp only [publish, if_pos allowed, unnoticed, offer]
            apply (OfflineQueue.hasRow_publishRefused_iff box.consistent _ _ nowMs).mpr
            rw [stores_iff initialized enabled]
            exact ⟨sampled, kept⟩

/-- A board that has just started, with its cache open. -/
def idle : Outbox :=
  reached JsonC.jsonText [.init] [] []

def sampleText : Payload :=
  ⟨"\x7b\x7d", by decide⟩

theorem covered_iff_idle :
    idle.IsChange (.ack none 0 sampleText) ∧
      (idle.Covered JsonC.jsonText 1000 0 (.ack none 0 sampleText) ↔
        idle.Coverable JsonC.jsonText 1000 (.ack none 0 sampleText)) :=
  ⟨trivial, covered_iff JsonC.jsonText 1000 0 idle rfl rfl (.ack none 0 sampleText) trivial⟩

/-- The state of a disconnected port is stored nowhere. -/
theorem portStatus_not_covered :
    idle.queue.initialized = true ∧ idle.queue.cacheEnabled = true ∧
      ¬ idle.Covered JsonC.jsonText 1000 0 (.portStatus 0 false sampleText) := by
  refine ⟨rfl, rfl, ?_⟩
  intro covered
  rcases (covered_iff_of_letter rfl).mp covered with row | ⟨registration, impossible, -⟩
  · apply not_hasRow_publishRefused 1000 rfl rfl _ row
    decide
  · cases impossible

end Outbox
end Board
end Imx6Gateway
