import Imx6Gateway.Board.PendingMessages

namespace Imx6Gateway
namespace Board

open Library

/-!
# Pending messages and the history they belong to

Every held message stems from one registration of the history: its mark
finds the registration, its cmd is the registration's, its seq is one the
registration was sent under.  Along a run the history only grows; a
registration keeps its message and only gains seqs and answers.
-/

/-- A registration after some more steps. -/
structure Registration.Continues (old new : Registration) : Prop where
  cmd : new.cmd = old.cmd
  payload : new.payload = old.payload
  sentUnder : forall seq, seq ∈ old.sentUnder -> seq ∈ new.sentUnder
  promised : new.promised = old.promised
  stored : new.stored = old.stored
  acked : old.acked = true -> new.acked = true
  refused : old.refused = true -> new.refused = true

theorem Registration.Continues.refl (registration : Registration) :
    registration.Continues registration :=
  ⟨rfl, rfl, fun _ member => member, rfl, rfl, id, id⟩

theorem Registration.continues_note (ack : ConfigSync.Ack) (registration : Registration) :
    registration.Continues (registration.note ack) where
  cmd := rfl
  payload := rfl
  sentUnder := fun _ member => member
  promised := rfl
  stored := rfl
  acked := by
    intro acked
    simp only [Registration.note, acked, Bool.true_or]
  refused := by
    intro refused
    simp only [Registration.note, refused, Bool.true_or]

theorem Registration.continues_sendUnder (seq : UInt32) (registration : Registration) :
    registration.Continues (registration.sendUnder seq) :=
  ⟨rfl, rfl, fun _ member => List.mem_cons_of_mem seq member, rfl, rfl, id, id⟩

namespace ConfigSync

/-- A register cmd is short enough to be recognised in the buffer. -/
theorem eq_of_copied_cmd {cmd source : String} (register : isRegisterCmd cmd = true)
    (copied : copyText maxCmdNameLen source = cmd) : source = cmd := by
  apply eq_of_copyText_eq copied
  simp only [isRegisterCmd, decide_eq_true_eq, List.mem_cons, List.not_mem_nil, or_false]
    at register
  rcases register with rfl | rfl | rfl | rfl | rfl | rfl <;> decide

theorem register_of_snapshot {cmd : String} (snapshot : isSnapshotCmd cmd = true) :
    isRegisterCmd cmd = true := by
  simp only [isSnapshotCmd, Bool.or_eq_true, decide_eq_true_eq] at snapshot
  rcases snapshot with rfl | rfl <;> decide

end ConfigSync

namespace SyncWorld

open ConfigSync

/-- One history continues another. -/
structure Grows (old new : List Registration) : Prop where
  length : old.length ≤ new.length
  continues : forall (index : Nat) (before after : Registration),
    old[index]? = some before -> new[index]? = some after -> before.Continues after

theorem Grows.refl (history : List Registration) : Grows history history := by
  refine ⟨Nat.le_refl _, ?_⟩
  intro index before after first second
  rw [first] at second
  cases second
  exact Registration.Continues.refl before

theorem grows_append (history : List Registration) (added : Registration) :
    Grows history (history ++ [added]) := by
  refine ⟨by simp, ?_⟩
  intro index before after first second
  have inside : index < history.length := (List.getElem?_eq_some_iff.mp first).1
  rw [List.getElem?_append_left inside, first] at second
  cases second
  exact Registration.Continues.refl before

theorem grows_map (history : List Registration) (change : Registration -> Registration)
    (continues : forall registration : Registration,
      registration.Continues (change registration)) :
    Grows history (history.map change) := by
  refine ⟨by simp, ?_⟩
  intro index before after first second
  rw [List.getElem?_map, first, Option.map_some] at second
  cases second
  exact continues before

theorem grows_modify (history : List Registration) (position : Nat)
    (change : Registration -> Registration)
    (continues : forall registration : Registration,
      registration.Continues (change registration)) :
    Grows history (history.modify position change) := by
  refine ⟨by simp, ?_⟩
  intro index before after first second
  rw [List.getElem?_modify, first] at second
  split at second
  · cases second
    exact continues before
  · cases second
    exact Registration.Continues.refl before

/-- The registration that continues a given one. -/
theorem Grows.next {old new : List Registration} (grows : Grows old new) {index : Nat}
    {before : Registration} (found : old[index]? = some before) :
    exists after, new[index]? = some after ∧ before.Continues after := by
  have inside : index < old.length := (List.getElem?_eq_some_iff.mp found).1
  have present := List.getElem?_eq_getElem (l := new) (inside.trans_le grows.length)
  exact ⟨_, present, grows.continues index before _ found present⟩

/-- The registration that a given one continues. -/
theorem Grows.previous {old new : List Registration} (grows : Grows old new) {index : Nat}
    {after : Registration} (found : new[index]? = some after) (inside : index < old.length) :
    exists before, old[index]? = some before ∧ before.Continues after := by
  have present := List.getElem?_eq_getElem inside
  exact ⟨_, present, grows.continues index _ after present found⟩

/-- The message stems from a registration of the history, and fits its buffers. -/
def Linked (history : List Registration) (entry : Pending) : Prop :=
  exists registration, history[entry.mark]? = some registration ∧
    entry.cmd = copyText maxCmdNameLen registration.cmd ∧
    entry.seq ∈ registration.sentUnder ∧ entry.stored = entry ∧ entry.payload ≠ ""

/-- Every held message stems from the history. -/
def LinkedWorld (world : SyncWorld) : Prop :=
  forall entry, world.sync.Holds entry -> Linked world.history entry

theorem Linked.grow {old new : List Registration} (grows : Grows old new) {entry : Pending}
    (linked : Linked old entry) : Linked new entry := by
  rcases linked with ⟨registration, found, cmd, seq, fits⟩
  rcases grows.next found with ⟨after, present, continues⟩
  refine ⟨after, present, ?_, continues.sentUnder _ seq, fits⟩
  rw [continues.cmd]
  exact cmd

theorem LinkedWorld.queueStored {world : SyncWorld} (linked : LinkedWorld world) :
    world.sync.QueueStored := by
  intro entry member
  rcases linked entry (Or.inr member) with ⟨-, -, -, -, stored, -⟩
  exact stored

theorem LinkedWorld.queueNonempty {world : SyncWorld} (linked : LinkedWorld world)
    (entry : Pending) (member : entry ∈ world.sync.queue) : entry.payload ≠ "" := by
  rcases linked entry (Or.inr member) with ⟨-, -, -, -, -, nonempty⟩
  exact nonempty

theorem linked_initial : LinkedWorld initial := by
  intro entry holds
  rcases holds with active | queued
  · cases active
  · exact absurd queued (SlotTable.not_mem_empty entry)

variable (library : JsonC)

theorem history_grows (world : SyncWorld) (event : SyncEvent) :
    Grows world.history (step library world event).history := by
  cases event with
  | markSent env seq cmd payload portId =>
      simp only [step]
      split
      · exact Grows.refl _
      · exact grows_append _ _
  | publishLatestSnapshot env seq exported =>
      simp only [step]
      split
      · exact Grows.refl _
      · exact grows_append _ _
  | handleAckJson nowMs payload =>
      simp only [step]
      split
      · exact Grows.refl _
      · exact grows_map _ _ (Registration.continues_note _)
  | tick env =>
      simp only [step]
      split
      · exact grows_modify _ _ _ (Registration.continues_sendUnder _)
      · exact Grows.refl _
  | nextSeq => exact Grows.refl _

/-- Only acknowledgements of registrations get through. -/
theorem register_of_parseAck {payload : String} {ack : Ack}
    (parsed : parseAck library payload = some ack) : isRegisterCmd ack.cmd = true := by
  simp only [parseAck, bind, Option.bind_eq_some_iff] at parsed
  rcases parsed with ⟨root, -, isAck, -, cmd, -, isRegister, guarded, same⟩
  cases same
  by_contra other
  simp [guard, other] at guarded

/-- The active message is built from the state's fields. -/
theorem fields_of_activeEntry {state : ConfigSync} {entry : Pending}
    (active : state.activeEntry = some entry) :
    entry.seq = state.pendingSeq ∧ entry.cmd = state.pendingCmd ∧
      entry.payload = state.pendingSnapshot ∧ entry.mark = state.pendingMark := by
  unfold activeEntry at active
  split at active
  · cases active
    exact ⟨rfl, rfl, rfl, rfl⟩
  · cases active

theorem activeMatch_spec {ack : Ack} {state : ConfigSync} (register : isRegisterCmd ack.cmd = true)
    (matched : activeMatch ack state = true) :
    state.pendingSeq = ack.seq ∧ state.pendingCmd = ack.cmd := by
  have nonempty : ack.cmd ≠ "" := by
    intro empty
    rw [empty] at register
    cases register
  simp only [activeMatch, Bool.and_eq_true, Bool.or_eq_true, decide_eq_true_eq] at matched
  exact ⟨matched.1.2, matched.2.resolve_left nonempty⟩

/-! ## Stamps -/

theorem wire_stamp {key : String} {value : UInt32} {json : Json}
    (wire : json.Wire Json.maxDepth) :
    ((json.erase key).append key (.int value.toNat)).Wire Json.maxDepth := by
  apply Json.wire_append (Json.wire_erase wire) _ (Json.lookup_erase_self key json)
  have bounded := value.toNat_lt
  rw [Json.wire_int]
  omega

theorem wire_restamp {seq version : UInt32} {json : Json} (wire : json.Wire Json.maxDepth) :
    (restamp seq version json).Wire Json.maxDepth :=
  wire_stamp (wire_stamp wire)

/-- A message without the two fields that every send sets anew.  A text that
is no JSON value stands for itself. -/
def unstamped (text : String) : String ⊕ Json :=
  match library.parse text with
  | some json => .inr ((json.erase "seq").erase "configVersion")
  | none => .inl text

theorem erase_restamp (seq version : UInt32) (json : Json) :
    ((restamp seq version json).erase "seq").erase "configVersion" =
      (json.erase "seq").erase "configVersion" := by
  have different : "configVersion" ≠ "seq" := by decide
  rw [restamp, stampVersion, stampSeq, Json.erase_append_of_ne _ _ different,
    Json.erase_append_self, Json.erase_comm "configVersion" "seq", Json.erase_append_self,
    Json.erase_erase, Json.erase_erase]

theorem isObj_restamp (seq version : UInt32) (json : Json) :
    (restamp seq version json).isObj = json.isObj := by
  simp only [restamp, stampVersion, stampSeq, Json.isObj_append, Json.isObj_erase]

/-- The retried message carries the new seq. -/
theorem lookup_seq_restamp (seq version : UInt32) {json : Json} (isObj : json.isObj = true) :
    (restamp seq version json).lookup "seq" = some (.int seq.toNat) := by
  have different : "seq" ≠ "configVersion" := by decide
  rw [restamp, stampVersion, stampSeq, Json.lookup_append_of_ne _ _ different,
    Json.lookup_erase_of_ne _ different,
    Json.lookup_append_self "seq" _ _ (by rw [Json.isObj_erase]; exact isObj)
      (Json.lookup_erase_self "seq" json)]

theorem retryText_ne_empty {state : ConfigSync} {root : Json}
    (parsed : library.parse state.pendingSnapshot = some root) :
    retryText library state root ≠ "" :=
  library.print_ne_empty (wire_restamp (library.parse_wire _ root parsed))

theorem parse_retryText {state : ConfigSync} {root : Json}
    (parsed : library.parse state.pendingSnapshot = some root) :
    library.parse (retryText library state root) =
      some (restamp (state.syncSeq + 1) state.configVersion root) :=
  library.parse_print _ (wire_restamp (library.parse_wire _ root parsed))

/-- A retry sends the message with new stamps and nothing else changed. -/
theorem unstamped_retryText {state : ConfigSync} {root : Json}
    (parsed : library.parse state.pendingSnapshot = some root) :
    unstamped library (retryText library state root) =
      unstamped library state.pendingSnapshot := by
  rw [unstamped, unstamped, parse_retryText library parsed, parsed]
  simp only [erase_restamp]

/-! ## Issuing calls -/

/-- The event stores a message and adds its registration to the history. -/
structure Issues (world : SyncWorld) (event : SyncEvent) (env : Surroundings) (seq : UInt32)
    (cmd payload portId : String) (version : UInt32) (added : Registration) : Prop where
  next : step library world event =
    ⟨announceSyncing env.mqttConnected (storePending env.nowMs
      (world.newEntry seq cmd payload portId) { world.sync with configVersion := version }).2,
      world.history ++ [added]⟩
  nonempty : payload ≠ ""
  cmd : added.cmd = cmd
  payload : added.payload = payload
  sentUnder : added.sentUnder = [seq]
  stored : added.stored = (step library world event).sync.holdsMark world.history.length

/-- `markSent` does nothing or issues its message; a promise means that the
message was taken with a nonzero seq. -/
theorem markSent_cases (world : SyncWorld) (env : Surroundings) (seq : UInt32)
    (cmd payload portId : String) :
    (payload = "" ∧ step library world (.markSent env seq cmd payload portId) = world) ∨
    (exists version added,
      Issues library world (.markSent env seq cmd payload portId) env seq cmd payload portId
        version added ∧
      (added.promised = true -> seq ≠ 0 ∧ queueFullFor seq cmd world.sync = false)) := by
  have samePayload : (world.newEntry seq cmd payload portId).payload = payload := rfl
  by_cases blank : payload = ""
  · refine Or.inl ⟨blank, ?_⟩
    simp only [step, markSent, newEntry, blank, if_true]
  · have isNext : step library world (.markSent env seq cmd payload portId) =
        ⟨announceSyncing env.mqttConnected (storePending env.nowMs
          (world.newEntry seq cmd payload portId) { world.sync with
            configVersion := versionAtLeastOne
              (if isSnapshotCmd cmd then world.sync.configVersion + 1
                else world.sync.configVersion) }).2,
          world.history ++ [world.issued
            (markSent env (world.newEntry seq cmd payload portId) world.sync) seq cmd payload
            ((markSent env (world.newEntry seq cmd payload portId) world.sync).code =
              DataSendCode.ok.toInt && seq ≠ 0)]⟩ := by
      simp only [step, markSent, samePayload, blank, if_false]
      rfl
    refine Or.inr ⟨_, _, ⟨isNext, blank, rfl, rfl, rfl, rfl⟩, ?_⟩
    · intro promised
      simp only [issued, Bool.and_eq_true, decide_eq_true_eq, markSent, samePayload, blank,
        if_false, toInt_eq_ok_iff] at promised
      exact ⟨promised.2, storePending_ok_iff.mp promised.1⟩

/-- `publishLatestSnapshot` does nothing or issues the stamped export; it
promises delivery when the publisher reports success. -/
theorem publishLatestSnapshot_cases (world : SyncWorld) (env : Surroundings) (seq : UInt32)
    (exported : Option String) :
    (latestSnapshotText library world.sync exported = none ∧
      step library world (.publishLatestSnapshot env seq exported) = world) ∨
    (exists text version added, latestSnapshotText library world.sync exported = some text ∧
      Issues library world (.publishLatestSnapshot env seq exported) env seq "config_snapshot"
        text defaultPortId version added ∧
      (added.promised = true -> env.publishResult = DataSendCode.ok.toInt)) := by
  cases parsed : exported.bind library.parse with
  | none =>
      left
      simp only [step, publishLatestSnapshot, latestSnapshotText, parsed, Option.map_none,
        and_self]
  | some root =>
      right
      have wire : root.Wire Json.maxDepth := by
        rcases Option.bind_eq_some_iff.mp parsed with ⟨text, -, read⟩
        exact library.parse_wire text root read
      have published : latestSnapshotText library world.sync exported =
          some (library.print
            (stampVersion (versionAtLeastOne (world.sync.configVersion + 1)) root)) := by
        rw [latestSnapshotText, parsed, Option.map_some]
      generalize sent : library.print
        (stampVersion (versionAtLeastOne (world.sync.configVersion + 1)) root) = text at published
      have nonempty : text ≠ "" := by
        rw [← sent]
        exact library.print_ne_empty (wire_stamp wire)
      have isNext : step library world (.publishLatestSnapshot env seq exported) =
          ⟨announceSyncing env.mqttConnected (storePending env.nowMs
            (world.newEntry seq "config_snapshot" text defaultPortId) { world.sync with
              configVersion := versionAtLeastOne (world.sync.configVersion + 1) }).2,
            world.history ++ [world.issued
              (publishLatestSnapshot library env seq exported world.history.length world.sync) seq
              "config_snapshot" text (env.publishResult = DataSendCode.ok.toInt)]⟩ := by
        simp only [step, publishLatestSnapshot, parsed, published, sent]
        rfl
      refine ⟨text, _, _, published, ⟨isNext, nonempty, rfl, rfl, rfl, ?_⟩, ?_⟩
      · rw [isNext]
        simp only [issued, publishLatestSnapshot, parsed, sent]
        rfl
      · intro promised
        simpa only [issued, decide_eq_true_eq] using promised

/-! ## The held messages stay linked -/

/-- Issuing a message keeps the links. -/
theorem linked_issue {world : SyncWorld} {event : SyncEvent} {env : Surroundings} {seq : UInt32}
    {cmd payload portId : String} {version : UInt32} {added : Registration}
    (issues : Issues library world event env seq cmd payload portId version added)
    (linked : LinkedWorld world) : LinkedWorld (step library world event) := by
  intro held holds
  rw [issues.next] at holds ⊢
  have queueStored : ConfigSync.QueueStored { world.sync with configVersion := version } :=
    linked.queueStored
  have stored := (holds_congr (view_announceSyncing env.mqttConnected _) held).mp holds
  rcases holds_storePending queueStored stored with new | old
  · rw [new]
    refine ⟨added, ?_, ?_, ?_, Pending.stored_stored _,
      copyText_ne_empty issues.nonempty (by decide)⟩
    · exact List.getElem?_concat_length
    · rw [issues.cmd]
      rfl
    · rw [issues.sentUnder]
      exact List.mem_singleton.mpr rfl
  · exact (linked held old).grow (grows_append _ _)

/-- The active message after a retry. -/
def retriedEntry (library : JsonC) (state : ConfigSync) (root : Json) : Pending where
  seq := state.syncSeq + 1
  cmd := state.pendingCmd
  portId := state.pendingPortId
  payload := copyText configSyncPayloadMax (retryText library state root)
  mark := state.pendingMark

/-- A tick with its effect on the history. -/
theorem step_tick_cases (world : SyncWorld) (env : Surroundings) :
    (retryDue env world.sync = false ∧
      (step library world (.tick env)).sync.view =
        (promoteNextPending env.nowMs world.sync).view ∧
      (step library world (.tick env)).history = world.history) ∨
    (retryDue env world.sync = true ∧ library.parse world.sync.pendingSnapshot = none ∧
      (step library world (.tick env)).sync.view = world.sync.view ∧
      (step library world (.tick env)).history = world.history) ∨
    (exists root, retryDue env world.sync = true ∧
      library.parse world.sync.pendingSnapshot = some root ∧
      (step library world (.tick env)).sync.view =
        { world.sync.view with
          seq := world.sync.syncSeq + 1
          payload := copyText configSyncPayloadMax (retryText library world.sync root)
          lastSendTimeMs := env.nowMs } ∧
      (step library world (.tick env)).history =
        world.history.modify world.sync.pendingMark
          (Registration.sendUnder (world.sync.syncSeq + 1))) := by
  rcases tick_cases library env world.sync with
    ⟨due, quiet, view⟩ | ⟨due, failed, quiet, view⟩ | ⟨root, info, shown, due, parsed, sent, view⟩
  · refine Or.inl ⟨due, view, ?_⟩
    simp only [step, quiet, Bool.false_eq_true, if_false]
  · refine Or.inr (Or.inl ⟨due, failed, view, ?_⟩)
    simp only [step, quiet, Bool.false_eq_true, if_false]
  · refine Or.inr (Or.inr ⟨root, due, parsed, view, ?_⟩)
    have seq : (tick library env world.sync).state.pendingSeq = world.sync.syncSeq + 1 :=
      congrArg PendingView.seq view
    have mark : (tick library env world.sync).state.pendingMark = world.sync.pendingMark :=
      congrArg PendingView.mark view
    simp only [step, sent, seq, mark, List.any_cons, Effect.isPublish, Bool.true_or, if_true]

theorem activeEntry_of_due {env : Surroundings} {state : ConfigSync}
    (due : retryDue env state = true) :
    state.activeEntry = some
      { seq := state.pendingSeq, cmd := state.pendingCmd, portId := state.pendingPortId,
        payload := state.pendingSnapshot, mark := state.pendingMark } := by
  simp only [retryDue, Bool.and_eq_true] at due
  rw [activeEntry, if_pos due.1.1.1]

/-- After a retry, the retried message is held or a queued one is. -/
theorem holds_retried {state next : ConfigSync} {root : Json} {nowMs : Int} {held : Pending}
    (view : next.view =
      { state.view with
        seq := state.syncSeq + 1
        payload := copyText configSyncPayloadMax (retryText library state root)
        lastSendTimeMs := nowMs })
    (holds : next.Holds held) : held = retriedEntry library state root ∨ held ∈ state.queue := by
  rcases holds with active | queued
  · left
    rw [activeEntry_eq_view, view, PendingView.activeEntry] at active
    split at active
    · cases active
      rfl
    · cases active
  · right
    have queues : next.queue = state.queue := congrArg PendingView.queue view
    rw [queues] at queued
    exact queued

theorem linked_retried {history : List Registration} {env : Surroundings} {state : ConfigSync}
    {root : Json} (due : retryDue env state = true)
    (parsed : library.parse state.pendingSnapshot = some root)
    (linked : forall entry, state.Holds entry -> Linked history entry) :
    Linked (history.modify state.pendingMark (Registration.sendUnder (state.syncSeq + 1)))
      (retriedEntry library state root) := by
  rcases linked _ (Or.inl (activeEntry_of_due due)) with
    ⟨registration, found, cmd, -, stored, -⟩
  simp only at found cmd
  refine ⟨registration.sendUnder (state.syncSeq + 1), ?_, cmd, List.mem_cons_self, ?_,
    copyText_ne_empty (retryText_ne_empty library parsed) (by decide)⟩
  · simp only [retriedEntry, List.getElem?_modify_eq, found, Option.map_eq_map, Option.map_some]
  · simp only [Pending.stored, Pending.mk.injEq] at stored
    simp only [Pending.stored, retriedEntry, copyText_copyText, stored]

theorem linked_step (world : SyncWorld) (event : SyncEvent) (linked : LinkedWorld world) :
    LinkedWorld (step library world event) := by
  have grows := history_grows library world event
  cases event with
  | markSent env seq cmd payload portId =>
      rcases markSent_cases library world env seq cmd payload portId with
        ⟨-, same⟩ | ⟨version, added, issues, -⟩
      · rw [same]
        exact linked
      · exact linked_issue library issues linked
  | publishLatestSnapshot env seq exported =>
      rcases publishLatestSnapshot_cases library world env seq exported with
        ⟨-, same⟩ | ⟨text, version, added, -, issues, -⟩
      · rw [same]
        exact linked
      · exact linked_issue library issues linked
  | handleAckJson nowMs payload =>
      intro held holds
      apply Linked.grow grows
      apply linked
      simp only [step, handleAckJson] at holds
      split at holds
      · exact holds
      · exact holds_handleAck linked.queueStored holds
  | tick env =>
      intro held holds
      rcases step_tick_cases library world env with
        ⟨-, view, same⟩ | ⟨-, -, view, same⟩ | ⟨root, due, parsed, view, sent⟩
      · rw [same]
        exact linked held (holds_promoteNextPending linked.queueStored
          ((holds_congr view held).mp holds))
      · rw [same]
        exact linked held ((holds_congr view held).mp holds)
      · rcases holds_retried library view holds with retried | queued
        · rw [retried, sent]
          exact linked_retried library due parsed linked
        · exact (linked held (Or.inr queued)).grow grows
  | nextSeq => exact linked

end SyncWorld
end Board
end Imx6Gateway
