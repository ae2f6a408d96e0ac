import Imx6Gateway.Board.SyncLedger

namespace Imx6Gateway
namespace Board

open Library

/-!
# Which registrations survive

A promised registration stays held with its message until it is acknowledged
or a newer snapshot takes its place.  Five operations can break this: a
refusal of a queued message removes it, a seq and cmd used again overwrite
the older message, a full queue or seq 0 swallows a published snapshot, a
text longer than the buffer is cut, and the counter of retries can wrap to
the seq that marks an empty slot.  The condition below excludes exactly these
events, and only where they hit a registration that is still needed.
-/

namespace ConfigSync

theorem holdsMark_iff (state : ConfigSync) (mark : Nat) :
    state.holdsMark mark = true ↔ exists entry, state.Holds entry ∧ entry.mark = mark := by
  simp only [holdsMark, Bool.or_eq_true, Option.any_eq_true, List.any_eq_true, decide_eq_true_eq]
  constructor
  · rintro (⟨entry, active, same⟩ | ⟨slot, member, entry, rfl, same⟩)
    · exact ⟨entry, Or.inl active, same⟩
    · exact ⟨entry, Or.inr member, same⟩
  · rintro ⟨entry, active | queued, same⟩
    · exact Or.inl ⟨entry, active, same⟩
    · exact Or.inr ⟨some entry, queued, entry, rfl, same⟩

end ConfigSync

namespace SyncWorld

open ConfigSync

/-- A newer configuration snapshot was taken over after this one. -/
def superseded (history : List Registration) (mark : Nat) (registration : Registration) : Bool :=
  isSnapshotCmd registration.cmd &&
    (history.drop (mark + 1)).any fun later => isSnapshotCmd later.cmd && later.stored

/-- Nothing is owed to the registration with this mark. -/
def Disposable (history : List Registration) (mark : Nat) : Prop :=
  forall registration, registration ∈ history[mark]? -> registration.promised = true ->
    registration.acked = true ∨ superseded history mark registration = true

instance disposableDecidable (history : List Registration) (mark : Nat) :
    Decidable (Disposable history mark) := by
  unfold Disposable
  infer_instance

theorem superseded_iff {history : List Registration} {mark : Nat} {registration : Registration} :
    superseded history mark registration = true ↔ isSnapshotCmd registration.cmd = true ∧
      exists index later, mark < index ∧ history[index]? = some later ∧
        isSnapshotCmd later.cmd = true ∧ later.stored = true := by
  simp only [superseded, Bool.and_eq_true, List.any_eq_true]
  constructor
  · rintro ⟨snapshot, later, member, laterSnapshot, stored⟩
    rcases List.mem_iff_getElem?.mp member with ⟨offset, found⟩
    rw [List.getElem?_drop] at found
    exact ⟨snapshot, mark + 1 + offset, later, by omega, found, laterSnapshot, stored⟩
  · rintro ⟨snapshot, index, later, after, found, laterSnapshot, stored⟩
    refine ⟨snapshot, later, ?_, laterSnapshot, stored⟩
    apply List.mem_iff_getElem?.mpr
    refine ⟨index - (mark + 1), ?_⟩
    rw [List.getElem?_drop, show mark + 1 + (index - (mark + 1)) = index by omega]
    exact found

theorem superseded_grow {old new : List Registration} (grows : Grows old new) {mark : Nat}
    {before after : Registration} (continues : before.Continues after)
    (newer : superseded old mark before = true) : superseded new mark after = true := by
  rw [superseded_iff] at newer ⊢
  rcases newer with ⟨snapshot, index, later, behind, found, laterSnapshot, stored⟩
  rcases grows.next found with ⟨next, present, continued⟩
  refine ⟨?_, index, next, behind, present, ?_, ?_⟩
  · rw [continues.cmd]
    exact snapshot
  · rw [continued.cmd]
    exact laterSnapshot
  · rw [continued.stored]
    exact stored

variable (library : JsonC)

/-- The registration is active or queued, its message unchanged but for the
stamps. -/
def Kept (world : SyncWorld) (mark : Nat) (registration : Registration) : Prop :=
  exists entry, world.sync.Holds entry ∧ entry.mark = mark ∧ entry.seq ≠ 0 ∧
    unstamped library entry.payload = unstamped library registration.payload

/-- No promised registration is lost. -/
def NoneLost (world : SyncWorld) : Prop :=
  forall mark registration, world.history[mark]? = some registration ->
    registration.promised = true ->
      Kept library world mark registration ∨ registration.acked = true ∨
        superseded world.history mark registration = true

/-- The steps that keep every promise. -/
def KeepCondition (world : SyncWorld) (event : SyncEvent) : Prop :=
  match event with
  | .markSent _ seq cmd payload _ =>
      payload ≠ "" -> queueFullFor seq cmd world.sync = false ->
        (seq ≠ 0 -> textBytes payload < configSyncPayloadMax) ∧
        (isSnapshotCmd cmd = true ∨
          forall entry, entry ∈ overwritten seq cmd world.sync ->
            Disposable world.history entry.mark)
  | .publishLatestSnapshot env seq exported =>
      forall text, text ∈ latestSnapshotText library world.sync exported ->
        env.publishResult = DataSendCode.ok.toInt ->
          seq ≠ 0 ∧ queueFullFor seq "config_snapshot" world.sync = false ∧
            textBytes text < configSyncPayloadMax
  | .handleAckJson _ payload =>
      forall ack, ack ∈ parseAck library payload -> ack.ok = false ->
        forall entry, entry ∈ queuedMatch ack world.sync -> Disposable world.history entry.mark
  | .tick env =>
      retryDue env world.sync = true -> Disposable world.history world.sync.pendingMark ∨
        (world.sync.syncSeq + 1 ≠ 0 ∧
          forall root, root ∈ library.parse world.sync.pendingSnapshot ->
            textBytes (retryText library world.sync root) < configSyncPayloadMax)
  | .nextSeq => True

instance keepConditionDecidable (world : SyncWorld) (event : SyncEvent) :
    Decidable (KeepCondition library world event) := by
  unfold KeepCondition
  split <;> infer_instance

/-- An old promise is inherited: what remains is to find the message among
the ones held after the step, or to show that its registration is settled. -/
theorem noneLost_of_kept (world : SyncWorld) (event : SyncEvent) (safe : NoneLost library world)
    (keeps : forall entry registration, world.sync.Holds entry ->
      world.history[entry.mark]? = some registration -> registration.promised = true ->
      entry.seq ≠ 0 -> unstamped library entry.payload = unstamped library registration.payload ->
      forall after, (step library world event).history[entry.mark]? = some after ->
        registration.Continues after ->
        Kept library (step library world event) entry.mark after ∨ after.acked = true ∨
          superseded (step library world event).history entry.mark after = true)
    (fresh : forall added, (step library world event).history[world.history.length]? = some added ->
      added.promised = true -> Kept library (step library world event) world.history.length added)
    (oneMore : (step library world event).history.length ≤ world.history.length + 1) :
    NoneLost library (step library world event) := by
  have grows := history_grows library world event
  intro mark after found promised
  by_cases inside : mark < world.history.length
  · rcases grows.previous found inside with ⟨before, present, continues⟩
    have wasPromised : before.promised = true := by
      rw [← continues.promised]
      exact promised
    rcases safe mark before present wasPromised with ⟨entry, holds, rfl, nonzero, same⟩ | acked | newer
    · exact keeps entry before holds present wasPromised nonzero same after found continues
    · exact Or.inr (Or.inl (continues.acked acked))
    · exact Or.inr (Or.inr (superseded_grow grows continues newer))
  · have position : mark = world.history.length := by
      have bound := (List.getElem?_eq_some_iff.mp found).1
      omega
    subst position
    exact Or.inl (fresh after found promised)

/-- Issuing a message: only the overwritten one can be dropped, and it was
disposable or an older snapshot. -/
theorem issue_keeps {world : SyncWorld} {event : SyncEvent} {env : Surroundings} {seq : UInt32}
    {cmd payload portId : String} {version : UInt32} {added : Registration}
    (issues : Issues library world event env seq cmd payload portId version added)
    (linked : LinkedWorld world)
    (spared : forall old, old ∈ overwritten seq cmd world.sync ->
      isSnapshotCmd cmd = true ∨ Disposable world.history old.mark)
    (held : Pending) (registration : Registration) (holds : world.sync.Holds held)
    (found : world.history[held.mark]? = some registration)
    (promised : registration.promised = true) :
    (step library world event).sync.Holds held ∨ registration.acked = true ∨
      superseded (world.history ++ [added]) held.mark registration = true := by
  have grows := grows_append world.history added
  have queueStored : ConfigSync.QueueStored { world.sync with configVersion := version } :=
    linked.queueStored
  rcases storePending_keeps queueStored holds with stays | dropped
  · left
    rw [issues.next]
    exact (holds_congr (view_announceSyncing env.mqttConnected _) held).mpr stays
  · right
    have replaces : overwritten seq cmd world.sync = some held := dropped
    rcases spared held replaces with snapshot | disposable
    · right
      have newHeld := storePending_holds_of_overwritten env.nowMs queueStored
        issues.nonempty dropped
      have cmdMatches : held.cmd = cmd := (overwritten_spec replaces).2.2
      rcases linked held holds with ⟨linkedTo, present, copied, -⟩
      rw [found] at present
      cases present
      have same : registration.cmd = cmd :=
        eq_of_copied_cmd (register_of_snapshot snapshot) (copied.symm.trans cmdMatches)
      rw [superseded_iff]
      refine ⟨by rw [same]; exact snapshot, world.history.length, added,
        (List.getElem?_eq_some_iff.mp found).1, List.getElem?_concat_length,
        by rw [issues.cmd]; exact snapshot, ?_⟩
      rw [issues.stored, holdsMark_iff]
      refine ⟨(world.newEntry seq cmd payload portId).stored, ?_, rfl⟩
      rw [issues.next]
      exact (holds_congr (view_announceSyncing env.mqttConnected _) _).mpr newHeld
    · rcases disposable registration found promised with acked | newer
      · exact Or.inl acked
      · exact Or.inr (superseded_grow grows (Registration.Continues.refl registration) newer)

/-- A message that was taken with a nonzero seq and fits the buffer is kept. -/
theorem issue_kept {world : SyncWorld} {event : SyncEvent} {env : Surroundings} {seq : UInt32}
    {cmd payload portId : String} {version : UInt32} {added : Registration}
    (issues : Issues library world event env seq cmd payload portId version added)
    (linked : LinkedWorld world) (nonzero : seq ≠ 0)
    (fits : textBytes payload < configSyncPayloadMax)
    (room : queueFullFor seq cmd world.sync = false) :
    Kept library (step library world event) world.history.length added := by
  have queueStored : ConfigSync.QueueStored { world.sync with configVersion := version } :=
    linked.queueStored
  have newHeld := storePending_holds env.nowMs (world.newEntry seq cmd payload portId)
    queueStored issues.nonempty nonzero (storePending_ok_iff.mpr room)
  refine ⟨(world.newEntry seq cmd payload portId).stored, ?_, rfl, nonzero, ?_⟩
  · rw [issues.next]
    exact (holds_congr (view_announceSyncing env.mqttConnected _) _).mpr newHeld
  · have uncut : (world.newEntry seq cmd payload portId).stored.payload = payload :=
      copyText_of_fits fits
    rw [uncut, issues.payload]

theorem kept_of_holds {next : SyncWorld} {entry : Pending} {before after : Registration}
    (holds : next.sync.Holds entry) (nonzero : entry.seq ≠ 0)
    (same : unstamped library entry.payload = unstamped library before.payload)
    (continues : before.Continues after) : Kept library next entry.mark after :=
  ⟨entry, holds, rfl, nonzero, by rw [same, continues.payload]⟩

/-- An issuing call keeps every promise under its conditions. -/
theorem noneLost_issue {world : SyncWorld} {event : SyncEvent} {env : Surroundings} {seq : UInt32}
    {cmd payload portId : String} {version : UInt32} {added : Registration}
    (issues : Issues library world event env seq cmd payload portId version added)
    (linked : LinkedWorld world) (safe : NoneLost library world)
    (spared : forall old, old ∈ overwritten seq cmd world.sync ->
      isSnapshotCmd cmd = true ∨ Disposable world.history old.mark)
    (fresh : added.promised = true -> seq ≠ 0 ∧ textBytes payload < configSyncPayloadMax ∧
      queueFullFor seq cmd world.sync = false) :
    NoneLost library (step library world event) := by
  have history : (step library world event).history = world.history ++ [added] := by
    rw [issues.next]
  apply noneLost_of_kept library world event safe
  · intro held before holds found promised nonzero same after present continues
    rcases issue_keeps library issues linked spared held before holds found promised with
      stays | acked | newer
    · exact Or.inl (kept_of_holds library stays nonzero same continues)
    · exact Or.inr (Or.inl (continues.acked acked))
    · refine Or.inr (Or.inr ?_)
      rw [history]
      exact superseded_grow (Grows.refl _) continues newer
  · intro new found promised
    rw [history, List.getElem?_concat_length] at found
    cases found
    rcases fresh promised with ⟨nonzero, fits, room⟩
    exact issue_kept library issues linked nonzero fits room
  · rw [history]
    simp

/-- An acknowledgement that removes a message either confirms it or finds it
disposable. -/
theorem noneLost_ack (world : SyncWorld) (linked : LinkedWorld world)
    (safe : NoneLost library world) (nowMs : Int) (payload : String)
    (condition : KeepCondition library world (.handleAckJson nowMs payload)) :
    NoneLost library (step library world (.handleAckJson nowMs payload)) := by
  cases parsed : parseAck library payload with
  | none =>
      have same : step library world (.handleAckJson nowMs payload) = world := by
        simp only [step, handleAckJson, parsed]
      rw [same]
      exact safe
  | some ack =>
      have isNext : step library world (.handleAckJson nowMs payload) =
          ⟨(handleAck nowMs ack world.sync).state, world.history.map (Registration.note ack)⟩ := by
        simp only [step, handleAckJson, parsed]
      have register : isRegisterCmd ack.cmd = true := register_of_parseAck library parsed
      apply noneLost_of_kept library world _ safe
      · intro held before holds found promised nonzero same after present continues
        -- A message with the acknowledged seq and cmd belongs to a registration of that cmd.
        have named : held.seq = ack.seq -> held.cmd = ack.cmd -> before.namedBy ack = true := by
          intro sameSeq sameCmd
          rcases linked held holds with ⟨linkedTo, at', cmd, seq, -⟩
          rw [found] at at'
          cases at'
          have cmdOf : before.cmd = ack.cmd := eq_of_copied_cmd register (cmd.symm.trans sameCmd)
          simp only [Registration.namedBy, cmdOf, decide_true, Bool.true_and,
            List.contains_iff_mem]
          rw [← sameSeq]
          exact seq
        have afterNote : after = before.note ack := by
          rw [isNext, List.getElem?_map, found, Option.map_some] at present
          exact (Option.some.inj present).symm
        have confirmed : ack.ok = true -> before.namedBy ack = true -> after.acked = true := by
          intro positive isNamed
          rw [afterNote]
          simp only [Registration.note, positive, isNamed, Bool.and_self, Bool.or_true]
        rcases handleAck_keeps linked.queueStored
          linked.queueNonempty holds nonzero with stays | removed | ⟨positive, matched, active⟩
        · left
          have nextHolds : (step library world (.handleAckJson nowMs payload)).sync.Holds held := by
            rw [isNext]
            exact stays
          exact kept_of_holds library nextHolds nonzero same continues
        · rcases queuedMatch_spec removed with ⟨-, sameSeq, -, sameCmd⟩
          have cmdNonempty : ack.cmd ≠ "" := by
            intro empty
            rw [empty] at register
            cases register
          have isNamed := named sameSeq (sameCmd.resolve_left cmdNonempty)
          cases positive : ack.ok with
          | true => exact Or.inr (Or.inl (confirmed positive isNamed))
          | false =>
              rcases condition ack parsed positive held removed before found promised with
                acked | newer
              · exact Or.inr (Or.inl (continues.acked acked))
              · exact Or.inr (Or.inr
                  (superseded_grow (history_grows library world _) continues newer))
        · rcases fields_of_activeEntry active with ⟨heldSeq, heldCmd, -⟩
          rcases activeMatch_spec register matched with ⟨seq, cmd⟩
          exact Or.inr (Or.inl (confirmed positive (named (heldSeq.trans seq) (heldCmd.trans cmd))))
      · intro added found
        rw [isNext] at found
        simp at found
      · rw [isNext]
        simp

theorem noneLost_tick (world : SyncWorld) (linked : LinkedWorld world)
    (safe : NoneLost library world) (env : Surroundings)
    (condition : KeepCondition library world (.tick env)) :
    NoneLost library (step library world (.tick env)) := by
  have length : (step library world (.tick env)).history.length = world.history.length := by
    simp only [step]
    split <;> simp
  apply noneLost_of_kept library world _ safe
  · intro held before holds found promised nonzero same after present continues
    rcases step_tick_cases library world env with
      ⟨-, view, -⟩ | ⟨-, -, view, -⟩ | ⟨root, due, parsed, view, sent⟩
    · left
      have stays := promoteNextPending_keeps env.nowMs linked.queueStored
        linked.queueNonempty holds nonzero
      exact kept_of_holds library ((holds_congr view held).mpr stays) nonzero same continues
    · exact Or.inl
        (kept_of_holds library ((holds_congr view held).mpr holds) nonzero same continues)
    · rcases holds with active | queued
      · rcases fields_of_activeEntry active with ⟨-, -, heldPayload, heldMark⟩
        rcases condition due with disposable | ⟨freshNonzero, fits⟩
        · rw [← heldMark] at disposable
          rcases disposable before found promised with acked | newer
          · exact Or.inr (Or.inl (continues.acked acked))
          · exact Or.inr (Or.inr (superseded_grow (history_grows library world _) continues newer))
        · left
          have uncut : (retriedEntry library world.sync root).payload =
              retryText library world.sync root := copyText_of_fits (fits root parsed)
          have nonempty : copyText configSyncPayloadMax (retryText library world.sync root) ≠ "" :=
            copyText_ne_empty (retryText_ne_empty library parsed) (by decide)
          have nextActive : (step library world (.tick env)).sync.activeEntry =
              some (retriedEntry library world.sync root) := by
            rw [activeEntry_eq_view, view, PendingView.activeEntry]
            simp only [nonempty, freshNonzero, ne_eq, not_false_eq_true, decide_true,
              Bool.and_self, if_true]
            rfl
          refine ⟨retriedEntry library world.sync root, Or.inl nextActive, heldMark.symm,
            freshNonzero, ?_⟩
          rw [uncut, unstamped_retryText library parsed, ← heldPayload, same, continues.payload]
      · left
        have queues : (step library world (.tick env)).sync.queue = world.sync.queue :=
          congrArg PendingView.queue view
        have stays : (step library world (.tick env)).sync.Holds held := by
          rw [Holds, queues]
          exact Or.inr queued
        exact kept_of_holds library stays nonzero same continues
  · intro added found
    have outside := (List.getElem?_eq_some_iff.mp found).1
    rw [length] at outside
    exact absurd outside (Nat.lt_irrefl _)
  · rw [length]
    exact Nat.le_succ _

theorem noneLost_step (world : SyncWorld) (event : SyncEvent)
    (invariant : LinkedWorld world ∧ NoneLost library world)
    (condition : KeepCondition library world event) :
    LinkedWorld (step library world event) ∧ NoneLost library (step library world event) := by
  rcases invariant with ⟨linked, safe⟩
  refine ⟨linked_step library world event linked, ?_⟩
  cases event with
  | markSent env seq cmd payload portId =>
      rcases markSent_cases library world env seq cmd payload portId with
        ⟨-, same⟩ | ⟨version, added, issues, taken⟩
      · rw [same]
        exact safe
      · apply noneLost_issue library issues linked safe
        · intro old replaces
          exact (condition issues.nonempty (room_of_overwritten replaces)).2.imp_right
            (fun spared => spared old replaces)
        · intro promised
          rcases taken promised with ⟨nonzero, room⟩
          exact ⟨nonzero, (condition issues.nonempty room).1 nonzero, room⟩
  | publishLatestSnapshot env seq exported =>
      rcases publishLatestSnapshot_cases library world env seq exported with
        ⟨-, same⟩ | ⟨text, version, added, published, issues, taken⟩
      · rw [same]
        exact safe
      · apply noneLost_issue library issues linked safe (fun _ _ => Or.inl rfl)
        intro promised
        rcases condition text published (taken promised) with ⟨nonzero, room, fits⟩
        exact ⟨nonzero, fits, room⟩
  | handleAckJson nowMs payload =>
      exact noneLost_ack library world linked safe nowMs payload condition
  | tick env => exact noneLost_tick library world linked safe env condition
  | nextSeq => exact safe

/-! ## Whole runs -/

/-- Wherever the run has got to, every promised registration is active or
queued with its message unchanged but for seq and version, or acknowledged,
or replaced by a newer snapshot. -/
def NoRegistrationLost (events : List SyncEvent) : Prop :=
  forall before after, events = before ++ after ->
    forall mark registration, ((system library).run before).history[mark]? = some registration ->
      registration.promised = true ->
        (exists entry, ((system library).run before).sync.Holds entry ∧ entry.mark = mark ∧
          unstamped library entry.payload = unstamped library registration.payload) ∨
        registration.acked = true ∨
        superseded ((system library).run before).history mark registration = true

theorem noRegistrationLost_of_condition (events : List SyncEvent)
    (admissible : (system library).Admissible (KeepCondition library) events) :
    NoRegistrationLost library events := by
  intro before after split mark registration found promised
  subst split
  have initially : LinkedWorld initial ∧ NoneLost library initial := by
    refine ⟨linked_initial, ?_⟩
    intro mark registration impossible
    cases impossible
  have invariant := (system library).invariant_run initially (noneLost_step library)
    ((system library).admissible_initial admissible)
  rcases invariant.2 mark registration found promised with
    ⟨entry, holds, sameMark, -, same⟩ | settled
  · exact Or.inl ⟨entry, holds, sameMark, same⟩
  · exact Or.inr settled

/-- A connected board registers its gateway, and a device half a second later. -/
def twoRegistrations : List SyncEvent :=
  [.markSent (online 0) 1 "gateway_register" (registerText "gateway_register" 1) "port_001",
   .markSent (online 500) 2 "device_register" (registerText "device_register" 2) "port_001"]

/-- The gateway is registered at its second attempt, then the device is
refused and stays pending. -/
theorem noRegistrationLost_retried : NoRegistrationLost JsonC.jsonText (twoRegistrations ++
    [.tick (online 8000),
     .handleAckJson 8100 (ackText "gateway_register" 50001 0 true false),
     .handleAckJson 8200 (ackText "device_register" 2 0 false true)]) :=
  noRegistrationLost_of_condition JsonC.jsonText _ (by decide +kernel)

/-- The device is refused while it waits in the queue, and is gone. -/
theorem registration_lost_by_refusal : ¬ NoRegistrationLost JsonC.jsonText (twoRegistrations ++
    [.handleAckJson 600 (ackText "device_register" 2 0 false true)]) := by
  intro safe
  have device := safe _ [] (List.append_nil _).symm 1
    { cmd := "device_register"
      payload := registerText "device_register" 2
      sentUnder := [2], promised := true, stored := true, acked := false, refused := false }
    (by decide +kernel) rfl
  rcases device with ⟨entry, holds, mark, -⟩ | acked | newer
  · have held : ((system JsonC.jsonText).run (twoRegistrations ++
        [.handleAckJson 600 (ackText "device_register" 2 0 false true)])).sync.holdsMark 1 = true :=
      (holdsMark_iff _ _).mpr ⟨entry, holds, mark⟩
    revert held
    decide +kernel
  · cases acked
  · revert newer
    decide +kernel

end SyncWorld
end Board
end Imx6Gateway
