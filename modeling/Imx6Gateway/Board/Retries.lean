import Imx6Gateway.Board.SyncLedger

namespace Imx6Gateway
namespace Board

open Library

/-!
# When a registration is sent again

One flag says whether the active message may be retried, and every
acknowledgement that is not stale writes it.  The data centre sends positive
acknowledgements with `retryable` false, so the answer to a queued or finished
registration can stop the retries of the active one.  A retry also needs a
stored text that is a JSON object, which a cut text is not.
-/

namespace SyncWorld

open ConfigSync

variable (library : JsonC)

/-- A refusal for good of this registration has arrived. -/
def RefusedAt (history : List Registration) (mark : Nat) : Prop :=
  forall registration, registration ∈ history[mark]? -> registration.refused = true

instance refusedAtDecidable (history : List Registration) (mark : Nat) :
    Decidable (RefusedAt history mark) := by
  unfold RefusedAt
  infer_instance

/-- The text is a JSON object. -/
def Readable (text : String) : Prop :=
  exists root, root ∈ library.parse text ∧ root.isObj = true

instance readableDecidable (text : String) : Decidable (Readable library text) := by
  unfold Readable
  infer_instance

/-- The seq was never used for a registration. -/
def Unused (history : List Registration) (seq : UInt32) : Prop :=
  seq ≠ 0 ∧ forall registration, registration ∈ history -> seq ∉ registration.sentUnder

instance unusedDecidable (history : List Registration) (seq : UInt32) :
    Decidable (Unused history seq) := by
  unfold Unused
  infer_instance

/-- The steps after which the active registration is still retried. -/
def RetryCondition (world : SyncWorld) (event : SyncEvent) : Prop :=
  match event with
  | .markSent _ seq cmd payload _ =>
      payload ≠ "" -> seq ≠ 0 -> queueFullFor seq cmd world.sync = false ->
        Readable library payload ∧ textBytes payload < configSyncPayloadMax
  | .publishLatestSnapshot _ seq exported =>
      forall text, text ∈ latestSnapshotText library world.sync exported -> seq ≠ 0 ->
        queueFullFor seq "config_snapshot" world.sync = false ->
          Readable library text ∧ textBytes text < configSyncPayloadMax
  | .handleAckJson _ payload =>
      forall ack, ack ∈ parseAck library payload -> ack.retryable = false ->
        staleSnapshotAck ack world.sync = false ->
          forall active, active ∈ world.sync.activeEntry -> activeMatch ack world.sync = true ∨
            RefusedAt (world.history.map (Registration.note ack)) active.mark
  | .tick env =>
      retryDue env world.sync = true -> RefusedAt world.history world.sync.pendingMark ∨
        (Unused world.history (world.sync.syncSeq + 1) ∧
          forall root, root ∈ library.parse world.sync.pendingSnapshot ->
            textBytes (retryText library world.sync root) < configSyncPayloadMax)
  | .nextSeq => True

instance retryConditionDecidable (world : SyncWorld) :
    forall event, Decidable (RetryCondition library world event)
  | .markSent _ _ _ _ _ => inferInstanceAs (Decidable (_ -> _))
  | .publishLatestSnapshot _ _ _ => inferInstanceAs (Decidable (forall text, text ∈ _ -> _))
  | .handleAckJson _ _ => inferInstanceAs (Decidable (forall ack, ack ∈ _ -> _))
  | .tick _ => inferInstanceAs (Decidable (_ -> _))
  | .nextSeq => isTrue trivial

/-- Every held message that is not refused for good can be printed again. -/
def Sendable (world : SyncWorld) : Prop :=
  forall entry, world.sync.Holds entry -> entry.seq ≠ 0 ->
    forall registration, world.history[entry.mark]? = some registration ->
      registration.refused = false ->
        unstamped library entry.payload = unstamped library registration.payload ∧
          Readable library entry.payload

/-- The active message may be retried unless it was refused for good. -/
def Retryable (world : SyncWorld) : Prop :=
  forall active, world.sync.activeEntry = some active -> world.sync.retryable = true ∨
    RefusedAt world.history active.mark

/-- A tick, connected and at least eight seconds after the last send, sends
the active registration again under a seq that was never used. -/
def RetriesWhenDue (world : SyncWorld) (env : Surroundings) : Prop :=
  forall active registration, world.sync.activeEntry = some active ->
    world.history[active.mark]? = some registration -> registration.refused = false ->
    env.mqttConnected = true ->
    configSyncRetryIntervalMs ≤ env.nowMs - world.sync.lastSendTimeMs ->
      exists seq text info, Unused world.history seq ∧
        Effect.offlinePublishOrCache mqttGatewayRegisterTopic text info ∈
          (tick library env world.sync).effects ∧
        unstamped library text = unstamped library registration.payload ∧
        ((library.parse text).bind fun json => json.lookup "seq") = some (.int seq.toNat)

theorem refusedAt_grow {old new : List Registration} (grows : Grows old new) {mark : Nat}
    (inside : mark < old.length) (refused : RefusedAt old mark) : RefusedAt new mark := by
  intro after found
  rcases grows.previous found inside with ⟨before, present, continues⟩
  exact continues.refused (refused before present)

theorem Linked.inside {history : List Registration} {entry : Pending}
    (linked : Linked history entry) : entry.mark < history.length := by
  rcases linked with ⟨registration, found, -⟩
  exact (List.getElem?_eq_some_iff.mp found).1

theorem retriesWhenDue_of_invariant (world : SyncWorld) (env : Surroundings)
    (sendable : Sendable library world) (retryable : Retryable world)
    (condition : RetryCondition library world (.tick env)) :
    RetriesWhenDue library world env := by
  intro active registration isActive found open' connected late
  have notRefused : ¬ RefusedAt world.history active.mark := by
    intro refused
    rw [refused registration found] at open'
    cases open'
  have allowed : world.sync.retryable = true :=
    (retryable active isActive).resolve_right notRefused
  have hasActive : world.sync.hasActivePending = true := by
    by_contra idle
    rw [activeEntry, if_neg idle] at isActive
    cases isActive
  have due : retryDue env world.sync = true := by
    simp only [retryDue, hasActive, connected, allowed, late, decide_true, Bool.and_self]
  have nonzero : active.seq ≠ 0 := by
    rw [(fields_of_activeEntry isActive).1]
    simp only [hasActivePending, Bool.and_eq_true, decide_eq_true_eq] at hasActive
    exact hasActive.2
  rcases fields_of_activeEntry isActive with ⟨-, -, payload, mark⟩
  rcases sendable active (Or.inl isActive) nonzero registration found open' with
    ⟨same, root, parsed, isObj⟩
  rw [payload] at same parsed
  have unused : Unused world.history (world.sync.syncSeq + 1) := by
    rw [mark] at notRefused
    exact ((condition due).resolve_left notRefused).1
  rcases tick_cases library env world.sync with
    ⟨notDue, -⟩ | ⟨-, failed, -⟩ | ⟨sentRoot, info, shown, -, sentParsed, effects, -⟩
  · rw [due] at notDue
    cases notDue
  · rw [Option.mem_def.mp parsed] at failed
    cases failed
  · rw [Option.mem_def.mp parsed] at sentParsed
    cases sentParsed
    refine ⟨world.sync.syncSeq + 1, retryText library world.sync root, info, unused, ?_, ?_, ?_⟩
    · rw [effects]
      exact List.mem_cons_self
    · rw [unstamped_retryText library parsed]
      exact same
    · rw [parse_retryText library parsed, Option.bind_some]
      exact lookup_seq_restamp _ _ isObj

/-- An inherited registration of a held message is as printable as before. -/
theorem sendable_of_old {world : SyncWorld} {new : List Registration} {entry : Pending}
    {after : Registration} (linked : LinkedWorld world) (sendable : Sendable library world)
    (grows : Grows world.history new) (holds : world.sync.Holds entry) (nonzero : entry.seq ≠ 0)
    (found : new[entry.mark]? = some after) (open' : after.refused = false) :
    unstamped library entry.payload = unstamped library after.payload ∧
      Readable library entry.payload := by
  rcases grows.previous found (linked entry holds).inside with ⟨before, present, continues⟩
  have wasOpen : before.refused = false := by
    cases refused : before.refused with
    | false => rfl
    | true =>
        rw [continues.refused refused] at open'
        cases open'
  rw [continues.payload]
  exact sendable entry holds nonzero before present wasOpen

theorem retryable_of_old {world : SyncWorld} {new : List Registration} {active : Pending}
    (linked : LinkedWorld world) (retryable : Retryable world) (grows : Grows world.history new)
    (isActive : world.sync.activeEntry = some active) :
    world.sync.retryable = true ∨ RefusedAt new active.mark :=
  (retryable active isActive).imp_right
    (refusedAt_grow grows (linked active (Or.inl isActive)).inside)

/-- Issuing a message that is printable, if it is stored at all. -/
theorem sendable_issue {world : SyncWorld} {event : SyncEvent} {env : Surroundings} {seq : UInt32}
    {cmd payload portId : String} {version : UInt32} {added : Registration}
    (issues : Issues library world event env seq cmd payload portId version added)
    (linked : LinkedWorld world) (sendable : Sendable library world)
    (printable : seq ≠ 0 -> queueFullFor seq cmd world.sync = false ->
      Readable library payload ∧ textBytes payload < configSyncPayloadMax) :
    Sendable library (step library world event) := by
  rw [issues.next]
  intro held holds nonzero registration found open'
  have queueStored : ConfigSync.QueueStored { world.sync with configVersion := version } :=
    linked.queueStored
  have stored := (holds_congr (view_announceSyncing env.mqttConnected _) held).mp holds
  have old : world.sync.Holds held ->
      unstamped library held.payload = unstamped library registration.payload ∧
        Readable library held.payload := fun oldHolds =>
    sendable_of_old library linked sendable (grows_append _ _) oldHolds nonzero found open'
  cases room : queueFullFor seq cmd world.sync with
  | true =>
      have unchanged := @storePending_of_full env.nowMs (world.newEntry seq cmd payload portId) _
        queueStored room
      rw [unchanged] at stored
      exact old stored
  | false =>
      rcases holds_storePending queueStored stored with new | oldHolds
      · subst new
        rcases printable nonzero room with ⟨readable, fits⟩
        have uncut : (world.newEntry seq cmd payload portId).stored.payload = payload :=
          copyText_of_fits fits
        have sameRegistration : registration = added := by
          have atEnd : (world.newEntry seq cmd payload portId).stored.mark =
              world.history.length := rfl
          rw [atEnd, List.getElem?_concat_length] at found
          exact (Option.some.inj found).symm
        rw [uncut, sameRegistration, issues.payload]
        exact ⟨rfl, readable⟩
      · exact old oldHolds

theorem retryable_issue {world : SyncWorld} {event : SyncEvent} {env : Surroundings} {seq : UInt32}
    {cmd payload portId : String} {version : UInt32} {added : Registration}
    (issues : Issues library world event env seq cmd payload portId version added)
    (linked : LinkedWorld world) (retryable : Retryable world) :
    Retryable (step library world event) := by
  rw [issues.next]
  intro active isActive
  have queueStored : ConfigSync.QueueStored { world.sync with configVersion := version } :=
    linked.queueStored
  have storedActive := (activeEntry_congr (view_announceSyncing env.mqttConnected _)).symm.trans
    isActive
  rcases storePending_active queueStored with again | ⟨sameFlag, sameActive⟩
  · exact Or.inl again
  · rw [sameActive] at storedActive
    rcases retryable_of_old linked retryable (grows_append world.history added) storedActive with
      allowed | refused
    · exact Or.inl (sameFlag.trans allowed)
    · exact Or.inr refused

/-- A negative acknowledgement of the active message refuses it for good. -/
theorem refusedAt_note {world : SyncWorld} {ack : Ack} {active : Pending}
    (linked : LinkedWorld world) (isActive : world.sync.activeEntry = some active)
    (register : isRegisterCmd ack.cmd = true) (matched : activeMatch ack world.sync = true)
    (negative : ack.ok = false) (final : ack.retryable = false) :
    RefusedAt (world.history.map (Registration.note ack)) active.mark := by
  intro after found
  rcases linked active (Or.inl isActive) with ⟨registration, present, cmd, seq, -⟩
  rw [Option.mem_def, List.getElem?_map, present, Option.map_some] at found
  cases found
  rcases fields_of_activeEntry isActive with ⟨activeSeq, activeCmd, -⟩
  rcases activeMatch_spec register matched with ⟨sameSeq, sameCmd⟩
  have cmdOf : registration.cmd = ack.cmd :=
    eq_of_copied_cmd register (cmd.symm.trans (activeCmd.trans sameCmd))
  rw [activeSeq, sameSeq] at seq
  simp [Registration.note, Registration.namedBy, negative, final, cmdOf, seq]

theorem retryable_ack (world : SyncWorld) (linked : LinkedWorld world)
    (retryable : Retryable world) (nowMs : Int) (ack : Ack)
    (register : isRegisterCmd ack.cmd = true)
    (condition : ack.retryable = false -> staleSnapshotAck ack world.sync = false ->
      forall active, active ∈ world.sync.activeEntry -> activeMatch ack world.sync = true ∨
        RefusedAt (world.history.map (Registration.note ack)) active.mark) :
    Retryable ⟨(handleAck nowMs ack world.sync).state,
      world.history.map (Registration.note ack)⟩ := by
  have grows := grows_map world.history (Registration.note ack) (Registration.continues_note ack)
  have view := view_handleAck nowMs ack world.sync
  intro active isActive
  cases stale : staleSnapshotAck ack world.sync with
  | true =>
      rw [stale, if_pos rfl] at view
      have flag : (handleAck nowMs ack world.sync).state.retryable = world.sync.retryable :=
        congrArg PendingView.retryable view
      rw [flag]
      exact retryable_of_old linked retryable grows ((activeEntry_congr view).symm.trans isActive)
  | false =>
      rw [stale, if_neg Bool.false_ne_true] at view
      have flag : (handleAck nowMs ack world.sync).state.retryable =
          (settled nowMs ack world.sync).retryable := congrArg PendingView.retryable view
      have settledActive := (activeEntry_congr view).symm.trans isActive
      rw [flag]
      -- Where the active message is the old one, the flag is the acknowledgement's.
      have sameActive : (ack.ok = true -> activeMatch ack world.sync = false) ->
          world.sync.activeEntry = some active ->
            (noted ack world.sync).retryable = true ∨
              RefusedAt (world.history.map (Registration.note ack)) active.mark := by
        intro notConfirmed wasActive
        cases final : ack.retryable with
        | true => exact Or.inl final
        | false =>
            rcases condition final stale active wasActive with matched | refused
            · cases negative : ack.ok with
              | true =>
                  rw [notConfirmed negative] at matched
                  cases matched
              | false =>
                  exact Or.inr (refusedAt_note linked wasActive register matched negative final)
            · exact Or.inr refused
      unfold settled at settledActive ⊢
      split at settledActive
      · split at settledActive
        · rename_i positive matched
          rw [if_pos positive, if_pos matched]
          rcases promoteNextPending_retryable with same | again
          · rw [same] at settledActive
            cases settledActive
          · exact Or.inl again
        · rename_i positive unmatched
          rw [Bool.not_eq_true] at unmatched
          rw [if_pos positive, if_neg (by rw [unmatched]; exact Bool.false_ne_true)]
          split at settledActive
          · rename_i snapshot
            rw [if_pos snapshot]
            rcases promoteNextPending_retryable with same | again
            · rw [same, activeEntry_noted] at settledActive
              rw [same]
              exact sameActive (fun _ => unmatched) settledActive
            · exact Or.inl again
          · rename_i ordinary
            rw [if_neg ordinary]
            rw [activeEntry_noted] at settledActive
            exact sameActive (fun _ => unmatched) settledActive
      · rename_i negative
        rw [if_neg negative]
        rw [activeEntry_noted] at settledActive
        exact sameActive (fun positive => absurd positive negative) settledActive

theorem sendable_tick (world : SyncWorld) (linked : LinkedWorld world)
    (sendable : Sendable library world) (env : Surroundings)
    (condition : RetryCondition library world (.tick env)) :
    Sendable library (step library world (.tick env)) := by
  have grows := history_grows library world (.tick env)
  intro held holds nonzero registration found open'
  rcases step_tick_cases library world env with
    ⟨-, view, -⟩ | ⟨-, -, view, -⟩ | ⟨root, due, parsed, view, sent⟩
  · exact sendable_of_old library linked sendable grows
      (holds_promoteNextPending linked.queueStored ((holds_congr view held).mp holds)) nonzero
      found open'
  · exact sendable_of_old library linked sendable grows ((holds_congr view held).mp holds) nonzero
      found open'
  · rcases holds_retried library view holds with retried | queued
    · subst retried
      have isActive := activeEntry_of_due due
      have activeNonzero : world.sync.pendingSeq ≠ 0 := by
        simp only [retryDue, hasActivePending, Bool.and_eq_true, decide_eq_true_eq] at due
        exact due.1.1.1.2
      have old := sendable_of_old library linked sendable grows (Or.inl isActive) activeNonzero
        found open'
      rcases grows.previous found (linked _ (Or.inl isActive)).inside with
        ⟨before, present, continues⟩
      have fits := (condition due).resolve_left (fun refused => by
        rw [continues.refused (refused before present)] at open'
        cases open')
      have uncut : (retriedEntry library world.sync root).payload =
          retryText library world.sync root := copyText_of_fits (fits.2 root parsed)
      rcases old.2 with ⟨oldRoot, oldParsed, isObj⟩
      simp only at oldParsed
      rw [Option.mem_def.mp oldParsed] at parsed
      cases parsed
      rw [uncut, unstamped_retryText library oldParsed]
      refine ⟨old.1, _, parse_retryText library oldParsed, ?_⟩
      rw [isObj_restamp]
      exact isObj
    · exact sendable_of_old library linked sendable grows (Or.inr queued) nonzero found open'

theorem retryable_tick (world : SyncWorld) (linked : LinkedWorld world)
    (retryable : Retryable world) (env : Surroundings) :
    Retryable (step library world (.tick env)) := by
  have grows := history_grows library world (.tick env)
  intro active isActive
  rcases step_tick_cases library world env with
    ⟨-, view, -⟩ | ⟨-, -, view, -⟩ | ⟨root, due, parsed, view, sent⟩
  · have flag : (step library world (.tick env)).sync.retryable =
        (promoteNextPending env.nowMs world.sync).retryable := congrArg PendingView.retryable view
    have promotedActive := (activeEntry_congr view).symm.trans isActive
    rw [flag]
    rcases promoteNextPending_retryable with same | again
    · rw [same] at promotedActive ⊢
      exact retryable_of_old linked retryable grows promotedActive
    · exact Or.inl again
  · have flag : (step library world (.tick env)).sync.retryable = world.sync.retryable :=
      congrArg PendingView.retryable view
    rw [flag]
    exact retryable_of_old linked retryable grows ((activeEntry_congr view).symm.trans isActive)
  · left
    have flag : (step library world (.tick env)).sync.retryable = world.sync.retryable :=
      congrArg PendingView.retryable view
    simp only [retryDue, Bool.and_eq_true] at due
    exact flag.trans due.1.2

/-- The invariant behind the retries. -/
structure RetryInvariant (world : SyncWorld) : Prop where
  linked : LinkedWorld world
  sendable : Sendable library world
  retryable : Retryable world

theorem retryInvariant_step (world : SyncWorld) (event : SyncEvent)
    (invariant : RetryInvariant library world) (condition : RetryCondition library world event) :
    RetryInvariant library (step library world event) := by
  rcases invariant with ⟨linked, sendable, retryable⟩
  refine ⟨linked_step library world event linked, ?_, ?_⟩
  · cases event with
    | markSent env seq cmd payload portId =>
        rcases markSent_cases library world env seq cmd payload portId with
          ⟨-, same⟩ | ⟨version, added, issues, -⟩
        · rw [same]
          exact sendable
        · exact sendable_issue library issues linked sendable (condition issues.nonempty)
    | publishLatestSnapshot env seq exported =>
        rcases publishLatestSnapshot_cases library world env seq exported with
          ⟨-, same⟩ | ⟨text, version, added, published, issues, -⟩
        · rw [same]
          exact sendable
        · exact sendable_issue library issues linked sendable (condition text published)
    | handleAckJson nowMs payload =>
        have grows := history_grows library world (.handleAckJson nowMs payload)
        intro held holds nonzero registration found open'
        simp only [step, handleAckJson] at holds
        split at holds
        · exact sendable_of_old library linked sendable grows holds nonzero found open'
        · exact sendable_of_old library linked sendable grows
            (holds_handleAck linked.queueStored holds) nonzero found open'
    | tick env => exact sendable_tick library world linked sendable env condition
    | nextSeq => exact sendable
  · cases event with
    | markSent env seq cmd payload portId =>
        rcases markSent_cases library world env seq cmd payload portId with
          ⟨-, same⟩ | ⟨version, added, issues, -⟩
        · rw [same]
          exact retryable
        · exact retryable_issue library issues linked retryable
    | publishLatestSnapshot env seq exported =>
        rcases publishLatestSnapshot_cases library world env seq exported with
          ⟨-, same⟩ | ⟨text, version, added, -, issues, -⟩
        · rw [same]
          exact retryable
        · exact retryable_issue library issues linked retryable
    | handleAckJson nowMs payload =>
        cases parsed : parseAck library payload with
        | none =>
            simp only [step, handleAckJson, parsed]
            exact retryable
        | some ack =>
            simp only [step, handleAckJson, parsed]
            exact retryable_ack world linked retryable nowMs ack
              (register_of_parseAck library parsed) (condition ack parsed)
    | tick env => exact retryable_tick library world linked retryable env
    | nextSeq => exact retryable

/-! ## Whole runs -/

/-- Every tick of the run that is due sends the active registration again. -/
def RetriesNeverStop (events : List SyncEvent) : Prop :=
  forall before env after, events = before ++ SyncEvent.tick env :: after ->
    RetriesWhenDue library ((system library).run before) env

theorem retriesNeverStop_of_condition (events : List SyncEvent)
    (admissible : (system library).Admissible (RetryCondition library) events) :
    RetriesNeverStop library events := by
  intro before env after split
  subst split
  have initially : RetryInvariant library initial := by
    refine ⟨linked_initial, ?_, ?_⟩
    · intro entry holds nonzero registration impossible
      cases impossible
    · intro active impossible
      cases impossible
  have invariant := (system library).invariant_run initially (retryInvariant_step library)
    ((system library).admissible_initial admissible)
  exact retriesWhenDue_of_invariant library _ env invariant.sendable invariant.retryable
    ((system library).admissible_step admissible)

/-- A gateway registration is active while a snapshot waits in the queue. -/
def activeAndQueued : List SyncEvent :=
  [.markSent (online 0) 1 "gateway_register" (registerText "gateway_register" 1) "port_001",
   .publishLatestSnapshot (online 500) 2 (some (registerText "config_snapshot" 2))]

/-- The active registration is answered, the queued one is promoted and then
retried although its refusal asked for a retry. -/
theorem retriesNeverStop_promoted : RetriesNeverStop JsonC.jsonText (activeAndQueued ++
    [.handleAckJson 600 (ackText "gateway_register" 1 0 true false),
     .handleAckJson 700 (ackText "config_snapshot" 2 1 false true),
     .tick (online 8600)]) :=
  retriesNeverStop_of_condition JsonC.jsonText _ (by decide +kernel)

/-- The queued snapshot is confirmed; the active registration is never sent
again. -/
theorem retries_stopped_by_queued_answer : ¬ RetriesNeverStop JsonC.jsonText (activeAndQueued ++
    [.handleAckJson 600 (ackText "config_snapshot" 2 1 true false), .tick (online 9000)]) := by
  have run : ((system JsonC.jsonText).run (activeAndQueued ++
        [.handleAckJson 600 (ackText "config_snapshot" 2 1 true false)])).sync.activeEntry =
          some { seq := 1, cmd := "gateway_register", portId := "port_001",
                 payload := registerText "gateway_register" 1, mark := 0 } ∧
      ((system JsonC.jsonText).run (activeAndQueued ++
        [.handleAckJson 600 (ackText "config_snapshot" 2 1 true false)])).history[0]? =
          some { cmd := "gateway_register", payload := registerText "gateway_register" 1,
                 sentUnder := [1], promised := true, stored := true, acked := false,
                 refused := false } ∧
      configSyncRetryIntervalMs ≤ (online 9000).nowMs - ((system JsonC.jsonText).run
        (activeAndQueued ++ [.handleAckJson 600
          (ackText "config_snapshot" 2 1 true false)])).sync.lastSendTimeMs ∧
      (tick JsonC.jsonText (online 9000) ((system JsonC.jsonText).run (activeAndQueued ++
        [.handleAckJson 600 (ackText "config_snapshot" 2 1 true false)])).sync).effects.isEmpty =
          true := by
    decide +kernel
  rcases run with ⟨active, registered, due, silent⟩
  intro retries
  rcases retries _ (online 9000) [] rfl _ _ active registered rfl rfl due with
    ⟨seq, text, info, -, sent, -⟩
  exact List.not_mem_nil (List.isEmpty_iff.mp silent ▸ sent)

end SyncWorld
end Board
end Imx6Gateway
