import Imx6Gateway.Board.SyncHistory

namespace Imx6Gateway
namespace Board

open Library

/-!
# The telemetry gate

The gate compares the current configuration version with the version the last
positive snapshot acknowledgement spoke of.  Its three fields form the view
`gate`; each operation has one lemma saying what it does to that view.

An acknowledgement is tied to a snapshot only through its seq, and the module
drops only some acknowledgements of foreign seqs.  The condition of the run
theorem names the steps for which the comparison of versions is not evidence
about the latest snapshot.
-/

namespace ConfigSync

/-- The fields the gate is computed from. -/
def gate (state : ConfigSync) : UInt32 × UInt32 × Bool :=
  (state.configVersion, state.lastAckedConfigVersion, state.lastAckedSnapshot)

theorem telemetryAllowed_eq_gate (state : ConfigSync) :
    state.telemetryAllowed =
      (state.gate.2.1 > 0 && state.gate.2.1 = state.gate.1 && state.gate.2.2) := rfl

theorem telemetryAllowed_congr {first second : ConfigSync} (same : first.gate = second.gate) :
    first.telemetryAllowed = second.telemetryAllowed := by
  rw [telemetryAllowed_eq_gate, telemetryAllowed_eq_gate, same]

@[simp]
theorem gate_setActivePending (nowMs : Int) (entry : Pending) (state : ConfigSync) :
    (setActivePending nowMs entry state).gate = state.gate := rfl

@[simp]
theorem gate_clearActive (state : ConfigSync) : state.clearActive.gate = state.gate := rfl

@[simp]
theorem gate_announceSyncing (connected : Bool) (state : ConfigSync) :
    (announceSyncing connected state).gate = state.gate := rfl

@[simp]
theorem gate_announceAcked (done : String) (state : ConfigSync) :
    (announceAcked done state).gate = state.gate := by
  unfold announceAcked
  split <;> rfl

@[simp]
theorem gate_enqueuePending (entry : Pending) (state : ConfigSync) :
    (enqueuePending entry state).2.gate = state.gate := by
  unfold enqueuePending
  split
  · rfl
  · split <;> rfl

@[simp]
theorem gate_storePending (nowMs : Int) (entry : Pending) (state : ConfigSync) :
    (storePending nowMs entry state).2.gate = state.gate := by
  unfold storePending
  split
  · exact gate_setActivePending nowMs entry state
  · exact gate_enqueuePending entry state

@[simp]
theorem gate_promoteNextPending (nowMs : Int) (state : ConfigSync) :
    (promoteNextPending nowMs state).gate = state.gate := by
  unfold promoteNextPending
  split
  · rfl
  · split <;> rfl

@[simp]
theorem gate_matchQueued (ack : Ack) (state : ConfigSync) :
    (matchQueued ack state).2.gate = state.gate := by
  unfold matchQueued removeQueuedPending
  split
  · split <;> rfl
  · rfl

@[simp]
theorem gate_sendPending (library : JsonC) (env : Surroundings) (seq : UInt32)
    (state : ConfigSync) : (sendPending library env seq state).state.gate = state.gate := by
  unfold sendPending
  split
  · rfl
  · split <;> rfl

/-- The version an issuing call leaves behind. -/
def issuedVersion (cmd : String) (state : ConfigSync) : UInt32 :=
  versionAtLeastOne (if isSnapshotCmd cmd then state.configVersion + 1 else state.configVersion)

theorem gate_markSent (env : Surroundings) (entry : Pending) (state : ConfigSync)
    (nonempty : entry.payload ≠ "") :
    (markSent env entry state).state.gate =
      (issuedVersion entry.cmd state, state.lastAckedConfigVersion, state.lastAckedSnapshot) := by
  rw [markSent, if_neg nonempty]
  simp only [gate_announceSyncing, gate_storePending]
  rfl

theorem gate_publishLatestSnapshot (library : JsonC) (env : Surroundings) (seq : UInt32)
    (exported : Option String) (mark : Nat) (state : ConfigSync) :
    (publishLatestSnapshot library env seq exported mark state).state.gate =
      if (exported.bind library.parse).isSome then
        (issuedVersion "config_snapshot" state, state.lastAckedConfigVersion,
          state.lastAckedSnapshot)
      else state.gate := by
  unfold publishLatestSnapshot
  split
  · rename_i failed
    rw [failed]
    rfl
  · rename_i root parsed
    rw [parsed]
    simp only [gate_announceSyncing, gate_storePending, Option.isSome_some, if_true]
    rfl

theorem gate_tick (library : JsonC) (env : Surroundings) (state : ConfigSync) :
    (tick library env state).state.gate = state.gate := by
  rw [← gate_promoteNextPending env.nowMs state]
  unfold tick
  dsimp only
  split
  · rfl
  split
  · split <;> rfl
  split
  · rfl
  split
  · rfl
  split
  · split <;> rfl
  rw [gate_sendPending, announceRetry]
  split <;> rfl

theorem gate_applyPositive (nowMs : Int) (ack : Ack) (matched : Bool) (state : ConfigSync) :
    (applyPositive nowMs ack matched state).gate =
      if isSnapshotCmd ack.cmd then
        (state.configVersion,
          if ack.configVersion > 0 then ack.configVersion else state.configVersion, true)
      else state.gate := by
  unfold applyPositive
  dsimp only
  split
  · rw [gate_announceAcked, gate_promoteNextPending]
    cases matched <;> rfl
  · split
    · rw [gate_announceAcked, gate_promoteNextPending]
      rfl
    · rw [gate_announceAcked]
      rfl

/-- The acknowledgement gets past the guard and confirms some snapshot. -/
def confirmsSnapshot (ack : Ack) (state : ConfigSync) : Bool :=
  ack.ok && isSnapshotCmd ack.cmd && !staleSnapshotAck ack state

/-- The version a positive snapshot acknowledgement is taken to speak of. -/
def spokenVersion (ack : Ack) (state : ConfigSync) : UInt32 :=
  if ack.configVersion > 0 then ack.configVersion else state.configVersion

theorem gate_handleAck (nowMs : Int) (ack : Ack) (state : ConfigSync) :
    (handleAck nowMs ack state).state.gate =
      if confirmsSnapshot ack state then
        (state.configVersion, spokenVersion ack state, true)
      else state.gate := by
  have queueOnly := gate_matchQueued ack state
  have sameVersion : (matchQueued ack state).2.configVersion = state.configVersion :=
    congrArg Prod.fst queueOnly
  unfold handleAck confirmsSnapshot spokenVersion
  dsimp only
  cases stale : staleSnapshotAck ack state with
  | true => simp
  | false =>
      cases positive : ack.ok with
      | false =>
          simp only [Bool.false_eq_true, if_false, Bool.false_and]
          exact queueOnly
      | true =>
          simp only [Bool.false_eq_true, if_false, if_true, gate_applyPositive, sameVersion,
            Bool.true_and, Bool.not_false, Bool.and_true]
          split
          · rfl
          · rw [← sameVersion]
            exact queueOnly

end ConfigSync

namespace SyncWorld

open ConfigSync

/-- The registration of the snapshot issued last. -/
def latestSnapshot : List Registration -> Option Registration
  | [] => none
  | head :: tail =>
      match latestSnapshot tail with
      | some later => some later
      | none => if isSnapshotCmd head.cmd then some head else none

/-- A positive acknowledgement of the latest snapshot, under a seq it was sent
with, has arrived since it was issued. -/
def SnapshotConfirmed (history : List Registration) : Prop :=
  exists latest, latestSnapshot history = some latest ∧ latest.acked = true

instance snapshotConfirmedDecidable (history : List Registration) :
    Decidable (SnapshotConfirmed history) :=
  match found : latestSnapshot history with
  | none => isFalse (by rintro ⟨latest, present, -⟩; rw [found] at present; cases present)
  | some latest =>
      if confirmed : latest.acked = true then isTrue ⟨latest, found, confirmed⟩
      else isFalse (by
        rintro ⟨other, present, acked⟩
        rw [found] at present
        cases present
        exact confirmed acked)

theorem latestSnapshot_append (history : List Registration) (added : Registration) :
    latestSnapshot (history ++ [added]) =
      if isSnapshotCmd added.cmd then some added else latestSnapshot history := by
  induction history with
  | nil =>
      simp only [List.nil_append, latestSnapshot]
  | cons head tail ih =>
      rw [List.cons_append, latestSnapshot, ih]
      cases snapshot : isSnapshotCmd added.cmd with
      | true => rfl
      | false => rfl

theorem latestSnapshot_map (change : Registration -> Registration)
    (keepsCmd : forall registration, (change registration).cmd = registration.cmd)
    (history : List Registration) :
    latestSnapshot (history.map change) = (latestSnapshot history).map change := by
  induction history with
  | nil => rfl
  | cons head tail ih =>
      rw [List.map_cons, latestSnapshot, ih, latestSnapshot, keepsCmd]
      cases latestSnapshot tail with
      | some later => rfl
      | none =>
          simp only [Option.map_none]
          split <;> rfl

theorem snapshotConfirmed_modify (change : Registration -> Registration)
    (keepsCmd : forall registration, (change registration).cmd = registration.cmd)
    (keepsAcked : forall registration, (change registration).acked = registration.acked)
    (history : List Registration) (index : Nat) :
    SnapshotConfirmed (history.modify index change) ↔ SnapshotConfirmed history := by
  have view : (latestSnapshot (history.modify index change)).map Registration.acked =
      (latestSnapshot history).map Registration.acked := by
    induction history generalizing index with
    | nil => cases index <;> rfl
    | cons head tail ih =>
        cases index with
        | zero =>
            rw [List.modify_zero_cons, latestSnapshot, latestSnapshot, keepsCmd]
            cases latestSnapshot tail with
            | some later => rfl
            | none =>
                simp only
                split
                · simp only [Option.map_some, keepsAcked]
                · rfl
        | succ index =>
            rw [List.modify_succ_cons, latestSnapshot, latestSnapshot]
            have inner := ih index
            cases found : latestSnapshot tail <;>
              cases changed : latestSnapshot (tail.modify index change) <;>
                simp_all
  have unfolded : forall registrations, SnapshotConfirmed registrations ↔
      (latestSnapshot registrations).map Registration.acked = some true := by
    intro registrations
    rw [Option.map_eq_some_iff]
    exact Iff.rfl
  rw [unfolded, unfolded, view]

theorem snapshotConfirmed_note (ack : Ack) (history : List Registration)
    (confirmed : SnapshotConfirmed history) :
    SnapshotConfirmed (history.map (Registration.note ack)) := by
  rcases confirmed with ⟨latest, present, acked⟩
  refine ⟨latest.note ack, ?_, ?_⟩
  · rw [latestSnapshot_map (Registration.note ack) (fun _ => rfl), present, Option.map_some]
  · simp only [Registration.note, acked, Bool.true_or]

theorem snapshotConfirmed_of_named (ack : Ack) (history : List Registration)
    {latest : Registration} (present : latestSnapshot history = some latest)
    (positive : ack.ok = true) (named : latest.namedBy ack = true) :
    SnapshotConfirmed (history.map (Registration.note ack)) := by
  refine ⟨latest.note ack, ?_, ?_⟩
  · rw [latestSnapshot_map (Registration.note ack) (fun _ => rfl), present, Option.map_some]
  · simp only [Registration.note, positive, named, Bool.and_self, Bool.or_true]

variable (library : JsonC)

/-- The event issues a new configuration snapshot. -/
def IssuesSnapshot (world : SyncWorld) : SyncEvent -> Prop
  | .markSent _ _ cmd payload _ => payload ≠ "" ∧ isSnapshotCmd cmd = true
  | .publishLatestSnapshot _ _ exported =>
      latestSnapshotText library world.sync exported ≠ none
  | _ => False

/-- The version the event leaves behind. -/
def versionAfter (world : SyncWorld) : SyncEvent -> UInt32
  | .markSent _ _ cmd payload _ =>
      if payload = "" then world.sync.configVersion else issuedVersion cmd world.sync
  | .publishLatestSnapshot _ _ exported =>
      if (exported.bind library.parse).isSome then issuedVersion "config_snapshot" world.sync
      else world.sync.configVersion
  | _ => world.sync.configVersion

/-- The steps on which the gate can be trusted.  An acknowledgement that is
taken to speak of the current version must belong to the latest snapshot,
unless that one is confirmed already; one that speaks of another version must
not meet an open gate.  No call may move the version onto one that was
acknowledged before it existed. -/
def GateCondition (world : SyncWorld) (event : SyncEvent) : Prop :=
  match event with
  | .handleAckJson _ payload =>
      forall ack, ack ∈ parseAck library payload -> confirmsSnapshot ack world.sync = true ->
        (spokenVersion ack world.sync = world.sync.configVersion -> world.sync.configVersion ≠ 0 ->
          SnapshotConfirmed world.history ∨
          exists latest, latest ∈ latestSnapshot world.history ∧ latest.namedBy ack = true) ∧
        (spokenVersion ack world.sync ≠ world.sync.configVersion ->
          world.sync.telemetryAllowed = false)
  | _ =>
      versionAfter library world event ≠ world.sync.configVersion ->
        world.sync.lastAckedSnapshot = true ->
          world.sync.lastAckedConfigVersion ≠ versionAfter library world event

instance gateConditionDecidable (world : SyncWorld) :
    forall event, Decidable (GateCondition library world event)
  | .handleAckJson _ _ => inferInstanceAs (Decidable (forall ack, ack ∈ _ -> _))
  | .markSent _ _ _ _ _ | .publishLatestSnapshot _ _ _ | .tick _ | .nextSeq =>
      inferInstanceAs (Decidable (_ -> _))

/-- Telemetry is allowed only after the latest snapshot was confirmed. -/
def GateSound (world : SyncWorld) : Prop :=
  world.sync.telemetryAllowed = true -> SnapshotConfirmed world.history

/-- The event does not close an open gate unless it issues a snapshot. -/
def GateStaysOpen (world : SyncWorld) (event : SyncEvent) : Prop :=
  ¬ IssuesSnapshot library world event -> world.sync.telemetryAllowed = true ->
    (step library world event).sync.telemetryAllowed = true

theorem gate_step (world : SyncWorld) (event : SyncEvent)
    (noAck : forall nowMs payload, event ≠ .handleAckJson nowMs payload) :
    (step library world event).sync.gate =
      (versionAfter library world event, world.sync.lastAckedConfigVersion,
        world.sync.lastAckedSnapshot) := by
  cases event with
  | markSent env seq cmd payload portId =>
      by_cases blank : payload = ""
      · simp only [step, versionAfter, blank, if_true, markSent, newEntry]
        rfl
      · rw [versionAfter, if_neg blank]
        exact gate_markSent env _ world.sync blank
  | publishLatestSnapshot env seq exported =>
      simp only [step, gate_publishLatestSnapshot, versionAfter]
      split <;> rfl
  | handleAckJson nowMs payload => exact absurd rfl (noAck nowMs payload)
  | tick env => exact gate_tick library env world.sync
  | nextSeq => rfl

theorem gate_step_ack (world : SyncWorld) (nowMs : Int) (payload : String) :
    (step library world (.handleAckJson nowMs payload)).sync.gate =
      match parseAck library payload with
      | none => world.sync.gate
      | some ack =>
          if confirmsSnapshot ack world.sync then
            (world.sync.configVersion, spokenVersion ack world.sync, true)
          else world.sync.gate := by
  simp only [step, handleAckJson]
  cases parseAck library payload with
  | none => rfl
  | some ack => exact gate_handleAck nowMs ack world.sync

/-- A step that is not an acknowledgement and keeps the version keeps the gate. -/
theorem telemetryAllowed_step (world : SyncWorld) (event : SyncEvent)
    (noAck : forall nowMs payload, event ≠ .handleAckJson nowMs payload)
    (sameVersion : versionAfter library world event = world.sync.configVersion) :
    (step library world event).sync.telemetryAllowed = world.sync.telemetryAllowed := by
  apply telemetryAllowed_congr
  rw [gate_step library world event noAck, sameVersion]
  rfl

/-- Issuing a snapshot closes the gate when the new version was never
acknowledged. -/
theorem telemetryAllowed_step_of_ne (world : SyncWorld) (event : SyncEvent)
    (noAck : forall nowMs payload, event ≠ .handleAckJson nowMs payload)
    (unseen : world.sync.lastAckedSnapshot = true ->
      world.sync.lastAckedConfigVersion ≠ versionAfter library world event) :
    (step library world event).sync.telemetryAllowed = false := by
  rw [telemetryAllowed_eq_gate, gate_step library world event noAck]
  cases flag : world.sync.lastAckedSnapshot with
  | false => simp only [Bool.and_false]
  | true => simp [unseen flag]

theorem versionAtLeastOne_ne_zero (version : UInt32) : versionAtLeastOne version ≠ 0 := by
  unfold versionAtLeastOne
  split
  · decide
  · assumption

theorem issuedVersion_ne (cmd : String) (state : ConfigSync) (snapshot : isSnapshotCmd cmd = true) :
    issuedVersion cmd state ≠ state.configVersion := by
  rw [issuedVersion, if_pos snapshot]
  intro same
  have nonzero := versionAtLeastOne_ne_zero (state.configVersion + 1)
  unfold versionAtLeastOne at same nonzero
  split at same
  · rename_i wrapped
    rw [← same] at wrapped
    exact absurd wrapped (by decide)
  · have shifted : state.configVersion + 1 = state.configVersion + 0 := by
      rw [same, UInt32.add_zero]
    exact absurd (UInt32.add_right_inj state.configVersion |>.mp shifted) (by decide)

/-- A call that issues a snapshot changes the version. -/
theorem versionAfter_ne_of_issues (world : SyncWorld) (event : SyncEvent)
    (issues : IssuesSnapshot library world event) :
    versionAfter library world event ≠ world.sync.configVersion := by
  cases event with
  | markSent env seq cmd payload portId =>
      rw [versionAfter, if_neg issues.1]
      exact issuedVersion_ne cmd world.sync issues.2
  | publishLatestSnapshot env seq exported =>
      have parsed : (exported.bind library.parse).isSome = true := by
        cases found : exported.bind library.parse with
        | none => exact absurd (by rw [latestSnapshotText, found]; rfl) issues
        | some root => rfl
      rw [versionAfter, if_pos parsed]
      exact issuedVersion_ne "config_snapshot" world.sync rfl
  | handleAckJson nowMs payload => exact issues.elim
  | tick env => exact issues.elim
  | nextSeq => exact issues.elim

/-- Events that issue no snapshot do not weaken the evidence. -/
theorem snapshotConfirmed_step (world : SyncWorld) (event : SyncEvent)
    (quiet : ¬ IssuesSnapshot library world event)
    (confirmed : SnapshotConfirmed world.history) :
    SnapshotConfirmed (step library world event).history := by
  cases event with
  | markSent env seq cmd payload portId =>
      by_cases blank : payload = ""
      · simpa only [step, blank, if_true] using confirmed
      · have ordinary : isSnapshotCmd cmd = false := by
          cases snapshot : isSnapshotCmd cmd with
          | false => rfl
          | true => exact absurd ⟨blank, snapshot⟩ quiet
        simp only [step, blank, if_false, SnapshotConfirmed, latestSnapshot_append, issued,
          ordinary, Bool.false_eq_true]
        exact confirmed
  | publishLatestSnapshot env seq exported =>
      have failed : latestSnapshotText library world.sync exported = none := not_not.mp quiet
      simp only [step, failed]
      exact confirmed
  | handleAckJson nowMs payload =>
      simp only [step]
      split
      · exact confirmed
      · exact snapshotConfirmed_note _ _ confirmed
  | tick env =>
      simp only [step]
      split
      · rw [snapshotConfirmed_modify] <;> first | exact confirmed | exact fun _ => rfl
      · exact confirmed
  | nextSeq => exact confirmed

theorem allowed_fields {state : ConfigSync} (opened : state.telemetryAllowed = true) :
    state.lastAckedConfigVersion = state.configVersion ∧ state.configVersion ≠ 0 := by
  simp only [telemetryAllowed, Bool.and_eq_true, decide_eq_true_eq] at opened
  rcases opened with ⟨⟨positive, same⟩, -⟩
  refine ⟨same, ?_⟩
  rw [same] at positive
  exact (UInt32.pos_iff_ne_zero).mp positive

/-- Outside the initial version 0, only snapshots change the version. -/
theorem versionAfter_of_quiet (world : SyncWorld) (event : SyncEvent)
    (quiet : ¬ IssuesSnapshot library world event) (started : world.sync.configVersion ≠ 0) :
    versionAfter library world event = world.sync.configVersion := by
  cases event with
  | markSent env seq cmd payload portId =>
      by_cases blank : payload = ""
      · rw [versionAfter, if_pos blank]
      · have ordinary : ¬ isSnapshotCmd cmd = true := fun snapshot => quiet ⟨blank, snapshot⟩
        rw [versionAfter, if_neg blank, issuedVersion, if_neg ordinary, versionAtLeastOne,
          if_neg started]
  | publishLatestSnapshot env seq exported =>
      have failed : (exported.bind library.parse) = none := by
        have noText : latestSnapshotText library world.sync exported = none := not_not.mp quiet
        simpa only [latestSnapshotText, Option.map_eq_none_iff] using noText
      simp only [versionAfter, failed, Option.isSome_none, Bool.false_eq_true, if_false]
  | handleAckJson nowMs payload => rfl
  | tick env => rfl
  | nextSeq => rfl

theorem gateStaysOpen_step (world : SyncWorld) (event : SyncEvent)
    (condition : GateCondition library world event) : GateStaysOpen library world event := by
  intro quiet opened
  rcases allowed_fields opened with ⟨same, started⟩
  by_cases isAck : exists nowMs payload, event = .handleAckJson nowMs payload
  · rcases isAck with ⟨nowMs, payload, rfl⟩
    rw [telemetryAllowed_eq_gate, gate_step_ack]
    cases parsed : parseAck library payload with
    | none => exact opened
    | some ack =>
        by_cases confirms : confirmsSnapshot ack world.sync = true
        · have current : spokenVersion ack world.sync = world.sync.configVersion := by
            by_contra other
            have closed := (condition ack parsed confirms).2 other
            rw [closed] at opened
            cases opened
          simp only [confirms, if_true, current, Bool.and_true, decide_true]
          simpa [UInt32.pos_iff_ne_zero] using started
        · simp only [confirms, Bool.false_eq_true, if_false]
          exact opened
  · have noAck : forall nowMs payload, event ≠ .handleAckJson nowMs payload :=
      fun nowMs payload equal => isAck ⟨nowMs, payload, equal⟩
    rw [telemetryAllowed_step library world event noAck
      (versionAfter_of_quiet library world event quiet started)]
    exact opened

theorem gateSound_step (world : SyncWorld) (event : SyncEvent) (sound : GateSound world)
    (condition : GateCondition library world event) :
    GateSound (step library world event) := by
  intro opened
  by_cases isAck : exists nowMs payload, event = .handleAckJson nowMs payload
  · rcases isAck with ⟨nowMs, payload, rfl⟩
    rw [telemetryAllowed_eq_gate, gate_step_ack] at opened
    simp only [step]
    cases parsed : parseAck library payload with
    | none =>
        rw [parsed] at opened
        exact sound opened
    | some ack =>
        rw [parsed] at opened
        by_cases confirms : confirmsSnapshot ack world.sync = true
        · simp only [confirms, if_true, Bool.and_true, Bool.and_eq_true, decide_eq_true_eq]
            at opened
          rcases opened with ⟨positive, current⟩
          have started : world.sync.configVersion ≠ 0 := by
            rw [current] at positive
            exact (UInt32.pos_iff_ne_zero).mp positive
          rcases (condition ack parsed confirms).1 current started with before | ⟨latest, present, named⟩
          · exact snapshotConfirmed_note ack world.history before
          · have positiveAck : ack.ok = true := by
              simp only [confirmsSnapshot, Bool.and_eq_true] at confirms
              exact confirms.1.1
            exact snapshotConfirmed_of_named ack world.history present positiveAck named
        · simp only [confirms, Bool.false_eq_true, if_false] at opened
          exact snapshotConfirmed_note ack world.history (sound opened)
  · have noAck : forall nowMs payload, event ≠ .handleAckJson nowMs payload :=
      fun nowMs payload equal => isAck ⟨nowMs, payload, equal⟩
    by_cases sameVersion : versionAfter library world event = world.sync.configVersion
    · have quiet : ¬ IssuesSnapshot library world event :=
        fun issues => versionAfter_ne_of_issues library world event issues sameVersion
      rw [telemetryAllowed_step library world event noAck sameVersion] at opened
      exact snapshotConfirmed_step library world event quiet (sound opened)
    · have unseen : world.sync.lastAckedSnapshot = true ->
          world.sync.lastAckedConfigVersion ≠ versionAfter library world event := by
        cases event with
        | handleAckJson nowMs payload => exact absurd rfl (noAck nowMs payload)
        | markSent env seq cmd payload portId => exact condition sameVersion
        | publishLatestSnapshot env seq exported => exact condition sameVersion
        | tick env => exact condition sameVersion
        | nextSeq => exact condition sameVersion
      rw [telemetryAllowed_step_of_ne library world event noAck unseen] at opened
      cases opened

/-! ## Whole runs -/

/-- What the gate promises along a run: it is sound wherever the run has got
to, and no event of the run closes it without issuing a snapshot. -/
structure GateFaithful (events : List SyncEvent) : Prop where
  sound : forall before after, events = before ++ after ->
    GateSound ((system library).run before)
  staysOpen : forall before event after, events = before ++ event :: after ->
    GateStaysOpen library ((system library).run before) event

theorem gateSound_initial : GateSound initial := by
  intro opened
  cases opened

theorem gateFaithful_of_condition (events : List SyncEvent)
    (admissible : (system library).Admissible (GateCondition library) events) :
    GateFaithful library events := by
  constructor
  · intro before after split
    subst split
    exact (system library).invariant_run gateSound_initial (gateSound_step library)
      ((system library).admissible_initial admissible)
  · intro before event after split
    subst split
    exact gateStaysOpen_step library _ event ((system library).admissible_step admissible)

/-- The promise holds of a run with a retry, a registration and a repeated
answer. -/
theorem gateFaithful_retried : GateFaithful JsonC.jsonText
    [.publishLatestSnapshot (online 0) 1001 (some (registerText "config_snapshot" 1001)),
     .tick (online 8000),
     .handleAckJson 8100 (ackText "config_snapshot" 50001 1 true false),
     .markSent (online 8200) 1002 "port_register" (registerText "port_register" 1002) "port_001",
     .handleAckJson 8300 (ackText "config_snapshot" 1001 1 true false)] :=
  gateFaithful_of_condition JsonC.jsonText _ (by decide +kernel)

/-- A requested export is registered without a version and followed by a new
snapshot.  The answer to the export names no version either, so it is taken
to confirm the new one. -/
theorem gate_opened_by_older_answer :
    ¬ GateFaithful JsonC.jsonText
      [.markSent (online 0) 10 "config_snapshot" (registerText "config_snapshot" 10) "port_001",
       .publishLatestSnapshot (online 1) 11 (some (registerText "config_snapshot" 11)),
       .handleAckJson 2 (ackText "config_snapshot" 10 0 true false)] := by
  intro faithful
  have unconfirmed := faithful.sound _ [] (List.append_nil _).symm (by decide +kernel)
  revert unconfirmed
  decide +kernel

end SyncWorld
end Board
end Imx6Gateway
