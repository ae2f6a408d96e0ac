import Imx6Gateway.Library.VersionedCopy
import Imx6Gateway.Link.ConfigWorld

namespace Imx6Gateway
namespace Link

open Library Board Board.ConfigSync Pc

/-!
# The devices of the board and the registry of Pc_data

As long as a snapshot that is sent again has the devices of the present
configuration, the two programs keep a `VersionedCopy`: an open telemetry gate
means that Pc_data has the newest version.

A retry stamps the active message with the present version.  If that message
is of an older configuration, Pc_data can end up with it under the version of
the newest one, and the gate opens all the same.
-/

namespace ConfigWorld

section Convergence

variable (link : Exchange) (getFloat : Json -> Limit) (stod : String -> Option Rat)

/-- With an open gate and nothing left to send or to deliver, the devices that
Pc_data has registered for the gateway are those of the board. -/
def Converged (world : ConfigWorld) : Prop :=
  world.board.sync.telemetryAllowed = true ->
    (forall entry, ¬ world.board.sync.Holds entry) -> world.underway = [] ->
      RegistersExactly world.pc.service (configuredDevices getFloat link.board world.ports)

/-- A new configuration gets its own version and a text that can be read. -/
structure Issuable (world : ConfigWorld) (ports : PortManager) (seq : UInt32) (nowMs : Int64) :
    Prop where
  exported : latestExportText getFloat link.board ports seq nowMs ≠ none
  finite : (latestExport getFloat link.board ports seq nowMs).Finite
  count : (configuredDevices getFloat link.board ports).length < 2 ^ 62
  room : world.board.sync.configVersion.toNat + 1 < 2 ^ 32

/-- What is sent again as a snapshot has the devices of the present configuration. -/
def ConvergenceCondition (world : ConfigWorld) : ConfigEvent -> Prop
  | .issue ports _ seq nowMs => world.Issuable link getFloat ports seq nowMs
  | .tick env => forall root, root ∈ resends link.board env world.board.sync ->
      exists snapshot, ExportOf snapshot root ∧
        (exportedKeys snapshot.ports).Perm (configuredDevices getFloat link.board world.ports)
  | _ => True

/-! ## The copy that the programs keep -/

/-- The text is a message with this version and these devices. -/
def Carries (text : String) (message : Nat × List (Slot × Int32)) : Prop :=
  (exists ports root, text = link.board.print root ∧ SnapshotMessage ports message.1 root ∧
      (exportedKeys ports).Perm message.2) ∧
    0 < message.1 ∧ message.1 < 2 ^ 32 ∧ message.2.length < 2 ^ 62

/-- Where the text confirms a snapshot to the board, it names one of the versions. -/
def Confirms (text : String) (versions : List Nat) : Prop :=
  forall ack, parseAck link.board text = some ack -> ack.ok = true ->
    0 < ack.configVersion ∧ ack.configVersion.toNat ∈ versions

/-- The world keeps this copy: what Pc_data has taken over last is what it has
registered. -/
structure Represents (copy : VersionedCopy (List (Slot × Int32))) (world : ConfigWorld) : Prop where
  version : copy.version = world.board.sync.configVersion.toNat
  value : copy.value = configuredDevices getFloat link.board world.ports
  underway : List.Forall₂ (Carries link) world.underway copy.underway
  taken : forall message, copy.taken = some message ->
    RegistersExactly world.pc.service message.2
  unasked : Unasked world.pc.service
  answers : forall answer, answer ∈ world.answers -> Confirms link answer.payload copy.answers
  confirmed : copy.confirmed = world.board.sync.lastAckedConfigVersion.toNat
  count : 0 < copy.version -> copy.value.length < 2 ^ 62
  linked : world.board.LinkedWorld
  numbered : world.board.sync.configVersion = 0 -> world.board.history = []

/-- The world stays where the copy is, or both take a step. -/
def Follows (copy : VersionedCopy (List (Slot × Int32))) (world : ConfigWorld) : Prop :=
  exists next, Relation.ReflGen VersionedCopy.Step copy next ∧ Represents link getFloat next world

variable {copy : VersionedCopy (List (Slot × Int32))} {world : ConfigWorld}

theorem forall₂_eraseIdx {First Second : Type} {related : First -> Second -> Prop}
    {firsts : List First} {seconds : List Second} (each : List.Forall₂ related firsts seconds)
    (position : Nat) :
    List.Forall₂ related (firsts.eraseIdx position) (seconds.eraseIdx position) := by
  induction each generalizing position with
  | nil => exact List.Forall₂.nil
  | cons here later ih =>
      cases position with
      | zero => exact later
      | succ position => exact List.Forall₂.cons here (ih position)

theorem follows_loseMessage (represents : Represents link getFloat copy world) (position : Nat) :
    Follows link getFloat copy { world with underway := world.underway.eraseIdx position } :=
  ⟨_, .single (.lose position), { represents with
    underway := forall₂_eraseIdx represents.underway position }⟩

theorem follows_loseAnswer (represents : Represents link getFloat copy world) (position : Nat) :
    Follows link getFloat copy { world with answers := world.answers.eraseIdx position } :=
  ⟨_, .refl, { represents with
    answers := fun answer inside =>
      represents.answers answer (List.mem_of_mem_eraseIdx inside) }⟩

/-! ### The board issues a configuration -/

theorem parse_latestExport {ports : PortManager} {seq : UInt32} {nowMs : Int64} {text : String}
    (exported : latestExportText getFloat link.board ports seq nowMs = some text) :
    link.board.parse text = some (latestExport getFloat link.board ports seq nowMs).toJson := by
  rw [text_of_latestExportText getFloat link.board exported]
  exact link.board.parse_print _ (wire_exportedSnapshot _)

/-- The export gets the next version. -/
theorem latestSnapshotText_of_exported {ports : PortManager} {seq : UInt32} {nowMs : Int64}
    {text : String} (exported : latestExportText getFloat link.board ports seq nowMs = some text)
    (state : ConfigSync) :
    SyncWorld.latestSnapshotText link.board state (some text) =
      some (link.board.print (stampVersion (versionAtLeastOne (state.configVersion + 1))
        (latestExport getFloat link.board ports seq nowMs).toJson)) := by
  rw [SyncWorld.latestSnapshotText, Option.bind_some, parse_latestExport link getFloat exported,
    Option.map_some]

theorem issued_text {world : ConfigWorld} {ports : PortManager} {seq : UInt32} {nowMs : Int64}
    (issuable : world.Issuable link getFloat ports seq nowMs) :
    exists text, SyncWorld.latestSnapshotText link.board world.board.sync
        (latestExportText getFloat link.board ports seq nowMs) = some text ∧
      Carries link text (world.board.sync.configVersion.toNat + 1,
        configuredDevices getFloat link.board ports) := by
  rcases Option.ne_none_iff_exists'.mp issuable.exported with ⟨text, exported⟩
  have message := snapshotMessage_stamped (latestExport getFloat link.board ports seq nowMs) rfl rfl
    (versionAtLeastOne (world.board.sync.configVersion + 1))
  rw [VersionLog.toNat_nextVersion issuable.room] at message
  rw [exported]
  exact ⟨_, latestSnapshotText_of_exported link getFloat exported world.board.sync,
    ⟨_, _, rfl, message, .refl _⟩, Nat.succ_pos _, issuable.room, issuable.count⟩

/-- The version, and what was confirmed, after a call that is no answer. -/
theorem gate_of_step {event : Board.SyncEvent}
    (noAck : forall nowMs payload, event ≠ .handleAckJson nowMs payload) :
    (SyncWorld.step link.board world.board event).sync.configVersion =
        SyncWorld.versionAfter link.board world.board event ∧
      (SyncWorld.step link.board world.board event).sync.lastAckedConfigVersion =
        world.board.sync.lastAckedConfigVersion := by
  have gate := SyncWorld.gate_step link.board world.board event noAck
  exact ⟨congrArg Prod.fst gate, congrArg (fun fields => fields.2.1) gate⟩

theorem follows_issue (represents : Represents link getFloat copy world) {ports : PortManager}
    {env : Surroundings} {seq : UInt32} {nowMs : Int64}
    (issuable : world.Issuable link getFloat ports seq nowMs) :
    Follows link getFloat copy ({ world with ports := ports }.boardStep link
      (issueEvent link getFloat ports env seq nowMs)) := by
  rcases issued_text link getFloat issuable with ⟨text, issued, carries⟩
  have gate := @gate_of_step link world (issueEvent link getFloat ports env seq nowMs)
    (fun _ _ => Board.SyncEvent.noConfusion)
  have exported : ((latestExportText getFloat link.board ports seq nowMs).bind
      link.board.parse).isSome = true := by
    rw [SyncWorld.latestSnapshotText] at issued
    rcases Option.map_eq_some_iff.mp issued with ⟨root, found, -⟩
    rw [found]
    rfl
  have version : (SyncWorld.versionAfter link.board world.board
      (issueEvent link getFloat ports env seq nowMs)).toNat =
        world.board.sync.configVersion.toNat + 1 := by
    rw [issueEvent, SyncWorld.versionAfter, if_pos exported]
    exact VersionLog.toNat_nextVersion issuable.room
  have published : publishedSnapshots (SyncWorld.effects link.board world.board
      (issueEvent link getFloat ports env seq nowMs)) = [text] := by
    rw [issueEvent, SyncWorld.effects, publishedSnapshots_publishLatest, issued]
    rfl
  refine ⟨_, .single (.issue (configuredDevices getFloat link.board ports)), ?_⟩
  exact {
    version := by
      change copy.version + 1 = _
      rw [boardStep, gate.1, version, represents.version]
    value := rfl
    underway := by
      rw [boardStep, published, represents.version]
      exact List.rel_append represents.underway (.cons carries .nil)
    taken := represents.taken
    unasked := represents.unasked
    answers := represents.answers
    confirmed := by
      rw [boardStep, gate.2]
      exact represents.confirmed
    count := fun _ => issuable.count
    linked := SyncWorld.linked_step link.board world.board _ represents.linked
    numbered := by
      intro none
      rw [boardStep, gate.1] at none
      rw [none] at version
      cases version }

/-! ### The board sends a message again -/

theorem history_tick (world : SyncWorld) (env : Surroundings) (none : world.history = []) :
    (SyncWorld.step link.board world (.tick env)).history = [] := by
  rcases SyncWorld.step_tick_cases link.board world env with
    ⟨-, -, same⟩ | ⟨-, -, -, same⟩ | ⟨root, -, -, -, same⟩
  · rw [same, none]
  · rw [same, none]
  · rw [same, none, List.modify_nil]

/-- A message that is sent again was issued before. -/
theorem issued_of_resends {env : Surroundings} {root : Json}
    (represents : Represents link getFloat copy world)
    (again : resends link.board env world.board.sync = some root) :
    link.board.parse world.board.sync.pendingSnapshot = some root ∧ 0 < copy.version := by
  unfold resends at again
  split at again
  · rename_i due
    refine ⟨again, ?_⟩
    have active := SyncWorld.activeEntry_of_due (Bool.and_eq_true_iff.mp due).1
    rcases represents.linked _ (Or.inl active) with ⟨registration, found, -⟩
    by_contra none
    have first : world.board.sync.configVersion = 0 := by
      rw [← UInt32.toNat_inj, ← represents.version]
      exact Nat.le_zero.mp (not_lt.mp none)
    rw [represents.numbered first] at found
    cases found
  · cases again

/-- A tick keeps the versions and what was confirmed; only what is underway changes. -/
theorem represents_tick (represents : Represents link getFloat copy world) (env : Surroundings)
    {underway : List (Nat × List (Slot × Int32))}
    (carries : List.Forall₂ (Carries link) (world.boardStep link (.tick env)).underway underway) :
    Represents link getFloat { copy with underway := underway }
      (world.boardStep link (.tick env)) := by
  have gate := @gate_of_step link world (.tick env) (fun _ _ => Board.SyncEvent.noConfusion)
  exact {
    version := by
      rw [boardStep, gate.1]
      exact represents.version
    value := represents.value
    underway := carries
    taken := represents.taken
    unasked := represents.unasked
    answers := represents.answers
    confirmed := by
      rw [boardStep, gate.2]
      exact represents.confirmed
    count := represents.count
    linked := SyncWorld.linked_step link.board world.board _ represents.linked
    numbered := by
      intro none
      rw [boardStep, gate.1] at none
      exact history_tick link world.board env (represents.numbered none) }

theorem follows_tick (represents : Represents link getFloat copy world) {env : Surroundings}
    (present : forall root, root ∈ resends link.board env world.board.sync ->
      exists snapshot, ExportOf snapshot root ∧
        (exportedKeys snapshot.ports).Perm (configuredDevices getFloat link.board world.ports)) :
    Follows link getFloat copy (world.boardStep link (.tick env)) := by
  have published : (world.boardStep link (.tick env)).underway = world.underway ++
      ((resends link.board env world.board.sync).map
        (retryText link.board world.board.sync)).toList := by
    rw [boardStep, SyncWorld.effects, publishedSnapshots_tick]
  cases again : resends link.board env world.board.sync with
  | none =>
      rw [again, Option.map_none, Option.toList_none, List.append_nil] at published
      refine ⟨copy, .refl, represents_tick link getFloat represents env ?_⟩
      rw [published]
      exact represents.underway
  | some root =>
      rw [again, Option.map_some, Option.toList_some] at published
      rcases issued_of_resends link getFloat represents again with ⟨parsed, issued⟩
      rcases present root again with ⟨snapshot, exported, same⟩
      have message := snapshotMessage_restamped exported (link.board.parse_wire _ root parsed)
        (world.board.sync.syncSeq + 1) world.board.sync.configVersion
      rw [← represents.version] at message
      rw [← represents.value] at same
      refine ⟨_, .single .resend, represents_tick link getFloat represents env ?_⟩
      rw [published]
      refine List.rel_append represents.underway (.cons ?_ .nil)
      refine ⟨⟨_, _, rfl, message, same⟩, issued, ?_, represents.count issued⟩
      rw [represents.version]
      exact world.board.sync.configVersion.toNat_lt

/-! ### Pc_data handles a message -/

theorem Confirms.more {text : String} {versions more : List Nat}
    (confirms : Confirms link text versions)
    (subset : forall version, version ∈ versions -> version ∈ more) : Confirms link text more := by
  intro ack parsed ok
  rcases confirms ack parsed ok with ⟨positive, inside⟩
  exact ⟨positive, subset _ inside⟩

/-- A positive answer names the version of the message, and a negative one confirms nothing. -/
theorem confirms_answer {state : PcData} {clock : Int64} {ports : List ExportedPort} {version : Nat}
    {root : Json} {result : PcData × List Publication} {ack : RegisterAck}
    (answered : SnapshotAnswered link clock root ports version state result ack)
    (positive : 0 < version) (small : version < 2 ^ 32) {versions : List Nat}
    (taken : ack.ok = true -> version ∈ versions) (answer : Publication)
    (inside : answer ∈ result.2) : Confirms link answer.payload versions := by
  rw [answered.published, List.mem_singleton] at inside
  rcases parseAck_answer link answered.fits clock answered.cmd answered.version positive small with
    ⟨read, parsed, sameOk, -, -, named⟩
  intro found parsedFound ok
  rw [inside] at parsedFound
  cases parsed.symm.trans parsedFound
  refine ⟨UInt32.lt_iff_toNat_lt.mpr ?_, ?_⟩
  · rw [named]
    exact positive
  · rw [named]
    exact taken (sameOk.symm.trans ok)

theorem follows_handle (represents : Represents link getFloat copy world) (clock : Int64) :
    Follows link getFloat copy (world.handleNext link stod clock) := by
  have underway := represents.underway
  unfold handleNext
  generalize world.underway = texts at underway
  generalize sent : copy.underway = messages at underway
  cases underway with
  | nil => exact ⟨copy, .refl, represents⟩
  | @cons text message later messages carries rest =>
      rcases carries with ⟨⟨ports, root, rfl, tree, same⟩, positive, small, count⟩
      rw [← same.length_eq] at count
      rcases handle_answered_snapshot world.pc link stod clock tree small count
        represents.unasked with ⟨ack, answered⟩
      have handled := answered.handled
      cases ok : ack.ok with
      | true =>
          refine ⟨_, .single (.take message messages sent), { represents with
            underway := rest
            taken := ?_
            unasked := handled.unasked
            answers := ?_ }⟩
          · intro taken newest
            cases newest
            exact (handled.stored ok).perm same
          · intro answer inside
            rcases List.mem_append.mp inside with old | new
            · exact (represents.answers answer old).more link
                fun _ listed => List.mem_cons_of_mem _ listed
            · exact confirms_answer link answered positive small
                (fun _ => List.mem_cons_self) answer new
      | false =>
          have unchanged := handled.refused ok
          refine ⟨_, .single (.pass message messages sent), { represents with
            underway := rest
            taken := ?_
            unasked := handled.unasked
            answers := ?_ }⟩
          · intro taken before
            dsimp only
            rw [unchanged]
            exact represents.taken taken before
          · intro answer inside
            rcases List.mem_append.mp inside with old | new
            · exact represents.answers answer old
            · refine confirms_answer link answered positive small ?_ answer new
              intro impossible
              cases ok.symm.trans impossible

/-! ### The board hears of an answer -/

theorem history_handleAck (world : SyncWorld) (nowMs : Int) (payload : String)
    (none : world.history = []) :
    (SyncWorld.step link.board world (.handleAckJson nowMs payload)).history = [] := by
  unfold SyncWorld.step
  dsimp only
  rw [none]
  split <;> rfl

theorem follows_acknowledge (represents : Represents link getFloat copy world) (nowMs : Int)
    {answer : Publication} (inside : answer ∈ world.answers) :
    Follows link getFloat copy (world.boardStep link (.handleAckJson nowMs answer.payload)) := by
  have gate := SyncWorld.gate_step_ack link.board world.board nowMs answer.payload
  have silent : (world.boardStep link (.handleAckJson nowMs answer.payload)).underway =
      world.underway := by
    rw [boardStep, SyncWorld.effects, publishedSnapshots_handleAckJson, List.append_nil]
  have version : (SyncWorld.step link.board world.board
      (.handleAckJson nowMs answer.payload)).sync.configVersion =
        world.board.sync.configVersion := by
    rw [SyncWorld.configVersion_step]
    rfl
  have represented : forall confirmed, confirmed = (SyncWorld.step link.board world.board
      (.handleAckJson nowMs answer.payload)).sync.lastAckedConfigVersion.toNat ->
      Represents link getFloat { copy with confirmed := confirmed }
        (world.boardStep link (.handleAckJson nowMs answer.payload)) := by
    intro confirmed same
    exact { represents with
      version := by
        rw [boardStep, version]
        exact represents.version
      underway := by
        rw [silent]
        exact represents.underway
      confirmed := same
      linked := SyncWorld.linked_step link.board world.board _ represents.linked
      numbered := by
        intro none
        rw [boardStep, version] at none
        exact history_handleAck link world.board nowMs answer.payload (represents.numbered none) }
  have unchanged (same : (SyncWorld.step link.board world.board
        (.handleAckJson nowMs answer.payload)).sync.gate = world.board.sync.gate) :
      Follows link getFloat copy (world.boardStep link (.handleAckJson nowMs answer.payload)) := by
    refine ⟨copy, .refl, represented copy.confirmed ?_⟩
    have acked := congrArg (fun fields : UInt32 × UInt32 × Bool => fields.2.1) same
    exact represents.confirmed.trans (congrArg UInt32.toNat acked.symm)
  cases parsed : parseAck link.board answer.payload with
  | none =>
      rw [parsed] at gate
      exact unchanged gate
  | some ack =>
      rw [parsed] at gate
      dsimp only at gate
      by_cases confirms : confirmsSnapshot ack world.board.sync = true
      · rw [if_pos confirms] at gate
        have ok : ack.ok = true := by
          rw [confirmsSnapshot, Bool.and_eq_true, Bool.and_eq_true] at confirms
          exact confirms.1.1
        rcases represents.answers answer inside ack parsed ok with ⟨positive, named⟩
        refine ⟨_, .single (.confirm _ named), represented _ ?_⟩
        have acked := congrArg (fun fields : UInt32 × UInt32 × Bool => fields.2.1) gate
        have spoken : spokenVersion ack world.board.sync = ack.configVersion := if_pos positive
        exact congrArg UInt32.toNat (acked.trans spoken).symm
      · rw [if_neg confirms] at gate
        exact unchanged gate

/-! ## Whole runs -/

theorem represents_start (ports : PortManager) {pc : PcData} (unasked : Unasked pc.service) :
    Represents link getFloat (VersionedCopy.start (configuredDevices getFloat link.board ports))
      (system link getFloat stod ports pc).initial where
  version := rfl
  value := rfl
  underway := .nil
  taken := by
    intro message none
    cases none
  unasked := unasked
  answers := by
    intro answer inside
    cases inside
  confirmed := rfl
  count := by
    intro impossible
    cases impossible
  linked := SyncWorld.linked_initial
  numbered := fun _ => rfl

theorem follows_step (represents : Represents link getFloat copy world) (event : ConfigEvent)
    (condition : ConvergenceCondition link getFloat world event) :
    Follows link getFloat copy (world.step link getFloat stod event) := by
  cases event with
  | issue ports env seq nowMs => exact follows_issue link getFloat represents condition
  | tick env => exact follows_tick link getFloat represents condition
  | loseMessage position => exact follows_loseMessage link getFloat represents position
  | loseAnswer position => exact follows_loseAnswer link getFloat represents position
  | handle clock => exact follows_handle link getFloat stod represents clock
  | acknowledge position nowMs =>
      rw [step]
      cases found : world.answers[position]? with
      | none => exact ⟨copy, .refl, represents⟩
      | some answer =>
          exact follows_acknowledge link getFloat represents nowMs (List.mem_of_getElem? found)

/-- Steps of a copy that began with this value lead to what the world keeps. -/
def KeepsCopy (value : List (Slot × Int32)) (world : ConfigWorld) : Prop :=
  exists copy, VersionedCopy.Reachable value copy ∧ Represents link getFloat copy world

theorem keepsCopy_step {value : List (Slot × Int32)} (world : ConfigWorld) (event : ConfigEvent)
    (kept : KeepsCopy link getFloat value world)
    (condition : ConvergenceCondition link getFloat world event) :
    KeepsCopy link getFloat value (world.step link getFloat stod event) := by
  rcases kept with ⟨copy, reachable, represents⟩
  rcases follows_step link getFloat stod represents event condition with
    ⟨next, step, nextRepresents⟩
  exact ⟨next, reachable.trans step.to_reflTransGen, nextRepresents⟩

/-- An open gate means that the copy has the newest version. -/
theorem converged_of_represents {value : List (Slot × Int32)}
    (reachable : VersionedCopy.Reachable value copy)
    (represents : Represents link getFloat copy world) : Converged link getFloat world := by
  intro opened _ _
  rcases SyncWorld.allowed_fields opened with ⟨acked, issued⟩
  have positive : 0 < copy.version := by
    rw [represents.version]
    exact Nat.pos_of_ne_zero fun zero => issued (UInt32.toNat_inj.mp zero)
  have confirmed : copy.confirmed = copy.version := by
    rw [represents.confirmed, acked, represents.version]
  have taken := VersionedCopy.taken_of_confirmed reachable positive confirmed
  have registered := represents.taken _ taken
  rw [represents.value] at registered
  exact registered

/-- In every run in which the board sends no older configuration again, Pc_data
has registered the devices of the board wherever the gate is open and nothing is
left to do. -/
theorem config_converges (ports : PortManager) {pc : PcData} (unasked : Unasked pc.service)
    {events : List ConfigEvent}
    (admissible : (system link getFloat stod ports pc).Admissible
      (ConvergenceCondition link getFloat) events)
    (before after : List ConfigEvent) (split : events = before ++ after) :
    Converged link getFloat ((system link getFloat stod ports pc).run before) := by
  subst split
  have start : KeepsCopy link getFloat (configuredDevices getFloat link.board ports)
      (system link getFloat stod ports pc).initial :=
    ⟨_, .refl, represents_start link getFloat stod ports unasked⟩
  rcases (system link getFloat stod ports pc).invariant_run start
    (keepsCopy_step link getFloat stod)
    ((system link getFloat stod ports pc).admissible_initial admissible) with
    ⟨copy, reachable, represents⟩
  exact converged_of_represents link getFloat reachable represents

end Convergence

/-! ## The module at some points of a run -/

/-- The first snapshot is active. -/
def firstActive (first : String) : ConfigSync :=
  { ConfigSync.initial with
    configVersion := 1
    pendingSeq := 1001
    status := "syncing"
    message := copyText configSyncReasonMax syncingMessage
    pendingCmd := "config_snapshot"
    pendingPortId := defaultPortId
    pendingSnapshot := first }

/-- The second one waits in the queue. -/
def bothHeld (first second : String) : ConfigSync :=
  { firstActive first with
    configVersion := 2
    queue := ⟨[some ⟨1002, "config_snapshot", defaultPortId, second, 1⟩, none, none, none, none,
      none, none, none], rfl⟩ }

/-- The first one was sent again. -/
def resentFirst (again second : String) : ConfigSync :=
  { retried (bothHeld again second) with
    pendingSeq := 50001
    lastSendTimeMs := 9000 }

theorem copied_cmd : copyText maxCmdNameLen "config_snapshot" = "config_snapshot" := by decide

theorem copied_port : copyText portIdLen defaultPortId = defaultPortId := by decide

section States

variable (library : JsonC) {exported : Option String} {root : Json}

/-- A snapshot that was sent at the start is due after nine seconds. -/
theorem due_of_active {state : ConfigSync} (nonempty : state.pendingSnapshot ≠ "")
    (named : state.pendingSeq ≠ 0) (retryable : state.retryable = true)
    (sent : state.lastSendTimeMs = 0) : retryDue (SyncWorld.online 9000) state = true := by
  have active : state.hasActivePending = true := by
    rw [hasActivePending, decide_eq_true nonempty, decide_eq_true named, Bool.and_self]
  rw [retryDue, active, retryable, sent]
  rfl

theorem resends_of_due {state : ConfigSync} (due : retryDue (SyncWorld.online 9000) state = true)
    (cmd : state.pendingCmd = "config_snapshot") :
    resends library (SyncWorld.online 9000) state = library.parse state.pendingSnapshot := by
  rw [resends, due, retriedType, cmd]
  rfl

theorem due_firstActive {first : String} (nonempty : first ≠ "") :
    retryDue (SyncWorld.online 9000) (firstActive first) = true :=
  due_of_active nonempty (fun none => absurd none (by decide : (1001 : UInt32) ≠ 0)) rfl rfl

theorem due_bothHeld {first : String} (second : String) (nonempty : first ≠ "") :
    retryDue (SyncWorld.online 9000) (bothHeld first second) = true :=
  due_of_active nonempty (fun none => absurd none (by decide : (1001 : UInt32) ≠ 0)) rfl rfl

theorem state_first (parsed : exported.bind library.parse = some root) :
    (publishLatestSnapshot library (SyncWorld.online 0) 1001 exported 0 ConfigSync.initial).state =
      firstActive (copyText configSyncPayloadMax (library.print (stampVersion 1 root))) := by
  rw [publishLatestSnapshot, parsed, firstActive, ← copied_port, ← copied_cmd]
  rfl

theorem state_second {first : String} (nonempty : first ≠ "")
    (parsed : exported.bind library.parse = some root) :
    (publishLatestSnapshot library (SyncWorld.online 10) 1002 exported 1
        (firstActive first)).state =
      bothHeld first (copyText configSyncPayloadMax (library.print (stampVersion 2 root))) := by
  have active : (firstActive first).hasActivePending = true := by
    rw [hasActivePending, Bool.and_eq_true]
    exact ⟨decide_eq_true nonempty, rfl⟩
  have other : samePending 1002 "config_snapshot" (firstActive first) = false := rfl
  have busy : ¬(!(firstActive first).hasActivePending ||
      samePending 1002 "config_snapshot" (firstActive first)) = true := by
    rw [active, other]
    decide
  have waits (text : String) :
      storePending 10 ⟨1002, "config_snapshot", defaultPortId, text, 1⟩
          { firstActive first with configVersion := 2 } =
        enqueuePending ⟨1002, "config_snapshot", defaultPortId, text, 1⟩
          { firstActive first with configVersion := 2 } := by
    rw [storePending]
    exact if_neg busy
  have queued (text : String) :
      (enqueuePending ⟨1002, "config_snapshot", defaultPortId, text, 1⟩
          { firstActive first with configVersion := 2 }).2 =
        bothHeld first (copyText configSyncPayloadMax text) := by
    rw [bothHeld, ← copied_port, ← copied_cmd]
    rfl
  rw [publishLatestSnapshot, parsed]
  exact congrArg (announceSyncing true) ((congrArg Prod.snd (waits _)).trans (queued _))

theorem state_third {first : String} (second : String) (nonempty : first ≠ "")
    (parsed : library.parse first = some root) :
    (tick library (SyncWorld.online 9000) (bothHeld first second)).state =
      resentFirst (copyText configSyncPayloadMax (library.print (restamp 50001 2 root)))
        second := by
  have pending : (retried (bothHeld first second)).pendingSnapshot = first :=
    congrArg PendingView.payload (retried_fields (bothHeld first second)).1
  rw [tick_of_due library _ _ (due_bothHeld second nonempty), sendPending, pending,
    if_neg nonempty, parsed]
  rfl

end States

/-- A positive answer to a snapshot of the second version. -/
structure ConfirmsSecond (ack : Ack) (seq : UInt32) : Prop where
  cmd : ack.cmd = "config_snapshot"
  seq : ack.seq = seq
  ok : ack.ok = true
  version : ack.configVersion = 2

/-- The waiting snapshot is confirmed; the first one stays active. -/
theorem state_fourth {again : String} (second : String) (nonempty : again ≠ "") {ack : Ack}
    (confirms : ConfirmsSecond ack 1002) :
    (ConfigSync.handleAck 9020 ack (resentFirst again second)).state.gate = (2, 2, true) ∧
      (ConfigSync.handleAck 9020 ack (resentFirst again second)).state.view =
        { (resentFirst again second).view with
          queue := .empty Pending configSyncPendingMax
          retryable := ack.retryable } := by
  rcases ack with ⟨_, _, _, _, status, reason, message, retryable⟩
  rcases confirms with ⟨rfl, rfl, rfl, rfl⟩
  constructor
  · rw [gate_handleAck]
    rfl
  · have active : ({ resentFirst again second with
        queue := .empty Pending configSyncPendingMax
        retryable := retryable } : ConfigSync).hasActivePending = true := by
      rw [hasActivePending, Bool.and_eq_true]
      exact ⟨decide_eq_true nonempty, rfl⟩
    have fresh : staleSnapshotAck ⟨"config_snapshot", 1002, 2, true, status, reason, message,
        retryable⟩ (resentFirst again second) = false := rfl
    have other : activeMatch ⟨"config_snapshot", 1002, 2, true, status, reason, message,
        retryable⟩ (resentFirst again second) = false := rfl
    rw [view_handleAck, fresh, if_neg Bool.false_ne_true, settled, if_pos rfl, other,
      if_neg Bool.false_ne_true]
    exact congrArg view (@promoteNextPending_of_active 9020 _ active)

/-- The first one is confirmed too: the gate is open, and nothing is held. -/
theorem state_fifth {again : String} (second : String) {state : ConfigSync} {ack : Ack}
    (gate : state.gate = (2, 2, true)) {retryable : Bool}
    (view : state.view = { (resentFirst again second).view with
      queue := .empty Pending configSyncPendingMax
      retryable := retryable })
    (confirms : ConfirmsSecond ack 50001) :
    (ConfigSync.handleAck 9030 ack state).state.telemetryAllowed = true ∧
      forall entry, ¬ (ConfigSync.handleAck 9030 ack state).state.Holds entry := by
  have seq : state.pendingSeq = 50001 := congrArg PendingView.seq view
  have cmd : state.pendingCmd = "config_snapshot" := congrArg PendingView.cmd view
  have queue : state.queue = .empty Pending configSyncPendingMax := congrArg PendingView.queue view
  have version : state.configVersion = 2 := congrArg Prod.fst gate
  have matched : activeMatch ack state = true := by
    rw [activeMatch, seq, cmd, confirms.seq, confirms.cmd]
    rfl
  have fresh : staleSnapshotAck ack state = false := by
    rw [staleSnapshotAck, seq, confirms.seq]
    simp
  have emptied : forall entry, entry ∉ (noted ack state).queue := by
    intro entry member
    have queued := queue_noted ack state entry member
    rw [queue] at queued
    exact SlotTable.not_mem_empty entry queued
  constructor
  · have positive : confirmsSnapshot ack state = true := by
      rw [confirmsSnapshot, confirms.ok, confirms.cmd, fresh]
      rfl
    have spoken : spokenVersion ack state = 2 := by
      rw [spokenVersion, confirms.version]
      rfl
    rw [telemetryAllowed_eq_gate, gate_handleAck, if_pos positive, version, spoken]
    rfl
  · intro entry holds
    have view := view_handleAck 9030 ack state
    rw [fresh, if_neg Bool.false_ne_true, settled, if_pos confirms.ok, if_pos matched] at view
    have stored : (clearActive (noted ack state)).QueueStored :=
      fun entry member => absurd member (emptied entry)
    have cleared := holds_promoteNextPending stored ((holds_congr view entry).mp holds)
    exact emptied entry (holds_clearActive cleared)

/-! ## Some steps of a run -/

section Steps

variable (link : Exchange) (getFloat : Json -> Limit) (stod : String -> Option Rat)

/-- What Pc_data makes of the tree of a snapshot. -/
def storedFrom (clock : Int64) (pc : PcData) (root : Json) : PcData × List Publication :=
  pc.handleSnapshotOf link.pc clock.toInt "config_snapshot" root none defaultGatewayId

/-- A snapshot that changes the memory was stored, and the board hears of it. -/
theorem stored_of_changed {clock : Int64} {pc : PcData} {ports : List ExportedPort} {root : Json}
    {seq : UInt32} (message : SnapshotMessage ports 2 root) (carried : CarriesSeq root seq)
    (count : (exportedKeys ports).length < 2 ^ 62) (unasked : Unasked pc.service)
    (changed : (storedFrom link clock pc root).1.service ≠ pc.service) :
    exists answer ack, pc.handle link.pc clock.toInt stod mqttGatewayRegisterTopic
        (link.board.print root) = ((storedFrom link clock pc root).1, [answer]) ∧
      parseAck link.board answer.payload = some ack ∧ ConfirmsSecond ack seq ∧
      Unasked (storedFrom link clock pc root).1.service := by
  rcases handleSnapshotOf_answered pc link clock message (by decide) count unasked with
    ⟨sent, answered⟩
  have ok : sent.ok = true := by
    cases ok : sent.ok with
    | true => rfl
    | false => exact absurd (answered.handled.refused ok) changed
  rcases parseAck_answer link answered.fits clock answered.cmd answered.version (by decide)
    (by decide) with ⟨ack, parsed, sameOk, cmd, number, version⟩
  have named : ack.seq = seq := by
    have small := seq.toNat_lt
    rw [number, answered.seq, getJsonInt64_seq carried]
    exact (ofInt_eq_iff (by omega) (by omega) seq).mpr rfl
  refine ⟨⟨registerAckTopic sent, link.pc.print (buildRegisterAckJson sent clock.toInt)⟩, ack, ?_,
    parsed, ⟨cmd.trans answered.cmd, named, sameOk.trans ok, UInt32.toNat_inj.mp version⟩,
    answered.handled.unasked⟩
  rw [handle_of_message pc link stod clock.toInt message unasked]
  exact Prod.ext rfl answered.published

theorem boardStep_issue (world : ConfigWorld) {ports : PortManager} (env : Surroundings)
    {seq : UInt32} {nowMs : Int64} {text : String}
    (exported : latestExportText getFloat link.board ports seq nowMs = some text) :
    exists registration, { world with ports := ports }.boardStep link
        (issueEvent link getFloat ports env seq nowMs) =
      { world with
        ports := ports
        board := ⟨(publishLatestSnapshot link.board env seq (some text) world.board.history.length
          world.board.sync).state, world.board.history ++ [registration]⟩
        underway := world.underway ++ [link.board.print (stampVersion
          (versionAtLeastOne (world.board.sync.configVersion + 1))
          (latestExport getFloat link.board ports seq nowMs).toJson)] } := by
  unfold boardStep issueEvent
  rw [exported, SyncWorld.effects, publishedSnapshots_publishLatest, SyncWorld.step]
  dsimp only
  rw [latestSnapshotText_of_exported link getFloat exported]
  exact ⟨_, rfl⟩

theorem boardStep_tick (world : ConfigWorld) {env : Surroundings} {root : Json}
    (again : resends link.board env world.board.sync = some root) :
    exists history, world.boardStep link (.tick env) =
      { world with
        board := ⟨(tick link.board env world.board.sync).state, history⟩
        underway := world.underway ++ [retryText link.board world.board.sync root] } := by
  unfold boardStep
  rw [SyncWorld.effects, publishedSnapshots_tick, again]
  exact ⟨_, rfl⟩

theorem boardStep_ack (world : ConfigWorld) (nowMs : Int) {payload : String} {ack : Ack}
    (parsed : parseAck link.board payload = some ack) :
    exists history, world.boardStep link (.handleAckJson nowMs payload) =
      { world with
        board := ⟨(ConfigSync.handleAck nowMs ack world.board.sync).state, history⟩ } := by
  have state : handleAckJson link.board nowMs payload world.board.sync =
      ConfigSync.handleAck nowMs ack world.board.sync := by
    rw [handleAckJson, parsed]
  unfold boardStep
  rw [SyncWorld.effects, publishedSnapshots_handleAckJson, List.append_nil, SyncWorld.step, state]
  exact ⟨_, rfl⟩

/-! ### Two configurations -/

def firstTree (first : PortManager) : Json :=
  stampVersion 1 (latestExport getFloat link.board first 1001 0).toJson

def secondTree (second : PortManager) : Json :=
  stampVersion 2 (latestExport getFloat link.board second 1002 10).toJson

/-- The first configuration again, under the version of the second. -/
def againTree (first : PortManager) : Json :=
  restamp 50001 2 (firstTree link getFloat first)

def firstText (first : PortManager) : String :=
  link.board.print (firstTree link getFloat first)

def secondText (second : PortManager) : String :=
  link.board.print (secondTree link getFloat second)

def againText (first : PortManager) : String :=
  link.board.print (againTree link getFloat first)

/-- Both configurations are exported, and the buffer of the first message is
large enough for its version too. -/
structure Exportable (first second : PortManager) : Prop where
  exportedFirst : latestExportText getFloat link.board first 1001 0 ≠ none
  exportedSecond : latestExportText getFloat link.board second 1002 10 ≠ none
  copied : copyText configSyncPayloadMax (firstText link getFloat first) =
    firstText link getFloat first

variable {first second : PortManager}

theorem firstTree_wire : (firstTree link getFloat first).Wire Json.maxDepth :=
  SyncWorld.wire_stamp (wire_exportedSnapshot _)

theorem firstText_ne_empty : firstText link getFloat first ≠ "" :=
  link.board.print_ne_empty (firstTree_wire link getFloat)

theorem parse_firstText :
    link.board.parse (firstText link getFloat first) = some (firstTree link getFloat first) :=
  link.board.parse_print _ (firstTree_wire link getFloat)

theorem exportOf_firstTree :
    ExportOf (latestExport getFloat link.board first 1001 0) (firstTree link getFloat first) :=
  ⟨rfl, rfl, rfl⟩

theorem message_second : SnapshotMessage (configuredPorts getFloat link.board second) 2
    (secondTree link getFloat second) :=
  snapshotMessage_stamped (latestExport getFloat link.board second 1002 10) rfl rfl 2

theorem message_again : SnapshotMessage (configuredPorts getFloat link.board first) 2
    (againTree link getFloat first) :=
  snapshotMessage_restamped (exportOf_firstTree link getFloat) (firstTree_wire link getFloat)
    50001 2

theorem run_first (exportable : Exportable link getFloat first second) (ports : PortManager)
    (pc : PcData) :
    exists registration, (system link getFloat stod ports pc).run
        [.issue first (SyncWorld.online 0) 1001 0] =
      ⟨⟨firstActive (firstText link getFloat first), [registration]⟩, first,
        [firstText link getFloat first], pc, []⟩ := by
  rcases Option.ne_none_iff_exists'.mp exportable.exportedFirst with ⟨text, exported⟩
  have read : (some text).bind link.board.parse = _ := parse_latestExport link getFloat exported
  have state := (state_first link.board read).trans (congrArg firstActive exportable.copied)
  rcases boardStep_issue link getFloat ⟨SyncWorld.initial, ports, [], pc, []⟩ (SyncWorld.online 0)
    exported with ⟨registration, issued⟩
  refine ⟨registration, issued.trans ?_⟩
  exact congrArg (fun sync => (⟨⟨sync, [registration]⟩, first, [firstText link getFloat first], pc,
    []⟩ : ConfigWorld)) state

theorem run_second (exportable : Exportable link getFloat first second) (ports : PortManager)
    (pc : PcData) :
    exists history waiting, (system link getFloat stod ports pc).run
        [.issue first (SyncWorld.online 0) 1001 0, .issue second (SyncWorld.online 10) 1002 10] =
      ⟨⟨bothHeld (firstText link getFloat first) waiting, history⟩, second,
        [firstText link getFloat first, secondText link getFloat second], pc, []⟩ := by
  rcases Option.ne_none_iff_exists'.mp exportable.exportedSecond with ⟨text, exported⟩
  have read : (some text).bind link.board.parse = _ := parse_latestExport link getFloat exported
  have nonempty : firstText link getFloat first ≠ "" := firstText_ne_empty link getFloat
  have state := state_second link.board nonempty read
  rcases run_first link getFloat stod exportable ports pc with ⟨one, before⟩
  rcases boardStep_issue link getFloat ⟨⟨firstActive (firstText link getFloat first), [one]⟩, first,
    [firstText link getFloat first], pc, []⟩ (SyncWorld.online 10) exported with ⟨two, issued⟩
  refine ⟨[one, two], copyText configSyncPayloadMax (secondText link getFloat second),
    (congrArg (fun world => (system link getFloat stod ports pc).step world
      (.issue second (SyncWorld.online 10) 1002 10)) before).trans (issued.trans ?_)⟩
  exact congrArg (fun sync => (⟨⟨sync, [one, two]⟩, second,
    [firstText link getFloat first, secondText link getFloat second], pc, []⟩ : ConfigWorld)) state

theorem handleNext_of_handled {board : SyncWorld} {ports : PortManager} {text : String}
    {later : List String} {pc next : PcData} {answers sent : List Publication} {clock : Int64}
    (handled : pc.handle link.pc clock.toInt stod mqttGatewayRegisterTopic text = (next, sent)) :
    handleNext link stod ⟨board, ports, text :: later, pc, answers⟩ clock =
      ⟨board, ports, later, next, answers ++ sent⟩ := by
  rw [handleNext]
  dsimp only
  rw [handled]

/-- The snapshot of the first configuration gets lost, and Pc_data stores the
second. -/
theorem run_stored (exportable : Exportable link getFloat first second) (ports : PortManager)
    {pc next : PcData} {answer : Publication}
    (handled : pc.handle link.pc (20 : Int64).toInt stod mqttGatewayRegisterTopic
      (secondText link getFloat second) = (next, [answer])) :
    exists history waiting, (system link getFloat stod ports pc).run
        [.issue first (SyncWorld.online 0) 1001 0, .issue second (SyncWorld.online 10) 1002 10,
          .loseMessage 0, .handle 20] =
      ⟨⟨bothHeld (firstText link getFloat first) waiting, history⟩, second, [], next,
        [answer]⟩ := by
  rcases run_second link getFloat stod exportable ports pc with ⟨history, waiting, issued⟩
  have lost : (system link getFloat stod ports pc).step
      ⟨⟨bothHeld (firstText link getFloat first) waiting, history⟩, second,
        [firstText link getFloat first, secondText link getFloat second], pc, []⟩
      (.loseMessage 0) =
      ⟨⟨bothHeld (firstText link getFloat first) waiting, history⟩, second,
        [secondText link getFloat second], pc, []⟩ := rfl
  have stored : (system link getFloat stod ports pc).step
      ⟨⟨bothHeld (firstText link getFloat first) waiting, history⟩, second,
        [secondText link getFloat second], pc, []⟩ (.handle 20) =
      ⟨⟨bothHeld (firstText link getFloat first) waiting, history⟩, second, [], next, [answer]⟩ :=
    handleNext_of_handled link stod handled
  refine ⟨history, waiting, ((system link getFloat stod ports pc).runFrom_append _
    [.issue first (SyncWorld.online 0) 1001 0, .issue second (SyncWorld.online 10) 1002 10]
    [.loseMessage 0, .handle 20]).trans ?_⟩
  change (system link getFloat stod ports pc).runFrom ((system link getFloat stod ports pc).run _)
    _ = _
  rw [issued, TransitionSystem.runFrom_cons, lost, TransitionSystem.runFrom_cons, stored,
    TransitionSystem.runFrom_nil]

/-- A tick sends the first configuration again, and Pc_data stores it. -/
theorem runFrom_resent (initially : PortManager) (pc : PcData) {waiting : String}
    {ports : PortManager} {history : List Registration} {next last : PcData}
    {answers : List Publication} {answerAgain : Publication}
    (handledAgain : next.handle link.pc (9010 : Int64).toInt stod mqttGatewayRegisterTopic
      (againText link getFloat first) = (last, [answerAgain])) :
    exists active history', active ≠ "" ∧ (system link getFloat stod initially pc).runFrom
        ⟨⟨bothHeld (firstText link getFloat first) waiting, history⟩, ports, [], next, answers⟩
        [.tick (SyncWorld.online 9000), .handle 9010] =
      ⟨⟨resentFirst active waiting, history'⟩, ports, [], last, answers ++ [answerAgain]⟩ := by
  have nonempty : firstText link getFloat first ≠ "" := firstText_ne_empty link getFloat
  have read : link.board.parse (firstText link getFloat first) =
      some (firstTree link getFloat first) :=
    parse_firstText link getFloat
  have again := (resends_of_due link.board (due_bothHeld waiting nonempty) rfl).trans read
  rcases boardStep_tick link ⟨⟨bothHeld (firstText link getFloat first) waiting, history⟩, ports,
    [], next, answers⟩ again with ⟨ticked, resent⟩
  rw [state_third link.board waiting nonempty read] at resent
  have held : copyText configSyncPayloadMax (link.board.print (restamp 50001 2
      (firstTree link getFloat first))) ≠ "" :=
    copyText_ne_empty (link.board.print_ne_empty
      (SyncWorld.wire_restamp (firstTree_wire link getFloat))) (by decide)
  generalize copyText configSyncPayloadMax (link.board.print (restamp 50001 2
    (firstTree link getFloat first))) = active at resent held
  have sent : (system link getFloat stod initially pc).step
      ⟨⟨bothHeld (firstText link getFloat first) waiting, history⟩, ports, [], next, answers⟩
      (.tick (SyncWorld.online 9000)) =
      ⟨⟨resentFirst active waiting, ticked⟩, ports, [againText link getFloat first], next,
        answers⟩ := resent
  have stored : (system link getFloat stod initially pc).step
      ⟨⟨resentFirst active waiting, ticked⟩, ports, [againText link getFloat first], next, answers⟩
      (.handle 9010) =
      ⟨⟨resentFirst active waiting, ticked⟩, ports, [], last, answers ++ [answerAgain]⟩ :=
    handleNext_of_handled link stod handledAgain
  refine ⟨active, ticked, held, ?_⟩
  rw [TransitionSystem.runFrom_cons, sent, TransitionSystem.runFrom_cons, stored,
    TransitionSystem.runFrom_nil]

/-- Both are confirmed: the gate is open, and nothing is held. -/
theorem runFrom_confirmed {again waiting : String} (nonempty : again ≠ "")
    {ports initially : PortManager} {history : List Registration} {pc last : PcData}
    {answer answerAgain : Publication} {ack ackAgain : Ack}
    (parsed : parseAck link.board answer.payload = some ack)
    (parsedAgain : parseAck link.board answerAgain.payload = some ackAgain)
    (confirms : ConfirmsSecond ack 1002) (confirmsAgain : ConfirmsSecond ackAgain 50001) :
    exists board, (system link getFloat stod initially pc).runFrom
        ⟨⟨resentFirst again waiting, history⟩, ports, [], last, [answer, answerAgain]⟩
        [.acknowledge 0 9020, .acknowledge 1 9030] =
        ⟨board, ports, [], last, [answer, answerAgain]⟩ ∧
      board.sync.telemetryAllowed = true ∧ forall entry, ¬ board.sync.Holds entry := by
  rcases boardStep_ack link ⟨⟨resentFirst again waiting, history⟩, ports, [], last,
    [answer, answerAgain]⟩ 9020 parsed with ⟨confirmed, acknowledged⟩
  rcases state_fourth waiting nonempty confirms with ⟨gate, view⟩
  rcases boardStep_ack link ⟨⟨(ConfigSync.handleAck 9020 ack
    (resentFirst again waiting)).state, confirmed⟩, ports, [], last, [answer, answerAgain]⟩ 9030
    parsedAgain with ⟨done, acknowledgedAgain⟩
  refine ⟨⟨(ConfigSync.handleAck 9030 ackAgain
    (ConfigSync.handleAck 9020 ack (resentFirst again waiting)).state).state, done⟩, ?_,
    state_fifth waiting gate view confirmsAgain⟩
  have one : (system link getFloat stod initially pc).step
      ⟨⟨resentFirst again waiting, history⟩, ports, [], last, [answer, answerAgain]⟩
      (.acknowledge 0 9020) =
      ⟨⟨(ConfigSync.handleAck 9020 ack (resentFirst again waiting)).state, confirmed⟩, ports, [],
        last, [answer, answerAgain]⟩ := acknowledged
  rw [TransitionSystem.runFrom_cons, one]
  exact acknowledgedAgain

/-- A snapshot of the first configuration gets lost; Pc_data stores one of the
second, and then the first again.  All answers arrive. -/
def overtaken (first second : PortManager) : List ConfigEvent :=
  [.issue first (SyncWorld.online 0) 1001 0, .issue second (SyncWorld.online 10) 1002 10,
    .loseMessage 0, .handle 20, .tick (SyncWorld.online 9000), .handle 9010, .acknowledge 0 9020,
    .acknowledge 1 9030]

/-- The gate is open at the end, nothing is held or underway, and Pc_data has
stored the first configuration last. -/
theorem run_overtaken (exportable : Exportable link getFloat first second) (ports : PortManager)
    {pc next last : PcData} {answer answerAgain : Publication}
    (handled : pc.handle link.pc (20 : Int64).toInt stod mqttGatewayRegisterTopic
      (secondText link getFloat second) = (next, [answer]))
    (handledAgain : next.handle link.pc (9010 : Int64).toInt stod mqttGatewayRegisterTopic
      (againText link getFloat first) = (last, [answerAgain]))
    {ack ackAgain : Ack} (parsed : parseAck link.board answer.payload = some ack)
    (parsedAgain : parseAck link.board answerAgain.payload = some ackAgain)
    (confirms : ConfirmsSecond ack 1002) (confirmsAgain : ConfirmsSecond ackAgain 50001) :
    exists board, (system link getFloat stod ports pc).run (overtaken first second) =
        ⟨board, second, [], last, [answer, answerAgain]⟩ ∧
      board.sync.telemetryAllowed = true ∧ forall entry, ¬ board.sync.Holds entry := by
  rcases run_stored link getFloat stod exportable ports handled with ⟨history, waiting, stored⟩
  rcases runFrom_resent link getFloat stod ports pc handledAgain with
    ⟨active, ticked, held, resent⟩
  rcases runFrom_confirmed link getFloat stod held parsed parsedAgain confirms confirmsAgain with
    ⟨board, confirmed, quiet⟩
  refine ⟨board, ((system link getFloat stod ports pc).runFrom_append _
    [.issue first (SyncWorld.online 0) 1001 0, .issue second (SyncWorld.online 10) 1002 10,
      .loseMessage 0, .handle 20]
    [.tick (SyncWorld.online 9000), .handle 9010, .acknowledge 0 9020,
      .acknowledge 1 9030]).trans ?_, quiet⟩
  change (system link getFloat stod ports pc).runFrom ((system link getFloat stod ports pc).run _)
    _ = _
  rw [stored]
  refine ((system link getFloat stod ports pc).runFrom_append _
    [.tick (SyncWorld.online 9000), .handle 9010] [.acknowledge 0 9020, .acknowledge 1 9030]).trans
    ?_
  rw [resent]
  exact confirmed

end Steps

/-! ## A relay that comes back -/

/-- Pc_data with an empty database. -/
def freshPc : PcData := seeded blankDatabase 0

theorem freshPc_unasked : Unasked freshPc.service where
  waiting := fun _ => rfl
  filed := by
    intro text device found
    cases found

def oneRelay : PortManager := (portSystem exactFloat JsonC.jsonText none).run relayEvents

def twoRelays : PortManager := (portSystem exactFloat JsonC.jsonText none).run laterRelayEvents

theorem configuredDevices_oneRelay :
    configuredDevices exactFloat JsonC.jsonText oneRelay = [(0, 3)] := by
  decide +kernel

theorem configuredDevices_twoRelays :
    configuredDevices exactFloat JsonC.jsonText twoRelays = [(0, 3), (0, 5)] := by
  decide +kernel

theorem count_oneRelay :
    (configuredDevices exactFloat JsonC.jsonText oneRelay).length < 2 ^ 62 := by
  rw [configuredDevices_oneRelay]
  decide

theorem count_twoRelays :
    (configuredDevices exactFloat JsonC.jsonText twoRelays).length < 2 ^ 62 := by
  rw [configuredDevices_twoRelays]
  decide

theorem textBytes_print (json : Json) : textBytes (JsonC.jsonText.print json) =
    byteLength (JsonText.valueText true Json.maxDepth json) :=
  congrArg byteLength String.toList_ofList

theorem exported_of_fits {ports : PortManager} {seq : UInt32} {nowMs : Int64}
    (fits : byteLength (JsonText.valueText true Json.maxDepth
      (latestExport exactFloat JsonC.jsonText ports seq nowMs).toJson) < configSyncPayloadMax) :
    latestExportText exactFloat JsonC.jsonText ports seq nowMs ≠ none := by
  rw [← textBytes_print] at fits
  have room : ¬configSyncPayloadMax < textBytes (JsonC.jsonText.print
      (latestExport exactFloat JsonC.jsonText ports seq nowMs).toJson) + 1 := not_lt.mpr fits
  have buffer : configSyncPayloadMax ≠ 0 := by decide
  unfold latestExportText exportConfigSnapshotJson
  dsimp only
  rw [if_neg]
  · exact Option.some_ne_none _
  · exact not_or.mpr ⟨buffer, room⟩

theorem exportable_relays : Exportable .jsonText exactFloat twoRelays oneRelay where
  exportedFirst := exported_of_fits (by decide +kernel)
  exportedSecond := exported_of_fits (by decide +kernel)
  copied := by
    apply copyText_of_fits
    rw [firstText, show Exchange.jsonText.board = JsonC.jsonText from rfl, textBytes_print]
    decide +kernel

/-- A snapshot of two relays that is sent again before its answer arrives. -/
def resentRun : List ConfigEvent :=
  [.issue twoRelays (SyncWorld.online 0) 1001 0, .tick (SyncWorld.online 9000), .handle 9010,
    .handle 9020, .acknowledge 1 9030]

theorem resentRun_admissible :
    (system .jsonText exactFloat (fun _ => none) (.constructed none) freshPc).Admissible
      (ConvergenceCondition .jsonText exactFloat) resentRun := by
  rcases run_first .jsonText exactFloat (fun _ => none) exportable_relays (.constructed none)
    freshPc with ⟨registration, issued⟩
  refine ⟨⟨exportable_relays.exportedFirst, by decide, count_twoRelays, by decide⟩, ?_, trivial,
    trivial, trivial, trivial⟩
  change ConvergenceCondition .jsonText exactFloat ((system .jsonText exactFloat (fun _ => none)
    (.constructed none) freshPc).run [.issue twoRelays (SyncWorld.online 0) 1001 0])
    (.tick (SyncWorld.online 9000))
  rw [issued]
  intro root again
  have sent : resends Exchange.jsonText.board (SyncWorld.online 9000)
      (firstActive (firstText .jsonText exactFloat twoRelays)) =
        some (firstTree .jsonText exactFloat twoRelays) :=
    (resends_of_due _ (due_firstActive (firstText_ne_empty .jsonText exactFloat)) rfl).trans
      (parse_firstText .jsonText exactFloat)
  cases sent.symm.trans again
  exact ⟨_, exportOf_firstTree .jsonText exactFloat, .refl _⟩

theorem config_converges_resent :
    Converged .jsonText exactFloat
      ((system .jsonText exactFloat (fun _ => none) (.constructed none) freshPc).run resentRun) :=
  config_converges .jsonText exactFloat (fun _ => none) (.constructed none) freshPc_unasked
    resentRun_admissible resentRun [] (List.append_nil _).symm

def onceStored : PcData :=
  (storedFrom .jsonText 20 freshPc (secondTree .jsonText exactFloat oneRelay)).1

def twiceStored : PcData :=
  (storedFrom .jsonText 9010 onceStored (againTree .jsonText exactFloat twoRelays)).1

theorem onceStored_changed : onceStored.service ≠ freshPc.service := by
  intro same
  have registered : onceStored.service.deviceRegistered "gateway_001" "port_001" 3 = true := by
    decide +kernel
  rw [same] at registered
  revert registered
  decide +kernel

theorem twiceStored_registered :
    twiceStored.service.deviceRegistered "gateway_001" "port_001" 5 = true := by
  decide +kernel

theorem twiceStored_changed : twiceStored.service ≠ onceStored.service := by
  intro same
  have registered := twiceStored_registered
  rw [same] at registered
  revert registered
  decide +kernel

/-- The second relay is registered again, though the board no longer has it.  No
write has failed and no device was deleted. -/
theorem removed_relay_registered :
    exists world, world = (system .jsonText exactFloat (fun _ => none) (.constructed none)
        freshPc).run (overtaken twoRelays oneRelay) ∧
      Unasked freshPc.service ∧ world.pc.database.Healthy ∧
      (world.pc.database.devices.values.all fun row => !row.tombstoned) = true ∧
      ¬ Converged .jsonText exactFloat world := by
  rcases stored_of_changed .jsonText (fun _ => none) (message_second .jsonText exactFloat)
    (⟨rfl, Or.inl rfl⟩ : CarriesSeq _ 1002) count_oneRelay freshPc_unasked onceStored_changed with
    ⟨answer, ack, handled, parsed, confirms, unasked⟩
  rcases stored_of_changed .jsonText (fun _ => none) (message_again .jsonText exactFloat)
    (⟨rfl, Or.inl rfl⟩ : CarriesSeq _ 50001) count_twoRelays unasked twiceStored_changed with
    ⟨answerAgain, ackAgain, handledAgain, parsedAgain, confirmsAgain, -⟩
  rcases run_overtaken .jsonText exactFloat (fun _ => none) exportable_relays (.constructed none)
    handled handledAgain parsed parsedAgain confirms confirmsAgain with
    ⟨board, ended, opened, quiet⟩
  have healthy : twiceStored.database.isOpen = true ∧ twiceStored.database.outcomes = [] := by
    decide +kernel
  have kept : (twiceStored.database.devices.values.all fun row => !row.tombstoned) = true := by
    decide +kernel
  refine ⟨_, ended.symm, freshPc_unasked, ⟨healthy.1, healthy.2⟩, kept, ?_⟩
  intro converged
  have registers : RegistersExactly twiceStored.service [(0, 3)] := by
    rw [← configuredDevices_oneRelay]
    exact converged opened quiet rfl
  rcases (registers ⟨"gateway_001", "port_001", 5, by decide, by decide, by decide⟩ rfl).mp
    twiceStored_registered with ⟨device, inside, -, number⟩
  rw [List.mem_singleton.mp inside] at number
  cases number

end ConfigWorld

end Link
end Imx6Gateway
