import Imx6Gateway.Pc.CommandThreads

namespace Imx6Gateway
namespace Pc

open Library

/-!
# Commands that have waited too long

The main thread collects the commands that have waited for ten or for thirty
seconds, and then tells the log and the user interface of one after the other.
A final answer may end such a command in between.  What the threads have done
with a command is described by its phase; every step of a thread takes one
command from one phase to the next.
-/

/-- The command that a message reports as ended. -/
def UiMessage.ends : UiMessage -> Option String
  | .commandAck commandId _ stage _ _ _ => if stage = "done" then some commandId else none
  | .commandLogUpdate _ _ _ _ _ => none

/-- The command that a message reports as late. -/
def UiMessage.delays : UiMessage -> Option String
  | .commandAck _ _ _ _ _ _ => none
  | .commandLogUpdate commandId _ status _ _ =>
      if status = "waiting" ∨ status = "timeout" then some commandId else none

/-- A command that has been reported as ended is not reported again. -/
def UiMessage.MayFollow (earlier later : UiMessage) : Prop :=
  forall commandId, commandId ≠ "" -> earlier.ends = some commandId ->
    later.ends ≠ some commandId ∧ later.delays ≠ some commandId

namespace CommandWorld

def LogKept (world : CommandWorld) : Prop :=
  forall commandId, commandId ∈ world.settled ->
    forall row, world.commandLog.get commandId = some row ->
      row.status ∉ ["sent", "waiting", "timeout"]

/-- What the final answer has brought into the log stays there, and nothing is
said about a command after its final acknowledgement. -/
structure EndsOnce (world : CommandWorld) : Prop where
  log : world.LogKept
  told : world.toUi.Pairwise UiMessage.MayFollow

end CommandWorld

/-! ## Phases -/

inductive CommandPhase where
  | new
  | begun
  | waiting
  | matched
  | answered
  | closed
  | failed
deriving DecidableEq

/-- The command that is published but not yet remembered, or that could not be published. -/
def IpcThread.begun : IpcThread -> Option PendingCommandTarget
  | .idle => none
  | .logged _ target => some target
  | .published target _ => some target
  | .logUpdated target _ => some target
  | .remembered target ok => if ok then none else some target

/-- The phase that the thread has brought its command to. -/
def MqttThread.phaseOf (thread : MqttThread) (commandId : String) : Option CommandPhase :=
  match thread with
  | .idle => none
  | .matched ack =>
      if ack.target.commandId = commandId then
        some (if isFinalAck ack.root then .matched else .waiting)
      else none
  | .answered ack =>
      if ack.target.commandId = commandId then
        some (if isFinalAck ack.root then .answered else .waiting)
      else none
  | .logUpdated ack _ _ _ =>
      if ack.target.commandId = commandId then
        some (if isFinalAck ack.root then .closed else .waiting)
      else none

def ScanThread.collected : ScanThread -> List WaitingCommand
  | .idle => []
  | .announcing _ commands => commands
  | .expiring commands => commands
  | .reporting command commands => command :: commands

/-- What a state says about one command. -/
structure CommandFacts where
  client : Prop
  recording : Prop
  submitted : Prop
  begun : Prop
  pending : Prop
  handled : Option CommandPhase
  collected : Prop
  told : Prop
  settled : Prop
  recorded : Prop

namespace CommandWorld

def Told (world : CommandWorld) (commandId : String) : Prop :=
  commandId ≠ "" ∧ exists message, message ∈ world.toUi ∧ message.ends = some commandId

def facts (world : CommandWorld) (commandId : String) : CommandFacts where
  client := world.hasClient = true
  recording := world.databaseOpen = true
  submitted := commandId ≠ "" ∧ commandId ∈ world.submitted
  begun := exists target, world.ipc.begun = some target ∧ target.commandId = commandId
  pending := (world.pendingCommands.get commandId).isSome = true
  handled := world.mqtt.phaseOf commandId
  collected := exists command, command ∈ world.scan.collected ∧
    command.target.commandId = commandId
  told := world.Told commandId
  settled := commandId ∈ world.settled
  recorded := (world.commandLog.get commandId).isSome = true

end CommandWorld

/-- What is known of a command in a phase. -/
def CommandFacts.Shows (facts : CommandFacts) : CommandPhase -> Prop
  | .new => ¬facts.submitted ∧ ¬facts.begun ∧ ¬facts.pending ∧ facts.handled = none ∧
      ¬facts.collected ∧ ¬facts.told ∧ ¬facts.settled
  | .begun => facts.submitted ∧ facts.begun ∧ ¬facts.pending ∧ facts.handled = none ∧
      ¬facts.collected ∧ ¬facts.told ∧ ¬facts.settled ∧ (facts.recording -> facts.recorded)
  | .waiting => facts.submitted ∧ ¬facts.begun ∧ facts.pending ∧
      (facts.handled = none ∨ facts.handled = some .waiting) ∧ ¬facts.told ∧ ¬facts.settled ∧
      (facts.recording -> facts.recorded)
  | .matched => facts.submitted ∧ ¬facts.begun ∧ ¬facts.pending ∧
      facts.handled = some .matched ∧ ¬facts.told ∧ ¬facts.settled ∧
      (facts.recording -> facts.recorded)
  | .answered => facts.submitted ∧ ¬facts.begun ∧ ¬facts.pending ∧
      facts.handled = some .answered ∧ (facts.client -> facts.told) ∧ ¬facts.settled ∧
      (facts.recording -> facts.recorded)
  | .closed => facts.submitted ∧ ¬facts.begun ∧ ¬facts.pending ∧
      (facts.handled = none ∨ facts.handled = some .closed) ∧ (facts.client -> facts.told) ∧
      (facts.recording -> facts.settled ∧ facts.recorded)
  | .failed => facts.submitted ∧ ¬facts.begun ∧ ¬facts.pending ∧ facts.handled = none ∧
      ¬facts.collected ∧ ¬facts.settled

/-- Every command is in a phase, and what the threads hold is well formed. -/
structure CommandWorld.Phased (world : CommandWorld) : Prop where
  phase : forall commandId, exists phase, (world.facts commandId).Shows phase
  keyed : forall commandId command, world.pendingCommands.get commandId = some command ->
    command.target.commandId = commandId
  typed : forall target, world.ipc.begun = some target -> target.commandType ≠ ""
  quiet : forall ack status reason message,
    world.mqtt = .logUpdated ack status reason message -> status ≠ "waiting" ∧ status ≠ "timeout"

namespace CommandFacts

variable {facts : CommandFacts}

/-- A phase does not say that a command has been collected. -/
theorem shows_released {phase : CommandPhase} (before : facts.Shows phase) {collected : Prop}
    (fewer : collected -> facts.collected) :
    ({ facts with collected := collected } : CommandFacts).Shows phase := by
  cases phase with
  | new => exact before.imp_right fun ⟨b, p, h, c, t⟩ => ⟨b, p, h, mt fewer c, t⟩
  | begun => exact before.imp_right fun ⟨b, p, h, c, t⟩ => ⟨b, p, h, mt fewer c, t⟩
  | failed => exact before.imp_right fun ⟨b, p, h, c, t⟩ => ⟨b, p, h, mt fewer c, t⟩
  | _ => exact before

theorem phase_of_begun {phase : CommandPhase} (before : facts.Shows phase)
    (begun : facts.begun) : phase = .begun := by
  cases phase with
  | begun => rfl
  | _ => exact absurd begun before.2.1

theorem phase_of_pending {phase : CommandPhase} (before : facts.Shows phase)
    (pending : facts.pending) : phase = .waiting := by
  cases phase with
  | waiting => rfl
  | _ => exact absurd pending before.2.2.1

theorem phase_of_new {phase : CommandPhase} (before : facts.Shows phase)
    (new : ¬facts.submitted) : phase = .new := by
  cases phase with
  | new => rfl
  | _ => exact absurd before.1 new

theorem phase_of_handled {phase stage : CommandPhase} (before : facts.Shows phase)
    (handled : facts.handled = some stage) : phase = stage := by
  cases phase with
  | waiting =>
      rcases before.2.2.2.1 with none | some
      · cases none.symm.trans handled
      · exact Option.some.inj (some.symm.trans handled)
  | closed =>
      rcases before.2.2.2.1 with none | some
      · cases none.symm.trans handled
      · exact Option.some.inj (some.symm.trans handled)
  | _ => cases before.2.2.2.1.symm.trans handled <;> rfl

end CommandFacts

/-! ## The log and the messages -/

namespace CommandWorld

theorem log_update_of_ne (world : CommandWorld) {commandId other : String}
    (status reason message : String) (different : other ≠ commandId) :
    (world.updateCommandLogByCommandId commandId status reason message).commandLog.get other =
      world.commandLog.get other := by
  unfold updateCommandLogByCommandId
  dsimp only
  split
  · rfl
  · rw [Table.get_updateWhere]
    simp [different]

theorem log_update (world : CommandWorld) {commandId status : String} (reason message : String)
    (isOpen : world.databaseOpen = true) (named : commandId ≠ "") (stated : status ≠ "") :
    (world.updateCommandLogByCommandId commandId status reason message).commandLog.get commandId =
      (world.commandLog.get commandId).map fun _ => ⟨status, reason, message⟩ := by
  unfold updateCommandLogByCommandId
  dsimp only
  rw [if_neg (by simp [isOpen, named, stated]), Table.get_updateWhere]
  simp

theorem recorded_update (world : CommandWorld) (commandId status reason message other : String) :
    ((world.updateCommandLogByCommandId commandId status reason message).commandLog.get
      other).isSome = (world.commandLog.get other).isSome := by
  unfold updateCommandLogByCommandId
  dsimp only
  split
  · rfl
  · rw [Table.get_updateWhere, Option.isSome_map]

theorem log_create_of_ne (world : CommandWorld) {commandId other : String} (commandType : String)
    (different : other ≠ commandId) :
    (world.createCommandLog commandId commandType).commandLog.get other =
      world.commandLog.get other := by
  unfold createCommandLog
  dsimp only
  split
  · rfl
  · rw [Table.get_put, if_neg different]

theorem told_sendMessage (world : CommandWorld) (message : UiMessage) (commandId : String) :
    (world.sendMessage message).Told commandId ↔ world.Told commandId ∨
      world.hasClient = true ∧ commandId ≠ "" ∧ message.ends = some commandId := by
  unfold Told sendMessage
  dsimp only
  split
  · rename_i client
    simp only [List.mem_append, List.mem_singleton, or_and_right, exists_or, exists_eq_left,
      client, true_and, and_or_left]
  · rename_i absent
    exact (or_iff_left fun both => absent both.1).symm

/-- A message that ends no command tells nothing. -/
theorem told_sendMessage_of_open (world : CommandWorld) {message : UiMessage}
    (goesOn : message.ends = none) (commandId : String) :
    (world.sendMessage message).Told commandId ↔ world.Told commandId := by
  rw [told_sendMessage, goesOn]
  simp

theorem told_sendMessage_of_ne (world : CommandWorld) {message : UiMessage}
    {commandId other : String} (ends : message.ends = some commandId) (different : other ≠ commandId) :
    (world.sendMessage message).Told other ↔ world.Told other := by
  rw [told_sendMessage, ends]
  simp [Ne.symm different]

/-- A message keeps the order exactly if its command has not been reported as ended. -/
theorem pairwise_sendMessage (world : CommandWorld) (message : UiMessage) :
    (world.sendMessage message).toUi.Pairwise UiMessage.MayFollow ↔
      world.toUi.Pairwise UiMessage.MayFollow ∧ (world.hasClient = true ->
        forall commandId, message.ends = some commandId ∨ message.delays = some commandId ->
          ¬world.Told commandId) := by
  unfold sendMessage
  dsimp only
  split
  · rename_i client
    rw [List.pairwise_append]
    constructor
    · rintro ⟨ordered, -, after⟩
      refine ⟨ordered, ?_⟩
      rintro - commandId concerned ⟨named, earlier, listed, ended⟩
      rcases after earlier listed message List.mem_cons_self commandId named ended with
        ⟨once, later⟩
      exact concerned.elim once later
    · rintro ⟨ordered, free⟩
      refine ⟨ordered, List.pairwise_singleton _ _, ?_⟩
      intro earlier listed later same commandId named ended
      rw [List.mem_singleton.mp same]
      have told : world.Told commandId := ⟨named, earlier, listed, ended⟩
      exact ⟨fun ends => free client commandId (Or.inl ends) told,
        fun delays => free client commandId (Or.inr delays) told⟩
  · rename_i absent
    exact ⟨fun ordered => ⟨ordered, fun client => absurd client absent⟩, And.left⟩

/-- A step that writes the row of one command only. -/
theorem logKept_of_row {world next : CommandWorld} (kept : world.LogKept) {commandId : String}
    (rows : forall other, other ≠ commandId ->
      next.commandLog.get other = world.commandLog.get other)
    (settled : forall other, other ≠ commandId -> other ∈ next.settled -> other ∈ world.settled)
    (written : commandId ∈ next.settled -> forall row,
      next.commandLog.get commandId = some row -> row.status ∉ ["sent", "waiting", "timeout"]) :
    next.LogKept := by
  intro other listed row found
  by_cases same : other = commandId
  · subst same
    exact written listed row found
  · rw [rows other same] at found
    exact kept other (settled other same listed) row found

/-! ## Steps -/

/-- A step that concerns no command. -/
theorem Phased.unchanged {world next : CommandWorld} (phased : world.Phased)
    (same : forall commandId, next.facts commandId = world.facts commandId)
    (keyed : forall commandId command, next.pendingCommands.get commandId = some command ->
      command.target.commandId = commandId)
    (typed : forall target, next.ipc.begun = some target -> target.commandType ≠ "")
    (quiet : forall ack status reason message,
      next.mqtt = .logUpdated ack status reason message ->
        status ≠ "waiting" ∧ status ≠ "timeout") :
    next.Phased := by
  refine ⟨?_, keyed, typed, quiet⟩
  intro commandId
  rw [same commandId]
  exact phased.phase commandId

/-- A step that concerns one command. -/
theorem Phased.move {world next : CommandWorld} (phased : world.Phased) (commandId : String)
    (others : forall other, other ≠ commandId -> next.facts other = world.facts other)
    (mine : exists phase, (next.facts commandId).Shows phase)
    (keyed : forall commandId command, next.pendingCommands.get commandId = some command ->
      command.target.commandId = commandId)
    (typed : forall target, next.ipc.begun = some target -> target.commandType ≠ "")
    (quiet : forall ack status reason message,
      next.mqtt = .logUpdated ack status reason message ->
        status ≠ "waiting" ∧ status ≠ "timeout") :
    next.Phased := by
  refine ⟨?_, keyed, typed, quiet⟩
  intro other
  by_cases same : other = commandId
  · subst same
    exact mine
  · rw [others other same]
    exact phased.phase other

theorem facts_new {world : CommandWorld} (phased : world.Phased) {commandId : String}
    (fresh : commandId = "" ∨ commandId ∉ world.submitted) :
    (world.facts commandId).Shows .new := by
  rcases phased.phase commandId with ⟨phase, before⟩
  have new : ¬(world.facts commandId).submitted := by
    rintro ⟨named, listed⟩
    exact fresh.elim named (absurd listed)
  rw [CommandFacts.phase_of_new before new] at before
  exact before

theorem facts_begun {world : CommandWorld} (phased : world.Phased)
    {target : PendingCommandTarget} (begun : world.ipc.begun = some target) :
    (world.facts target.commandId).Shows .begun := by
  rcases phased.phase target.commandId with ⟨phase, before⟩
  rw [CommandFacts.phase_of_begun before ⟨target, begun, rfl⟩] at before
  exact before

theorem facts_pending {world : CommandWorld} (phased : world.Phased) {commandId : String}
    (pending : (world.pendingCommands.get commandId).isSome = true) :
    (world.facts commandId).Shows .waiting := by
  rcases phased.phase commandId with ⟨phase, before⟩
  rw [CommandFacts.phase_of_pending before pending] at before
  exact before

theorem facts_handled {world : CommandWorld} (phased : world.Phased) {commandId : String}
    {stage : CommandPhase} (handled : world.mqtt.phaseOf commandId = some stage) :
    (world.facts commandId).Shows stage := by
  rcases phased.phase commandId with ⟨phase, before⟩
  rw [CommandFacts.phase_of_handled before handled] at before
  exact before

/-- Which commands have been collected is told apart. -/
theorem facts_collecting {world next : CommandWorld} {commandId : String}
    (client : next.hasClient = world.hasClient)
    (recording : next.databaseOpen = world.databaseOpen)
    (submitted : commandId ∈ next.submitted ↔ commandId ∈ world.submitted)
    (begun : (exists target, next.ipc.begun = some target ∧ target.commandId = commandId) ↔
      exists target, world.ipc.begun = some target ∧ target.commandId = commandId)
    (pending : (next.pendingCommands.get commandId).isSome =
      (world.pendingCommands.get commandId).isSome)
    (handled : next.mqtt.phaseOf commandId = world.mqtt.phaseOf commandId)
    (told : next.Told commandId ↔ world.Told commandId)
    (settled : commandId ∈ next.settled ↔ commandId ∈ world.settled)
    (recorded : (next.commandLog.get commandId).isSome =
      (world.commandLog.get commandId).isSome) :
    next.facts commandId =
      { world.facts commandId with collected := (next.facts commandId).collected } := by
  unfold facts
  rw [client, recording, submitted, begun, pending, handled, told, settled, recorded]

theorem facts_eq {world next : CommandWorld} {commandId : String}
    (client : next.hasClient = world.hasClient)
    (recording : next.databaseOpen = world.databaseOpen)
    (submitted : commandId ∈ next.submitted ↔ commandId ∈ world.submitted)
    (begun : (exists target, next.ipc.begun = some target ∧ target.commandId = commandId) ↔
      exists target, world.ipc.begun = some target ∧ target.commandId = commandId)
    (pending : (next.pendingCommands.get commandId).isSome =
      (world.pendingCommands.get commandId).isSome)
    (handled : next.mqtt.phaseOf commandId = world.mqtt.phaseOf commandId)
    (collected : (next.facts commandId).collected ↔ (world.facts commandId).collected)
    (told : next.Told commandId ↔ world.Told commandId)
    (settled : commandId ∈ next.settled ↔ commandId ∈ world.settled)
    (recorded : (next.commandLog.get commandId).isSome =
      (world.commandLog.get commandId).isSome) :
    next.facts commandId = world.facts commandId := by
  rw [facts_collecting client recording submitted begun pending handled told settled recorded,
    collected]

/-! ### The thread of the user interface -/

theorem ends_ack (commandId commandType : String) (ok : Bool) (reason message : String) :
    (UiMessage.commandAck commandId commandType "done" ok reason message).ends = some commandId :=
  rfl

theorem refused_keeps {world : CommandWorld} (phased : world.Phased) (ordered : world.EndsOnce)
    {commandId : String} (fresh : commandId = "" ∨ commandId ∉ world.submitted)
    (commandType reason message : String) :
    ({ world with submitted := world.submitted ++ [commandId] }.refuse commandId commandType reason
        message).Phased ∧
      ({ world with submitted := world.submitted ++ [commandId] }.refuse commandId commandType
        reason message).EndsOnce := by
  let listed : CommandWorld := { world with submitted := world.submitted ++ [commandId] }
  have new := facts_new phased fresh
  rcases new with ⟨-, begun, pending, handled, collected, told, settled⟩
  have rows (other : String) (different : other ≠ commandId) :
      (listed.refuse commandId commandType reason message).commandLog.get other =
        world.commandLog.get other := by
    unfold refuse
    dsimp only
    split
    · rw [log_update_of_ne _ _ _ _ different, log_create_of_ne _ _ different]
    · rfl
  constructor
  · apply phased.move commandId
    · intro other different
      refine facts_eq rfl rfl ?_ Iff.rfl rfl rfl Iff.rfl ?_ Iff.rfl ?_
      · simp [refuse, sendMessage, different]
      · exact told_sendMessage_of_ne listed rfl different
      · exact congrArg Option.isSome (rows other different)
    · by_cases named : commandId = ""
      · exact ⟨.new, fun submitted => submitted.1 named, begun, pending, handled, collected,
          fun again => again.1 named, settled⟩
      · exact ⟨.failed, ⟨named, List.mem_append_right _ List.mem_cons_self⟩, begun, pending,
          handled, collected, settled⟩
    · exact phased.keyed
    · exact phased.typed
    · exact phased.quiet
  · constructor
    · apply logKept_of_row ordered.log rows
      · exact fun _ _ inside => inside
      · exact fun inside => absurd inside settled
    · apply (pairwise_sendMessage listed _).mpr
      refine ⟨ordered.told, ?_⟩
      rintro - other (ends | delays)
      · rw [ends_ack, Option.some.injEq] at ends
        rw [← ends]
        exact told
      · cases delays

theorem request_keeps_phases {world : CommandWorld} (phased : world.Phased)
    (ordered : world.EndsOnce) (portConnected : Bool) (nowMs : Int) (root : Json) {cmdId : String}
    (fresh : cmdId = "" ∨ cmdId ∉ world.submitted) :
    (world.request portConnected nowMs root cmdId).Phased ∧
      (world.request portConnected nowMs root cmdId).EndsOnce := by
  unfold request
  split
  case h_2 => exact ⟨phased, ordered⟩
  case h_1 idle =>
    split
    · exact ⟨phased, ordered⟩
    · exact refused_keeps phased ordered fresh _ _ _
    · rename_i topic _ target published
      rcases handleCommand_describes published with ⟨describes, named, typed⟩
      rw [← describes.commandId] at fresh named ⊢
      rcases facts_new phased fresh with ⟨-, -, pending, handled, collected, told, settled⟩
      have nobody : forall other : String, ¬exists begun, world.ipc.begun = some begun ∧
          begun.commandId = other := by
        rintro other ⟨begun, same, -⟩
        rw [idle] at same
        cases same
      have rows (other : String) (different : other ≠ target.commandId) :=
        log_create_of_ne world target.commandType different
      constructor
      · apply phased.move target.commandId
        · intro other different
          refine facts_eq rfl rfl ?_ ?_ rfl rfl Iff.rfl Iff.rfl Iff.rfl ?_
          · simp [different]
          · refine iff_of_false ?_ (nobody other)
            rintro ⟨begun, same, here⟩
            cases same
            exact different here.symm
          · exact congrArg Option.isSome (rows other different)
        · refine ⟨.begun, ⟨named, List.mem_append_right _ List.mem_cons_self⟩, ⟨target, rfl, rfl⟩,
            pending, handled, collected, told, settled, ?_⟩
          intro recording
          have isOpen : world.databaseOpen = true := recording
          change ((world.createCommandLog target.commandId target.commandType).commandLog.get
            target.commandId).isSome = true
          unfold createCommandLog
          dsimp only
          rw [if_neg (by simp [isOpen, named, typed]), Table.get_put, if_pos rfl]
          rfl
        · exact phased.keyed
        · intro begun same
          cases same
          exact typed
        · exact phased.quiet
      · constructor
        · apply logKept_of_row ordered.log rows
          · exact fun _ _ inside => inside
          · exact fun inside => absurd inside settled
        · exact ordered.told

/-- The command is remembered, or has failed. -/
theorem remember_keeps {world : CommandWorld} (phased : world.Phased) (ordered : world.EndsOnce)
    {target : PendingCommandTarget} {ok : Bool} (begun : world.ipc = .logUpdated target ok)
    (publishOk : Bool) (nowMs : Int) :
    (world.continueIpc publishOk nowMs).Phased ∧ (world.continueIpc publishOk nowMs).EndsOnce := by
  have current : world.ipc.begun = some target := by
    rw [begun]
    rfl
  have typed := phased.typed target current
  rcases facts_begun phased current with
    ⟨submitted, -, pending, handled, -, told, settled, recorded⟩
  unfold continueIpc
  rw [begun]
  dsimp only
  refine ⟨?_, ordered.log, ordered.told⟩
  cases ok with
  | false =>
      apply phased.unchanged
      · intro commandId
        refine facts_eq rfl rfl Iff.rfl ?_ rfl rfl Iff.rfl Iff.rfl Iff.rfl rfl
        rw [current]
        exact Iff.rfl
      · exact phased.keyed
      · intro other same
        cases same
        exact typed
      · exact phased.quiet
  | true =>
      rw [if_pos rfl, rememberPendingCommand]
      dsimp only
      rw [if_neg (not_or.mpr ⟨submitted.1, typed⟩)]
      apply phased.move target.commandId
      · intro other different
        refine facts_eq rfl rfl Iff.rfl ?_ ?_ rfl Iff.rfl Iff.rfl Iff.rfl rfl
        · refine iff_of_false ?_ ?_
          · rintro ⟨again, same, -⟩
            cases same
          · rintro ⟨again, same, here⟩
            rw [current] at same
            cases same
            exact different here.symm
        · rw [Table.get_put, if_neg different]
      · refine ⟨.waiting, submitted, ?_, ?_, Or.inl handled, told, settled, recorded⟩
        · rintro ⟨again, same, -⟩
          cases same
        · change ((world.pendingCommands.put target.commandId _).get target.commandId).isSome = true
          rw [Table.get_put, if_pos rfl]
          rfl
      · intro commandId command found
        rw [Table.get_put] at found
        split at found
        · rename_i same
          cases found
          exact same.symm
        · exact phased.keyed commandId command found
      · intro again same
        cases same
      · exact phased.quiet

/-- The user interface hears that the command has been sent, or that it has failed. -/
theorem report_keeps {world : CommandWorld} (phased : world.Phased) (ordered : world.EndsOnce)
    {target : PendingCommandTarget} {ok : Bool} (begun : world.ipc = .remembered target ok)
    (publishOk : Bool) (nowMs : Int) :
    (world.continueIpc publishOk nowMs).Phased ∧ (world.continueIpc publishOk nowMs).EndsOnce := by
  unfold continueIpc
  rw [begun]
  dsimp only
  cases ok with
  | true =>
      have goesOn (reason message : String) : (UiMessage.commandAck target.commandId
          target.commandType "sent" false reason message).ends = none := by
        rw [UiMessage.ends, if_neg (by decide)]
      constructor
      · apply phased.unchanged
        · intro commandId
          refine facts_eq rfl rfl Iff.rfl ?_ rfl rfl Iff.rfl ?_ Iff.rfl rfl
          · rw [begun]
            exact Iff.rfl
          · exact told_sendMessage_of_open world (goesOn _ _) commandId
        · exact phased.keyed
        · intro other same
          cases same
        · exact phased.quiet
      · refine ⟨ordered.log, (pairwise_sendMessage world _).mpr ⟨ordered.told, ?_⟩⟩
        rintro - commandId (ends | delays)
        · cases (goesOn _ _).symm.trans ends
        · cases delays
  | false =>
      have current : world.ipc.begun = some target := by
        rw [begun]
        rfl
      rcases facts_begun phased current with
        ⟨submitted, -, pending, handled, collected, told, settled, -⟩
      constructor
      · apply phased.move target.commandId
        · intro other different
          refine facts_eq rfl rfl Iff.rfl ?_ rfl rfl Iff.rfl ?_ Iff.rfl rfl
          · refine iff_of_false ?_ ?_
            · rintro ⟨again, same, -⟩
              cases same
            · rintro ⟨again, same, here⟩
              rw [current] at same
              cases same
              exact different here.symm
          · exact told_sendMessage_of_ne world rfl different
        · refine ⟨.failed, submitted, ?_, pending, handled, collected, settled⟩
          rintro ⟨again, same, -⟩
          cases same
        · exact phased.keyed
        · intro other same
          cases same
        · exact phased.quiet
      · refine ⟨ordered.log, (pairwise_sendMessage world _).mpr ⟨ordered.told, ?_⟩⟩
        rintro - commandId (ends | delays)
        · cases ends
          exact told
        · cases delays

theorem continueIpc_keeps_phases {world : CommandWorld} (phased : world.Phased)
    (ordered : world.EndsOnce) (publishOk : Bool) (nowMs : Int) :
    (world.continueIpc publishOk nowMs).Phased ∧ (world.continueIpc publishOk nowMs).EndsOnce := by
  cases begun : world.ipc with
  | idle =>
      unfold continueIpc
      rw [begun]
      exact ⟨phased, ordered⟩
  | logged topic target =>
      unfold continueIpc
      rw [begun]
      refine ⟨phased.unchanged ?_ phased.keyed ?_ phased.quiet, ordered.log, ordered.told⟩
      · intro commandId
        refine facts_eq rfl rfl Iff.rfl ?_ rfl rfl Iff.rfl Iff.rfl Iff.rfl rfl
        rw [begun]
        exact Iff.rfl
      · intro other same
        apply phased.typed other
        rw [begun]
        exact same
  | published target ok =>
      have current : world.ipc.begun = some target := by
        rw [begun]
        rfl
      rcases facts_begun phased current with ⟨-, -, -, -, -, -, settled, -⟩
      unfold continueIpc
      rw [begun]
      refine ⟨phased.unchanged ?_ phased.keyed ?_ phased.quiet, ?_, ordered.told⟩
      · intro commandId
        refine facts_eq rfl rfl Iff.rfl ?_ rfl rfl Iff.rfl Iff.rfl Iff.rfl ?_
        · rw [begun]
          exact Iff.rfl
        · exact recorded_update world _ _ _ _ commandId
      · intro other same
        apply phased.typed other
        rw [begun]
        exact same
      · apply logKept_of_row ordered.log
          (fun other different => log_update_of_ne world _ _ _ different)
        · exact fun _ _ inside => inside
        · exact fun inside => absurd inside settled
  | logUpdated target ok => exact remember_keeps phased ordered begun publishOk nowMs
  | remembered target ok => exact report_keeps phased ordered begun publishOk nowMs

/-! ### The thread of MQTT -/

theorem phaseOf_matched (ack : MatchedAck) :
    (MqttThread.matched ack).phaseOf ack.target.commandId =
      some (if isFinalAck ack.root then .matched else .waiting) :=
  if_pos rfl

theorem phaseOf_matched_of_ne {ack : MatchedAck} {other : String}
    (different : other ≠ ack.target.commandId) : (MqttThread.matched ack).phaseOf other = none :=
  if_neg (Ne.symm different)

theorem phaseOf_answered (ack : MatchedAck) :
    (MqttThread.answered ack).phaseOf ack.target.commandId =
      some (if isFinalAck ack.root then .answered else .waiting) :=
  if_pos rfl

theorem phaseOf_answered_of_ne {ack : MatchedAck} {other : String}
    (different : other ≠ ack.target.commandId) : (MqttThread.answered ack).phaseOf other = none :=
  if_neg (Ne.symm different)

theorem phaseOf_logUpdated (ack : MatchedAck) (status reason message : String) :
    (MqttThread.logUpdated ack status reason message).phaseOf ack.target.commandId =
      some (if isFinalAck ack.root then .closed else .waiting) :=
  if_pos rfl

theorem phaseOf_logUpdated_of_ne {ack : MatchedAck} {other : String}
    (status reason message : String) (different : other ≠ ack.target.commandId) :
    (MqttThread.logUpdated ack status reason message).phaseOf other = none :=
  if_neg (Ne.symm different)

theorem ackArrives_keeps_phases (pc : JsonCodec) {world : CommandWorld} (phased : world.Phased)
    (ordered : world.EndsOnce) (topic payload : String) :
    (world.ackArrives pc topic payload).Phased ∧ (world.ackArrives pc topic payload).EndsOnce := by
  unfold ackArrives
  split
  case h_2 => exact ⟨phased, ordered⟩
  case h_1 commandId root idle _ =>
    have silent (other : String) : world.mqtt.phaseOf other = none := by
      rw [idle]
      rfl
    cases found : world.pendingCommands.get commandId with
    | none => exact ⟨⟨phased.phase, phased.keyed, phased.typed, phased.quiet⟩, ordered.log, ordered.told⟩
    | some command =>
        rcases phased.keyed commandId command found with rfl
        rcases facts_pending phased (by rw [found]; rfl) with
          ⟨submitted, begun, pending, -, told, settled, recorded⟩
        refine ⟨?_, ordered.log, ordered.told⟩
        dsimp only
        cases final : isFinalAck root with
        | false =>
            apply phased.move command.target.commandId
            · intro other different
              refine facts_eq rfl rfl Iff.rfl Iff.rfl rfl ?_ Iff.rfl Iff.rfl Iff.rfl rfl
              rw [silent other]
              exact phaseOf_matched_of_ne different
            · refine ⟨.waiting, submitted, begun, pending, Or.inr ?_, told, settled, recorded⟩
              refine (phaseOf_matched ⟨command.target, root⟩).trans ?_
              rw [final]
              rfl
            · exact phased.keyed
            · exact phased.typed
            · intro ack status reason message same
              cases same
        | true =>
            rw [if_pos rfl]
            apply phased.move command.target.commandId
            · intro other different
              refine facts_eq rfl rfl Iff.rfl Iff.rfl ?_ ?_ Iff.rfl Iff.rfl Iff.rfl rfl
              · rw [Table.get_erase, if_neg different]
              · rw [silent other]
                exact phaseOf_matched_of_ne different
            · refine ⟨.matched, submitted, begun, ?_, ?_, told, settled, recorded⟩
              · change ¬(Table.get (AList.erase command.target.commandId world.pendingCommands)
                  command.target.commandId).isSome = true
                rw [Table.get_erase, if_pos rfl]
                exact Bool.false_ne_true
              · refine (phaseOf_matched ⟨command.target, root⟩).trans ?_
                rw [final]
                rfl
            · intro other waiting kept
              rw [Table.get_erase] at kept
              split at kept
              · cases kept
              · exact phased.keyed other waiting kept
            · exact phased.typed
            · intro ack status reason message same
              cases same

/-- The final answer is reported to the user interface. -/
theorem answer_keeps {world : CommandWorld} (phased : world.Phased) (ordered : world.EndsOnce)
    {ack : MatchedAck} (matched : world.mqtt = .matched ack) (deleteOk : Bool) :
    (world.continueMqtt deleteOk).Phased ∧ (world.continueMqtt deleteOk).EndsOnce := by
  have handled : world.mqtt.phaseOf ack.target.commandId =
      some (if isFinalAck ack.root then .matched else .waiting) := by
    rw [matched]
    exact phaseOf_matched ack
  have stage := facts_handled phased handled
  have others (other : String) (different : other ≠ ack.target.commandId) :
      (MqttThread.answered ack).phaseOf other = world.mqtt.phaseOf other := by
    rw [matched, phaseOf_matched_of_ne different]
    exact phaseOf_answered_of_ne different
  have quiet : forall other status reason message,
      MqttThread.answered ack = .logUpdated other status reason message ->
        status ≠ "waiting" ∧ status ≠ "timeout" := by
    intro other status reason message same
    cases same
  unfold continueMqtt
  rw [matched]
  dsimp only
  cases final : isFinalAck ack.root with
  | false =>
      refine ⟨phased.unchanged ?_ phased.keyed phased.typed quiet, ordered.log, ordered.told⟩
      intro commandId
      refine facts_eq rfl rfl Iff.rfl Iff.rfl rfl ?_ Iff.rfl Iff.rfl Iff.rfl rfl
      by_cases same : commandId = ack.target.commandId
      · subst same
        rw [handled, final]
        refine (phaseOf_answered ack).trans ?_
        rw [final]
        rfl
      · exact others commandId same
  | true =>
      rw [final] at stage
      rcases stage with ⟨submitted, begun, pending, -, told, settled, recorded⟩
      rw [if_pos rfl]
      constructor
      · apply phased.move ack.target.commandId
        · intro other different
          refine facts_eq rfl rfl Iff.rfl Iff.rfl rfl (others other different) Iff.rfl ?_ Iff.rfl rfl
          exact told_sendMessage_of_ne world rfl different
        · refine ⟨.answered, submitted, begun, pending, ?_, ?_, settled, recorded⟩
          · refine (phaseOf_answered ack).trans ?_
            rw [final]
            rfl
          · intro client
            apply (told_sendMessage world _ _).mpr
            exact Or.inr ⟨client, submitted.1, rfl⟩
        · exact phased.keyed
        · exact phased.typed
        · exact quiet
      · refine ⟨ordered.log, (pairwise_sendMessage world _).mpr ⟨ordered.told, ?_⟩⟩
        rintro - commandId (ends | delays)
        · cases ends
          exact told
        · cases delays

theorem ackLog_status (ack : MatchedAck) (deleteOk : Bool) :
    (ackLog ack deleteOk).1 = "failed" ∨ (ackLog ack deleteOk).1 = "success" ∨
      (ackLog ack deleteOk).1 = "sent" ∧ isFinalAck ack.root = false := by
  unfold ackLog
  dsimp only
  split
  · exact Or.inl rfl
  · split
    · exact Or.inr (Or.inl rfl)
    · split
      · exact Or.inl rfl
      · rename_i stage
        exact Or.inr (Or.inr ⟨rfl, Bool.eq_false_iff.mpr stage⟩)

/-- The answer is written into the log. -/
theorem logAnswer_keeps {world : CommandWorld} (phased : world.Phased) (ordered : world.EndsOnce)
    {ack : MatchedAck} (answered : world.mqtt = .answered ack) (deleteOk : Bool) :
    (world.continueMqtt deleteOk).Phased ∧ (world.continueMqtt deleteOk).EndsOnce := by
  have handled : world.mqtt.phaseOf ack.target.commandId =
      some (if isFinalAck ack.root then .answered else .waiting) := by
    rw [answered]
    exact phaseOf_answered ack
  have stage := facts_handled phased handled
  have status := ackLog_status ack deleteOk
  have others (other : String) (different : other ≠ ack.target.commandId) :
      (MqttThread.logUpdated ack (ackLog ack deleteOk).1 (ackLog ack deleteOk).2.1
        (ackLog ack deleteOk).2.2).phaseOf other = world.mqtt.phaseOf other := by
    rw [answered, phaseOf_answered_of_ne different]
    exact phaseOf_logUpdated_of_ne _ _ _ different
  have quiet : forall other status reason message,
      MqttThread.logUpdated ack (ackLog ack deleteOk).1 (ackLog ack deleteOk).2.1
          (ackLog ack deleteOk).2.2 = .logUpdated other status reason message ->
        status ≠ "waiting" ∧ status ≠ "timeout" := by
    intro other stated reason message same
    cases same
    rcases status with same | same | ⟨same, -⟩
    · rw [same]
      decide
    · rw [same]
      decide
    · rw [same]
      decide
  have rows (other : String) (different : other ≠ ack.target.commandId) :=
    log_update_of_ne world (ackLog ack deleteOk).1 (ackLog ack deleteOk).2.1
      (ackLog ack deleteOk).2.2 different
  have recordedSame (other : String) := recorded_update world ack.target.commandId
    (ackLog ack deleteOk).1 (ackLog ack deleteOk).2.1 (ackLog ack deleteOk).2.2 other
  unfold continueMqtt
  rw [answered]
  dsimp only
  cases final : isFinalAck ack.root with
  | false =>
      rw [final] at stage
      rcases stage with ⟨-, -, -, -, -, settled, -⟩
      refine ⟨phased.unchanged ?_ phased.keyed phased.typed quiet, ?_, ordered.told⟩
      · intro commandId
        refine facts_eq rfl rfl Iff.rfl Iff.rfl rfl ?_ Iff.rfl Iff.rfl Iff.rfl
          (recordedSame commandId)
        by_cases same : commandId = ack.target.commandId
        · subst same
          rw [handled, final]
          refine (phaseOf_logUpdated ack _ _ _).trans ?_
          rw [final]
          rfl
        · exact others commandId same
      · exact logKept_of_row ordered.log rows (fun _ _ inside => inside)
          fun inside => absurd inside settled
  | true =>
      rw [final] at stage
      rcases stage with ⟨submitted, begun, pending, -, told, settled, recorded⟩
      have final_status : (ackLog ack deleteOk).1 = "failed" ∨
          (ackLog ack deleteOk).1 = "success" := by
        rcases status with same | same | ⟨-, early⟩
        · exact Or.inl same
        · exact Or.inr same
        · cases final.symm.trans early
      have settle (other : String) : other ∈ (if true && world.databaseOpen then
          world.settled ++ [ack.target.commandId] else world.settled) ↔ other ∈ world.settled ∨
            world.databaseOpen = true ∧ other = ack.target.commandId := by
        cases world.databaseOpen <;> simp
      refine ⟨?_, ?_, ordered.told⟩
      · apply phased.move ack.target.commandId
        · intro other different
          refine facts_eq rfl rfl Iff.rfl Iff.rfl rfl (others other different) Iff.rfl Iff.rfl ?_
            (recordedSame other)
          exact (settle other).trans (or_iff_left fun both => different both.2)
        · refine ⟨.closed, submitted, begun, pending, Or.inr ?_, told, ?_⟩
          · refine (phaseOf_logUpdated ack (ackLog ack deleteOk).1 (ackLog ack deleteOk).2.1
              (ackLog ack deleteOk).2.2).trans ?_
            rw [final]
            rfl
          · intro recording
            refine ⟨(settle _).mpr (Or.inr ⟨recording, rfl⟩), ?_⟩
            exact (recordedSame _).trans (recorded recording)
        · exact phased.keyed
        · exact phased.typed
        · exact quiet
      · refine logKept_of_row ordered.log rows ?_ ?_
        · intro other different inside
          exact ((settle other).mp inside).resolve_right fun both => different both.2
        · intro inside row found
          have recording := ((settle _).mp inside).resolve_left settled
          have stated : (ackLog ack deleteOk).1 ≠ "" := by
            rcases final_status with same | same <;> rw [same] <;> decide
          change (world.updateCommandLogByCommandId ack.target.commandId (ackLog ack deleteOk).1
            (ackLog ack deleteOk).2.1 (ackLog ack deleteOk).2.2).commandLog.get _ = some row at found
          rw [log_update world _ _ recording.1 submitted.1 stated, Option.map_eq_some_iff] at found
          rcases found with ⟨old, -, rfl⟩
          change (ackLog ack deleteOk).1 ∉ _
          rcases final_status with same | same
          · rw [same]
            decide
          · rw [same]
            decide

/-- The user interface hears what has been written. -/
theorem tellAnswer_keeps {world : CommandWorld} (phased : world.Phased) (ordered : world.EndsOnce)
    {ack : MatchedAck} {status reason message : String}
    (updated : world.mqtt = .logUpdated ack status reason message) (deleteOk : Bool) :
    (world.continueMqtt deleteOk).Phased ∧ (world.continueMqtt deleteOk).EndsOnce := by
  have handled : world.mqtt.phaseOf ack.target.commandId =
      some (if isFinalAck ack.root then .closed else .waiting) := by
    rw [updated]
    exact phaseOf_logUpdated ack status reason message
  have stage := facts_handled phased handled
  have quiet := phased.quiet ack status reason message updated
  unfold continueMqtt
  rw [updated]
  dsimp only
  constructor
  · apply phased.move ack.target.commandId
    · intro other different
      refine facts_eq rfl rfl Iff.rfl Iff.rfl rfl ?_ Iff.rfl ?_ Iff.rfl rfl
      · rw [updated, phaseOf_logUpdated_of_ne _ _ _ different]
        rfl
      · exact told_sendMessage_of_open world rfl other
    · have told : (world.sendMessage (.commandLogUpdate ack.target.commandId (ackCommandType ack)
          status reason message)).Told ack.target.commandId ↔
            world.Told ack.target.commandId := told_sendMessage_of_open world rfl _
      cases final : isFinalAck ack.root with
      | false =>
          rw [final] at stage
          rcases stage with ⟨submitted, begun, pending, -, untold, settled, recorded⟩
          exact ⟨.waiting, submitted, begun, pending, Or.inl rfl, mt told.mp untold, settled,
            recorded⟩
      | true =>
          rw [final] at stage
          rcases stage with ⟨submitted, begun, pending, -, known, settled⟩
          exact ⟨.closed, submitted, begun, pending, Or.inl rfl,
            fun client => told.mpr (known client), settled⟩
    · exact phased.keyed
    · exact phased.typed
    · intro other stated why text same
      cases same
  · refine ⟨ordered.log, (pairwise_sendMessage world _).mpr ⟨ordered.told, ?_⟩⟩
    rintro - commandId (ends | delays)
    · cases ends
    · rw [UiMessage.delays, if_neg (not_or.mpr quiet)] at delays
      cases delays

theorem continueMqtt_keeps_phases {world : CommandWorld} (phased : world.Phased)
    (ordered : world.EndsOnce) (deleteOk : Bool) :
    (world.continueMqtt deleteOk).Phased ∧ (world.continueMqtt deleteOk).EndsOnce := by
  cases thread : world.mqtt with
  | idle =>
      unfold continueMqtt
      rw [thread]
      exact ⟨phased, ordered⟩
  | matched ack => exact answer_keeps phased ordered thread deleteOk
  | answered ack => exact logAnswer_keeps phased ordered thread deleteOk
  | logUpdated ack status reason message => exact tellAnswer_keeps phased ordered thread deleteOk

/-! ### The main thread -/

/-- Only waiting commands are collected. -/
theorem Phased.collects {world next : CommandWorld} (phased : world.Phased)
    (same : forall commandId, next.facts commandId =
      { world.facts commandId with collected := (next.facts commandId).collected })
    (known : forall commandId, (next.facts commandId).collected ->
      (world.facts commandId).collected ∨ (world.facts commandId).pending)
    (keyed : forall commandId command, next.pendingCommands.get commandId = some command ->
      command.target.commandId = commandId)
    (typed : forall target, next.ipc.begun = some target -> target.commandType ≠ "")
    (quiet : forall ack status reason message,
      next.mqtt = .logUpdated ack status reason message ->
        status ≠ "waiting" ∧ status ≠ "timeout") :
    next.Phased := by
  refine ⟨?_, keyed, typed, quiet⟩
  intro commandId
  rw [same commandId]
  by_cases pending : (world.facts commandId).pending
  · exact ⟨.waiting, facts_pending phased pending⟩
  · rcases phased.phase commandId with ⟨phase, before⟩
    refine ⟨phase, CommandFacts.shows_released before ?_⟩
    exact fun collected => (known commandId collected).resolve_right pending

theorem mem_collectDue {world : CommandWorld} (phased : world.Phased) {nowMs : Int}
    {due : WaitingCommand -> Bool} {note : WaitingCommand -> WaitingCommand}
    (noted : forall command, (note command).target = command.target) {command : WaitingCommand}
    (collected : command ∈ (world.collectDue nowMs due note).2) :
    (world.pendingCommands.get command.target.commandId).isSome = true := by
  change command ∈ (if nowMs ≤ 0 then [] else
    (world.pendingCommands.values.filter due).map note) at collected
  split at collected
  · cases collected
  · rcases List.mem_map.mp collected with ⟨waiting, listed, rfl⟩
    rcases Table.mem_values.mp (List.mem_of_mem_filter listed) with ⟨commandId, found⟩
    rw [noted, phased.keyed commandId waiting found, found]
    rfl

theorem get_collectDue (world : CommandWorld) (nowMs : Int) (due : WaitingCommand -> Bool)
    (note : WaitingCommand -> WaitingCommand) (commandId : String) :
    (world.collectDue nowMs due note).1.pendingCommands.get commandId =
      (world.pendingCommands.get commandId).map fun command =>
        if 0 < nowMs ∧ due command then note command else command := by
  change Table.get (if nowMs ≤ 0 then _ else _) commandId = _
  split
  · rename_i early
    simp [not_lt.mpr early]
  · rename_i late
    rw [Table.get_updateWhere]
    simp [not_le.mp late]

/-- The commands that are due are collected. -/
theorem collectDue_keeps {world : CommandWorld} (phased : world.Phased)
    (ordered : world.EndsOnce) (nowMs : Int) (due : WaitingCommand -> Bool)
    (note : WaitingCommand -> WaitingCommand)
    (noted : forall command, (note command).target = command.target) (scan : ScanThread)
    (collected : scan.collected = (world.collectDue nowMs due note).2) :
    ({ (world.collectDue nowMs due note).1 with scan := scan } : CommandWorld).Phased ∧
      ({ (world.collectDue nowMs due note).1 with scan := scan } : CommandWorld).EndsOnce := by
  refine ⟨?_, ordered.log, ordered.told⟩
  apply phased.collects
  · intro commandId
    refine facts_collecting rfl rfl Iff.rfl Iff.rfl ?_ rfl Iff.rfl Iff.rfl rfl
    rw [get_collectDue, Option.isSome_map]
  · rintro commandId ⟨command, listed, rfl⟩
    change command ∈ scan.collected at listed
    rw [collected] at listed
    exact Or.inr (mem_collectDue phased noted listed)
  · intro commandId command found
    rw [get_collectDue, Option.map_eq_some_iff] at found
    rcases found with ⟨old, present, rfl⟩
    have target : (if 0 < nowMs ∧ due old then note old else old).target = old.target := by
      split
      · exact noted old
      · rfl
    rw [target]
    exact phased.keyed commandId old present
  · exact phased.typed
  · exact phased.quiet

/-- The command has not been reported as ended. -/
def StillWaits (world : CommandWorld) (commandId : String) : Prop :=
  (world.pendingCommands.get commandId).isSome = true ∨
    world.mqtt.phaseOf commandId = some .matched

/-- The end of the command has not been written into the log. -/
def StillOpen (world : CommandWorld) (commandId : String) : Prop :=
  world.StillWaits commandId ∨ world.mqtt.phaseOf commandId = some .answered

theorem phase_of_collected {facts : CommandFacts} {phase : CommandPhase}
    (before : facts.Shows phase) (collected : facts.collected) :
    phase = .waiting ∨ phase = .matched ∨ phase = .answered ∨ phase = .closed := by
  cases phase with
  | new => exact absurd collected before.2.2.2.2.1
  | begun => exact absurd collected before.2.2.2.2.1
  | failed => exact absurd collected before.2.2.2.2.1
  | _ => simp

theorem told_iff_of_collected {world : CommandWorld} (phased : world.Phased)
    {command : WaitingCommand} (collected : command ∈ world.scan.collected)
    (client : world.hasClient = true) :
    ¬world.Told command.target.commandId ↔ world.StillWaits command.target.commandId := by
  rcases phased.phase command.target.commandId with ⟨phase, before⟩
  rcases phase_of_collected before ⟨command, collected, rfl⟩ with rfl | rfl | rfl | rfl
  · rcases before with ⟨-, -, pending, -, told, -⟩
    exact iff_of_true told (Or.inl pending)
  · rcases before with ⟨-, -, -, handled, told, -⟩
    exact iff_of_true told (Or.inr handled)
  · rcases before with ⟨-, -, pending, handled, told, -⟩
    refine iff_of_false (not_not.mpr (told client)) (not_or.mpr ⟨pending, ?_⟩)
    intro matched
    cases handled.symm.trans matched
  · rcases before with ⟨-, -, pending, handled, told, -⟩
    refine iff_of_false (not_not.mpr (told client)) (not_or.mpr ⟨pending, ?_⟩)
    intro matched
    rcases handled with handled | handled
    · cases handled.symm.trans matched
    · cases handled.symm.trans matched

theorem settled_iff_of_collected {world : CommandWorld} (phased : world.Phased)
    {command : WaitingCommand} (collected : command ∈ world.scan.collected)
    (recording : world.databaseOpen = true) :
    (command.target.commandId ∉ world.settled ↔ world.StillOpen command.target.commandId) ∧
      (world.commandLog.get command.target.commandId).isSome = true ∧
      command.target.commandId ≠ "" := by
  rcases phased.phase command.target.commandId with ⟨phase, before⟩
  rcases phase_of_collected before ⟨command, collected, rfl⟩ with rfl | rfl | rfl | rfl
  · rcases before with ⟨submitted, -, pending, -, -, settled, recorded⟩
    exact ⟨iff_of_true settled (Or.inl (Or.inl pending)), recorded recording, submitted.1⟩
  · rcases before with ⟨submitted, -, -, handled, -, settled, recorded⟩
    exact ⟨iff_of_true settled (Or.inl (Or.inr handled)), recorded recording, submitted.1⟩
  · rcases before with ⟨submitted, -, -, handled, -, settled, recorded⟩
    exact ⟨iff_of_true settled (Or.inr handled), recorded recording, submitted.1⟩
  · rcases before with ⟨submitted, -, pending, handled, -, settled⟩
    refine ⟨iff_of_false (not_not.mpr (settled recording).1) ?_, (settled recording).2,
      submitted.1⟩
    rintro ((waits | matched) | answered)
    · exact pending waits
    · rcases handled with handled | handled
      · cases handled.symm.trans matched
      · cases handled.symm.trans matched
    · rcases handled with handled | handled
      · cases handled.symm.trans answered
      · cases handled.symm.trans answered

/-- One of the collected commands is reported to the user interface. -/
theorem announce_keeps {world : CommandWorld} (phased : world.Phased) (ordered : world.EndsOnce)
    {command : WaitingCommand} (collected : command ∈ world.scan.collected)
    (commandType reason message : String) {status : String}
    (late : status = "waiting" ∨ status = "timeout") (scan : ScanThread)
    (remaining : forall other, other ∈ scan.collected -> other ∈ world.scan.collected) :
    ({ world.sendMessage (.commandLogUpdate command.target.commandId commandType status reason
        message) with scan := scan } : CommandWorld).Phased ∧
      (({ world.sendMessage (.commandLogUpdate command.target.commandId commandType status reason
        message) with scan := scan } : CommandWorld).EndsOnce ↔
        (world.hasClient = true -> world.StillWaits command.target.commandId)) := by
  constructor
  · apply phased.collects
    · intro commandId
      refine facts_collecting rfl rfl Iff.rfl Iff.rfl rfl rfl ?_ Iff.rfl rfl
      exact told_sendMessage_of_open world rfl commandId
    · rintro commandId ⟨other, listed, named⟩
      exact Or.inl ⟨other, remaining other listed, named⟩
    · exact phased.keyed
    · exact phased.typed
    · exact phased.quiet
  · have told := pairwise_sendMessage world
      (.commandLogUpdate command.target.commandId commandType status reason message)
    constructor
    · intro after client
      apply (told_iff_of_collected phased collected client).mp
      exact (told.mp after.told).2 client _ (Or.inr (if_pos late))
    · intro waits
      refine ⟨ordered.log, told.mpr ⟨ordered.told, ?_⟩⟩
      rintro client commandId (ends | delays)
      · cases ends
      · rw [UiMessage.delays, if_pos late, Option.some.injEq] at delays
        rw [← delays]
        exact (told_iff_of_collected phased collected client).mpr (waits client)

/-- One of the collected commands is written into the log as timed out. -/
theorem expire_keeps {world : CommandWorld} (phased : world.Phased) (ordered : world.EndsOnce)
    {command : WaitingCommand} (collected : command ∈ world.scan.collected)
    (reason message : String) (scan : ScanThread)
    (remaining : forall other, other ∈ scan.collected -> other ∈ world.scan.collected) :
    ({ world.updateCommandLogByCommandId command.target.commandId "timeout" reason message with
        scan := scan } : CommandWorld).Phased ∧
      (({ world.updateCommandLogByCommandId command.target.commandId "timeout" reason message with
        scan := scan } : CommandWorld).EndsOnce ↔
        (world.databaseOpen = true -> world.StillOpen command.target.commandId)) := by
  constructor
  · apply phased.collects
    · intro commandId
      refine facts_collecting rfl rfl Iff.rfl Iff.rfl rfl rfl Iff.rfl Iff.rfl ?_
      exact recorded_update world _ _ _ _ commandId
    · rintro commandId ⟨other, listed, named⟩
      exact Or.inl ⟨other, remaining other listed, named⟩
    · exact phased.keyed
    · exact phased.typed
    · exact phased.quiet
  · constructor
    · intro after recording
      rcases settled_iff_of_collected phased collected recording with ⟨open_iff, recorded, named⟩
      apply open_iff.mp
      intro settled
      rcases Option.isSome_iff_exists.mp recorded with ⟨row, found⟩
      have written := log_update world reason message recording named
        (show "timeout" ≠ "" by decide)
      rw [found] at written
      exact after.log _ settled _ written (by simp)
    · intro stillOpen
      refine ⟨?_, ordered.told⟩
      refine logKept_of_row ordered.log
        (fun other different => log_update_of_ne world _ _ _ different)
        (fun _ _ inside => inside) ?_
      intro settled row found
      by_cases recording : world.databaseOpen = true
      · have unsettled := (settled_iff_of_collected phased collected recording).1.mpr
          (stillOpen recording)
        exact absurd settled unsettled
      · have same : (world.updateCommandLogByCommandId command.target.commandId "timeout" reason
            message).commandLog = world.commandLog := by
          unfold updateCommandLogByCommandId
          simp [recording]
        rw [same] at found
        exact ordered.log _ settled row found

end CommandWorld

/-! ## Runs -/

/-- The user interface uses an identifier once. -/
def FreshRequest (world : CommandWorld) : CommandEvent -> Prop
  | .request _ _ _ cmdId => cmdId = "" ∨ cmdId ∉ world.submitted
  | _ => True

/-- A collected command is reported as late before it is reported as ended, and
it is logged as timed out before its end is logged. -/
def ReportsInTime (world : CommandWorld) : CommandEvent -> Prop
  | .continueScan pick =>
      match world.scan with
      | .idle => True
      | .announcing _ commands => forall command, commands[pick]? = some command ->
          world.hasClient = true -> world.StillWaits command.target.commandId
      | .expiring commands => forall command, commands[pick]? = some command ->
          world.databaseOpen = true -> world.StillOpen command.target.commandId
      | .reporting command _ =>
          world.hasClient = true -> world.StillWaits command.target.commandId
  | _ => True

namespace CommandWorld

theorem startScan_keeps_phases {world : CommandWorld} (phased : world.Phased)
    (ordered : world.EndsOnce) (nowMs : Int) :
    (world.startScan nowMs).Phased ∧ (world.startScan nowMs).EndsOnce := by
  unfold startScan
  split
  · exact collectDue_keeps phased ordered nowMs _
      (fun command => { command with timeoutNotified := true }) (fun _ => rfl)
      (.announcing nowMs (world.collectCommandSoftTimeouts nowMs).2) rfl
  · exact ⟨phased, ordered⟩

theorem continueScan_keeps_phases {world : CommandWorld} (phased : world.Phased)
    (ordered : world.EndsOnce) (pick : Nat) :
    (world.continueScan pick).Phased ∧
      ((world.continueScan pick).EndsOnce ↔ ReportsInTime world (.continueScan pick)) := by
  unfold continueScan ReportsInTime
  dsimp only
  cases thread : world.scan with
  | idle => exact ⟨phased, iff_of_true ordered trivial⟩
  | announcing nowMs commands =>
      cases commands with
      | nil =>
          obtain ⟨next, kept⟩ := collectDue_keeps phased ordered nowMs
            (fun command => !command.hardTimeoutNotified &&
              hardTimeoutMs ≤ nowMs - command.target.requestTimeMs)
            (fun command => { command with hardTimeoutNotified := true }) (fun _ => rfl)
            (.expiring (world.collectCommandHardTimeouts nowMs).2) rfl
          refine ⟨next, iff_of_true kept ?_⟩
          intro command found
          cases found
      | cons first rest =>
          dsimp only
          cases found : (first :: rest)[pick]? with
          | none =>
              refine ⟨phased, iff_of_true ordered ?_⟩
              intro command same
              cases same
          | some command =>
              have collected : command ∈ world.scan.collected := by
                rw [thread]
                exact List.mem_of_getElem? found
              obtain ⟨next, kept⟩ := announce_keeps phased ordered collected
                command.target.commandType "waiting_linux_data_ack"
                "waiting for Linux_data final ack" (Or.inl rfl)
                (.announcing nowMs ((first :: rest).eraseIdx pick)) (by
                  rw [thread]
                  exact fun other => List.mem_of_mem_eraseIdx)
              refine ⟨next, kept.trans ⟨?_, fun waits => waits command rfl⟩⟩
              intro waits other same
              cases same
              exact waits
  | expiring commands =>
      cases commands with
      | nil =>
          refine ⟨phased.collects ?_ ?_ phased.keyed phased.typed phased.quiet,
            iff_of_true ⟨ordered.log, ordered.told⟩ ?_⟩
          · exact fun _ => rfl
          · rintro commandId ⟨command, listed, -⟩
            cases listed
          · intro command found
            cases found
      | cons first rest =>
          dsimp only
          cases found : (first :: rest)[pick]? with
          | none =>
              refine ⟨phased, iff_of_true ordered ?_⟩
              intro command same
              cases same
          | some command =>
              have collected : command ∈ world.scan.collected := by
                rw [thread]
                exact List.mem_of_getElem? found
              obtain ⟨next, kept⟩ := expire_keeps phased ordered collected
                "linux_data_ack_timeout" "device execution timeout, keep waiting final ack"
                (.reporting command ((first :: rest).eraseIdx pick)) (by
                  rw [thread]
                  intro other listed
                  rcases List.mem_cons.mp listed with rfl | kept
                  · exact List.mem_of_getElem? found
                  · exact List.mem_of_mem_eraseIdx kept)
              refine ⟨next, kept.trans ⟨?_, fun waits => waits command rfl⟩⟩
              intro waits other same
              cases same
              exact waits
  | reporting command commands =>
      apply announce_keeps phased ordered _ _ _ _ (Or.inr rfl)
      · rw [thread]
        exact fun other => List.mem_cons_of_mem command
      · rw [thread]
        exact List.mem_cons_self

theorem phased_step (pc : JsonCodec) {world : CommandWorld} {event : CommandEvent}
    (phased : world.Phased) (ordered : world.EndsOnce) (fresh : FreshRequest world event) :
    (world.step pc event).Phased ∧
      ((world.step pc event).EndsOnce ↔ ReportsInTime world event) := by
  have always {next : CommandWorld} (kept : next.Phased ∧ next.EndsOnce) :
      next.Phased ∧ (next.EndsOnce ↔ True) := ⟨kept.1, iff_of_true kept.2 trivial⟩
  cases event with
  | request portConnected nowMs root cmdId =>
      exact always (request_keeps_phases phased ordered portConnected nowMs root fresh)
  | continueIpc publishOk nowMs =>
      exact always (continueIpc_keeps_phases phased ordered publishOk nowMs)
  | ackArrives topic payload =>
      exact always (ackArrives_keeps_phases pc phased ordered topic payload)
  | continueMqtt deleteOk => exact always (continueMqtt_keeps_phases phased ordered deleteOk)
  | startScan nowMs => exact always (startScan_keeps_phases phased ordered nowMs)
  | continueScan pick => exact continueScan_keeps_phases phased ordered pick

theorem phased_start (hasClient databaseOpen : Bool) (commandLog : Table String CommandLogRow) :
    (CommandWorld.start hasClient databaseOpen commandLog).Phased := by
  constructor
  · intro commandId
    refine ⟨.new, fun submitted => ?_, ?_, Bool.false_ne_true, rfl, ?_, ?_, List.not_mem_nil⟩
    · exact List.not_mem_nil submitted.2
    · rintro ⟨target, begun, -⟩
      cases begun
    · rintro ⟨command, listed, -⟩
      cases listed
    · rintro ⟨-, message, listed, -⟩
      cases listed
  · intro commandId command found
    cases found
  · intro target begun
    cases begun
  · intro ack status reason message same
    cases same

end CommandWorld

/-- In a run in which the user interface uses identifiers once, every command
ends once and for good exactly if the main thread reports each collected
command before the thread of MQTT has reported its end. -/
theorem commands_end_once_iff (pc : JsonCodec) (hasClient databaseOpen : Bool)
    (commandLog : Table String CommandLogRow) (events : List CommandEvent)
    (fresh : (commandSystem pc hasClient databaseOpen commandLog).Admissible FreshRequest events) :
    (forall before after, events = before ++ after ->
        ((commandSystem pc hasClient databaseOpen commandLog).run before).EndsOnce) ↔
      (commandSystem pc hasClient databaseOpen commandLog).Admissible ReportsInTime events := by
  apply @TransitionSystem.everywhereFrom_iff_of_kept _ _ _ FreshRequest _ CommandWorld.Phased
    CommandWorld.EndsOnce
  · intro world event phased inDomain ordered _
    exact (CommandWorld.phased_step pc phased ordered inDomain).1
  · intro world event phased inDomain ordered
    exact (CommandWorld.phased_step pc phased ordered inDomain).2
  · exact CommandWorld.phased_start hasClient databaseOpen commandLog
  · refine ⟨?_, List.Pairwise.nil⟩
    intro commandId settled
    cases settled
  · exact fresh

section Removal

variable {pc : JsonCodec} {topic payload : String}

/-- A removal that has been published, and the scan after thirty seconds that
has collected it. -/
def removalExpiring : List CommandEvent :=
  [.request true 0 removalRequest "CMD1", .continueIpc true 0, .continueIpc true 0,
    .continueIpc true 0, .continueIpc true 0, .startScan 30000, .continueScan 0, .continueScan 0]

/-- The answer comes when the scan is over. -/
def removalAnsweredLate (topic payload : String) : List CommandEvent :=
  removalExpiring ++ [.continueScan 0, .continueScan 0, .continueScan 0,
    .ackArrives topic payload, .continueMqtt true, .continueMqtt true, .continueMqtt true]

/-- Here it comes before the scan writes the log. -/
def removalAnsweredAmid (topic payload : String) : List CommandEvent :=
  removalExpiring ++ [.ackArrives topic payload, .continueMqtt true, .continueMqtt true,
    .continueMqtt true]

/-- The state in which the scan has collected the removal. -/
def removalCollected : CommandWorld :=
  { CommandWorld.start true true ∅ with
    pendingCommands := (∅ : Table String WaitingCommand).put "CMD1" ⟨removalTarget, true, true⟩
    commandLog := (∅ : Table String CommandLogRow).put "CMD1" ⟨"sent", "", "command sent"⟩
    toUi := [.commandAck "CMD1" "remove_device" "sent" false "" "command published to gateway",
      .commandLogUpdate "CMD1" "remove_device" "waiting" "waiting_linux_data_ack"
        "waiting for Linux_data final ack"]
    scan := .expiring [⟨removalTarget, true, true⟩]
    submitted := ["CMD1"]
    published := [("cmd/gateway_001/port_001", removalTarget)] }

theorem run_removalExpiring :
    (commandSystem pc true true ∅).run removalExpiring = removalCollected := rfl

theorem removalExpiring_fresh :
    (commandSystem pc true true ∅).Admissible FreshRequest removalExpiring :=
  ⟨Or.inr List.not_mem_nil, trivial, trivial, trivial, trivial, trivial, trivial, trivial, trivial⟩

theorem removalExpiring_inTime :
    (commandSystem pc true true ∅).Admissible ReportsInTime removalExpiring := by
  have announced : ReportsInTime ((commandSystem pc true true ∅).run
      [.request true 0 removalRequest "CMD1", .continueIpc true 0, .continueIpc true 0,
        .continueIpc true 0, .continueIpc true 0, .startScan 30000]) (.continueScan 0) := by
    intro command found
    cases found
    exact fun _ => Or.inl rfl
  have collected : ReportsInTime ((commandSystem pc true true ∅).run
      [.request true 0 removalRequest "CMD1", .continueIpc true 0, .continueIpc true 0,
        .continueIpc true 0, .continueIpc true 0, .startScan 30000, .continueScan 0])
      (.continueScan 0) := by
    intro command found
    cases found
  exact ⟨trivial, trivial, trivial, trivial, trivial, trivial, announced, collected, trivial⟩

theorem removalAnsweredLate_fresh :
    (commandSystem pc true true ∅).Admissible FreshRequest (removalAnsweredLate topic payload) := by
  apply (TransitionSystem.admissibleFrom_append _).mpr
  exact ⟨removalExpiring_fresh, trivial, trivial, trivial, trivial, trivial, trivial, trivial,
    trivial⟩

theorem removalAnsweredLate_inTime :
    (commandSystem pc true true ∅).Admissible ReportsInTime
      (removalAnsweredLate topic payload) := by
  apply (TransitionSystem.admissibleFrom_append _).mpr
  refine ⟨removalExpiring_inTime, ?_⟩
  change (commandSystem pc true true ∅).AdmissibleFrom ReportsInTime
    ((commandSystem pc true true ∅).run removalExpiring) _
  rw [run_removalExpiring]
  refine ⟨?_, fun _ => Or.inl rfl, ?_, trivial, trivial, trivial, trivial, trivial⟩
  · intro command found
    cases found
    exact fun _ => Or.inl (Or.inl rfl)
  · intro command found
    cases found

theorem CommandWorld.recorded_continueMqtt (world : CommandWorld) (deleteOk : Bool)
    (commandId : String) : ((world.continueMqtt deleteOk).commandLog.get commandId).isSome =
      (world.commandLog.get commandId).isSome := by
  unfold continueMqtt
  split
  · rfl
  · rfl
  · exact recorded_update world _ _ _ _ commandId
  · rfl

/-- The scan writes over the row, whatever it says. -/
theorem expire_writes {world : CommandWorld} {command : WaitingCommand}
    (expiring : world.scan = .expiring [command]) (recording : world.databaseOpen = true)
    (named : command.target.commandId ≠ "")
    (recorded : (world.commandLog.get command.target.commandId).isSome = true) :
    (world.continueScan 0).commandLog.get command.target.commandId =
      some ⟨"timeout", "linux_data_ack_timeout",
        "device execution timeout, keep waiting final ack"⟩ := by
  rcases Option.isSome_iff_exists.mp recorded with ⟨row, found⟩
  unfold CommandWorld.continueScan
  rw [expiring]
  refine (CommandWorld.log_update world _ _ recording named (by decide)).trans ?_
  rw [found]
  rfl

theorem removalAnsweredAmid_fresh : (commandSystem pc true true ∅).Admissible FreshRequest
    (removalAnsweredAmid topic payload ++ [.continueScan 0]) := by
  rw [removalAnsweredAmid, List.append_assoc]
  apply (TransitionSystem.admissibleFrom_append _).mpr
  exact ⟨removalExpiring_fresh, trivial, trivial, trivial, trivial, trivial, trivial⟩

theorem run_removalAnsweredAmid
    (read : readAck pc topic payload = some ("CMD1", removalAnswer "gateway_001")) :
    (commandSystem pc true true ∅).run (removalAnsweredAmid topic payload) =
      ((({ removalCollected with
          received := [(topic, removalAnswer "gateway_001")]
          mqtt := .matched ⟨removalTarget, removalAnswer "gateway_001"⟩
          pendingCommands := AList.erase "CMD1" removalCollected.pendingCommands } :
        CommandWorld).continueMqtt true).continueMqtt true).continueMqtt true := by
  rw [TransitionSystem.run, removalAnsweredAmid, TransitionSystem.runFrom_append,
    ← TransitionSystem.run, run_removalExpiring]
  simp only [TransitionSystem.runFrom_cons, TransitionSystem.runFrom_nil]
  change (((removalCollected.ackArrives pc topic payload).continueMqtt true).continueMqtt
    true).continueMqtt true = _
  rw [ackArrives_read read]
  rfl

/-- The row says that the command has timed out, although it has been answered. -/
theorem removalAnsweredAmid_expires
    (read : readAck pc topic payload = some ("CMD1", removalAnswer "gateway_001")) :
    (commandSystem pc true true ∅).Admissible FreshRequest
        (removalAnsweredAmid topic payload ++ [.continueScan 0]) ∧
      "CMD1" ∈ ((commandSystem pc true true ∅).run
        (removalAnsweredAmid topic payload)).settled ∧
      ((commandSystem pc true true ∅).run
        (removalAnsweredAmid topic payload ++ [.continueScan 0])).commandLog.get "CMD1" =
          some ⟨"timeout", "linux_data_ack_timeout",
            "device execution timeout, keep waiting final ack"⟩ ∧
      ¬((commandSystem pc true true ∅).run
        (removalAnsweredAmid topic payload ++ [.continueScan 0])).EndsOnce := by
  have answered := run_removalAnsweredAmid read
  have settled : ((commandSystem pc true true ∅).run
      (removalAnsweredAmid topic payload)).settled = ["CMD1"] := by
    rw [answered]
    rfl
  have expiring : ((commandSystem pc true true ∅).run
      (removalAnsweredAmid topic payload)).scan = .expiring [⟨removalTarget, true, true⟩] := by
    rw [answered]
    rfl
  have recorded : (((commandSystem pc true true ∅).run
      (removalAnsweredAmid topic payload)).commandLog.get "CMD1").isSome = true := by
    rw [answered, CommandWorld.recorded_continueMqtt, CommandWorld.recorded_continueMqtt,
      CommandWorld.recorded_continueMqtt]
    rfl
  have recording : ((commandSystem pc true true ∅).run
      (removalAnsweredAmid topic payload)).databaseOpen = true := by
    rw [answered]
    rfl
  have last : (commandSystem pc true true ∅).run
      (removalAnsweredAmid topic payload ++ [.continueScan 0]) =
        ((commandSystem pc true true ∅).run (removalAnsweredAmid topic payload)).continueScan 0 := by
    rw [TransitionSystem.run, TransitionSystem.runFrom_append]
    rfl
  rw [last]
  generalize (commandSystem pc true true ∅).run (removalAnsweredAmid topic payload) = world at *
  have expired := expire_writes expiring recording (by decide) recorded
  have inside : "CMD1" ∈ world.settled := by
    rw [settled]
    exact List.mem_cons_self
  refine ⟨removalAnsweredAmid_fresh, inside, expired, ?_⟩
  intro ends
  have kept : "CMD1" ∈ (world.continueScan 0).settled := by
    unfold CommandWorld.continueScan
    rw [expiring]
    exact inside
  exact ends.log "CMD1" kept _ expired (by decide)

end Removal

theorem removal_ends_once :
    ((commandSystem (JsonText.codec false) true true ∅).run
      (removalAnsweredLate (removalAnswerTopic "gateway_001")
        (removalAnswerText "gateway_001"))).EndsOnce := by
  have everywhere := (commands_end_once_iff (JsonText.codec false) true true ∅
    (removalAnsweredLate (removalAnswerTopic "gateway_001") (removalAnswerText "gateway_001"))
    removalAnsweredLate_fresh).mpr removalAnsweredLate_inTime
  exact everywhere _ [] (List.append_nil _).symm

theorem removal_expires_after_success :
    (commandSystem (JsonText.codec false) true true ∅).Admissible FreshRequest
        (removalAnsweredAmid (removalAnswerTopic "gateway_001")
          (removalAnswerText "gateway_001") ++ [.continueScan 0]) ∧
      "CMD1" ∈ ((commandSystem (JsonText.codec false) true true ∅).run
        (removalAnsweredAmid (removalAnswerTopic "gateway_001")
          (removalAnswerText "gateway_001"))).settled ∧
      ((commandSystem (JsonText.codec false) true true ∅).run
        (removalAnsweredAmid (removalAnswerTopic "gateway_001")
          (removalAnswerText "gateway_001") ++ [.continueScan 0])).commandLog.get "CMD1" =
            some ⟨"timeout", "linux_data_ack_timeout",
              "device execution timeout, keep waiting final ack"⟩ ∧
      ¬((commandSystem (JsonText.codec false) true true ∅).run
        (removalAnsweredAmid (removalAnswerTopic "gateway_001")
          (removalAnswerText "gateway_001") ++ [.continueScan 0])).EndsOnce :=
  removalAnsweredAmid_expires (read_removalAnswer (Or.inl rfl))

end Pc
end Imx6Gateway
