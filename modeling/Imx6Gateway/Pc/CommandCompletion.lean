import Imx6Gateway.Pc.CommandThreads

namespace Imx6Gateway
namespace Pc

open Library

/-!
# Commands that are completed once

The final answer of a board may come at any time after the command has been
published, also while the thread of the user interface still has to remember
the command or to report that it has been sent.  This file says when the
answer finds its command and the user interface hears of both in turn.
-/

/-- The stages of the command acknowledgements that the user interface gets for a command. -/
def acksFor (commandId : String) (messages : List UiMessage) : List String :=
  messages.filterMap fun message =>
    match message with
    | .commandAck other _ stage _ _ _ => if other = commandId then some stage else none
    | .commandLogUpdate _ _ _ _ _ => none

/-- The command that the thread has begun and not yet reported. -/
def IpcThread.target? : IpcThread -> Option PendingCommandTarget
  | .idle => none
  | .logged _ target => some target
  | .published target _ => some target
  | .logUpdated target _ => some target
  | .remembered target _ => some target

/-- The thread is at work on the command. -/
def IpcThread.Submits (thread : IpcThread) (commandId : String) : Prop :=
  exists target, thread.target? = some target ∧ target.commandId = commandId

/-- The thread has matched the final answer and is about to report it. -/
def MqttThread.Reports (thread : MqttThread) (commandId : String) : Prop :=
  match thread with
  | .matched ack => isFinalAck ack.root = true ∧ ack.target.commandId = commandId
  | _ => False

namespace CommandWorld

def waiting (world : CommandWorld) (commandId : String) : Option PendingCommandTarget :=
  (world.pendingCommands.get commandId).map WaitingCommand.target

/-- The command has been published. -/
def Published (world : CommandWorld) (commandId : String) : Prop :=
  exists entry, entry ∈ world.published ∧ entry.2.commandId = commandId

/-- The final answer to the command has been received. -/
def Answered (world : CommandWorld) (commandId : String) : Prop :=
  exists entry, entry ∈ world.received ∧ isFinalAck entry.2 = true ∧ ackCmdId entry.2 = commandId

/-- Every command whose final answer has come is no longer pending, and the
user interface has heard that it was sent and then that it is done; only the
report of an answer just matched may be missing. -/
def CompletedOnce (world : CommandWorld) : Prop :=
  forall commandId, world.Answered commandId ->
    world.waiting commandId = none ∧
      (acksFor commandId world.toUi = ["sent", "done"] ∨ world.mqtt.Reports commandId)

end CommandWorld

section Runs

variable (pc : JsonCodec)

/-- The user interface uses an identifier once, and a board sends the final
answer to a command once, after the command has been published. -/
def BoardAnswersOnce (world : CommandWorld) : CommandEvent -> Prop
  | .request _ _ _ cmdId => cmdId = "" ∨ cmdId ∉ world.submitted
  | .ackArrives topic payload =>
      match world.mqtt, readAck pc topic payload with
      | .idle, some (commandId, root) =>
          isFinalAck root = true -> world.Published commandId ∧ ¬world.Answered commandId
      | .idle, none => True
      | _, _ => False
  | _ => True

/-- The final answer is looked for when the command is remembered, and it is
reported when the thread of the user interface has finished with the command. -/
def AfterSubmission (world : CommandWorld) : CommandEvent -> Prop
  | .ackArrives topic payload =>
      match readAck pc topic payload with
      | some (commandId, root) =>
          isFinalAck root = true -> (world.waiting commandId).isSome = true
      | none => True
  | .continueMqtt _ =>
      forall commandId, world.mqtt.Reports commandId -> ¬world.ipc.Submits commandId
  | _ => True

end Runs

/-! ## What matters about a state -/

/-- The part of a state that decides whether commands are completed. -/
structure CommandView where
  acks : String -> List String
  waiting : String -> Option PendingCommandTarget
  ipc : IpcThread
  reports : String -> Prop
  submitted : List String
  published : List (String × PendingCommandTarget)
  received : List (String × Json)

def CommandWorld.view (world : CommandWorld) : CommandView where
  acks := fun commandId => acksFor commandId world.toUi
  waiting := world.waiting
  ipc := world.ipc
  reports := world.mqtt.Reports
  submitted := world.submitted
  published := world.published
  received := world.received

namespace CommandView

def Published (view : CommandView) (commandId : String) : Prop :=
  exists entry, entry ∈ view.published ∧ entry.2.commandId = commandId

def Answered (view : CommandView) (commandId : String) : Prop :=
  exists entry, entry ∈ view.received ∧ isFinalAck entry.2 = true ∧ ackCmdId entry.2 = commandId

/-- Nothing has happened to the command that others can see. -/
structure Untouched (view : CommandView) (commandId : String) : Prop where
  acks : view.acks commandId = []
  waiting : view.waiting commandId = none
  published : ¬view.Published commandId
  answered : ¬view.Answered commandId

def Completed (view : CommandView) : Prop :=
  forall commandId, view.Answered commandId ->
    view.waiting commandId = none ∧
      (view.acks commandId = ["sent", "done"] ∨ view.reports commandId)

/-- How far a command has come, by the thread of the user interface. -/
structure Orderly (view : CommandView) : Prop where
  unknown : forall commandId, commandId ≠ "" -> commandId ∉ view.submitted ->
    view.Untouched commandId
  named : forall target, view.ipc.target? = some target ->
    target.commandId ≠ "" ∧ target.commandType ≠ "" ∧ target.commandId ∈ view.submitted
  logged : forall topic target, view.ipc = .logged topic target ->
    view.Untouched target.commandId
  early : forall target ok, view.ipc = .published target ok ∨ view.ipc = .logUpdated target ok ->
    view.acks target.commandId = [] ∧ view.waiting target.commandId = none ∧
      ¬view.Answered target.commandId ∧ (ok = false -> ¬view.Published target.commandId)
  late : forall target ok, view.ipc = .remembered target ok ->
    view.acks target.commandId = [] ∧ (ok = false -> ¬view.Published target.commandId) ∧
      (ok = true -> ¬view.Answered target.commandId ->
        (view.waiting target.commandId).isSome = true)
  finished : forall commandId, view.Published commandId -> ¬view.ipc.Submits commandId ->
    (¬view.Answered commandId -> (view.waiting commandId).isSome = true) ∧
      (¬view.Answered commandId ∨ view.reports commandId -> view.acks commandId = ["sent"])
  reported : forall commandId, view.reports commandId -> view.Answered commandId
  answered : forall commandId, view.Answered commandId -> view.Published commandId
  published : forall commandId, view.Published commandId ->
    commandId ∈ view.submitted ∧ commandId ≠ ""
  keyed : forall commandId target, view.waiting commandId = some target ->
    target.commandId = commandId

/-! ## The steps, as far as they matter -/

def addAck (view : CommandView) (commandId stage : String) : CommandView :=
  { view with acks := Function.update view.acks commandId (view.acks commandId ++ [stage]) }

theorem acks_addAck_of_ne (view : CommandView) {commandId other : String} (stage : String)
    (different : other ≠ commandId) : (view.addAck commandId stage).acks other = view.acks other :=
  Function.update_of_ne different _ _

theorem acks_addAck (view : CommandView) (commandId stage : String) :
    (view.addAck commandId stage).acks commandId = view.acks commandId ++ [stage] :=
  Function.update_self _ _ _

theorem submits_of_target {thread : IpcThread} {target : PendingCommandTarget}
    (begun : thread.target? = some target) {commandId : String} :
    thread.Submits commandId ↔ target.commandId = commandId := by
  constructor
  · rintro ⟨other, found, named⟩
    rw [begun] at found
    cases found
    exact named
  · exact fun named => ⟨target, begun, named⟩

theorem not_submits_idle (commandId : String) : ¬IpcThread.idle.Submits commandId := by
  rintro ⟨target, begun, -⟩
  cases begun

theorem not_fresh_of_published {view : CommandView} (orderly : view.Orderly)
    {commandId known : String} (fresh : commandId = "" ∨ commandId ∉ view.submitted)
    (published : view.Published known) : known ≠ commandId := by
  rintro rfl
  rcases fresh with empty | unknown
  · exact (orderly.published _ published).2 empty
  · exact unknown (orderly.published _ published).1

/-- A request is refused under an identifier that is new or empty. -/
theorem orderly_refuse {view : CommandView} (orderly : view.Orderly) (idle : view.ipc = .idle)
    {commandId : String} (fresh : commandId = "" ∨ commandId ∉ view.submitted) :
    ({ view.addAck commandId "done" with
      submitted := view.submitted ++ [commandId] } : CommandView).Orderly := by
  constructor
  · intro unknown named unlisted
    rw [List.mem_append, not_or, List.mem_singleton] at unlisted
    have untouched := orderly.unknown unknown named unlisted.1
    refine ⟨?_, untouched.waiting, untouched.published, untouched.answered⟩
    exact (view.acks_addAck_of_ne "done" unlisted.2).trans untouched.acks
  · intro target begun
    change view.ipc.target? = some target at begun
    rw [idle] at begun
    cases begun
  · intro topic target begun
    cases idle.symm.trans begun
  · intro target ok begun
    rcases begun with begun | begun <;> cases idle.symm.trans begun
  · intro target ok begun
    cases idle.symm.trans begun
  · intro known published silent
    rcases orderly.finished known published silent with ⟨waits, sent⟩
    refine ⟨waits, ?_⟩
    intro open_
    exact (view.acks_addAck_of_ne "done" 
      (not_fresh_of_published orderly fresh published)).trans (sent open_)
  · exact orderly.reported
  · exact orderly.answered
  · intro known published
    rcases orderly.published known published with ⟨listed, named⟩
    exact ⟨List.mem_append_left _ listed, named⟩
  · exact orderly.keyed

theorem completed_refuse {view : CommandView} (orderly : view.Orderly) (completed : view.Completed)
    {commandId : String} (fresh : commandId = "" ∨ commandId ∉ view.submitted) :
    ({ view.addAck commandId "done" with
      submitted := view.submitted ++ [commandId] } : CommandView).Completed := by
  intro known answered
  have before : view.Answered known := answered
  rcases completed known before with ⟨gone, told⟩
  have different := not_fresh_of_published orderly fresh (orderly.answered known before)
  exact ⟨gone, told.imp_left (view.acks_addAck_of_ne "done" different).trans⟩

theorem orderly_begin {view : CommandView} (orderly : view.Orderly) (idle : view.ipc = .idle)
    {target : PendingCommandTarget} (topic : String) (fresh : target.commandId ∉ view.submitted)
    (named : target.commandId ≠ "" ∧ target.commandType ≠ "") :
    ({ view with
      submitted := view.submitted ++ [target.commandId]
      ipc := .logged topic target } : CommandView).Orderly := by
  have untouched := orderly.unknown target.commandId named.1 fresh
  constructor
  · intro unknown some unlisted
    rw [List.mem_append, not_or] at unlisted
    have before := orderly.unknown unknown some unlisted.1
    exact ⟨before.acks, before.waiting, before.published, before.answered⟩
  · intro other begun
    cases begun
    exact ⟨named.1, named.2, List.mem_append_right _ List.mem_cons_self⟩
  · intro other first begun
    cases begun
    exact ⟨untouched.acks, untouched.waiting, untouched.published, untouched.answered⟩
  · intro other ok begun
    rcases begun with begun | begun <;> cases begun
  · intro other ok begun
    cases begun
  · intro known published _
    have silent : ¬view.ipc.Submits known := by
      rw [idle]
      exact not_submits_idle known
    exact orderly.finished known published silent
  · exact orderly.reported
  · exact orderly.answered
  · intro known published
    rcases orderly.published known published with ⟨listed, some⟩
    exact ⟨List.mem_append_left _ listed, some⟩
  · exact orderly.keyed

theorem orderly_publish {view : CommandView} (orderly : view.Orderly) {topic : String}
    {target : PendingCommandTarget} (begun : view.ipc = .logged topic target) (ok : Bool) :
    ({ view with
      ipc := .published target ok
      published := if ok then view.published ++ [(topic, target)] else view.published
      } : CommandView).Orderly := by
  have untouched := orderly.logged topic target begun
  have current : view.ipc.target? = some target := by
    rw [begun]
    rfl
  have mine := orderly.named target current
  have next {known : String} (published : ({ view with
      ipc := .published target ok
      published := if ok then view.published ++ [(topic, target)] else view.published
      } : CommandView).Published known) : view.Published known ∨ known = target.commandId := by
    rcases published with ⟨entry, listed, named⟩
    change entry ∈ (if ok then view.published ++ [(topic, target)] else view.published) at listed
    split at listed
    · rcases List.mem_append.mp listed with old | new
      · exact Or.inl ⟨entry, old, named⟩
      · rw [List.mem_singleton.mp new] at named
        exact Or.inr named.symm
    · exact Or.inl ⟨entry, listed, named⟩
  constructor
  · intro unknown named unlisted
    have before := orderly.unknown unknown named unlisted
    refine ⟨before.acks, before.waiting, ?_, before.answered⟩
    intro published
    rcases next published with old | rfl
    · exact before.published old
    · exact unlisted mine.2.2
  · intro other same
    cases same
    exact mine
  · intro other first same
    cases same
  · intro other result same
    rcases same with same | same
    · cases same
      refine ⟨untouched.acks, untouched.waiting, untouched.answered, ?_⟩
      rintro rfl published
      exact untouched.published published
    · cases same
  · intro other result same
    cases same
  · intro known published silent
    rcases next published with old | rfl
    · apply orderly.finished known old
      intro submits
      rw [submits_of_target current] at submits
      exact silent ⟨target, rfl, submits⟩
    · exact absurd ⟨target, rfl, rfl⟩ silent
  · exact orderly.reported
  · intro known answered
    rcases orderly.answered known answered with ⟨entry, listed, named⟩
    refine ⟨entry, ?_, named⟩
    change entry ∈ if ok then view.published ++ [(topic, target)] else view.published
    split
    · exact List.mem_append_left _ listed
    · exact listed
  · intro known published
    rcases next published with old | rfl
    · exact orderly.published known old
    · exact ⟨mine.2.2, mine.1⟩
  · exact orderly.keyed

theorem orderly_log {view : CommandView} (orderly : view.Orderly) {target : PendingCommandTarget}
    {ok : Bool} (begun : view.ipc = .published target ok) :
    ({ view with ipc := .logUpdated target ok } : CommandView).Orderly := by
  have current : view.ipc.target? = some target := by
    rw [begun]
    rfl
  constructor
  · intro unknown named unlisted
    have before := orderly.unknown unknown named unlisted
    exact ⟨before.acks, before.waiting, before.published, before.answered⟩
  · intro other same
    cases same
    exact orderly.named target current
  · intro topic other same
    cases same
  · intro other result same
    rcases same with same | same
    · cases same
    · cases same
      exact orderly.early target ok (Or.inl begun)
  · intro other result same
    cases same
  · intro known published silent
    apply orderly.finished known published
    intro submits
    rw [submits_of_target current] at submits
    exact silent ⟨target, rfl, submits⟩
  · exact orderly.reported
  · exact orderly.answered
  · exact orderly.published
  · exact orderly.keyed

theorem orderly_remember {view : CommandView} (orderly : view.Orderly)
    {target stored : PendingCommandTarget} {ok : Bool} (begun : view.ipc = .logUpdated target ok)
    (named : stored.commandId = target.commandId) :
    ({ view with
      ipc := .remembered target ok
      waiting := if ok then Function.update view.waiting target.commandId (some stored)
        else view.waiting } : CommandView).Orderly := by
  have current : view.ipc.target? = some target := by
    rw [begun]
    rfl
  have mine := orderly.named target current
  rcases orderly.early target ok (Or.inr begun) with ⟨acks, waiting, answered, unpublished⟩
  have others {known : String} (different : known ≠ target.commandId) :
      (if ok then Function.update view.waiting target.commandId (some stored)
        else view.waiting) known = view.waiting known := by
    split
    · exact Function.update_of_ne different _ _
    · rfl
  constructor
  · intro unknown some unlisted
    have before := orderly.unknown unknown some unlisted
    have different : unknown ≠ target.commandId := by
      rintro rfl
      exact unlisted mine.2.2
    exact ⟨before.acks, (others different).trans before.waiting, before.published,
      before.answered⟩
  · intro other same
    cases same
    exact mine
  · intro topic other same
    cases same
  · intro other result same
    rcases same with same | same <;> cases same
  · intro other result same
    cases same
    refine ⟨acks, unpublished, ?_⟩
    rintro rfl -
    change (Function.update view.waiting target.commandId (some stored)
      target.commandId).isSome = true
    rw [Function.update_self]
    rfl
  · intro known published silent
    have different : known ≠ target.commandId := by
      rintro rfl
      exact silent ⟨target, rfl, rfl⟩
    obtain ⟨waits, sent⟩ := orderly.finished known published (by
      intro submits
      rw [submits_of_target current] at submits
      exact different submits.symm)
    refine ⟨?_, sent⟩
    intro unanswered
    exact (congrArg Option.isSome (others different)).trans (waits unanswered)
  · exact orderly.reported
  · exact orderly.answered
  · exact orderly.published
  · intro known other found
    by_cases same : known = target.commandId
    · subst same
      change (if ok then Function.update view.waiting target.commandId (some stored)
        else view.waiting) target.commandId = some other at found
      split at found
      · rw [Function.update_self] at found
        cases found
        exact named
      · exact orderly.keyed _ other found
    · exact orderly.keyed known other ((others same).symm.trans found)

theorem completed_remember {view : CommandView} (orderly : view.Orderly)
    (completed : view.Completed) {target stored : PendingCommandTarget} {ok : Bool}
    (begun : view.ipc = .logUpdated target ok) :
    ({ view with
      ipc := .remembered target ok
      waiting := if ok then Function.update view.waiting target.commandId (some stored)
        else view.waiting } : CommandView).Completed := by
  intro known answered
  have before : view.Answered known := answered
  have different : known ≠ target.commandId := by
    rintro rfl
    exact (orderly.early target ok (Or.inr begun)).2.2.1 before
  rcases completed known before with ⟨gone, told⟩
  refine ⟨?_, told⟩
  change (if ok then Function.update view.waiting target.commandId (some stored)
    else view.waiting) known = none
  split
  · exact (Function.update_of_ne different _ _).trans gone
  · exact gone

/-- The command is reported as sent, or as failed. -/
theorem orderly_report {view : CommandView} (orderly : view.Orderly) (completed : view.Completed)
    {target : PendingCommandTarget} {ok : Bool} (begun : view.ipc = .remembered target ok) :
    ({ view.addAck target.commandId (if ok then "sent" else "done") with
      ipc := .idle } : CommandView).Orderly ∧
      ({ view.addAck target.commandId (if ok then "sent" else "done") with
        ipc := .idle } : CommandView).Completed := by
  have current : view.ipc.target? = some target := by
    rw [begun]
    rfl
  have mine := orderly.named target current
  rcases orderly.late target ok begun with ⟨acks, unpublished, waits⟩
  constructor
  · constructor
    · intro unknown named unlisted
      have before := orderly.unknown unknown named unlisted
      refine ⟨?_, before.waiting, before.published, before.answered⟩
      have different : unknown ≠ target.commandId := by
        rintro rfl
        exact unlisted mine.2.2
      exact (view.acks_addAck_of_ne _ different).trans before.acks
    · intro other same
      cases same
    · intro topic other same
      cases same
    · intro other result same
      rcases same with same | same <;> cases same
    · intro other result same
      cases same
    · intro known published _
      by_cases same : known = target.commandId
      · subst same
        have sent : ok = true := by
          cases ok with
          | true => rfl
          | false => exact absurd published (unpublished rfl)
        refine ⟨waits sent, fun _ => ?_⟩
        rw [if_pos sent]
        exact (view.acks_addAck target.commandId "sent").trans (by rw [acks]; rfl)
      · obtain ⟨remains, sent⟩ := orderly.finished known published (by
          intro submits
          rw [submits_of_target current] at submits
          exact same submits.symm)
        exact ⟨remains, fun open_ => (view.acks_addAck_of_ne _ same).trans (sent open_)⟩
    · exact orderly.reported
    · exact orderly.answered
    · exact orderly.published
    · exact orderly.keyed
  · intro known answered
    rcases completed known answered with ⟨gone, told⟩
    refine ⟨gone, ?_⟩
    by_cases same : known = target.commandId
    · subst same
      rcases told with both | reports
      · rw [acks] at both
        cases both
      · exact Or.inr reports
    · rcases told with both | reports
      · exact Or.inl ((view.acks_addAck_of_ne _ same).trans both)
      · exact Or.inr reports

/-- An answer arrives that finds no command, or a stage that is not the last one. -/
theorem answered_receive {view : CommandView} {topic : String} {root : Json}
    {commandId : String} :
    ({ view with received := view.received ++ [(topic, root)] } : CommandView).Answered commandId ↔
      view.Answered commandId ∨ isFinalAck root = true ∧ ackCmdId root = commandId := by
  constructor
  · rintro ⟨entry, listed, final, named⟩
    rcases List.mem_append.mp listed with old | new
    · exact Or.inl ⟨entry, old, final, named⟩
    · rw [List.mem_singleton.mp new] at final named
      exact Or.inr ⟨final, named⟩
  · rintro (⟨entry, listed, final, named⟩ | ⟨final, named⟩)
    · exact ⟨entry, List.mem_append_left _ listed, final, named⟩
    · exact ⟨(topic, root), List.mem_append_right _ List.mem_cons_self, final, named⟩

/-- While the thread is at work on a command, nothing has been said about it. -/
theorem acks_submits {view : CommandView} (orderly : view.Orderly) {commandId : String}
    (submits : view.ipc.Submits commandId) : view.acks commandId = [] := by
  cases thread : view.ipc with
  | idle =>
      rw [thread] at submits
      exact absurd submits (not_submits_idle commandId)
  | logged topic target =>
      rw [thread, @submits_of_target _ target rfl] at submits
      rw [← submits]
      exact (orderly.logged topic target thread).acks
  | published target ok =>
      rw [thread, @submits_of_target _ target rfl] at submits
      rw [← submits]
      exact (orderly.early target ok (Or.inl thread)).1
  | logUpdated target ok =>
      rw [thread, @submits_of_target _ target rfl] at submits
      rw [← submits]
      exact (orderly.early target ok (Or.inr thread)).1
  | remembered target ok =>
      rw [thread, @submits_of_target _ target rfl] at submits
      rw [← submits]
      exact (orderly.late target ok thread).1

theorem acks_unanswered {view : CommandView} (orderly : view.Orderly) {commandId : String}
    (published : view.Published commandId) (unanswered : ¬view.Answered commandId) :
    view.acks commandId = [] ∨ view.acks commandId = ["sent"] := by
  by_cases submits : view.ipc.Submits commandId
  · exact Or.inl (acks_submits orderly submits)
  · exact Or.inr ((orderly.finished commandId published submits).2 (Or.inl unanswered))

/-- An answer that is not the last one changes nothing. -/
theorem orderly_receive_stage {view : CommandView} (orderly : view.Orderly) (topic : String)
    {root : Json} (stage : isFinalAck root = false) :
    ({ view with received := view.received ++ [(topic, root)] } : CommandView).Orderly ∧
      (({ view with received := view.received ++ [(topic, root)] } : CommandView).Completed ↔
        view.Completed) := by
  have same (commandId : String) :
      ({ view with received := view.received ++ [(topic, root)] } : CommandView).Answered
        commandId ↔ view.Answered commandId := by
    rw [answered_receive, stage]
    simp
  constructor
  · constructor
    · intro unknown named unlisted
      have before := orderly.unknown unknown named unlisted
      exact ⟨before.acks, before.waiting, before.published, mt (same unknown).mp before.answered⟩
    · exact orderly.named
    · intro first target begun
      have before := orderly.logged first target begun
      exact ⟨before.acks, before.waiting, before.published, mt (same _).mp before.answered⟩
    · intro target ok begun
      rcases orderly.early target ok begun with ⟨acks, waiting, answered, unpublished⟩
      exact ⟨acks, waiting, mt (same _).mp answered, unpublished⟩
    · intro target ok begun
      rcases orderly.late target ok begun with ⟨acks, unpublished, waits⟩
      exact ⟨acks, unpublished, fun sent open_ => waits sent (mt (same _).mpr open_)⟩
    · intro known published silent
      rcases orderly.finished known published silent with ⟨waits, sent⟩
      exact ⟨fun open_ => waits (mt (same _).mpr open_),
        fun open_ => sent (open_.imp_left (mt (same _).mpr))⟩
    · exact fun known reports => (same known).mpr (orderly.reported known reports)
    · exact fun known answered => orderly.answered known ((same known).mp answered)
    · exact orderly.published
    · exact orderly.keyed
  · exact ⟨fun completed known answered => completed known ((same known).mpr answered),
      fun completed known answered => completed known ((same known).mp answered)⟩

/-- A final answer that finds no command is lost. -/
theorem not_completed_of_unmatched {view : CommandView} (orderly : view.Orderly) (topic : String)
    {root : Json} (final : isFinalAck root = true) (silent : ¬view.reports (ackCmdId root))
    (published : view.Published (ackCmdId root)) (unanswered : ¬view.Answered (ackCmdId root)) :
    ¬({ view with received := view.received ++ [(topic, root)] } : CommandView).Completed := by
  intro completed
  have told := (completed (ackCmdId root) (answered_receive.mpr (Or.inr ⟨final, rfl⟩))).2
  rcases told with both | reports
  · have both : view.acks (ackCmdId root) = ["sent", "done"] := both
    rcases acks_unanswered orderly published unanswered with none | sent
    · rw [none] at both
      cases both
    · rw [sent] at both
      cases both
  · exact silent reports

/-- A final answer takes its command out. -/
theorem orderly_match {view : CommandView} (orderly : view.Orderly) (completed : view.Completed)
    (topic : String) {root : Json} (final : isFinalAck root = true)
    (silent : forall commandId, ¬view.reports commandId)
    (published : view.Published (ackCmdId root)) (unanswered : ¬view.Answered (ackCmdId root))
    (waits : (view.waiting (ackCmdId root)).isSome = true) :
    ({ view with
      received := view.received ++ [(topic, root)]
      waiting := Function.update view.waiting (ackCmdId root) none
      reports := fun commandId => commandId = ackCmdId root } : CommandView).Orderly ∧
      ({ view with
        received := view.received ++ [(topic, root)]
        waiting := Function.update view.waiting (ackCmdId root) none
        reports := fun commandId => commandId = ackCmdId root } : CommandView).Completed := by
  have known {commandId : String} : ({ view with
      received := view.received ++ [(topic, root)]
      waiting := Function.update view.waiting (ackCmdId root) none
      reports := fun commandId => commandId = ackCmdId root } : CommandView).Answered commandId ↔
        view.Answered commandId ∨ commandId = ackCmdId root := by
    have base := @answered_receive view topic root commandId
    rw [final, eq_self_iff_true, true_and, @eq_comm _ (ackCmdId root)] at base
    exact base
  have others {commandId : String} (different : commandId ≠ ackCmdId root) :
      Function.update view.waiting (ackCmdId root) none commandId = view.waiting commandId :=
    Function.update_of_ne different _ _
  have untouched {commandId : String} (before : view.Untouched commandId) :
      commandId ≠ ackCmdId root := by
    rintro rfl
    exact before.published published
  constructor
  · constructor
    · intro unknown named unlisted
      have before := orderly.unknown unknown named unlisted
      have different := untouched before
      refine ⟨before.acks, (others different).trans before.waiting, before.published, ?_⟩
      rw [known]
      exact not_or.mpr ⟨before.answered, different⟩
    · exact orderly.named
    · intro first target begun
      have before := orderly.logged first target begun
      have different := untouched before
      refine ⟨before.acks, (others different).trans before.waiting, before.published, ?_⟩
      rw [known]
      exact not_or.mpr ⟨before.answered, different⟩
    · intro target ok begun
      rcases orderly.early target ok begun with ⟨acks, waiting, answered, unpublished⟩
      have different : target.commandId ≠ ackCmdId root := by
        intro same
        rw [← same, waiting] at waits
        cases waits
      refine ⟨acks, (others different).trans waiting, ?_, unpublished⟩
      rw [known]
      exact not_or.mpr ⟨answered, different⟩
    · intro target ok begun
      rcases orderly.late target ok begun with ⟨acks, unpublished, remembered⟩
      refine ⟨acks, unpublished, ?_⟩
      intro sent open_
      rw [known, not_or] at open_
      exact (congrArg Option.isSome (others open_.2)).trans (remembered sent open_.1)
    · intro commandId listed quiet
      rcases orderly.finished commandId listed quiet with ⟨remains, sent⟩
      constructor
      · intro open_
        rw [known, not_or] at open_
        exact (congrArg Option.isSome (others open_.2)).trans (remains open_.1)
      · rintro (open_ | rfl)
        · rw [known, not_or] at open_
          exact sent (Or.inl open_.1)
        · exact sent (Or.inl unanswered)
    · exact fun commandId same => known.mpr (Or.inr same)
    · intro commandId answered
      rcases known.mp answered with before | rfl
      · exact orderly.answered commandId before
      · exact published
    · exact orderly.published
    · intro commandId target found
      by_cases same : commandId = ackCmdId root
      · subst same
        cases (Function.update_self (ackCmdId root) none view.waiting).symm.trans found
      · exact orderly.keyed commandId target ((others same).symm.trans found)
  · intro commandId answered
    by_cases same : commandId = ackCmdId root
    · subst same
      exact ⟨Function.update_self _ _ _, Or.inr rfl⟩
    · rcases known.mp answered with before | equal
      · rcases completed commandId before with ⟨gone, told⟩
        exact ⟨(others same).trans gone,
          Or.inl (told.resolve_right (silent commandId))⟩
      · exact absurd equal same

/-- The final answer is reported: that completes the command exactly if the
other thread has finished with it. -/
theorem completed_answer_iff {view : CommandView} (orderly : view.Orderly)
    (completed : view.Completed) {commandId : String}
    (reports : forall other, view.reports other ↔ other = commandId) :
    ({ view.addAck commandId "done" with reports := fun _ => False } : CommandView).Completed ↔
      ¬view.ipc.Submits commandId := by
  have mine := (reports commandId).mpr rfl
  have answered := orderly.reported commandId mine
  have published := orderly.answered commandId answered
  constructor
  · intro after submits
    have told := (after commandId answered).2.resolve_right id
    have appended : view.acks commandId ++ ["done"] = ["sent", "done"] :=
      (view.acks_addAck commandId "done").symm.trans told
    rw [acks_submits orderly submits] at appended
    exact absurd appended (by decide)
  · intro silent known told
    have known_answered : view.Answered known := told
    rcases completed known known_answered with ⟨gone, before⟩
    refine ⟨gone, Or.inl ?_⟩
    by_cases same : known = commandId
    · subst same
      have sent := (orderly.finished known published silent).2 (Or.inr mine)
      exact (view.acks_addAck known "done").trans (by rw [sent]; rfl)
    · rcases before with both | other
      · exact (view.acks_addAck_of_ne "done" same).trans both
      · exact absurd ((reports known).mp other) same

theorem orderly_answer {view : CommandView} (orderly : view.Orderly) {commandId : String}
    (reports : forall other, view.reports other ↔ other = commandId)
    (silent : ¬view.ipc.Submits commandId) :
    ({ view.addAck commandId "done" with reports := fun _ => False } : CommandView).Orderly := by
  have answered := orderly.reported commandId ((reports commandId).mpr rfl)
  have others {known : String} (different : known ≠ commandId) :=
    view.acks_addAck_of_ne "done" different
  have begun {target : PendingCommandTarget} (current : view.ipc.target? = some target) :
      target.commandId ≠ commandId :=
    fun same => silent ⟨target, current, same⟩
  have untouched {known : String} (before : view.Untouched known) : known ≠ commandId := by
    rintro rfl
    exact before.answered answered
  constructor
  · intro unknown named unlisted
    have before := orderly.unknown unknown named unlisted
    exact ⟨(others (untouched before)).trans before.acks, before.waiting, before.published,
      before.answered⟩
  · exact orderly.named
  · intro topic target thread
    have before := orderly.logged topic target thread
    exact ⟨(others (untouched before)).trans before.acks, before.waiting, before.published,
      before.answered⟩
  · intro target ok thread
    rcases orderly.early target ok thread with ⟨acks, rest⟩
    have current : view.ipc.target? = some target := by
      rcases thread with thread | thread
      · exact congrArg IpcThread.target? thread
      · exact congrArg IpcThread.target? thread
    exact ⟨(others (begun current)).trans acks, rest⟩
  · intro target ok thread
    rcases orderly.late target ok thread with ⟨acks, rest⟩
    exact ⟨(others (begun (congrArg IpcThread.target? thread))).trans acks, rest⟩
  · intro known published quiet
    rcases orderly.finished known published quiet with ⟨waits, sent⟩
    refine ⟨waits, ?_⟩
    rintro (open_ | never)
    · have different : known ≠ commandId := by
        rintro rfl
        exact open_ answered
      exact (others different).trans (sent (Or.inl open_))
    · exact never.elim
  · exact fun _ never => never.elim
  · exact orderly.answered
  · exact orderly.published
  · exact orderly.keyed

end CommandView

/-! ## The steps of the threads -/

theorem acksFor_append (commandId : String) (first second : List UiMessage) :
    acksFor commandId (first ++ second) = acksFor commandId first ++ acksFor commandId second :=
  List.filterMap_append

namespace CommandWorld

theorem acks_sendMessage_ack {world : CommandWorld} (client : world.hasClient = true)
    (commandId commandType stage : String) (ok : Bool) (reason message : String) :
    (fun known => acksFor known
        (world.sendMessage (.commandAck commandId commandType stage ok reason message)).toUi) =
      (world.view.addAck commandId stage).acks := by
  funext known
  unfold sendMessage
  dsimp only
  rw [client, if_pos rfl, acksFor_append]
  by_cases same : known = commandId
  · subst same
    rw [CommandView.acks_addAck]
    simp [acksFor, view]
  · rw [CommandView.acks_addAck_of_ne _ _ same]
    simp [acksFor, view, Ne.symm same]

theorem acks_sendMessage_update (world : CommandWorld)
    (known commandId commandType status reason message : String) :
    acksFor known
        (world.sendMessage (.commandLogUpdate commandId commandType status reason message)).toUi =
      acksFor known world.toUi := by
  unfold sendMessage
  dsimp only
  split
  · rw [acksFor_append]
    exact List.append_nil _
  · rfl

theorem view_sendMessage_update (world : CommandWorld)
    (commandId commandType status reason message : String) :
    (world.sendMessage (.commandLogUpdate commandId commandType status reason message)).view =
      world.view := by
  unfold view
  simp only [acks_sendMessage_update]
  rfl

theorem waiting_collectDue (world : CommandWorld) (nowMs : Int) (due : WaitingCommand -> Bool)
    {note : WaitingCommand -> WaitingCommand}
    (noted : forall command, (note command).target = command.target) :
    (world.collectDue nowMs due note).1.waiting = world.waiting := by
  funext commandId
  unfold collectDue waiting
  dsimp only
  split
  · rfl
  · rw [Table.get_updateWhere, Option.map_map]
    congr 1
    funext command
    rw [Function.comp_apply]
    split
    · exact noted command
    · rfl

theorem view_collectDue (world : CommandWorld) (nowMs : Int) (due : WaitingCommand -> Bool)
    {note : WaitingCommand -> WaitingCommand}
    (noted : forall command, (note command).target = command.target) :
    (world.collectDue nowMs due note).1.view = world.view := by
  unfold view
  rw [waiting_collectDue world nowMs due noted]
  rfl

theorem view_startScan (world : CommandWorld) (nowMs : Int) :
    (world.startScan nowMs).view = world.view := by
  unfold startScan
  split
  · exact world.view_collectDue nowMs _ fun _ => rfl
  · rfl

theorem view_continueScan (world : CommandWorld) (pick : Nat) :
    (world.continueScan pick).view = world.view := by
  unfold continueScan
  split
  · rfl
  · exact world.view_collectDue _ _ fun _ => rfl
  · split
    · rfl
    · exact view_sendMessage_update world _ _ _ _ _
  · rfl
  · split
    · rfl
    · rfl
  · exact view_sendMessage_update world _ _ _ _ _

theorem hasClient_step (pc : JsonCodec) (world : CommandWorld) (event : CommandEvent) :
    (world.step pc event).hasClient = world.hasClient := by
  cases event with
  | request portConnected nowMs root cmdId =>
      change (world.request portConnected nowMs root cmdId).hasClient = _
      unfold request
      split
      · split
        · rfl
        · rfl
        · rfl
      · rfl
  | continueIpc publishOk nowMs =>
      change (world.continueIpc publishOk nowMs).hasClient = _
      unfold continueIpc
      split <;> rfl
  | ackArrives topic payload =>
      change (world.ackArrives pc topic payload).hasClient = _
      unfold ackArrives
      split
      · split
        · rfl
        · rfl
      · rfl
  | continueMqtt deleteOk =>
      change (world.continueMqtt deleteOk).hasClient = _
      unfold continueMqtt
      split <;> rfl
  | startScan nowMs =>
      change (world.startScan nowMs).hasClient = _
      unfold startScan
      split <;> rfl
  | continueScan pick =>
      change (world.continueScan pick).hasClient = _
      unfold continueScan
      split
      · rfl
      · rfl
      · split <;> rfl
      · rfl
      · split <;> rfl
      · rfl

/-! ### The thread of the user interface -/

theorem request_keeps {world : CommandWorld} (client : world.hasClient = true)
    (orderly : world.view.Orderly) (completed : world.view.Completed) (portConnected : Bool)
    (nowMs : Int) (root : Json) {cmdId : String}
    (fresh : cmdId = "" ∨ cmdId ∉ world.submitted) :
    (world.request portConnected nowMs root cmdId).view.Orderly ∧
      (world.request portConnected nowMs root cmdId).view.Completed := by
  unfold request
  split
  case h_2 => exact ⟨orderly, completed⟩
  case h_1 idle =>
    split
    · exact ⟨orderly, completed⟩
    · rename_i reason message _
      have shape : ({ world with submitted := world.submitted ++ [cmdId] }.refuse cmdId
          (commandNameFrom root) reason message).view =
          { world.view.addAck cmdId "done" with submitted := world.view.submitted ++ [cmdId] } :=
        congrArg (fun acks => ({ world.view with
            acks := acks
            submitted := world.submitted ++ [cmdId] } : CommandView))
          (acks_sendMessage_ack client cmdId (commandNameFrom root) "done" false reason message)
      rw [shape]
      exact ⟨CommandView.orderly_refuse orderly idle fresh,
        CommandView.completed_refuse orderly completed fresh⟩
    · rename_i topic _ target published
      rcases handleCommand_describes published with ⟨describes, named, typed⟩
      rw [← describes.commandId] at fresh named ⊢
      exact ⟨CommandView.orderly_begin orderly idle topic (fresh.resolve_left named)
        ⟨named, typed⟩, completed⟩

theorem view_remember {world : CommandWorld} {target : PendingCommandTarget} (ok : Bool)
    (nowMs : Int) (named : target.commandId ≠ "" ∧ target.commandType ≠ "")
    (begun : world.ipc = .logUpdated target ok) (publishOk : Bool) :
    (world.continueIpc publishOk nowMs).view =
      { world.view with
        ipc := .remembered target ok
        waiting := if ok then Function.update world.view.waiting target.commandId
            (some { target with requestTimeMs := nowMs })
          else world.view.waiting } := by
  have remembered : (world.continueIpc publishOk nowMs).waiting =
      if ok then Function.update world.view.waiting target.commandId
          (some { target with requestTimeMs := nowMs })
        else world.view.waiting := by
    funext commandId
    simp only [continueIpc, begun, waiting]
    cases ok with
    | false => rfl
    | true =>
        rw [if_pos rfl, if_pos rfl, rememberPendingCommand,
          if_neg (not_or.mpr named), Table.get_put]
        by_cases same : commandId = target.commandId
        · subst same
          rw [if_pos rfl, Function.update_self]
          rfl
        · rw [if_neg same, Function.update_of_ne same]
          rfl
  unfold view
  rw [remembered]
  simp only [continueIpc, begun]
  rfl

theorem continueIpc_keeps {world : CommandWorld} (client : world.hasClient = true)
    (orderly : world.view.Orderly) (completed : world.view.Completed) (publishOk : Bool)
    (nowMs : Int) :
    (world.continueIpc publishOk nowMs).view.Orderly ∧
      (world.continueIpc publishOk nowMs).view.Completed := by
  cases begun : world.ipc with
  | idle =>
      unfold continueIpc
      rw [begun]
      exact ⟨orderly, completed⟩
  | logged topic target =>
      unfold continueIpc
      rw [begun]
      exact ⟨CommandView.orderly_publish orderly begun _, completed⟩
  | published target ok =>
      unfold continueIpc
      rw [begun]
      exact ⟨CommandView.orderly_log orderly begun, completed⟩
  | logUpdated target ok =>
      have named := orderly.named target (congrArg IpcThread.target? begun)
      rw [view_remember ok nowMs ⟨named.1, named.2.1⟩ begun]
      exact ⟨CommandView.orderly_remember orderly begun rfl,
        CommandView.completed_remember orderly completed begun⟩
  | remembered target ok =>
      have shape : (world.continueIpc publishOk nowMs).view =
          { world.view.addAck target.commandId (if ok then "sent" else "done") with
            ipc := .idle } := by
        unfold continueIpc view
        rw [begun]
        dsimp only
        rw [acks_sendMessage_ack client]
        rfl
      rw [shape]
      exact CommandView.orderly_report orderly completed begun

/-! ### The thread of MQTT -/

theorem silent_of_idle {world : CommandWorld} (idle : world.mqtt = .idle) :
    world.view.reports = fun _ => False := by
  change world.mqtt.Reports = _
  rw [idle]
  rfl

/-- What an answer does that is not the last one, or that finds no command. -/
theorem view_ackArrives_kept {pc : JsonCodec} {world : CommandWorld} {topic payload : String}
    {root : Json} (idle : world.mqtt = .idle)
    (read : readAck pc topic payload = some (ackCmdId root, root))
    (kept : isFinalAck root = false ∨ world.waiting (ackCmdId root) = none) :
    (world.ackArrives pc topic payload).view =
      { world.view with received := world.received ++ [(topic, root)] } := by
  have silent := silent_of_idle idle
  unfold ackArrives
  rw [idle, read]
  dsimp only
  cases found : world.pendingCommands.get (ackCmdId root) with
  | none =>
      exact congrArg (fun reports => ({ world.view with
        received := world.received ++ [(topic, root)]
        reports := reports } : CommandView)) silent.symm
  | some command =>
      have stage : isFinalAck root = false := by
        rcases kept with stage | gone
        · exact stage
        · rw [waiting, found] at gone
          cases gone
      have reports : (MqttThread.matched ⟨command.target, root⟩).Reports =
          world.view.reports := by
        rw [silent]
        funext commandId
        apply propext
        exact ⟨fun final => absurd (stage.symm.trans final.1) (by decide), False.elim⟩
      rw [stage]
      exact congrArg (fun reports => ({ world.view with
        received := world.received ++ [(topic, root)]
        reports := reports } : CommandView)) reports

/-- What the final answer does to the command it finds. -/
theorem view_ackArrives_final {pc : JsonCodec} {world : CommandWorld} {topic payload : String}
    {root : Json} (orderly : world.view.Orderly) (idle : world.mqtt = .idle)
    (read : readAck pc topic payload = some (ackCmdId root, root))
    (final : isFinalAck root = true) (waits : (world.waiting (ackCmdId root)).isSome = true) :
    (world.ackArrives pc topic payload).view =
      { world.view with
        received := world.received ++ [(topic, root)]
        waiting := Function.update world.view.waiting (ackCmdId root) none
        reports := fun commandId => commandId = ackCmdId root } := by
  unfold ackArrives
  rw [idle, read]
  dsimp only
  cases found : world.pendingCommands.get (ackCmdId root) with
  | none =>
      rw [waiting, found] at waits
      cases waits
  | some command =>
      have named : command.target.commandId = ackCmdId root :=
        orderly.keyed (ackCmdId root) command.target (congrArg (Option.map _) found)
      have remaining : (fun commandId => (Table.get (AList.erase (ackCmdId root)
          world.pendingCommands) commandId).map WaitingCommand.target) =
          Function.update world.view.waiting (ackCmdId root) none := by
        funext commandId
        rw [Table.get_erase]
        by_cases same : commandId = ackCmdId root
        · subst same
          rw [if_pos rfl, Function.update_self]
          rfl
        · rw [if_neg same, Function.update_of_ne same]
          rfl
      have reports : (MqttThread.matched ⟨command.target, root⟩).Reports =
          fun commandId => commandId = ackCmdId root := by
        funext commandId
        apply propext
        constructor
        · exact fun matched => matched.2.symm.trans named
        · exact fun same => ⟨final, named.trans same.symm⟩
      rw [final, if_pos rfl, ← remaining, ← reports]
      rfl

theorem ackArrives_keeps (pc : JsonCodec) {world : CommandWorld} (orderly : world.view.Orderly)
    (completed : world.view.Completed) {topic payload : String}
    (expected : BoardAnswersOnce pc world (.ackArrives topic payload)) :
    ((world.ackArrives pc topic payload).view.Completed ↔
        AfterSubmission pc world (.ackArrives topic payload)) ∧
      ((world.ackArrives pc topic payload).view.Completed ->
        (world.ackArrives pc topic payload).view.Orderly) := by
  unfold BoardAnswersOnce at expected
  unfold AfterSubmission
  dsimp only at expected ⊢
  cases idle : world.mqtt with
  | idle =>
      rw [idle] at expected
      cases read : readAck pc topic payload with
      | none =>
          have unread : world.ackArrives pc topic payload = world := by
            unfold ackArrives
            rw [idle, read]
          rw [unread]
          exact ⟨⟨fun _ => trivial, fun _ => completed⟩, fun _ => orderly⟩
      | some found =>
          rcases found with ⟨commandId, root⟩
          rcases readAck_cmdId read with rfl
          rw [read] at expected
          dsimp only at expected ⊢
          have silent : ¬world.view.reports (ackCmdId root) := by
            rw [silent_of_idle idle]
            exact id
          cases final : isFinalAck root with
          | false =>
              rw [view_ackArrives_kept idle read (Or.inl final)]
              rcases CommandView.orderly_receive_stage orderly topic final with ⟨after, same⟩
              refine ⟨⟨fun _ never => absurd never (by decide), fun _ => same.mpr completed⟩,
                fun _ => after⟩
          | true =>
              rcases expected final with ⟨published, unanswered⟩
              by_cases waits : (world.waiting (ackCmdId root)).isSome = true
              · have matched := CommandView.orderly_match orderly completed topic final
                  (fun commandId => by rw [silent_of_idle idle]; exact id) published unanswered waits
                rw [view_ackArrives_final orderly idle read final waits]
                exact ⟨⟨fun _ _ => waits, fun _ => matched.2⟩, fun _ => matched.1⟩
              · have lost := CommandView.not_completed_of_unmatched orderly topic final silent
                  published unanswered
                rw [view_ackArrives_kept idle read
                  (Or.inr (Option.not_isSome_iff_eq_none.mp waits))]
                exact ⟨⟨fun after => absurd after lost, fun met => absurd (met rfl) waits⟩,
                  fun after => absurd after lost⟩
  | _ =>
      rw [idle] at expected
      exact expected.elim

/-- Before the final answer is reported, or where there is none. -/
theorem view_continueMqtt_silent {world : CommandWorld} (deleteOk : Bool)
    (silent : forall commandId, ¬world.mqtt.Reports commandId) :
    (world.continueMqtt deleteOk).view = world.view := by
  have reports : world.mqtt.Reports = fun _ => False := by
    funext commandId
    exact eq_false (silent commandId)
  have kept (next : CommandWorld) (same : { next.view with reports := world.view.reports } =
      world.view) (quiet : next.mqtt.Reports = fun _ => False) : next.view = world.view := by
    rw [← same]
    exact congrArg (fun reports => ({ next.view with reports := reports } : CommandView))
      (quiet.trans reports.symm)
  unfold continueMqtt
  split
  · rfl
  · rename_i ack matched
    have stage : ¬isFinalAck ack.root = true := by
      intro final
      apply silent ack.target.commandId
      rw [matched]
      exact ⟨final, rfl⟩
    apply kept
    · dsimp only
      rw [if_neg stage]
      rfl
    · rfl
  · exact kept _ rfl rfl
  · apply kept
    · exact congrArg (fun view => ({ view with reports := world.view.reports } : CommandView))
        (view_sendMessage_update world _ _ _ _ _)
    · rfl

theorem continueMqtt_keeps (pc : JsonCodec) {world : CommandWorld}
    (client : world.hasClient = true) (orderly : world.view.Orderly)
    (completed : world.view.Completed) (deleteOk : Bool) :
    ((world.continueMqtt deleteOk).view.Completed ↔
        AfterSubmission pc world (.continueMqtt deleteOk)) ∧
      ((world.continueMqtt deleteOk).view.Completed ->
        (world.continueMqtt deleteOk).view.Orderly) := by
  by_cases silent : forall commandId, ¬world.mqtt.Reports commandId
  · rw [view_continueMqtt_silent deleteOk silent]
    exact ⟨⟨fun _ commandId reports => absurd reports (silent commandId), fun _ => completed⟩,
      fun _ => orderly⟩
  · rcases not_forall_not.mp silent with ⟨commandId, reported⟩
    cases matched : world.mqtt with
    | matched ack =>
        rw [matched] at reported
        rcases reported with ⟨final, rfl⟩
        have reports (other : String) : world.view.reports other ↔
            other = ack.target.commandId := by
          change world.mqtt.Reports other ↔ _
          rw [matched]
          exact ⟨fun report => report.2.symm, fun same => ⟨final, same.symm⟩⟩
        have shape : (world.continueMqtt deleteOk).view =
            { world.view.addAck ack.target.commandId "done" with reports := fun _ => False } := by
          unfold continueMqtt
          rw [matched]
          dsimp only
          rw [final, if_pos rfl]
          exact congrArg (fun acks => ({ world.view with
              acks := acks
              reports := fun _ => False } : CommandView))
            (acks_sendMessage_ack client _ _ _ _ _ _)
        have condition : AfterSubmission pc world (.continueMqtt deleteOk) ↔
            ¬world.ipc.Submits ack.target.commandId := by
          constructor
          · exact fun met => met _ ((reports _).mpr rfl)
          · intro idle other report
            rw [(reports other).mp report]
            exact idle
        have complete_iff := CommandView.completed_answer_iff orderly completed reports
        rw [shape, condition]
        exact ⟨complete_iff,
          fun after => CommandView.orderly_answer orderly reports (complete_iff.mp after)⟩
    | _ =>
        rw [matched] at reported
        exact reported.elim

end CommandWorld

/-! ## Runs -/

theorem completion_step (pc : JsonCodec) {world : CommandWorld} {event : CommandEvent}
    (client : world.hasClient = true) (orderly : world.view.Orderly)
    (completed : world.view.Completed) (expected : BoardAnswersOnce pc world event) :
    ((world.step pc event).view.Completed ↔ AfterSubmission pc world event) ∧
      ((world.step pc event).view.Completed -> (world.step pc event).view.Orderly) := by
  have always {next : CommandWorld} (kept : next.view.Orderly ∧ next.view.Completed) :
      (next.view.Completed ↔ True) ∧ (next.view.Completed -> next.view.Orderly) :=
    ⟨⟨fun _ => trivial, fun _ => kept.2⟩, fun _ => kept.1⟩
  cases event with
  | request portConnected nowMs root cmdId =>
      exact always (world.request_keeps client orderly completed portConnected nowMs root expected)
  | continueIpc publishOk nowMs =>
      exact always (world.continueIpc_keeps client orderly completed publishOk nowMs)
  | ackArrives topic payload => exact world.ackArrives_keeps pc orderly completed expected
  | continueMqtt deleteOk => exact world.continueMqtt_keeps pc client orderly completed deleteOk
  | startScan nowMs =>
      have kept : (world.startScan nowMs).view.Orderly ∧
          (world.startScan nowMs).view.Completed := by
        rw [world.view_startScan nowMs]
        exact ⟨orderly, completed⟩
      exact always kept
  | continueScan pick =>
      have kept : (world.continueScan pick).view.Orderly ∧
          (world.continueScan pick).view.Completed := by
        rw [world.view_continueScan pick]
        exact ⟨orderly, completed⟩
      exact always kept

theorem orderly_start (databaseOpen : Bool) (commandLog : Table String CommandLogRow) :
    (CommandWorld.start true databaseOpen commandLog).view.Orderly := by
  have unpublished (commandId : String) :
      ¬(CommandWorld.start true databaseOpen commandLog).view.Published commandId := by
    rintro ⟨entry, listed, -⟩
    cases listed
  have unanswered (commandId : String) :
      ¬(CommandWorld.start true databaseOpen commandLog).view.Answered commandId := by
    rintro ⟨entry, listed, -⟩
    cases listed
  constructor
  · exact fun commandId _ _ => ⟨rfl, rfl, unpublished commandId, unanswered commandId⟩
  · intro target begun
    cases begun
  · intro topic target begun
    cases begun
  · intro target ok begun
    rcases begun with begun | begun <;> cases begun
  · intro target ok begun
    cases begun
  · exact fun commandId published => absurd published (unpublished commandId)
  · exact fun commandId reports => reports.elim
  · exact fun commandId answered => absurd answered (unanswered commandId)
  · exact fun commandId published => absurd published (unpublished commandId)
  · intro commandId target found
    cases found

/-- In a run in which boards answer each command once, every command is
completed all the way exactly if each final answer is looked for when its
command is remembered, and reported when its submission has been. -/
theorem commands_completed_once_iff (pc : JsonCodec) (databaseOpen : Bool)
    (commandLog : Table String CommandLogRow) (events : List CommandEvent)
    (expected : (commandSystem pc true databaseOpen commandLog).Admissible
      (BoardAnswersOnce pc) events) :
    (forall before after, events = before ++ after ->
        ((commandSystem pc true databaseOpen commandLog).run before).CompletedOnce) ↔
      (commandSystem pc true databaseOpen commandLog).Admissible (AfterSubmission pc) events := by
  let invariant (world : CommandWorld) : Prop := world.hasClient = true ∧ world.view.Orderly
  apply @TransitionSystem.everywhereFrom_iff_of_kept _ _ _ (BoardAnswersOnce pc) _ invariant
    CommandWorld.CompletedOnce
  · intro world event ⟨client, orderly⟩ inDomain completed after
    refine ⟨(world.hasClient_step pc event).trans client, ?_⟩
    exact (completion_step pc client orderly completed inDomain).2 after
  · intro world event ⟨client, orderly⟩ inDomain completed
    exact (completion_step pc client orderly completed inDomain).1
  · exact ⟨rfl, orderly_start databaseOpen commandLog⟩
  · intro commandId answered
    exact absurd answered (by
      rintro ⟨entry, listed, -⟩
      cases listed)
  · exact expected

section Removal

variable {pc : JsonCodec} {topic payload : String} {root : Json}

/-- The answer comes when the command has been reported as sent. -/
def removalInTurn (topic payload : String) : List CommandEvent :=
  [.request true 0 removalRequest "CMD1", .continueIpc true 0, .continueIpc true 0,
    .continueIpc true 0, .continueIpc true 0, .ackArrives topic payload, .continueMqtt true]

/-- Here the answer comes before the command is remembered. -/
def removalAnsweredEarly (topic payload : String) : List CommandEvent :=
  [.request true 0 removalRequest "CMD1", .continueIpc true 0, .ackArrives topic payload,
    .continueIpc true 0, .continueIpc true 0, .continueIpc true 0]

theorem boardAnswersOnce_first (read : readAck pc topic payload = some ("CMD1", root))
    {world : CommandWorld} (idle : world.mqtt = .idle) (published : world.Published "CMD1")
    (unanswered : world.received = []) :
    BoardAnswersOnce pc world (.ackArrives topic payload) := by
  unfold BoardAnswersOnce
  dsimp only
  rw [idle, read]
  intro _
  refine ⟨published, ?_⟩
  rintro ⟨entry, listed, -⟩
  rw [unanswered] at listed
  cases listed

theorem removalInTurn_expected (read : readAck pc topic payload = some ("CMD1", root)) :
    (commandSystem pc true true ∅).Admissible (BoardAnswersOnce pc)
      (removalInTurn topic payload) := by
  refine ⟨Or.inr List.not_mem_nil, trivial, trivial, trivial, trivial, ?_, trivial, trivial⟩
  apply boardAnswersOnce_first read
  · rfl
  · exact ⟨("cmd/gateway_001/port_001", removalTarget), List.mem_cons_self, rfl⟩
  · rfl

theorem removalInTurn_afterSubmission (read : readAck pc topic payload = some ("CMD1", root)) :
    (commandSystem pc true true ∅).Admissible (AfterSubmission pc)
      (removalInTurn topic payload) := by
  refine ⟨trivial, trivial, trivial, trivial, trivial, ?_, ?_, trivial⟩
  · unfold AfterSubmission
    dsimp only
    rw [read]
    exact fun _ => rfl
  · intro commandId _
    change ¬(CommandWorld.ackArrives pc _ topic payload).ipc.Submits commandId
    rw [ackArrives_read read]
    exact CommandView.not_submits_idle commandId

/-- The answer is dropped, the command stays pending and the user interface
only hears that it has been sent. -/
theorem removalAnsweredEarly_waits (read : readAck pc topic payload = some ("CMD1", root))
    (final : isFinalAck root = true) (named : ackCmdId root = "CMD1") :
    (commandSystem pc true true ∅).Admissible (BoardAnswersOnce pc)
        (removalAnsweredEarly topic payload) ∧
      acksFor "CMD1" ((commandSystem pc true true ∅).run
        (removalAnsweredEarly topic payload)).toUi = ["sent"] ∧
      (((commandSystem pc true true ∅).run
        (removalAnsweredEarly topic payload)).waiting "CMD1").isSome = true ∧
      ¬((commandSystem pc true true ∅).run (removalAnsweredEarly topic payload)).CompletedOnce := by
  have expected : (commandSystem pc true true ∅).Admissible (BoardAnswersOnce pc)
      (removalAnsweredEarly topic payload) := by
    refine ⟨Or.inr List.not_mem_nil, trivial, ?_, trivial, trivial, trivial, trivial⟩
    apply boardAnswersOnce_first read
    · rfl
    · exact ⟨("cmd/gateway_001/port_001", removalTarget), List.mem_cons_self, rfl⟩
    · rfl
  have step (world : CommandWorld) : (commandSystem pc true true ∅).step world
      (.ackArrives topic payload) = _ := ackArrives_read read world
  have sent : acksFor "CMD1" ((commandSystem pc true true ∅).run
      (removalAnsweredEarly topic payload)).toUi = ["sent"] := by
    simp only [TransitionSystem.run, removalAnsweredEarly, TransitionSystem.runFrom_cons,
      TransitionSystem.runFrom_nil, step]
    rfl
  have waits : (((commandSystem pc true true ∅).run
      (removalAnsweredEarly topic payload)).waiting "CMD1").isSome = true := by
    simp only [TransitionSystem.run, removalAnsweredEarly, TransitionSystem.runFrom_cons,
      TransitionSystem.runFrom_nil, step]
    rfl
  have answered : ((commandSystem pc true true ∅).run
      (removalAnsweredEarly topic payload)).Answered "CMD1" := by
    refine ⟨(topic, root), ?_, final, named⟩
    simp only [TransitionSystem.run, removalAnsweredEarly, TransitionSystem.runFrom_cons,
      TransitionSystem.runFrom_nil, step]
    exact List.mem_cons_self
  refine ⟨expected, sent, waits, ?_⟩
  intro completed
  rw [(completed "CMD1" answered).1] at waits
  cases waits

end Removal

theorem removal_completed_once :
    ((commandSystem (JsonText.codec false) true true ∅).run
      (removalInTurn (removalAnswerTopic "gateway_001")
        (removalAnswerText "gateway_001"))).CompletedOnce := by
  have read := read_removalAnswer (Or.inl rfl)
  have everywhere := (commands_completed_once_iff (JsonText.codec false) true ∅ _
    (removalInTurn_expected read)).mpr (removalInTurn_afterSubmission read)
  exact everywhere _ [] (List.append_nil _).symm

theorem removal_answered_early :
    (commandSystem (JsonText.codec false) true true ∅).Admissible
        (BoardAnswersOnce (JsonText.codec false))
        (removalAnsweredEarly (removalAnswerTopic "gateway_001")
          (removalAnswerText "gateway_001")) ∧
      acksFor "CMD1" ((commandSystem (JsonText.codec false) true true ∅).run
        (removalAnsweredEarly (removalAnswerTopic "gateway_001")
          (removalAnswerText "gateway_001"))).toUi = ["sent"] ∧
      (((commandSystem (JsonText.codec false) true true ∅).run
        (removalAnsweredEarly (removalAnswerTopic "gateway_001")
          (removalAnswerText "gateway_001"))).waiting "CMD1").isSome = true ∧
      ¬((commandSystem (JsonText.codec false) true true ∅).run
        (removalAnsweredEarly (removalAnswerTopic "gateway_001")
          (removalAnswerText "gateway_001"))).CompletedOnce :=
  removalAnsweredEarly_waits (read_removalAnswer (Or.inl rfl)) rfl rfl

end Pc
end Imx6Gateway
