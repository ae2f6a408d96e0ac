import Imx6Gateway.Library.JsonText
import Imx6Gateway.LocalUi.PendingOperations

namespace Imx6Gateway
namespace LocalUi

open Library

/-!
# The end of the operations

An operation with a timer ends when the timer fires, if not before.  Whether
all have one is decided by the answers alone: a request, a status and a timer
never leave an operation without.
-/

namespace Widget

/-- An answer with the number of an operation is of the operation's command. -/
structure OwnAnswer (seq : UInt32) (cmd : String) (widget : Widget) : Prop where
  addSlave : forall slave, widget.pendingAddSlave = some slave -> slave.seq = seq ->
    cmd = "add_device"
  removeSlave : forall slave, widget.pendingRemoveSlave = some slave -> slave.seq = seq ->
    cmd = "remove_device"
  relay : forall relay, widget.pendingRelay = some relay -> relay.seq = seq ->
    relay.seq ∉ widget.confirmTimers -> cmd = "set_relay"

theorem withoutSeq_eq_some_iff {seq : UInt32} {pending : Option PendingSlave}
    {slave : PendingSlave} :
    withoutSeq seq pending = some slave ↔ pending = some slave ∧ slave.seq ≠ seq := by
  rw [withoutSeq, Option.filter_eq_some_iff, decide_eq_true_eq]

namespace Answered

variable {seq : UInt32} {cmd : String} {before after : Widget}

theorem numbered (answered : Answered seq cmd before after) (numbered : before.Numbered) :
    after.Numbered where
  addSlave := by
    intro slave pending
    apply Nat.lt_of_lt_of_le (numbered.addSlave slave ?_) answered.later
    rw [answered.addSlave] at pending
    split at pending
    · exact (withoutSeq_eq_some_iff.mp pending).1
    · exact pending
  removeSlave := by
    intro slave pending
    apply Nat.lt_of_lt_of_le (numbered.removeSlave slave ?_) answered.later
    rw [answered.removeSlave] at pending
    split at pending
    · exact (withoutSeq_eq_some_iff.mp pending).1
    · exact pending
  relay := by
    intro relay pending
    rcases answered.relay relay pending with ⟨old, found, same⟩
    rw [← same]
    exact Nat.lt_of_lt_of_le (numbered.relay old found) answered.later

/-- The timer of an operation with the number is stopped. -/
theorem commands_isSome (answered : Answered seq cmd before after) {other : UInt32}
    (old : other.toNat < before.nextCommandSeq.toNat) :
    (after.pendingCommands other).isSome = true ↔
      other ≠ seq ∧ (before.pendingCommands other).isSome = true := by
  rw [answered.commands other old]
  split
  · rename_i same
    exact iff_of_false Bool.false_ne_true fun both => both.1 same
  · rename_i different
    exact (and_iff_right different).symm

theorem timed_iff (answered : Answered seq cmd before after) (timed : before.Timed)
    (numbered : before.Numbered) : after.Timed ↔ OwnAnswer seq cmd before := by
  constructor
  · intro after_timed
    refine ⟨?_, ?_, ?_⟩
    · intro slave pending same
      by_contra foreign
      have running := after_timed.addSlave slave (by rw [answered.addSlave, if_neg foreign, pending])
      exact ((answered.commands_isSome (numbered.addSlave slave pending)).mp running).1 same
    · intro slave pending same
      by_contra foreign
      have running := after_timed.removeSlave slave
        (by rw [answered.removeSlave, if_neg foreign, pending])
      exact ((answered.commands_isSome (numbered.removeSlave slave pending)).mp running).1 same
    · intro relay pending same unconfirmed
      by_contra foreign
      have others := answered.others foreign
      rcases after_timed.relay relay (others.1.trans pending) with running | confirmed
      · exact ((answered.commands_isSome (numbered.relay relay pending)).mp running).1 same
      · exact unconfirmed (others.2 ▸ confirmed)
  · intro own
    refine ⟨?_, ?_, ?_⟩
    · intro slave pending
      rw [answered.addSlave] at pending
      split at pending
      · rcases withoutSeq_eq_some_iff.mp pending with ⟨old, different⟩
        exact (answered.commands_isSome (numbered.addSlave slave old)).mpr
          ⟨different, timed.addSlave slave old⟩
      · rename_i foreign
        exact (answered.commands_isSome (numbered.addSlave slave pending)).mpr
          ⟨fun same => foreign (own.addSlave slave pending same), timed.addSlave slave pending⟩
    · intro slave pending
      rw [answered.removeSlave] at pending
      split at pending
      · rcases withoutSeq_eq_some_iff.mp pending with ⟨old, different⟩
        exact (answered.commands_isSome (numbered.removeSlave slave old)).mpr
          ⟨different, timed.removeSlave slave old⟩
      · rename_i foreign
        exact (answered.commands_isSome (numbered.removeSlave slave pending)).mpr
          ⟨fun same => foreign (own.removeSlave slave pending same),
            timed.removeSlave slave pending⟩
    · intro relay pending
      rcases answered.relay relay pending with ⟨old, found, same⟩
      have oldTimed := timed.relay old found
      rw [← same]
      by_cases answers : old.seq = seq
      · apply Or.inr
        by_cases confirmed : old.seq ∈ before.confirmTimers
        · exact answered.timers confirmed
        · have sets := own.relay old found answers confirmed
          rw [answers]
          exact answered.confirmed sets relay pending (same.symm.trans answers)
      · rcases oldTimed with running | confirmed
        · exact Or.inl ((answered.commands_isSome (numbered.relay old found)).mpr
            ⟨answers, running⟩)
        · exact Or.inr (answered.timers confirmed)

end Answered

/-! ## Requests and timers -/

theorem sendCommand_some {widget sent : Widget} (room : widget.Room 1) {env : Surroundings}
    {cmd : String} {payload : Members} {seq : UInt32}
    (run : widget.sendCommand env cmd payload = (some seq, sent)) :
    Sends 1 widget sent ∧ (sent.pendingCommands seq).isSome = true ∧
      seq.toNat < sent.nextCommandSeq.toNat := by
  have sends := Sends.sendCommand room env cmd payload
  rw [run] at sends
  refine ⟨sends, ?_⟩
  unfold sendCommand at run
  dsimp only at run
  split at run
  · cases run
  · split at run
    · cases run
    · cases run
      refine ⟨?_, ?_⟩
      · dsimp only
        rw [Function.update_self]
        rfl
      · rw [Sends.next_toNat room]
        exact Nat.lt_succ_self _

/-- Every operation is timed and has a number that was used. -/
structure Sound (widget : Widget) : Prop where
  timed : widget.Timed
  numbered : widget.Numbered

theorem Keeps.sound {count : Nat} {before after : Widget} (keeps : Keeps count before after)
    (sound : before.Sound) : after.Sound :=
  ⟨keeps.timed sound.timed sound.numbered, keeps.numbered sound.numbered⟩

theorem sound_of_sendCommand {widget after : Widget} (sound : widget.Sound) (room : widget.Room 1)
    {env : Surroundings} {cmd : String} {payload : Members} {seq : Option UInt32}
    (run : widget.sendCommand env cmd payload = (seq, after)) : after.Sound := by
  have kept := (Sends.sendCommand room env cmd payload).keeps.sound sound
  rw [run] at kept
  exact kept

theorem sound_handleRequest {widget : Widget} (sound : widget.Sound) (room : widget.Room 1)
    (env : Surroundings) (request : Request) : (widget.handleRequest env request).Sound := by
  cases request with
  | scanPorts | connectMaster | disconnectMaster | offlineCacheConfig | refreshOfflineCache
  | clearOfflineCache | flushOfflineCache =>
      exact (Sends.sendCommand room env _ _).keeps.sound sound
  | addSlave slot slaveId deviceType pollIntervalMs thresholdPayload =>
      rw [handleRequest, requestAddSlave]
      split
      · rename_i seq sent run
        rcases sendCommand_some room run with ⟨sends, running, used⟩
        have kept := sends.keeps.sound sound
        refine ⟨⟨?_, kept.timed.removeSlave, kept.timed.relay⟩,
          ⟨?_, kept.numbered.removeSlave, kept.numbered.relay⟩⟩
        · rintro slave ⟨⟩
          exact running
        · rintro slave ⟨⟩
          exact used
      · rename_i unsent run
        exact sound_of_sendCommand sound room run
  | removeSlave masterSlot slaveAddr deviceType =>
      rw [handleRequest, requestRemoveSlave]
      split
      · exact sound
      · split
        · rename_i seq sent run
          rcases sendCommand_some room run with ⟨sends, running, used⟩
          have kept := sends.keeps.sound sound
          refine ⟨⟨kept.timed.addSlave, ?_, kept.timed.relay⟩,
            ⟨kept.numbered.addSlave, ?_, kept.numbered.relay⟩⟩
          · rintro slave ⟨⟩
            exact running
          · rintro slave ⟨⟩
            exact used
        · rename_i unsent run
          exact sound_of_sendCommand sound room run
  | relayCommand masterSlot slaveAddr channel on =>
      rw [handleRequest, requestRelay]
      split
      · exact sound
      · dsimp only
        split
        · rename_i seq sent run
          rcases sendCommand_some room run with ⟨sends, running, used⟩
          have kept := sends.keeps.sound sound
          refine ⟨⟨kept.timed.addSlave, kept.timed.removeSlave, ?_⟩,
            ⟨kept.numbered.addSlave, kept.numbered.removeSlave, ?_⟩⟩
          · rintro relay ⟨⟩
            exact Or.inl running
          · rintro relay ⟨⟩
            exact used
        · rename_i unsent run
          exact sound_of_sendCommand sound room run

/-- Less is pending, and fewer timers run. -/
structure Shrinks (before after : Widget) : Prop where
  next : after.nextCommandSeq = before.nextCommandSeq
  commands : forall seq, (after.pendingCommands seq).isSome = true ->
    (before.pendingCommands seq).isSome = true
  addSlave : forall slave, after.pendingAddSlave = some slave ->
    before.pendingAddSlave = some slave
  removeSlave : forall slave, after.pendingRemoveSlave = some slave ->
    before.pendingRemoveSlave = some slave
  relay : forall relay, after.pendingRelay = some relay -> before.pendingRelay = some relay
  timers : after.confirmTimers ⊆ before.confirmTimers

namespace Shrinks

variable {before between after : Widget}

theorem refl (widget : Widget) : Shrinks widget widget :=
  ⟨rfl, fun _ running => running, fun _ pending => pending, fun _ pending => pending,
    fun _ pending => pending, List.Subset.refl _⟩

theorem trans (one : Shrinks before between) (two : Shrinks between after) :
    Shrinks before after where
  next := two.next.trans one.next
  commands := fun seq running => one.commands seq (two.commands seq running)
  addSlave := fun slave pending => one.addSlave slave (two.addSlave slave pending)
  removeSlave := fun slave pending => one.removeSlave slave (two.removeSlave slave pending)
  relay := fun relay pending => one.relay relay (two.relay relay pending)
  timers := List.Subset.trans two.timers one.timers

theorem numbered (shrinks : Shrinks before after) (numbered : before.Numbered) :
    after.Numbered where
  addSlave := fun slave pending =>
    shrinks.next ▸ numbered.addSlave slave (shrinks.addSlave slave pending)
  removeSlave := fun slave pending =>
    shrinks.next ▸ numbered.removeSlave slave (shrinks.removeSlave slave pending)
  relay := fun relay pending => shrinks.next ▸ numbered.relay relay (shrinks.relay relay pending)

end Shrinks

/-- What the timer leaves of the operations. -/
structure CommandEnded (seq : UInt32) (before after : Widget) : Prop where
  next : after.nextCommandSeq = before.nextCommandSeq
  commands : after.pendingCommands = Function.update before.pendingCommands seq none
  addSlave : after.pendingAddSlave = withoutSeq seq before.pendingAddSlave
  removeSlave : after.pendingRemoveSlave = withoutSeq seq before.pendingRemoveSlave
  relay : after.pendingRelay = before.pendingRelay.filter fun relay => relay.seq ≠ seq
  timers : after.confirmTimers = before.confirmTimers

theorem relay_filter_eq_some_iff {seq : UInt32} {pending : Option PendingRelayCommand}
    {relay : PendingRelayCommand} :
    (pending.filter fun relay => relay.seq ≠ seq) = some relay ↔
      pending = some relay ∧ relay.seq ≠ seq := by
  rw [Option.filter_eq_some_iff, decide_eq_true_eq]

theorem commandTimeout_cases (seq : UInt32) (widget : Widget) :
    (widget.pendingCommands seq = none ∧ widget.commandTimeout seq = widget) ∨
      CommandEnded seq widget (widget.commandTimeout seq) := by
  unfold commandTimeout
  cases running : widget.pendingCommands seq with
  | none => exact Or.inl ⟨rfl, rfl⟩
  | some cmd =>
      apply Or.inr
      dsimp only
      cases found : widget.pendingRelay with
      | none =>
          have other : ¬ ((widget.completePendingCommand seq).withPending
              (withoutSeq seq widget.pendingAddSlave)
              (withoutSeq seq widget.pendingRemoveSlave)).relayHasSeq seq = true := by
            change ¬ widget.relayHasSeq seq = true
            rw [relayHasSeq, found]
            exact Bool.false_ne_true
          rw [if_neg other]
          exact ⟨rfl, rfl, rfl, rfl, by rw [found]; exact found, rfl⟩
      | some relay =>
          by_cases same : relay.seq = seq
          · have own : ((widget.completePendingCommand seq).withPending
                (withoutSeq seq widget.pendingAddSlave)
                (withoutSeq seq widget.pendingRemoveSlave)).relayHasSeq seq = true := by
              change widget.relayHasSeq seq = true
              rw [relayHasSeq, found, Option.any_some, decide_eq_true same]
            rw [if_pos own, failPendingRelay]
            split
            · rename_i absent
              exact absurd (found.symm.trans absent) (Option.some_ne_none relay)
            · refine ⟨rfl, rfl, rfl, rfl, ?_, rfl⟩
              rw [found, Option.filter_some, if_neg (by simpa using same)]
          · have other : ¬ ((widget.completePendingCommand seq).withPending
                (withoutSeq seq widget.pendingAddSlave)
                (withoutSeq seq widget.pendingRemoveSlave)).relayHasSeq seq = true := by
              change ¬ widget.relayHasSeq seq = true
              rw [relayHasSeq, found, Option.any_some, decide_eq_false same]
              exact Bool.false_ne_true
            rw [if_neg other]
            refine ⟨rfl, rfl, rfl, rfl, ?_, rfl⟩
            rw [found, Option.filter_some, if_pos (by simpa using same)]
            exact found

namespace CommandEnded

variable {seq : UInt32} {before after : Widget}

theorem commands_isSome (ended : CommandEnded seq before after) (other : UInt32) :
    (after.pendingCommands other).isSome = true ↔
      other ≠ seq ∧ (before.pendingCommands other).isSome = true := by
  rw [ended.commands, Function.update_apply]
  split
  · rename_i same
    exact iff_of_false Bool.false_ne_true fun both => both.1 same
  · rename_i different
    exact (and_iff_right different).symm

theorem shrinks (ended : CommandEnded seq before after) : Shrinks before after where
  next := ended.next
  commands := fun other running => ((ended.commands_isSome other).mp running).2
  addSlave := fun _ pending =>
    (withoutSeq_eq_some_iff.mp (ended.addSlave.symm.trans pending)).1
  removeSlave := fun _ pending =>
    (withoutSeq_eq_some_iff.mp (ended.removeSlave.symm.trans pending)).1
  relay := fun _ pending => (relay_filter_eq_some_iff.mp (ended.relay.symm.trans pending)).1
  timers := ended.timers ▸ List.Subset.refl _

theorem timed (ended : CommandEnded seq before after) (timed : before.Timed) : after.Timed where
  addSlave := by
    intro slave pending
    rw [ended.addSlave, withoutSeq_eq_some_iff] at pending
    exact (ended.commands_isSome _).mpr ⟨pending.2, timed.addSlave slave pending.1⟩
  removeSlave := by
    intro slave pending
    rw [ended.removeSlave, withoutSeq_eq_some_iff] at pending
    exact (ended.commands_isSome _).mpr ⟨pending.2, timed.removeSlave slave pending.1⟩
  relay := by
    intro relay pending
    rw [ended.relay, relay_filter_eq_some_iff] at pending
    rw [ended.timers]
    rcases timed.relay relay pending.1 with running | confirmed
    · exact Or.inl ((ended.commands_isSome _).mpr ⟨pending.2, running⟩)
    · exact Or.inr confirmed

end CommandEnded

theorem commandTimeout_shrinks (seq : UInt32) (widget : Widget) :
    Shrinks widget (widget.commandTimeout seq) := by
  rcases commandTimeout_cases seq widget with ⟨-, same⟩ | ended
  · rw [same]
    exact .refl widget
  · exact ended.shrinks

theorem commandTimeout_stopped (seq : UInt32) (widget : Widget) :
    (widget.commandTimeout seq).pendingCommands seq = none := by
  rcases commandTimeout_cases seq widget with ⟨stopped, same⟩ | ended
  · rw [same, stopped]
  · rw [ended.commands, Function.update_self]

theorem commandTimeout_sound {widget : Widget} (sound : widget.Sound) (seq : UInt32) :
    (widget.commandTimeout seq).Sound := by
  refine ⟨?_, (commandTimeout_shrinks seq widget).numbered sound.numbered⟩
  rcases commandTimeout_cases seq widget with ⟨-, same⟩ | ended
  · rw [same]
    exact sound.timed
  · exact ended.timed sound.timed

theorem confirmTimeout_shrinks (seq : UInt32) (widget : Widget) :
    Shrinks widget (widget.confirmTimeout seq) where
  next := rfl
  commands := fun _ running => running
  addSlave := fun _ pending => pending
  removeSlave := fun _ pending => pending
  relay := fun _ pending => (relay_filter_eq_some_iff.mp pending).1
  timers := List.erase_subset

theorem confirmTimeout_sound {widget : Widget} (sound : widget.Sound) (seq : UInt32) :
    (widget.confirmTimeout seq).Sound := by
  refine ⟨⟨sound.timed.addSlave, sound.timed.removeSlave, ?_⟩,
    (confirmTimeout_shrinks seq widget).numbered sound.numbered⟩
  intro relay pending
  rcases relay_filter_eq_some_iff.mp pending with ⟨old, different⟩
  rcases sound.timed.relay relay old with running | confirmed
  · exact Or.inl running
  · exact Or.inr ((List.mem_erase_of_ne different).mpr confirmed)

/-! ## Steps -/

section Steps

variable (doubleOfText : String -> Rat) (fromJson : String -> Option Json)

/-- The answer in a frame. -/
def answerOf (frame : String) : Option Json :=
  match fromJson frame with
  | some (.obj members) =>
      if Ui.textOr ((Json.obj members).lookup "type") "" = "ack" then some (.obj members) else none
  | _ => none

/-- The answer that arrives with an event. -/
def Event.answer : Event -> Option Json
  | .received frame => answerOf fromJson frame
  | _ => none

/-- An answer that arrives is of the command of every operation with its
number.  A status of a port that it carries comes first. -/
def AnswersOwn (state : Option Widget) (event : Surroundings × Event) : Prop :=
  forall widget, state = some widget -> forall root, event.2.answer fromJson = some root ->
    OwnAnswer (seqOf (root.lookup "seq")) (Ui.textOr (root.lookup "cmd") "")
      (widget.portAnswered event.1 root)

theorem takeFrame_answer {widget : Widget} {env : Surroundings} {frame : String} {root : Json}
    (answer : answerOf fromJson frame = some root) :
    widget.takeFrame doubleOfText fromJson env frame = widget.takeAck env root := by
  unfold answerOf at answer
  split at answer
  · rename_i members parsed
    split at answer
    · rename_i ack
      cases answer
      rw [takeFrame, parsed]
      exact if_pos ack
    · cases answer
  · cases answer

theorem takeFrame_other {widget next : Widget} (room : widget.Room 1) {env : Surroundings}
    {frame : String} (other : answerOf fromJson frame = none)
    (run : widget.takeFrame doubleOfText fromJson env frame = some next) :
    exists count, Keeps count widget next := by
  have same : forall {after}, SamePending widget after -> exists count, Keeps count widget after :=
    fun same => ⟨0, same.sends.keeps⟩
  unfold answerOf at other
  unfold takeFrame at run
  split at run
  · rename_i members parsed
    rw [parsed] at other
    dsimp only at other run
    split at run
    · rename_i ack
      rw [if_pos ack] at other
      cases other
    · split at run
      · cases run
        exact same (.refl widget)
      · split at run
        · exact same (.handleRuntimeStateSnapshot run)
        · split at run
          · cases run
            exact same (.refl widget)
          · split at run
            · cases run
              exact ⟨1, .portStatusUpdated room env _ _ _ _ _⟩
            · split at run
              · cases run
                exact same ⟨rfl, rfl, rfl, rfl, rfl, rfl⟩
              · split at run
                · cases run
                  exact same (.refl widget)
                · split at run
                  · cases run
                    exact ⟨0, .handleDeviceStatus _ _ _⟩
                  · cases run
                    exact same (.refl widget)
  · cases run
    exact same (.refl widget)

/-- An event that is no answer leaves every operation with a timer. -/
theorem step_other {widget next : Widget} (sound : widget.Sound) (room : widget.Room 3)
    {env : Surroundings} {event : Event}
    (other : event.answer fromJson = none)
    (run : widget.step doubleOfText fromJson env event = some next) : next.Sound := by
  have one : widget.Room 1 := Nat.lt_of_succ_lt (Nat.lt_of_succ_lt room)
  cases event with
  | connected =>
      cases run
      have left : Room 3 { widget with isConnected := true } := room
      have same : SamePending widget { widget with isConnected := true } :=
        ⟨rfl, rfl, rfl, rfl, rfl, rfl⟩
      have refreshed := Sends.requestRuntimeRefresh (Nat.lt_of_succ_lt left) env
      exact ((same.sends.keeps.trans refreshed.keeps).trans
        (Sends.sendCommand (refreshed.room left) env _ _).keeps).sound sound
  | disconnected =>
      cases run
      exact ⟨⟨fun _ pending => (nomatch pending), fun _ pending => (nomatch pending),
        fun _ pending => (nomatch pending)⟩, ⟨fun _ pending => (nomatch pending),
        fun _ pending => (nomatch pending), fun _ pending => (nomatch pending)⟩⟩
  | received frame =>
      rcases takeFrame_other doubleOfText fromJson one other run with ⟨count, keeps⟩
      exact keeps.sound sound
  | requested request =>
      cases run
      exact sound_handleRequest sound one env request
  | timedOut seq =>
      cases run
      exact commandTimeout_sound sound seq
  | confirmTimedOut seq =>
      cases run
      exact confirmTimeout_sound sound seq

theorem step_timed_iff {widget next : Widget} (sound : widget.Sound) (room : widget.Room 3)
    {event : Surroundings × Event}
    (run : widget.step doubleOfText fromJson event.1 event.2 = some next) :
    next.Numbered ∧ (next.Timed ↔ AnswersOwn fromJson (some widget) event) := by
  rcases event with ⟨env, event⟩
  cases answer : event.answer fromJson with
  | none =>
      have kept := step_other doubleOfText fromJson sound room answer run
      refine ⟨kept.numbered, iff_of_true kept.timed ?_⟩
      intro _ _ root found
      cases answer.symm.trans found
  | some root =>
      cases event with
      | received frame =>
          rw [step, takeFrame_answer doubleOfText fromJson answer] at run
          have one : widget.Room 1 := Nat.lt_of_succ_lt (Nat.lt_of_succ_lt room)
          have shown := Keeps.portAnswered one env root
          have left : (widget.portAnswered env root).Room 2 := by
            have bound := shown.bound
            unfold Room at room ⊢
            omega
          have answered := commandAckReceived_answered left run
          have held := shown.sound sound
          refine ⟨answered.numbered held.numbered,
            (answered.timed_iff held.timed held.numbered).trans ?_⟩
          constructor
          · rintro own _ ⟨⟩ other found
            rw [Option.some.inj (found.symm.trans answer)]
            exact own
          · exact fun own => own widget rfl root answer
      | connected | disconnected | requested | timedOut | confirmTimedOut => cases answer

/-! ## Runs -/

/-- The state has numbers left for the commands of one more event. -/
def NumbersLeft (state : Option Widget) (_ : Surroundings × Event) : Prop :=
  forall widget, state = some widget -> widget.Room 3

end Steps

end Widget

section Runs

variable (doubleOfText : String -> Rat) (fromJson : String -> Option Json)

/-- The answer to the command of another client that has the number of the
addition. -/
def foreignAnswer : Json :=
  .obj [("type", .str "ack"), ("seq", .int 4), ("cmd", .str "publish_snapshot"),
    ("stage", .str "done"), ("status", .str "success")]

def foreignFrame : String := JsonText.print true foreignAnswer ++ "\n"

def quickSurroundings : Surroundings := ⟨0, fun _ => true⟩

/-- The connection sends three commands, and the addition has the number four. -/
def answeredByOther : List (Surroundings × Widget.Event) :=
  [(quickSurroundings, .connected),
    (quickSurroundings, .requested (.addSlave 0 1 "relay" 1000 [])),
    (quickSurroundings, .received foreignFrame)]

namespace Widget

def Event.IsTimer : Event -> Prop
  | .timedOut _ | .confirmTimedOut _ => True
  | _ => False

/-- No operation is pending. -/
structure Idle (widget : Widget) : Prop where
  addSlave : widget.pendingAddSlave = none
  removeSlave : widget.pendingRemoveSlave = none
  relay : widget.pendingRelay = none

/-- What some timers leave. -/
structure TimersFired (timers : List (Surroundings × Event)) (before after : Widget) : Prop where
  shrinks : Shrinks before after
  sound : after.Sound
  commands : forall env seq, (env, .timedOut seq) ∈ timers -> after.pendingCommands seq = none
  relay : forall env seq, (env, .confirmTimedOut seq) ∈ timers ->
    forall relay, after.pendingRelay = some relay -> relay.seq ≠ seq

/-- The timers that have fired have an effect that stays. -/
theorem TimersFired.cons {event : Surroundings × Event} {timers : List (Surroundings × Event)}
    {before between after : Widget} (first : TimersFired [event] before between)
    (rest : TimersFired timers between after) : TimersFired (event :: timers) before after where
  shrinks := first.shrinks.trans rest.shrinks
  sound := rest.sound
  commands := by
    intro env seq inside
    rcases List.mem_cons.mp inside with here | later
    · have stopped := first.commands env seq (List.mem_singleton.mpr here)
      rw [← Option.not_isSome_iff_eq_none]
      intro running
      have earlier := rest.shrinks.commands seq running
      rw [stopped] at earlier
      cases earlier
    · exact rest.commands env seq later
  relay := by
    intro env seq inside relay pending
    rcases List.mem_cons.mp inside with here | later
    · exact first.relay env seq (List.mem_singleton.mpr here) relay (rest.shrinks.relay relay pending)
    · exact rest.relay env seq later relay pending

theorem timer_fired {widget : Widget} (sound : widget.Sound) {event : Surroundings × Event}
    (timer : event.2.IsTimer) :
    exists next, widget.step doubleOfText fromJson event.1 event.2 = some next ∧
      TimersFired [event] widget next := by
  rcases event with ⟨env, event⟩
  cases event with
  | timedOut seq =>
      refine ⟨_, rfl, commandTimeout_shrinks seq widget, commandTimeout_sound sound seq, ?_, ?_⟩
      · intro other found inside
        cases List.mem_singleton.mp inside
        exact commandTimeout_stopped seq widget
      · intro other found inside
        cases List.mem_singleton.mp inside
  | confirmTimedOut seq =>
      refine ⟨_, rfl, confirmTimeout_shrinks seq widget, confirmTimeout_sound sound seq, ?_, ?_⟩
      · intro other found inside
        cases List.mem_singleton.mp inside
      · intro other found inside relay pending
        cases List.mem_singleton.mp inside
        exact (relay_filter_eq_some_iff.mp pending).2
  | connected | disconnected | received | requested => exact timer.elim

theorem timers_fired {timers : List (Surroundings × Event)} {widget : Widget}
    (sound : widget.Sound) (only : forall event, event ∈ timers -> event.2.IsTimer) :
    exists final, (widgetSystem doubleOfText fromJson).runFrom (some widget) timers = some final ∧
      TimersFired timers widget final := by
  induction timers generalizing widget with
  | nil =>
      exact ⟨widget, rfl, .refl widget, sound, fun _ _ inside => absurd inside List.not_mem_nil,
        fun _ _ inside => absurd inside List.not_mem_nil⟩
  | cons event timers ih =>
      rcases timer_fired doubleOfText fromJson sound (only event List.mem_cons_self)
        with ⟨next, run, first⟩
      rcases ih first.sound fun other inside => only other (List.mem_cons_of_mem event inside)
        with ⟨final, others, rest⟩
      refine ⟨final, ?_, first.cons rest⟩
      rw [TransitionSystem.runFrom_cons]
      change (widgetSystem doubleOfText fromJson).runFrom
        (widget.step doubleOfText fromJson event.1 event.2) timers = some final
      rw [run, others]

/-- All timers that ran have fired. -/
theorem TimersFired.idle {timers : List (Surroundings × Event)} {before after : Widget}
    (fired : TimersFired timers before after)
    (commands : forall seq, (before.pendingCommands seq).isSome = true ->
      exists env, (env, .timedOut seq) ∈ timers)
    (confirmations : forall seq, seq ∈ before.confirmTimers ->
      exists env, (env, .confirmTimedOut seq) ∈ timers) : after.Idle := by
  have stopped : forall seq, (after.pendingCommands seq).isSome = true -> False := by
    intro seq running
    rcases commands seq (fired.shrinks.commands seq running) with ⟨env, inside⟩
    rw [fired.commands env seq inside] at running
    cases running
  refine ⟨?_, ?_, ?_⟩
  · rw [Option.eq_none_iff_forall_ne_some]
    exact fun slave pending => stopped _ (fired.sound.timed.addSlave slave pending)
  · rw [Option.eq_none_iff_forall_ne_some]
    exact fun slave pending => stopped _ (fired.sound.timed.removeSlave slave pending)
  · rw [Option.eq_none_iff_forall_ne_some]
    intro relay pending
    rcases fired.sound.timed.relay relay pending with running | confirmed
    · exact stopped _ running
    · rcases confirmations _ (fired.shrinks.timers confirmed) with ⟨env, inside⟩
      exact fired.relay env _ inside relay pending rfl

end Widget

theorem sound_run {events : List (Surroundings × Widget.Event)}
    (left : (widgetSystem doubleOfText fromJson).Admissible Widget.NumbersLeft events)
    (own : (widgetSystem doubleOfText fromJson).Admissible (Widget.AnswersOwn fromJson) events) :
    exists widget, (widgetSystem doubleOfText fromJson).run events = some widget ∧
      widget.Sound := by
  let invariant (state : Option Widget) : Prop :=
    exists widget, state = some widget ∧ widget.WellFormed ∧ widget.Sound
  have start : invariant (widgetSystem doubleOfText fromJson).initial :=
    ⟨_, rfl, .constructed, Widget.constructed_timed, Widget.constructed_numbered⟩
  have both := (widgetSystem doubleOfText fromJson).admissibleFrom_and.mpr ⟨left, own⟩
  have reached : invariant ((widgetSystem doubleOfText fromJson).run events) := by
    refine (widgetSystem doubleOfText fromJson).invariant_run start ?_ both
    rintro state event ⟨widget, rfl, wellFormed, sound⟩ ⟨room, answers⟩
    rcases wellFormed.step doubleOfText fromJson event.1 event.2 with ⟨next, run, nextWellFormed⟩
    rcases Widget.step_timed_iff doubleOfText fromJson sound (room widget rfl) run
      with ⟨numbered, timed⟩
    exact ⟨next, run, nextWellFormed, timed.mpr answers, numbered⟩
  rcases reached with ⟨widget, run, -, sound⟩
  exact ⟨widget, run, sound⟩

/-- After such a run no operation outlasts the timers: once those that run have
fired, in any order, none is pending. -/
theorem operations_end {events timers : List (Surroundings × Widget.Event)}
    (left : (widgetSystem doubleOfText fromJson).Admissible Widget.NumbersLeft events)
    (own : (widgetSystem doubleOfText fromJson).Admissible (Widget.AnswersOwn fromJson) events)
    (only : forall event, event ∈ timers -> event.2.IsTimer)
    (fire : forall widget, (widgetSystem doubleOfText fromJson).run events = some widget ->
      (forall seq, (widget.pendingCommands seq).isSome = true ->
        exists env, (env, .timedOut seq) ∈ timers) ∧
      forall seq, seq ∈ widget.confirmTimers -> exists env, (env, .confirmTimedOut seq) ∈ timers) :
    exists final, (widgetSystem doubleOfText fromJson).run (events ++ timers) = some final ∧
      final.Idle := by
  rcases sound_run doubleOfText fromJson left own with ⟨widget, reached, sound⟩
  rcases fire widget reached with ⟨commands, confirmations⟩
  rcases Widget.timers_fired doubleOfText fromJson sound only with ⟨final, run, fired⟩
  refine ⟨final, ?_, fired.idle commands confirmations⟩
  rw [TransitionSystem.run, TransitionSystem.runFrom_append, ← TransitionSystem.run, reached, run]

/-- Only the fourth command is taken by the socket. -/
def fourthTaken : Surroundings := ⟨0, fun seq => seq = 4⟩

def unansweredAddition : List (Surroundings × Widget.Event) :=
  [(fourthTaken, .connected), (fourthTaken, .requested (.addSlave 0 1 "relay" 1000 []))]

theorem operations_end_unanswered :
    exists final, (widgetSystem (fun _ => 0) JsonText.parse).run
      (unansweredAddition ++ [(fourthTaken, .timedOut 4)]) = some final ∧ final.Idle := by
  apply operations_end (fun _ => 0) JsonText.parse
  · refine ⟨?_, ?_, trivial⟩
    · rintro widget ⟨⟩
      decide
    · rintro widget ⟨⟩
      decide
  · refine ⟨?_, ?_, trivial⟩
    · rintro widget ⟨⟩ root ⟨⟩
    · rintro widget ⟨⟩ root ⟨⟩
  · intro event inside
    rw [List.mem_singleton.mp inside]
    trivial
  · rintro widget ⟨⟩
    refine ⟨?_, fun seq confirmed => absurd confirmed List.not_mem_nil⟩
    intro seq running
    have same : seq = 4 := by
      by_contra other
      change (Function.update (fun _ => none) 4 (some "add_device") seq).isSome = true at running
      rw [Function.update_of_ne other] at running
      cases running
    rw [same]
    exact ⟨_, List.mem_singleton_self _⟩

end Runs

end LocalUi
end Imx6Gateway
