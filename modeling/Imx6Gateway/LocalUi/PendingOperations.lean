import Imx6Gateway.LocalUi.WidgetInvariant

namespace Imx6Gateway
namespace LocalUi

open Library

/-!
# The operations the interface on the board waits for

The user sees an operation as running until it is answered or a timer fires.
An answer stops the timer of its number, whatever its command is; if that is
not the command of the operation, nothing will end it.  The answers of the
board to commands of other clients have numbers too.  So the operations are
timed exactly as long as no answer with the number of one is of another
command.
-/

namespace Widget

/-- Every pending operation has a timer that will end it. -/
structure Timed (widget : Widget) : Prop where
  addSlave : forall slave, widget.pendingAddSlave = some slave ->
    (widget.pendingCommands slave.seq).isSome = true
  removeSlave : forall slave, widget.pendingRemoveSlave = some slave ->
    (widget.pendingCommands slave.seq).isSome = true
  relay : forall relay, widget.pendingRelay = some relay ->
    (widget.pendingCommands relay.seq).isSome = true ∨ relay.seq ∈ widget.confirmTimers

/-- The numbers of the pending operations have been used. -/
structure Numbered (widget : Widget) : Prop where
  addSlave : forall slave, widget.pendingAddSlave = some slave ->
    slave.seq.toNat < widget.nextCommandSeq.toNat
  removeSlave : forall slave, widget.pendingRemoveSlave = some slave ->
    slave.seq.toNat < widget.nextCommandSeq.toNat
  relay : forall relay, widget.pendingRelay = some relay ->
    relay.seq.toNat < widget.nextCommandSeq.toNat

/-- Some numbers are left. -/
def Room (count : Nat) (widget : Widget) : Prop :=
  widget.nextCommandSeq.toNat + count < 2 ^ 32

instance (count : Nat) (widget : Widget) : Decidable (Room count widget) :=
  inferInstanceAs (Decidable (_ < _))

theorem constructed_timed : Timed .constructed where
  addSlave := fun _ pending => nomatch pending
  removeSlave := fun _ pending => nomatch pending
  relay := fun _ pending => nomatch pending

theorem constructed_numbered : Numbered .constructed where
  addSlave := fun _ pending => nomatch pending
  removeSlave := fun _ pending => nomatch pending
  relay := fun _ pending => nomatch pending

/-! ## Steps that send -/

/-- The numbers and the commands after some were sent. -/
structure Counts (count : Nat) (before after : Widget) : Prop where
  later : before.nextCommandSeq.toNat ≤ after.nextCommandSeq.toNat
  bound : after.nextCommandSeq.toNat ≤ before.nextCommandSeq.toNat + count
  commands : forall seq, seq.toNat < before.nextCommandSeq.toNat ->
    after.pendingCommands seq = before.pendingCommands seq

/-- No operation comes or goes. -/
structure Sends (count : Nat) (before after : Widget) : Prop extends
    Counts count before after where
  addSlave : after.pendingAddSlave = before.pendingAddSlave
  removeSlave : after.pendingRemoveSlave = before.pendingRemoveSlave
  relay : after.pendingRelay = before.pendingRelay
  timers : after.confirmTimers = before.confirmTimers

/-- Operations may end. -/
structure Keeps (count : Nat) (before after : Widget) : Prop extends
    Counts count before after where
  addSlave : forall slave, after.pendingAddSlave = some slave ->
    before.pendingAddSlave = some slave
  removeSlave : forall slave, after.pendingRemoveSlave = some slave ->
    before.pendingRemoveSlave = some slave
  relay : forall relay, after.pendingRelay = some relay -> before.pendingRelay = some relay
  timers : after.confirmTimers = before.confirmTimers

theorem Counts.trans {first second : Nat} {before between after : Widget}
    (one : Counts first before between) (two : Counts second between after) :
    Counts (first + second) before after where
  later := one.later.trans two.later
  bound := by
    have oneBound := one.bound
    have twoBound := two.bound
    omega
  commands := by
    intro seq old
    rw [two.commands seq (Nat.lt_of_lt_of_le old one.later), one.commands seq old]

namespace Sends

variable {first second count : Nat} {before between after : Widget}

theorem keeps (sends : Sends count before after) : Keeps count before after where
  toCounts := sends.toCounts
  addSlave := fun _ pending => sends.addSlave ▸ pending
  removeSlave := fun _ pending => sends.removeSlave ▸ pending
  relay := fun _ pending => sends.relay ▸ pending
  timers := sends.timers

theorem refl (widget : Widget) : Sends 0 widget widget :=
  ⟨⟨le_refl _, le_refl _, fun _ _ => rfl⟩, rfl, rfl, rfl, rfl⟩

theorem trans (one : Sends first before between) (two : Sends second between after) :
    Sends (first + second) before after :=
  ⟨one.toCounts.trans two.toCounts, two.addSlave.trans one.addSlave,
    two.removeSlave.trans one.removeSlave, two.relay.trans one.relay, two.timers.trans one.timers⟩

theorem next_toNat {widget : Widget} (room : widget.Room 1) :
    (widget.nextCommandSeq + 1).toNat = widget.nextCommandSeq.toNat + 1 := by
  rw [UInt32.toNat_add]
  exact Nat.mod_eq_of_lt room

theorem sendCommand {widget : Widget} (room : widget.Room 1) (env : Surroundings) (cmd : String)
    (payload : Members) : Sends 1 widget (widget.sendCommand env cmd payload).2 := by
  have next := next_toNat room
  unfold Widget.sendCommand
  dsimp only
  split
  · exact ⟨⟨le_refl _, Nat.le_succ _, fun _ _ => rfl⟩, rfl, rfl, rfl, rfl⟩
  · split
    · exact ⟨⟨by rw [next]; omega, by rw [next], fun _ _ => rfl⟩, rfl, rfl, rfl, rfl⟩
    · refine ⟨⟨by rw [next]; omega, by rw [next], ?_⟩, rfl, rfl, rfl, rfl⟩
      intro seq old
      apply Function.update_of_ne
      intro same
      rw [same] at old
      exact lt_irrefl _ old

theorem room (sends : Sends first before after) (enough : before.Room (first + second)) :
    after.Room second := by
  have bound := sends.bound
  unfold Room at enough ⊢
  omega

theorem requestRuntimeRefresh {widget : Widget} (room : widget.Room 2) (env : Surroundings) :
    Sends 2 widget (widget.requestRuntimeRefresh env) := by
  have one : widget.Room 1 := Nat.lt_of_succ_lt room
  have sends := sendCommand one env "get_runtime_state" []
  have left : (widget.sendCommand env "get_runtime_state" []).2.Room 1 := sends.room room
  exact sends.trans (sendCommand left env "scan_ports" [])

end Sends

namespace Keeps

variable {count : Nat} {before after : Widget}

theorem timed (keeps : Keeps count before after) (timed : before.Timed)
    (numbered : before.Numbered) : after.Timed where
  addSlave := by
    intro slave pending
    have old := keeps.addSlave slave pending
    rw [keeps.commands _ (numbered.addSlave slave old)]
    exact timed.addSlave slave old
  removeSlave := by
    intro slave pending
    have old := keeps.removeSlave slave pending
    rw [keeps.commands _ (numbered.removeSlave slave old)]
    exact timed.removeSlave slave old
  relay := by
    intro relay pending
    have old := keeps.relay relay pending
    rw [keeps.commands _ (numbered.relay relay old), keeps.timers]
    exact timed.relay relay old

theorem numbered (keeps : Keeps count before after) (numbered : before.Numbered) :
    after.Numbered where
  addSlave := fun slave pending =>
    Nat.lt_of_lt_of_le (numbered.addSlave slave (keeps.addSlave slave pending)) keeps.later
  removeSlave := fun slave pending =>
    Nat.lt_of_lt_of_le (numbered.removeSlave slave (keeps.removeSlave slave pending)) keeps.later
  relay := fun relay pending =>
    Nat.lt_of_lt_of_le (numbered.relay relay (keeps.relay relay pending)) keeps.later

end Keeps

/-! ## Statuses and snapshots -/

/-- Nothing changes but the tables. -/
structure SamePending (before after : Widget) : Prop where
  next : after.nextCommandSeq = before.nextCommandSeq
  commands : after.pendingCommands = before.pendingCommands
  addSlave : after.pendingAddSlave = before.pendingAddSlave
  removeSlave : after.pendingRemoveSlave = before.pendingRemoveSlave
  relay : after.pendingRelay = before.pendingRelay
  timers : after.confirmTimers = before.confirmTimers

namespace SamePending

variable {before between after : Widget}

theorem refl (widget : Widget) : SamePending widget widget :=
  ⟨rfl, rfl, rfl, rfl, rfl, rfl⟩

theorem trans (one : SamePending before between) (two : SamePending between after) :
    SamePending before after :=
  ⟨two.next.trans one.next, two.commands.trans one.commands, two.addSlave.trans one.addSlave,
    two.removeSlave.trans one.removeSlave, two.relay.trans one.relay, two.timers.trans one.timers⟩

theorem sends (same : SamePending before after) : Sends 0 before after where
  later := same.next ▸ le_refl _
  bound := same.next ▸ le_refl _
  commands := fun _ _ => congrFun same.commands _
  addSlave := same.addSlave
  removeSlave := same.removeSlave
  relay := same.relay
  timers := same.timers

theorem takePorts (ports : List (Int × Json)) (widget : Widget) :
    SamePending widget (ports.foldl (fun widget port => widget.takePort port.1 port.2) widget) := by
  induction ports generalizing widget with
  | nil => exact .refl widget
  | cons port ports ih =>
      have first : SamePending widget (widget.takePort port.1 port.2) :=
        ⟨rfl, rfl, rfl, rfl, rfl, rfl⟩
      exact first.trans (ih _)

theorem withTable (table : SlaveTable) (widget : Widget) :
    SamePending widget (widget.withTable table) :=
  ⟨rfl, rfl, rfl, rfl, rfl, rfl⟩

theorem handleRuntimeStateSnapshot {widget next : Widget} {ports : List Json}
    (run : widget.handleRuntimeStateSnapshot ports = some next) : SamePending widget next := by
  rw [Widget.handleRuntimeStateSnapshot, Option.map_eq_some_iff] at run
  rcases run with ⟨table, -, rfl⟩
  exact (takePorts _ widget).trans (withTable table _)

theorem handleRemoteRemoveDeviceAck {widget next : Widget} {ack : Json}
    (run : widget.handleRemoteRemoveDeviceAck ack = some next) : SamePending widget next := by
  unfold Widget.handleRemoteRemoveDeviceAck at run
  split at run
  split at run
  · cases run
    exact .refl widget
  · rw [Option.map_eq_some_iff] at run
    rcases run with ⟨table, -, rfl⟩
    exact withTable table widget

end SamePending

namespace Keeps

theorem trans {first second : Nat} {before between after : Widget}
    (one : Keeps first before between) (two : Keeps second between after) :
    Keeps (first + second) before after where
  toCounts := one.toCounts.trans two.toCounts
  addSlave := fun slave pending => one.addSlave slave (two.addSlave slave pending)
  removeSlave := fun slave pending => one.removeSlave slave (two.removeSlave slave pending)
  relay := fun relay pending => one.relay relay (two.relay relay pending)
  timers := two.timers.trans one.timers

theorem more {count : Nat} {before after : Widget} (keeps : Keeps count before after) :
    Keeps (count + 1) before after :=
  { keeps with bound := Nat.le_succ_of_le keeps.bound }

theorem markMasterRuntimeOffline (masterSlot : Int) (widget : Widget) :
    Keeps 0 widget (widget.markMasterRuntimeOffline masterSlot) where
  later := le_refl _
  bound := le_refl _
  commands := fun _ _ => rfl
  addSlave := fun _ pending => (Option.filter_eq_some_iff.mp pending).1
  removeSlave := fun _ pending => (Option.filter_eq_some_iff.mp pending).1
  relay := fun _ pending => pending
  timers := rfl

theorem setPort (slot : Int) (info : MasterPortInfo) (widget : Widget) :
    Keeps 0 widget (widget.setPort slot info) := by
  have same : SamePending widget (widget.setPort slot info) := ⟨rfl, rfl, rfl, rfl, rfl, rfl⟩
  exact same.sends.keeps

theorem portStatusUpdated {widget : Widget} (room : widget.Room 1) (env : Surroundings)
    (slot : Int) (port : String) (baud : Int) (connected : Bool) (message : String) :
    Keeps 1 widget (widget.portStatusUpdated env slot port baud connected message) := by
  unfold Widget.portStatusUpdated
  dsimp only
  split
  · split
    · refine (setPort slot _ widget).trans (Sends.sendCommand ?_ env _ _).keeps
      exact room
    · exact (setPort slot _ widget).more
  · exact ((setPort slot _ widget).trans (markMasterRuntimeOffline slot _)).more

theorem portAnswered {widget : Widget} (room : widget.Room 1) (env : Surroundings) (root : Json) :
    Keeps 1 widget (widget.portAnswered env root) := by
  unfold Widget.portAnswered
  dsimp only
  split
  · exact portStatusUpdated room env _ _ _ _ _
  · exact (SamePending.refl widget).sends.keeps.more

/-- A status can end the relay command that waits for it. -/
theorem takeStatus (nowMs masterSlot : Int) (widget : Widget) (device : DeviceData) :
    Keeps 0 widget (widget.takeStatus nowMs masterSlot device) := by
  have same : forall after, SamePending widget after -> Keeps 0 widget after :=
    fun after same => same.sends.keeps
  unfold Widget.takeStatus
  dsimp only
  split
  · exact same _ (.refl widget)
  · split
    · exact same _ ⟨rfl, rfl, rfl, rfl, rfl, rfl⟩
    · split
      · exact same _ ⟨rfl, rfl, rfl, rfl, rfl, rfl⟩
      · exact ⟨⟨le_refl _, le_refl _, fun _ _ => rfl⟩, fun _ pending => pending,
          fun _ pending => pending, fun _ pending => (Option.filter_eq_some_iff.mp pending).1, rfl⟩
      · exact same _ (.refl widget)

theorem handleDeviceStatus (nowMs : Int) (pack : DataPack) (widget : Widget) :
    Keeps 0 widget (widget.handleDeviceStatus nowMs pack) := by
  rw [Widget.handleDeviceStatus]
  induction pack.devices generalizing widget with
  | nil => exact (SamePending.refl widget).sends.keeps
  | cons device devices ih => exact (takeStatus nowMs pack.masterSlot widget device).trans (ih _)

end Keeps

/-! ## Answers -/

/-- What an answer does to the operations: it stops the timer of its number,
and ends or acknowledges the operation of its command with that number. -/
structure Answered (seq : UInt32) (cmd : String) (before after : Widget) : Prop where
  later : before.nextCommandSeq.toNat ≤ after.nextCommandSeq.toNat
  commands : forall other, other.toNat < before.nextCommandSeq.toNat ->
    after.pendingCommands other = if other = seq then none else before.pendingCommands other
  addSlave : after.pendingAddSlave =
    if cmd = "add_device" then withoutSeq seq before.pendingAddSlave else before.pendingAddSlave
  removeSlave : after.pendingRemoveSlave =
    if cmd = "remove_device" then withoutSeq seq before.pendingRemoveSlave
    else before.pendingRemoveSlave
  others : cmd ≠ "set_relay" ->
    after.pendingRelay = before.pendingRelay ∧ after.confirmTimers = before.confirmTimers
  relay : forall relay, after.pendingRelay = some relay ->
    exists old, before.pendingRelay = some old ∧ old.seq = relay.seq
  timers : before.confirmTimers ⊆ after.confirmTimers
  confirmed : cmd = "set_relay" -> forall relay, after.pendingRelay = some relay ->
    relay.seq = seq -> seq ∈ after.confirmTimers

theorem withoutSeq_eq_self {seq : UInt32} {pending : Option PendingSlave}
    (other : (pending.any fun slave => slave.seq = seq) = false) :
    withoutSeq seq pending = pending := by
  cases pending with
  | none => rfl
  | some slave =>
      rw [Option.any_some, decide_eq_false_iff_not] at other
      exact Option.filter_some_pos (by simpa using other)

/-- Sending more changes nothing of it. -/
theorem Answered.of_sends {seq : UInt32} {cmd : String} {before between after : Widget}
    {count : Nat} (answered : Answered seq cmd before between)
    (sends : Sends count between after) : Answered seq cmd before after where
  later := answered.later.trans sends.later
  commands := by
    intro other old
    rw [sends.commands other (Nat.lt_of_lt_of_le old answered.later), answered.commands other old]
  addSlave := sends.addSlave.trans answered.addSlave
  removeSlave := sends.removeSlave.trans answered.removeSlave
  others := by
    intro notRelay
    have same := answered.others notRelay
    exact ⟨sends.relay.trans same.1, sends.timers.trans same.2⟩
  relay := fun relay pending => answered.relay relay (sends.relay ▸ pending)
  timers := sends.timers ▸ answered.timers
  confirmed := fun sets relay pending same =>
    sends.timers ▸ answered.confirmed sets relay (sends.relay ▸ pending) same

theorem completePendingCommand_commands (seq other : UInt32) (widget : Widget) :
    (widget.completePendingCommand seq).pendingCommands other =
      if other = seq then none else widget.pendingCommands other :=
  Function.update_apply ..

/-- Only the timer stops if no operation of the command has the number. -/
theorem completePendingCommand_answered {seq : UInt32} {cmd : String} {widget : Widget}
    (addSlave : cmd = "add_device" ->
      (widget.pendingAddSlave.any fun slave => slave.seq = seq) = false)
    (removeSlave : cmd ≠ "remove_device")
    (relay : cmd = "set_relay" -> widget.relayHasSeq seq = false) :
    Answered seq cmd widget (widget.completePendingCommand seq) where
  later := le_refl _
  commands := fun other _ => completePendingCommand_commands seq other widget
  addSlave := by
    split
    · rename_i adds
      exact (withoutSeq_eq_self (addSlave adds)).symm
    · rfl
  removeSlave := (if_neg removeSlave).symm
  others := fun _ => ⟨rfl, rfl⟩
  relay := fun relay pending => ⟨relay, pending, rfl⟩
  timers := List.Subset.refl _
  confirmed := by
    intro sets pendingRelay pending same
    have other := relay sets
    change widget.pendingRelay = some pendingRelay at pending
    rw [relayHasSeq, pending, Option.any_some, decide_eq_false_iff_not] at other
    exact absurd same other

/-- The failure of a command ends the operation of its kind with the number. -/
theorem commandFailed_answered (cmd : String) (seq : UInt32) (widget : Widget) :
    Answered seq cmd widget ((widget.completePendingCommand seq).commandFailed cmd seq) := by
  have commands := fun other => completePendingCommand_commands seq other widget
  by_cases fails : cmd = "set_relay" ∧ widget.relayHasSeq seq = true
  · have ended : (widget.completePendingCommand seq).commandFailed cmd seq =
        Widget.failPendingRelay _ := if_pos fails
    cases found : widget.pendingRelay with
    | none =>
        have absent : widget.relayHasSeq seq = false := by
          rw [relayHasSeq, found, Option.any_none]
        exact absurd (absent.symm.trans fails.2) Bool.false_ne_true
    | some old =>
        rw [ended, failPendingRelay]
        split
        · rename_i none
          exact absurd (found.symm.trans none) (Option.some_ne_none old)
        · exact ⟨le_refl _, fun other _ => commands other, rfl, rfl, fun no => absurd fails.1 no,
            fun relay pending => (nomatch pending), List.Subset.refl _,
            fun _ relay pending => (nomatch pending)⟩
  · have ended : (widget.completePendingCommand seq).commandFailed cmd seq =
        Widget.withPending _ _ _ := if_neg fails
    rw [ended]
    refine ⟨le_refl _, fun other _ => commands other, rfl, rfl, fun _ => ⟨rfl, rfl⟩,
      fun relay pending => ⟨relay, pending, rfl⟩, List.Subset.refl _, ?_⟩
    intro sets relay pending same
    have hasSeq : widget.relayHasSeq seq = true := by
      change widget.pendingRelay = some relay at pending
      rw [relayHasSeq, pending, Option.any_some, decide_eq_true same]
    exact absurd ⟨sets, hasSeq⟩ fails

theorem addSlave_answered {seq : UInt32} {widget : Widget}
    (own : (widget.pendingAddSlave.any fun slave => slave.seq = seq) = true) :
    Answered seq "add_device" widget
      ((widget.completePendingCommand seq).withPending none widget.pendingRemoveSlave) where
  later := le_refl _
  commands := fun other _ => completePendingCommand_commands seq other widget
  addSlave := by
    rw [if_pos rfl]
    cases found : widget.pendingAddSlave with
    | none => rfl
    | some slave =>
        rw [found, Option.any_some, decide_eq_true_eq] at own
        rw [withoutSeq, Option.filter_some, if_neg (by simpa using own)]
        rfl
  removeSlave := rfl
  others := fun _ => ⟨rfl, rfl⟩
  relay := fun relay pending => ⟨relay, pending, rfl⟩
  timers := List.Subset.refl _
  confirmed := fun sets => absurd sets (by decide)

theorem removeSlave_answered {seq : UInt32} {widget removed : Widget}
    (same : SamePending (widget.completePendingCommand seq) removed) :
    Answered seq "remove_device" widget
      (removed.withPending removed.pendingAddSlave (withoutSeq seq removed.pendingRemoveSlave)) where
  later := le_of_eq (congrArg UInt32.toNat same.next.symm)
  commands := fun other _ =>
    (congrFun same.commands other).trans (completePendingCommand_commands seq other widget)
  addSlave := same.addSlave
  removeSlave := congrArg (withoutSeq seq) same.removeSlave
  others := fun _ => ⟨same.relay, same.timers⟩
  relay := fun relay pending => ⟨relay, same.relay.symm.trans pending, rfl⟩
  timers := by
    change _ ⊆ removed.confirmTimers
    rw [same.timers]
    exact List.Subset.refl _
  confirmed := fun sets => absurd sets (by decide)

theorem relayAcknowledged_answered {widget : Widget} (room : widget.Room 2) (env : Surroundings)
    (seq : UInt32) :
    Answered seq "set_relay" widget
      ((widget.completePendingCommand seq).relayAcknowledged env seq) := by
  have left : (widget.completePendingCommand seq).acknowledgeRelay.Room 2 := room
  have sends := Sends.requestRuntimeRefresh left env
  have timers : ((widget.completePendingCommand seq).relayAcknowledged env seq).confirmTimers =
      widget.confirmTimers ++ [seq] :=
    congrArg (fun timers => timers ++ [seq]) sends.timers
  refine ⟨sends.later, ?_, sends.addSlave, sends.removeSlave, fun no => absurd rfl no, ?_, ?_, ?_⟩
  · intro other old
    exact (sends.commands other old).trans (completePendingCommand_commands seq other widget)
  · intro relay pending
    rcases Option.map_eq_some_iff.mp (sends.relay.symm.trans pending) with ⟨old, found, same⟩
    exact ⟨old, found, by rw [← same]⟩
  · rw [timers]
    exact List.subset_append_left _ _
  · intro _ _ _ _
    rw [timers]
    exact List.mem_append_right _ (List.mem_singleton_self seq)

theorem commandAckReceived_answered {widget next : Widget} (room : widget.Room 2)
    {env : Surroundings} {seq : UInt32} {cmd status : String} {ackRoot : Json}
    (run : widget.commandAckReceived env seq cmd status ackRoot = some next) :
    Answered seq cmd widget next := by
  have left : forall add remove,
      ((widget.completePendingCommand seq).withPending add remove).Room 2 := fun _ _ => room
  unfold commandAckReceived at run
  dsimp only at run
  split at run
  · rename_i cache
    have foreign : forall other, offlineCacheCommands.contains other = false -> cmd ≠ other :=
      fun other absent same => Bool.false_ne_true (absent.symm.trans (same ▸ cache))
    have completed : Answered seq cmd widget (widget.completePendingCommand seq) :=
      completePendingCommand_answered (fun same => absurd same (foreign _ rfl)) (foreign _ rfl)
        fun same => absurd same (foreign _ rfl)
    cases run
    unfold handleOfflineCacheAck
    split
    · exact completed
    · have one : (widget.completePendingCommand seq).Room 1 := Nat.lt_of_succ_lt room
      exact completed.of_sends (.sendCommand one env _ _)
  · split at run
    · cases run
      exact commandFailed_answered cmd seq widget
    · split at run
      · rename_i adds
        obtain ⟨named, own⟩ := adds
        subst named
        cases run
        exact (@addSlave_answered seq widget own).of_sends (.requestRuntimeRefresh (left _ _) env)
      · rename_i notAdds
        split at run
        · rename_i named
          subst named
          rcases Option.map_eq_some_iff.mp run with ⟨removed, loop, rfl⟩
          have same := SamePending.handleRemoteRemoveDeviceAck loop
          refine (removeSlave_answered same).of_sends (.requestRuntimeRefresh ?_ env)
          unfold Room
          change removed.nextCommandSeq.toNat + 2 < 2 ^ 32
          rw [same.next]
          exact room
        · rename_i notRemoves
          split at run
          · rename_i sets
            obtain ⟨named, -⟩ := sets
            subst named
            cases run
            exact relayAcknowledged_answered room env seq
          · rename_i notSets
            have completed : Answered seq cmd widget (widget.completePendingCommand seq) :=
              completePendingCommand_answered
                (fun adds => Bool.eq_false_iff.mpr fun own => notAdds ⟨adds, own⟩) notRemoves
                fun sets => Bool.eq_false_iff.mpr fun own => notSets ⟨sets, own⟩
            split at run
            · cases run
              exact completed
            · split at run
              · cases run
                exact completed.of_sends (.requestRuntimeRefresh (left _ _) env)
              · cases run
                exact completed

end Widget
end LocalUi
end Imx6Gateway
