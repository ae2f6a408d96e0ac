import Imx6Gateway.Board.PortCall
import Imx6Gateway.Board.PortManager
import Imx6Gateway.Library.WriteChain
import Imx6Gateway.Link.RelayIsolation
import Imx6Gateway.Ui.CommandTracking

namespace Imx6Gateway
namespace Link

open Library Board

/-!
# Relay commands in flight

Several relay commands for one device can wait at the same time.  A command
carries the states of all channels: the new state of its own one, the states
asked for by the commands that wait, and for the rest what the user interface
shows.  The board executes the commands in the order they were sent and writes
all four coils; a write that fails leaves the coils alone.

The messages are followed as trees, and what Pc_data and the port manager make
of a command may differ from command to command.
-/

/-- A command on its way to the board. -/
structure SentRelay where
  cmdId : String
  request : Ui.RelayRequest
  message : Json

/-- A command that the board has executed, or that has been refused on the way. -/
structure RelayExecution where
  cmdId : String
  request : Ui.RelayRequest
  ok : Bool
deriving DecidableEq

/-- The user interface, the commands on their way, and the coils of the relay.
The history also serves for the answers that are still to come. -/
structure RelayLine where
  tracker : Ui.CommandTracker
  sent : List SentRelay
  coils : Fin 4 -> Bool
  history : List RelayExecution

def coilKey (coil : Fin 4) : String := Pc.relayKey (coil + 1)

theorem coilKey_injective {first second : Fin 4} (same : coilKey first = coilKey second) :
    first = second :=
  Fin.ext (Nat.succ.inj (Pc.relayKey_injective same))

/-- The state that a command carries for a coil. -/
def SentRelay.carried (command : SentRelay) (coil : Fin 4) : Bool :=
  match command.message.lookup "states" with
  | some (.arr states) => JsonC.getBoolean (states.getD coil .null)
  | _ => false

/-- The command is about this coil. -/
def SentRelay.Owns (command : SentRelay) (coil : Fin 4) : Prop :=
  command.request.channel = coilKey coil

instance (command : SentRelay) (coil : Fin 4) : Decidable (command.Owns coil) :=
  inferInstanceAs (Decidable (_ = _))

/-- What Pc_data, the board and the bus do with a command: the coils if the
write went through. -/
def executed (databaseOpen portConnected : Bool) (clock : Int64) (ports : PortManager)
    (written : Bool) (command : SentRelay) : Option (Fin 4 -> Bool) := do
  let payload ← forwardedJson (Pc.handleCommand ⟨databaseOpen, portConnected, clock.toInt⟩
    command.message command.cmdId)
  match ← setRelayCall (commandEffectiveRoot payload) with
  | .handleRelay slot slaveId _ mask => (handleRelay ports slot slaveId mask written).toOption
  | _ => none

/-- An answer carries how the command was executed; it may come at any time
after it, and again. -/
inductive RelayEvent where
  | send (time : String) (timestamp : Int) (channel : String) (value : Bool) (shown : Nat -> Bool)
  | execute (databaseOpen portConnected : Bool) (clock : Int64) (ports : PortManager)
      (written : Bool)
  | answer (cmdId reason message : String)

namespace RelayLine

variable (device : Ui.DeviceNode)

/-- The user switches a channel of the relay that the interface shows. -/
def send (line : RelayLine) (time : String) (timestamp : Int) (channel : String) (value : Bool)
    (shown : Nat -> Bool) : RelayLine :=
  let result := line.tracker.sendRelayCommand time timestamp device channel value
    (Ui.channelTable 4 shown)
  { line with
    tracker := result.1
    sent := line.sent ++ result.2.toList.map fun message =>
      ⟨line.tracker.createCmdId time,
        ⟨Ui.relayDeviceKey device, Ui.normalizeRelayChannel channel, value⟩, message⟩ }

/-- The first command on the way ends, with the coils it wrote or without. -/
def finishFirst (line : RelayLine) (command : SentRelay) (later : List SentRelay)
    (result : Option (Fin 4 -> Bool)) : RelayLine :=
  { line with
    sent := later
    coils := result.getD line.coils
    history := line.history ++ [⟨command.cmdId, command.request, result.isSome⟩] }

def execute (line : RelayLine) (databaseOpen portConnected : Bool) (clock : Int64)
    (ports : PortManager) (written : Bool) : RelayLine :=
  match line.sent with
  | [] => line
  | command :: later =>
      line.finishFirst command later
        (executed databaseOpen portConnected clock ports written command)

/-- Pc_data passes the answer of the board on to the user interface. -/
def answer (line : RelayLine) (cmdId reason message : String) : RelayLine :=
  match line.history.find? fun execution => execution.cmdId = cmdId with
  | none => line
  | some execution =>
      { line with
        tracker := line.tracker.onCommandAck
          (Ui.buildCommandAckJson cmdId "set_relay" "done" execution.ok reason message) }

def step (line : RelayLine) : RelayEvent -> RelayLine
  | .send time timestamp channel value shown =>
      line.send device time timestamp channel value shown
  | .execute databaseOpen portConnected clock ports written =>
      line.execute databaseOpen portConnected clock ports written
  | .answer cmdId reason message => line.answer cmdId reason message

def system (initial : Fin 4 -> Bool) : TransitionSystem RelayLine RelayEvent where
  initial := ⟨.start, [], initial, []⟩
  step := step device

/-- The value of the last successful command for a channel. -/
def lastRequested (initial : Fin 4 -> Bool) (history : List RelayExecution) (coil : Fin 4) : Bool :=
  history.foldl (fun value execution =>
    if execution.ok ∧ execution.request.channel = coilKey coil then execution.request.value
    else value) (initial coil)

/-- Every coil is as the last successful command for it asked. -/
def Faithful (initial : Fin 4 -> Bool) (line : RelayLine) : Prop :=
  forall coil, line.coils coil = lastRequested initial line.history coil

/-- All commands are finished. -/
def Settled (line : RelayLine) : Prop :=
  forall command, command ∈ line.tracker.issued -> ¬line.tracker.Pending command.cmdId

instance (initial : Fin 4 -> Bool) (line : RelayLine) : Decidable (line.Faithful initial) :=
  inferInstanceAs (Decidable (forall _ : Fin 4, _ = _))

instance (line : RelayLine) : Decidable line.Settled :=
  inferInstanceAs (Decidable (forall command, command ∈ _ -> _))

/-- Nothing wrong is carried along.  A command is sent when the states shown
are those of the coils, except for channels that a command waits for, and
when no failed command waits for its answer; a command fails when no other one
is on its way.  A failed command that asked for the state there was is no
harm. -/
def Agrees (line : RelayLine) : RelayEvent -> Prop
  | .send time timestamp channel value shown =>
      (line.tracker.sendRelayCommand time timestamp device channel value
        (Ui.channelTable 4 shown)).2.isSome = true ->
      forall coil, coilKey coil ≠ Ui.normalizeRelayChannel channel ->
        ((line.tracker.desiredOf (Ui.relayDeviceKey device)).lookup (coilKey coil) = none ->
          shown coil = line.coils coil) ∧
        forall execution, execution ∈ line.history -> execution.ok = false ->
          line.tracker.Pending execution.cmdId -> execution.request.channel = coilKey coil ->
          execution.request.value = line.coils coil
  | .execute databaseOpen portConnected clock ports written =>
      forall command, command ∈ line.sent.head? ->
        (executed databaseOpen portConnected clock ports written command).isNone = true ->
        line.sent.tail.isEmpty = true ∨
          forall coil, command.Owns coil -> command.request.value = line.coils coil
  | .answer .. => True

instance (line : RelayLine) (event : RelayEvent) : Decidable (line.Agrees device event) := by
  cases event with
  | send time timestamp channel value shown => exact inferInstanceAs (Decidable (_ -> _))
  | execute databaseOpen portConnected clock ports written =>
      exact inferInstanceAs (Decidable (forall command, command ∈ line.sent.head? -> _))
  | answer cmdId reason message => exact inferInstanceAs (Decidable True)

end RelayLine

/-! ## One command -/

def SentRelay.issued (command : SentRelay) : Ui.IssuedCommand :=
  ⟨command.cmdId, some command.request⟩

def RelayExecution.issued (execution : RelayExecution) : Ui.IssuedCommand :=
  ⟨execution.cmdId, some execution.request⟩

/-- The message is a command for a coil of the relay. -/
def SentRelay.Formed (device : Ui.DeviceNode) (command : SentRelay) : Prop :=
  exists (coil : Fin 4) (timestamp : Int) (states : List Bool),
    command.request.channel = coilKey coil ∧ command.message =
      Ui.relayCommandJson command.cmdId timestamp device (coilKey coil) command.request.value states

theorem carried_relayCommandJson {command : SentRelay} {timestamp : Int}
    {device : Ui.DeviceNode} {channel : String} {value : Bool} {states : List Bool}
    (same : command.message =
      Ui.relayCommandJson command.cmdId timestamp device channel value states) (coil : Fin 4) :
    command.carried coil = states.getD coil false := by
  have listed : command.message.lookup "states" = some (.arr (states.map .bool)) := by
    rw [same]
    rfl
  rw [SentRelay.carried, listed]
  by_cases bound : coil < states.length <;> simp [bound, JsonC.getBoolean]

/-- A write that goes through sets the coils as the command carries them. -/
theorem executed_carried {device : Ui.DeviceNode} {command : SentRelay}
    (formed : command.Formed device) {databaseOpen portConnected : Bool} {clock : Int64}
    {ports : PortManager} {written : Bool} {coils : Fin 4 -> Bool}
    (done : executed databaseOpen portConnected clock ports written command = some coils) :
    coils = command.carried := by
  rcases formed with ⟨coil, timestamp, states, -, same⟩
  rcases Option.bind_eq_some_iff.mp done with ⟨payload, forwarded, afterPayload⟩
  rcases Option.bind_eq_some_iff.mp afterPayload with ⟨call, called, result⟩
  rw [same] at forwarded
  rcases handleCommand_states command.cmdId timestamp databaseOpen portConnected clock (coil + 1)
    command.request.value forwarded with ⟨-, nonempty, members, nested, listed⟩
  rcases Option.bind_eq_some_iff.mp called with ⟨mask, requested, made⟩
  rw [requestedMask_states nested listed nonempty] at requested
  cases requested
  cases made
  rw [handleRelay_done result]
  funext position
  rw [carried_relayCommandJson same, relayCoils, getLsbD_relayMask _ (by omega)]
  by_cases bound : position < states.length <;> simp [bound, JsonC.getBoolean]

namespace RelayLine

variable {device : Ui.DeviceNode} {initial : Fin 4 -> Bool} {line : RelayLine}

/-! ## The invariant -/

/-- Every command on its way carries what the commands before it leave, and
what a successful command asked for is still there while its answer is
awaited. -/
structure Sound (device : Ui.DeviceNode) (initial : Fin 4 -> Bool) (line : RelayLine) : Prop where
  tracker : line.tracker.Invariant
  issued : line.tracker.issued =
    line.history.map RelayExecution.issued ++ line.sent.map SentRelay.issued
  waiting : forall command, command ∈ line.sent -> line.tracker.Pending command.cmdId
  formed : forall command, command ∈ line.sent -> command.Formed device
  target : forall command, command ∈ line.tracker.issued -> forall request,
    command.relay = some request -> request.deviceKey = Ui.relayDeviceKey device
  chained : WriteChain.Chained SentRelay.carried SentRelay.Owns
    (fun command => command.request.value) line.coils line.sent
  kept : forall execution, execution ∈ line.history -> execution.ok = true ->
    line.tracker.Pending execution.cmdId -> forall coil,
    execution.request.channel = coilKey coil -> line.coils coil = execution.request.value
  faithful : Faithful initial line

namespace Sound

variable (sound : Sound device initial line)
include sound

theorem waits_of_sent {command : SentRelay} (inside : command ∈ line.sent) :
    line.tracker.Waiting command.cmdId command.request := by
  refine ⟨?_, sound.waiting command inside⟩
  rw [sound.issued]
  exact List.mem_append_right _ (List.mem_map_of_mem inside)

theorem waits_of_history {execution : RelayExecution} (inside : execution ∈ line.history)
    (pending : line.tracker.Pending execution.cmdId) :
    line.tracker.Waiting execution.cmdId execution.request := by
  refine ⟨?_, pending⟩
  rw [sound.issued]
  exact List.mem_append_left _ (List.mem_map_of_mem inside)

/-- Two commands that wait for one channel are the same. -/
theorem sole {first second : String} {firstRequest secondRequest : Ui.RelayRequest}
    (firstWaits : line.tracker.Waiting first firstRequest)
    (secondWaits : line.tracker.Waiting second secondRequest)
    (same : firstRequest.channel = secondRequest.channel) : first = second := by
  refine sound.tracker.views.sole firstWaits secondWaits ?_
  rw [Ui.RelayRequest.commandKey, Ui.RelayRequest.commandKey, same,
    sound.target _ firstWaits.1 _ rfl, sound.target _ secondWaits.1 _ rfl]

variable (distinct : line.tracker.issuedIds.Nodup)
include distinct

theorem ids_nodup :
    (line.history.map RelayExecution.cmdId ++ line.sent.map SentRelay.cmdId).Nodup := by
  have listed : line.tracker.issuedIds =
      line.history.map RelayExecution.cmdId ++ line.sent.map SentRelay.cmdId := by
    rw [Ui.CommandTracker.issuedIds, sound.issued, List.map_append, List.map_map, List.map_map]
    rfl
  rw [← listed]
  exact distinct

theorem ne_of_history_sent {execution : RelayExecution} {command : SentRelay}
    (executedBefore : execution ∈ line.history) (inside : command ∈ line.sent) :
    execution.cmdId ≠ command.cmdId := by
  intro same
  have apart := (List.nodup_append.mp (sound.ids_nodup distinct)).2.2
  exact apart _ (List.mem_map_of_mem executedBefore) _ (List.mem_map_of_mem inside) same

/-- No two commands on the way are about the same coil. -/
theorem sent_alone (coil : Fin 4) :
    line.sent.Pairwise fun first second => first.Owns coil -> ¬second.Owns coil := by
  have ids := (List.nodup_append.mp (sound.ids_nodup distinct)).2.1
  rw [List.Nodup, List.pairwise_map] at ids
  refine ids.imp_of_mem ?_
  intro first second firstInside secondInside different firstOwns secondOwns
  exact different (sound.sole (sound.waits_of_sent firstInside) (sound.waits_of_sent secondInside)
    (firstOwns.trans secondOwns.symm))

/-- While a command that was executed waits for its answer, no other one on
the way is about its coil. -/
theorem not_owns_of_history {execution : RelayExecution} (inside : execution ∈ line.history)
    (pending : line.tracker.Pending execution.cmdId) {coil : Fin 4}
    (channel : execution.request.channel = coilKey coil) {command : SentRelay}
    (onWay : command ∈ line.sent) : ¬command.Owns coil := by
  intro owned
  exact sound.ne_of_history_sent distinct inside onWay
    (sound.sole (sound.waits_of_history inside pending) (sound.waits_of_sent onWay)
      (channel.trans owned.symm))

end Sound

/-! ## Sending -/

/-- The entry of a new command. -/
def newRelay (device : Ui.DeviceNode) (cmdId channel : String) (value : Bool) (message : Json) :
    SentRelay :=
  ⟨cmdId, ⟨Ui.relayDeviceKey device, Ui.normalizeRelayChannel channel, value⟩, message⟩

/-- What a new command carries for a coil: its own value, the state asked for
by a command that waits, or the shown one. -/
theorem carried_newRelay (sound : Sound device initial line)
    (distinct : line.tracker.issuedIds.Nodup) {cmdId : String} {timestamp : Int}
    {channel : String} {value : Bool} {shown : Nat -> Bool} {message : Json}
    (sent : Ui.sendRelayCommand line.tracker.pendingRelays cmdId timestamp device channel value
      (Ui.channelTable 4 shown) = some message) :
    (newRelay device cmdId channel value message).Formed device ∧ forall coil,
      (newRelay device cmdId channel value message).carried coil =
        if Ui.normalizeRelayChannel channel = coilKey coil then value
        else ((line.tracker.desiredOf (Ui.relayDeviceKey device)).lookup (coilKey coil)).getD
          (shown coil) := by
  rcases Ui.sendRelayCommand_some (Ui.shows_channelTable 4 shown) sent with
    ⟨index, bound, key, same⟩
  have graph : SortedMap.Tabulates
      ((line.tracker.pendingRelays.desiredByDevice.lookup (Ui.relayDeviceKey device)).getD [])
      fun channel => (line.tracker.desiredOf (Ui.relayDeviceKey device)).lookup channel := by
    intro channel value
    rw [sound.tracker.views.lookup_desiredOf distinct, Ui.CommandTracker.pendingRelays,
      Table.lookup_pairs, ← Ui.CommandTracker.desiredOf]
    exact (sound.tracker.views.desired _ channel value).symm
  refine ⟨⟨⟨index, bound⟩, timestamp, _, key, same⟩, ?_⟩
  intro coil
  have states : (newRelay device cmdId channel value message).carried coil = _ :=
    carried_relayCommandJson same coil
  rw [states, Ui.getD_stateList _ _ (by omega),
    Ui.lookup_desiredStates_of_tabulates (Ui.shows_channelTable 4 shown) graph, key]
  by_cases own : Pc.relayKey (index + 1) = coilKey coil
  · rw [if_pos own, ← coilKey, if_pos own.symm]
    rfl
  · rw [if_neg own, ← coilKey, if_neg (fun same => own same.symm), if_pos coil.isLt]
    change (Option.or (List.lookup (coilKey coil) _) _).getD false = _
    cases (line.tracker.desiredOf (Ui.relayDeviceKey device)).lookup (coilKey coil) <;> rfl

/-- If the condition is met, the states of the other channels are those that
the queue leaves. -/
theorem wanted_eq_final (sound : Sound device initial line)
    (distinct : line.tracker.issuedIds.Nodup) {shown : Nat -> Bool} {coil : Fin 4}
    (fresh : (line.tracker.desiredOf (Ui.relayDeviceKey device)).lookup (coilKey coil) = none ->
      shown coil = line.coils coil)
    (harmless : forall execution, execution ∈ line.history -> execution.ok = false ->
      line.tracker.Pending execution.cmdId -> execution.request.channel = coilKey coil ->
      execution.request.value = line.coils coil) :
    ((line.tracker.desiredOf (Ui.relayDeviceKey device)).lookup (coilKey coil)).getD (shown coil) =
      WriteChain.final SentRelay.carried line.coils line.sent coil := by
  have asked := fun value =>
    sound.tracker.views.lookup_desiredOf distinct (Ui.relayDeviceKey device) (coilKey coil) value
  cases wanted : (line.tracker.desiredOf (Ui.relayDeviceKey device)).lookup (coilKey coil) with
  | none =>
      have untouched : forall command, command ∈ line.sent -> ¬command.Owns coil := by
        intro command inside owned
        have waits := sound.waits_of_sent inside
        have found := (asked command.request.value).mpr ⟨command.cmdId, by
          rw [← owned, ← sound.target _ waits.1 _ rfl]
          exact waits⟩
        rw [wanted] at found
        cases found
      rw [WriteChain.final_of_untouched sound.chained untouched]
      exact fresh wanted
  | some value =>
      rcases (asked value).mp wanted with ⟨cmdId, listed, pending⟩
      rw [sound.issued, List.mem_append, List.mem_map, List.mem_map] at listed
      rcases listed with ⟨execution, inside, same⟩ | ⟨command, inside, same⟩
      · -- the command was executed, and its answer is still to come
        have request := Option.some.inj (congrArg Ui.IssuedCommand.relay same)
        have channel : execution.request.channel = coilKey coil :=
          congrArg Ui.RelayRequest.channel request
        have valued : execution.request.value = value := congrArg Ui.RelayRequest.value request
        have waits : line.tracker.Pending execution.cmdId := by
          rw [show execution.cmdId = cmdId from congrArg Ui.IssuedCommand.cmdId same]
          exact pending
        rw [WriteChain.final_of_untouched sound.chained fun command onWay =>
          sound.not_owns_of_history distinct inside waits channel onWay]
        cases ok : execution.ok with
        | true => exact valued.symm.trans (sound.kept execution inside ok waits coil channel).symm
        | false => exact valued.symm.trans (harmless execution inside ok waits channel)
      · have request := Option.some.inj (congrArg Ui.IssuedCommand.relay same)
        rw [WriteChain.final_of_owner sound.chained inside
          (congrArg Ui.RelayRequest.channel request) (sound.sent_alone distinct coil)]
        exact (congrArg Ui.RelayRequest.value request).symm

/-- One more command on its way, which carries what the queue leaves. -/
theorem Sound.push (sound : Sound device initial line) {next : Ui.CommandTracker}
    {command : SentRelay} (tracker : next.Invariant)
    (fresh : command.cmdId ∉ line.tracker.issuedIds)
    (issued : next.issued = line.tracker.issued ++ [command.issued])
    (pending : forall cmdId, next.Pending cmdId ↔
      cmdId = command.cmdId ∨ line.tracker.Pending cmdId)
    (formed : command.Formed device)
    (target : command.request.deviceKey = Ui.relayDeviceKey device)
    (copies : WriteChain.Extends SentRelay.carried SentRelay.Owns
      (fun command => command.request.value)
      (WriteChain.final SentRelay.carried line.coils line.sent) command) :
    Sound device initial { line with tracker := next, sent := line.sent ++ [command] } where
  tracker := tracker
  issued := by
    rw [issued, sound.issued, List.map_append, List.append_assoc]
    rfl
  waiting := by
    intro other inside
    rw [pending]
    rcases List.mem_append.mp inside with old | new
    · exact Or.inr (sound.waiting other old)
    · exact Or.inl (congrArg SentRelay.cmdId (List.mem_singleton.mp new))
  formed := by
    intro other inside
    rcases List.mem_append.mp inside with old | new
    · exact sound.formed other old
    · rw [List.mem_singleton.mp new]
      exact formed
  target := by
    intro other inside request named
    rw [issued] at inside
    rcases List.mem_append.mp inside with old | new
    · exact sound.target other old request named
    · rw [List.mem_singleton.mp new] at named
      rw [← Option.some.inj named]
      exact target
  chained := WriteChain.chained_push sound.chained copies
  kept := by
    intro execution inside ok waits
    refine sound.kept execution inside ok (((pending _).mp waits).resolve_left ?_)
    intro same
    refine fresh (same ▸ List.mem_map.mpr ⟨execution.issued, ?_, rfl⟩)
    rw [sound.issued]
    exact List.mem_append_left _ (List.mem_map_of_mem inside)
  faithful := sound.faithful

theorem sound_send (sound : Sound device initial line) {time : String} {timestamp : Int}
    {channel : String} {value : Bool} {shown : Nat -> Bool}
    (distinct : (line.send device time timestamp channel value shown).tracker.issuedIds.Nodup)
    (agrees : line.Agrees device (.send time timestamp channel value shown)) :
    Sound device initial (line.send device time timestamp channel value shown) := by
  have change : Ui.CommandTracker.Change line.tracker _ :=
    Ui.CommandTracker.change_sendRelayCommand time timestamp device channel value
      (Ui.channelTable 4 shown)
  have tracker := Ui.CommandTracker.invariant_change change sound.tracker distinct
  have before := distinct.sublist change.issuedIds_grow.sublist
  cases result : Ui.sendRelayCommand line.tracker.pendingRelays (line.tracker.createCmdId time)
      timestamp device channel value (Ui.channelTable 4 shown) with
  | none =>
      have unsent := line.tracker.sendRelayCommand_unsent result
      have same : line.send device time timestamp channel value shown =
          { line with tracker := line.tracker.counted } := by
        rw [send, unsent, Option.toList_none, List.map_nil, List.append_nil]
      rw [unsent] at tracker
      rw [same]
      exact ⟨tracker, sound.issued, sound.waiting, sound.formed, sound.target, sound.chained,
        sound.kept, sound.faithful⟩
  | some message =>
      have sent := line.tracker.sendRelayCommand_sent result
      rcases carried_newRelay sound before result with ⟨formed, carries⟩
      have same : line.send device time timestamp channel value shown =
          { line with
            tracker := (line.tracker.sendRelayCommand time timestamp device channel value
              (Ui.channelTable 4 shown)).1
            sent := line.sent ++
              [newRelay device (line.tracker.createCmdId time) channel value message] } := by
        rw [send, sent, Option.toList_some, List.map_singleton]
        rfl
      rw [Agrees, sent] at agrees
      rw [same] at distinct ⊢
      rw [sent] at distinct tracker ⊢
      refine sound.push tracker ?_ rfl
        Ui.CommandTracker.pending_trackRelay formed rfl ?_
      · rw [Ui.CommandTracker.issuedIds, Ui.CommandTracker.trackRelay, List.map_append,
          List.nodup_append_comm] at distinct
        exact (List.nodup_cons.mp distinct).1
      · intro coil
        rw [carries]
        by_cases own : Ui.normalizeRelayChannel channel = coilKey coil
        · rw [if_pos own]
          exact (if_pos own).symm
        · have condition := agrees rfl coil fun same => own same.symm
          rw [if_neg own, wanted_eq_final sound before condition.1 condition.2]
          exact (if_neg own).symm

/-! ## Executing -/

theorem lastRequested_push (history : List RelayExecution) (execution : RelayExecution)
    (coil : Fin 4) :
    lastRequested initial (history ++ [execution]) coil =
      if execution.ok ∧ execution.request.channel = coilKey coil then execution.request.value
      else lastRequested initial history coil := by
  rw [lastRequested, List.foldl_append]
  rfl

/-- The first command ends.  If it wrote its coils, the others carry on from
there; if it did not, they must not have copied its state. -/
theorem sound_finishFirst (sound : Sound device initial line)
    (distinct : line.tracker.issuedIds.Nodup) {command : SentRelay} {later : List SentRelay}
    (first : line.sent = command :: later) {result : Option (Fin 4 -> Bool)}
    (wrote : forall coils, result = some coils -> coils = command.carried)
    (failed : result = none -> later = [] ∨
      forall coil, command.Owns coil -> command.request.value = line.coils coil) :
    Sound device initial (line.finishFirst command later result) := by
  have chained := sound.chained
  rw [first] at chained
  have onWay : command ∈ line.sent := by
    rw [first]
    exact List.mem_cons_self
  have coils : forall coil, result.getD line.coils coil =
      if result.isSome = true ∧ command.Owns coil then command.request.value
      else line.coils coil := by
    intro coil
    cases done : result with
    | none => simp
    | some set =>
        rw [Option.getD_some, wrote set done, chained.1 coil]
        simp
  have others : forall other, other ∈ later -> other ∈ line.sent := by
    intro other inside
    rw [first]
    exact List.mem_cons_of_mem command inside
  constructor
  · exact sound.tracker
  · rw [finishFirst, sound.issued, first, List.map_append, List.append_assoc]
    rfl
  · exact fun other inside => sound.waiting other (others other inside)
  · exact fun other inside => sound.formed other (others other inside)
  · exact sound.target
  · change WriteChain.Chained _ _ _ (result.getD line.coils) later
    cases done : result with
    | some set =>
        rw [Option.getD_some, wrote set done]
        exact chained.2
    | none =>
        rcases failed done with empty | idle
        · rw [empty]
          trivial
        · exact WriteChain.chained_skip chained idle
  · intro execution inside ok waits coil channel
    change result.getD line.coils coil = _
    rw [coils]
    rcases List.mem_append.mp inside with old | new
    · rw [if_neg fun own => sound.not_owns_of_history distinct old waits channel onWay own.2]
      exact sound.kept execution old ok waits coil channel
    · rw [List.mem_singleton.mp new] at ok channel ⊢
      exact if_pos ⟨ok, channel⟩
  · intro coil
    change result.getD line.coils coil = lastRequested initial (line.history ++ _) coil
    rw [coils, lastRequested_push, sound.faithful coil]
    rfl

theorem sound_execute (sound : Sound device initial line)
    (distinct : line.tracker.issuedIds.Nodup) {databaseOpen portConnected : Bool} {clock : Int64}
    {ports : PortManager} {written : Bool}
    (agrees : line.Agrees device (.execute databaseOpen portConnected clock ports written)) :
    Sound device initial (line.execute databaseOpen portConnected clock ports written) := by
  unfold execute
  split
  · exact sound
  · rename_i command later first
    rw [Agrees, first] at agrees
    have formed := sound.formed command (by rw [first]; exact List.mem_cons_self)
    refine sound_finishFirst sound distinct first ?_ ?_
    · intro coils done
      exact executed_carried formed done
    · intro failed
      rcases agrees command rfl (by rw [failed]; rfl) with alone | idle
      · exact Or.inl (List.isEmpty_iff.mp alone)
      · exact Or.inr idle

/-! ## Answers -/

theorem sound_answer (sound : Sound device initial line)
    (distinct : line.tracker.issuedIds.Nodup) (cmdId reason message : String) :
    Sound device initial (line.answer cmdId reason message) := by
  unfold answer
  split
  · exact sound
  · rename_i execution found
    have reply : Ui.CommandTracker.Reply line.tracker cmdId _ :=
      Ui.CommandTracker.reply_onCommandAck
        (Ui.buildCommandAckJson cmdId "set_relay" "done" execution.ok reason message)
    have named : execution.cmdId = cmdId := of_decide_eq_true (List.find?_some found :)
    have executedBefore := List.mem_of_find?_eq_some found
    constructor
    · exact reply.invariant sound.tracker distinct
    · exact reply.issued_eq.trans sound.issued
    · intro command inside
      refine (reply.pending_iff ?_).mpr (sound.waiting command inside)
      intro same
      exact sound.ne_of_history_sent distinct executedBefore inside (named.trans same.symm)
    · exact sound.formed
    · intro command inside
      rw [reply.issued_eq] at inside
      exact sound.target command inside
    · exact sound.chained
    · intro other inside ok waits
      exact sound.kept other inside ok (reply.pending_before waits)
    · exact sound.faithful

/-! ## Runs -/

/-- A step forgets none of the commands that were sent. -/
theorem issuedIds_step (line : RelayLine) (event : RelayEvent) :
    line.tracker.issuedIds <+: (line.step device event).tracker.issuedIds := by
  cases event with
  | send time timestamp channel value shown =>
      exact (Ui.CommandTracker.change_sendRelayCommand ..).issuedIds_grow
  | execute databaseOpen portConnected clock ports written =>
      rw [step, execute]
      split <;> exact List.prefix_rfl
  | answer cmdId reason message =>
      rw [step, answer]
      split
      · exact List.prefix_rfl
      · rw [Ui.CommandTracker.issuedIds, Ui.CommandTracker.issuedIds,
          (Ui.CommandTracker.reply_onCommandAck _).issued_eq]

theorem issuedIds_runFrom (events : List RelayEvent) (line : RelayLine) :
    line.tracker.issuedIds <+:
      ((system device initial).runFrom line events).tracker.issuedIds := by
  induction events generalizing line with
  | nil => exact List.prefix_rfl
  | cons event events ih => exact (issuedIds_step line event).trans (ih _)

theorem sound_step (sound : Sound device initial line) (event : RelayEvent)
    (distinct : (line.step device event).tracker.issuedIds.Nodup)
    (agrees : line.Agrees device event) : Sound device initial (line.step device event) := by
  have before := distinct.sublist (issuedIds_step line event).sublist
  cases event with
  | send time timestamp channel value shown => exact sound_send sound distinct agrees
  | execute databaseOpen portConnected clock ports written =>
      exact sound_execute sound before agrees
  | answer cmdId reason message => exact sound_answer sound before cmdId reason message

theorem sound_start : Sound device initial (system device initial).initial where
  tracker := Ui.CommandTracker.invariant_start
  issued := rfl
  waiting _ inside := by cases inside
  formed _ inside := by cases inside
  target _ inside := by cases inside
  chained := trivial
  kept _ inside := by cases inside
  faithful _ := rfl

theorem sound_runFrom (events : List RelayEvent) {line : RelayLine}
    (sound : Sound device initial line)
    (agrees : (system device initial).AdmissibleFrom (Agrees device) line events)
    (distinct : ((system device initial).runFrom line events).tracker.issuedIds.Nodup) :
    Sound device initial ((system device initial).runFrom line events) := by
  induction events generalizing line with
  | nil => exact sound
  | cons event events ih =>
      have later : _ <+: ((system device initial).runFrom line (event :: events)).tracker.issuedIds :=
        issuedIds_runFrom events (line.step device event)
      have next := distinct.sublist later.sublist
      exact ih (sound_step sound event next agrees.1) agrees.2 distinct

/-- If every step agrees with the coils, every coil is at all times as the last
successful command for it asked. -/
theorem coils_as_requested_run (device : Ui.DeviceNode) (initial : Fin 4 -> Bool)
    (events : List RelayEvent)
    (distinct : ((system device initial).run events).tracker.issuedIds.Nodup)
    (agrees : (system device initial).Admissible (Agrees device) events) :
    Faithful initial ((system device initial).run events) :=
  (sound_runFrom events sound_start agrees distinct).faithful

/-- A board on which the relay of the examples is connected. -/
def samplePorts : PortManager where
  channels := fun _ => ⟨true, "/dev/ttymxc1", 9600, some ⟨"/dev/ttymxc1", 9600⟩,
    [createSensorDevice .relay 3 1000 none]⟩
  file := none

/-- Two channels are switched on together, and switching the first one off
again fails. -/
def sampleEvents : List RelayEvent :=
  [.send "20260102030405006" 1 "relay_1" true fun _ => false,
    .send "20260102030405007" 1 "relay_2" true fun _ => false,
    .execute true true 0 samplePorts true,
    .answer "CMD20260102030405006_1" "" "",
    .execute true true 0 samplePorts true,
    .send "20260102030405008" 1 "led" false fun channel => channel < 2,
    .answer "CMD20260102030405007_2" "" "",
    .execute true true 0 samplePorts false,
    .answer "CMD20260102030405008_3" "modbus_write_failed" ""]

theorem sample_coils_as_requested :
    ((system Ui.CommandTracker.sampleRelay fun _ => false).run sampleEvents).Settled ∧
      ((system Ui.CommandTracker.sampleRelay fun _ => false).run sampleEvents).history.map
        RelayExecution.ok = [true, true, false] ∧
      Faithful (fun _ => false)
        ((system Ui.CommandTracker.sampleRelay fun _ => false).run sampleEvents) :=
  ⟨by decide +kernel, by decide +kernel,
    coils_as_requested_run Ui.CommandTracker.sampleRelay (fun _ => false) sampleEvents
      (by decide +kernel) (by decide +kernel)⟩

/-- The command for the first channel fails, and the one for the second, sent
while the first one waited, switches both channels on. -/
def leakingEvents : List RelayEvent :=
  [.send "20260102030405006" 1 "relay_1" true fun _ => false,
    .send "20260102030405007" 1 "relay_2" true fun _ => false,
    .execute true true 0 samplePorts false,
    .execute true true 0 samplePorts true,
    .answer "CMD20260102030405006_1" "modbus_write_failed" "",
    .answer "CMD20260102030405007_2" "" ""]

theorem failed_command_leaks : ¬ forall events,
    ((system Ui.CommandTracker.sampleRelay fun _ => false).run events).tracker.issuedIds.Nodup ->
    ((system Ui.CommandTracker.sampleRelay fun _ => false).run events).Settled ->
    Faithful (fun _ => false)
      ((system Ui.CommandTracker.sampleRelay fun _ => false).run events) := by
  intro claim
  have settled := claim leakingEvents (by decide +kernel) (by decide +kernel)
  exact absurd (settled 0) (by decide +kernel)

end RelayLine

end Link
end Imx6Gateway
