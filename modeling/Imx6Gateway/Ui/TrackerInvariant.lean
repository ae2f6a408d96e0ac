import Imx6Gateway.Ui.CommandTracker

namespace Imx6Gateway
namespace Ui

open Library

/-!
# The maps of the command manager agree

A relay command waits while it is among the pending commands.  Each of the
three relay maps is a view of the waiting relay commands: by their
identifiers, by the channels they hold, and by the states they ask for.  So
the maps agree in every state, whatever messages arrive and in whatever order,
as long as no two commands get the same identifier.
-/

namespace CommandTracker

/-! ## Runs -/

inductive CommandEvent where
  | sendRelayCommand (time : String) (timestamp : Int) (device : DeviceNode) (channel : String)
      (value : Bool) (currentStates : Channels)
  | sendAddDeviceCommand (time : String) (timestamp : Int) (gatewayId portId : String)
      (deviceId : Int) (deviceType : String) (pollIntervalMs : Int)
      (deviceOptions : List (String × Json))
  | sendRemoveDeviceCommand (time : String) (timestamp : Int) (gatewayId portId : String)
      (deviceId : Int)
  | onCommandAck (object : Json)
  | onCommandLogUpdate (object : Json)

def step (tracker : CommandTracker) : CommandEvent -> CommandTracker
  | .sendRelayCommand time timestamp device channel value currentStates =>
      (tracker.sendRelayCommand time timestamp device channel value currentStates).1
  | .sendAddDeviceCommand time timestamp gatewayId portId deviceId deviceType pollIntervalMs
      deviceOptions =>
      (tracker.sendAddDeviceCommand time timestamp gatewayId portId deviceId deviceType
        pollIntervalMs deviceOptions).1
  | .sendRemoveDeviceCommand time timestamp gatewayId portId deviceId =>
      (tracker.sendRemoveDeviceCommand time timestamp gatewayId portId deviceId).1
  | .onCommandAck object => tracker.onCommandAck object
  | .onCommandLogUpdate object => tracker.onCommandLogUpdate object

def system : TransitionSystem CommandTracker CommandEvent := ⟨start, step⟩

variable {tracker : CommandTracker}

def issuedIds (tracker : CommandTracker) : List String :=
  tracker.issued.map IssuedCommand.cmdId

def finishedIds (tracker : CommandTracker) : List String :=
  tracker.manager.finished.map Prod.fst

/-- The command is in `m_pending`. -/
def Pending (tracker : CommandTracker) (cmdId : String) : Prop :=
  (tracker.manager.pending.get cmdId).isSome = true

instance (tracker : CommandTracker) (cmdId : String) : Decidable (tracker.Pending cmdId) :=
  inferInstanceAs (Decidable (_ = _))

/-- The command is a relay command that waits for its end. -/
def Waiting (tracker : CommandTracker) (cmdId : String) (request : RelayRequest) : Prop :=
  ⟨cmdId, some request⟩ ∈ tracker.issued ∧ tracker.Pending cmdId

/-- The maps are the three views of the waiting relay commands. -/
structure Views (tracker : CommandTracker) : Prop where
  byCmdId : forall cmdId info, tracker.relayByCmdId.get cmdId = some info ↔
    exists request, tracker.Waiting cmdId request ∧ request.info = info
  byKey : forall key cmdId, tracker.relayCmdIdByKey.get key = some cmdId ↔
    exists request, tracker.Waiting cmdId request ∧ request.commandKey = key
  desired : forall deviceKey channel value, (channel, value) ∈ tracker.desiredOf deviceKey ↔
    exists cmdId, tracker.Waiting cmdId ⟨deviceKey, channel, value⟩

structure Invariant (tracker : CommandTracker) : Prop where
  views : tracker.Views
  timers : forall cmdId, (tracker.timeoutTimers.get cmdId).isSome = true ↔ tracker.Pending cmdId
  known : forall cmdId, tracker.Pending cmdId -> cmdId ∈ tracker.issuedIds
  finishedKnown : forall cmdId, cmdId ∈ tracker.finishedIds -> cmdId ∈ tracker.issuedIds
  finishedOver : forall cmdId, cmdId ∈ tracker.finishedIds -> ¬tracker.Pending cmdId
  finishedOnce : tracker.finishedIds.Nodup

/-! ## What a step can do -/

/-- What a message about a command can do to it. -/
inductive Reply (tracker : CommandTracker) (cmdId : String) : CommandTracker -> Prop where
  | kept : Reply tracker cmdId tracker
  | inserted (record : CommandRecord) (pending : tracker.Pending cmdId) :
      Reply tracker cmdId (tracker.insert cmdId record)
  | finished (outcome : CommandOutcome) (pending : tracker.Pending cmdId) :
      Reply tracker cmdId (tracker.finishCommand cmdId outcome)
  | insertedFinished (record : CommandRecord) (outcome : CommandOutcome)
      (pending : tracker.Pending cmdId) :
      Reply tracker cmdId ((tracker.insert cmdId record).finishCommand cmdId outcome)

/-- The ways in which a step changes the maps. -/
inductive Change (tracker : CommandTracker) : CommandTracker -> Prop where
  | kept : Change tracker tracker
  | counted : Change tracker tracker.counted
  | tracked (time : String) (record : CommandRecord) :
      Change tracker (tracker.counted.track (tracker.createCmdId time) record)
  | relayTracked (time : String) (record : CommandRecord) (request : RelayRequest)
      (free : tracker.relayCmdIdByKey.get request.commandKey = none) :
      Change tracker (tracker.counted.trackRelay (tracker.createCmdId time) record request)
  | replied {next : CommandTracker} (cmdId : String) (reply : Reply tracker cmdId next) :
      Change tracker next

theorem change_sendRelayCommand (time : String) (timestamp : Int) (device : DeviceNode)
    (channel : String) (value : Bool) (currentStates : Channels) :
    Change tracker
      (tracker.sendRelayCommand time timestamp device channel value currentStates).1 := by
  unfold sendRelayCommand
  dsimp only
  split
  · exact .counted
  · rename_i message sent
    refine .relayTracked _ _ _ ?_
    unfold Ui.sendRelayCommand at sent
    dsimp only at sent
    split at sent
    · cases sent
    · split at sent
      · cases sent
      · rename_i unused
        apply AList.lookup_eq_none.mpr
        intro used
        exact unused (List.contains_iff_mem.mpr used)

/-- A message about a command that is not pending changes nothing. -/
theorem pending_of_get {cmdId : String} {record : CommandRecord}
    (found : (if cmdId = "" then none else tracker.manager.pending.get cmdId) = some record) :
    tracker.Pending cmdId := by
  split at found
  · cases found
  · exact Option.isSome_iff_exists.mpr ⟨record, found⟩

theorem reply_onCommandAck (object : Json) :
    Reply tracker (textOr (object.lookup "cmd_id") "") (tracker.onCommandAck object) := by
  unfold onCommandAck
  dsimp only
  split
  · exact .kept
  · rename_i found
    have pending := pending_of_get found
    split
    · exact .finished _ pending
    · split
      · exact .inserted _ pending
      · split
        · exact .insertedFinished _ _ pending
        · split
          · exact .finished _ pending
          · split
            · exact .inserted _ pending
            · exact .insertedFinished _ _ pending

theorem reply_onCommandLogUpdate (object : Json) :
    Reply tracker (textOr (object.lookup "cmd_id") "") (tracker.onCommandLogUpdate object) := by
  unfold onCommandLogUpdate
  dsimp only
  generalize textOr (object.lookup "status") _ = status
  split
  · exact .kept
  · rename_i found
    have pending := pending_of_get found
    split
    · exact .kept
    · split
      · exact .finished _ pending
      · split
        · split
          · exact .inserted _ pending
          · exact .finished _ pending
        · exact .kept

theorem change_step (tracker : CommandTracker) (event : CommandEvent) :
    Change tracker (tracker.step event) := by
  cases event with
  | sendRelayCommand time timestamp device channel value currentStates =>
      exact change_sendRelayCommand time timestamp device channel value currentStates
  | sendAddDeviceCommand time timestamp gatewayId portId deviceId deviceType pollIntervalMs
      deviceOptions =>
      rw [step, sendAddDeviceCommand]
      split
      · exact .kept
      · exact .tracked _ _
  | sendRemoveDeviceCommand time timestamp gatewayId portId deviceId =>
      rw [step, sendRemoveDeviceCommand]
      split
      · exact .kept
      · exact .tracked _ _
  | onCommandAck object => exact .replied _ (reply_onCommandAck object)
  | onCommandLogUpdate object => exact .replied _ (reply_onCommandLogUpdate object)

/-! ## The waiting relay commands -/

/-- An identifier stands for one request. -/
theorem request_unique (distinct : tracker.issuedIds.Nodup) {cmdId : String}
    {first second : RelayRequest} (firstWaits : tracker.Waiting cmdId first)
    (secondWaits : tracker.Waiting cmdId second) : first = second := by
  have same := List.inj_on_of_nodup_map distinct firstWaits.1 secondWaits.1 rfl
  exact Option.some.inj (congrArg IssuedCommand.relay same)

/-- A channel is held by one command. -/
theorem Views.sole (views : tracker.Views) {first second : String}
    {firstRequest secondRequest : RelayRequest} (firstWaits : tracker.Waiting first firstRequest)
    (secondWaits : tracker.Waiting second secondRequest)
    (same : firstRequest.commandKey = secondRequest.commandKey) : first = second := by
  have one := (views.byKey _ first).mpr ⟨firstRequest, firstWaits, same⟩
  have other := (views.byKey _ second).mpr ⟨secondRequest, secondWaits, rfl⟩
  exact Option.some.inj (one.symm.trans other)

/-- Maps that stay as they are, with the same commands pending. -/
theorem Invariant.of_same {other : CommandTracker} (holds : tracker.Invariant)
    (pending : forall cmdId, other.Pending cmdId ↔ tracker.Pending cmdId)
    (issued : other.issued = tracker.issued) (timers : other.timeoutTimers = tracker.timeoutTimers)
    (finished : other.finishedIds = tracker.finishedIds)
    (byCmdId : other.relayByCmdId = tracker.relayByCmdId)
    (byKey : other.relayCmdIdByKey = tracker.relayCmdIdByKey)
    (desired : other.relayDesiredByDevice = tracker.relayDesiredByDevice) : other.Invariant := by
  have waiting : forall cmdId request, other.Waiting cmdId request ↔
      tracker.Waiting cmdId request := by
    intro cmdId request
    rw [Waiting, Waiting, issued, pending]
  constructor
  · constructor
    · intro cmdId info
      simp only [waiting, byCmdId]
      exact holds.views.byCmdId cmdId info
    · intro key cmdId
      simp only [waiting, byKey]
      exact holds.views.byKey key cmdId
    · intro deviceKey channel value
      simp only [waiting, desiredOf, desired]
      exact holds.views.desired deviceKey channel value
  · intro cmdId
    rw [timers, pending]
    exact holds.timers cmdId
  · intro cmdId waits
    rw [issuedIds, issued]
    exact holds.known cmdId ((pending cmdId).mp waits)
  · intro cmdId inside
    rw [issuedIds, issued]
    exact holds.finishedKnown cmdId (finished ▸ inside)
  · intro cmdId inside
    rw [pending]
    exact holds.finishedOver cmdId (finished ▸ inside)
  · rw [finished]
    exact holds.finishedOnce

theorem pending_insert {here cmdId : String} {record : CommandRecord} :
    (tracker.insert here record).Pending cmdId ↔ cmdId = here ∨ tracker.Pending cmdId :=
  Table.isSome_get_put ..

theorem pending_insert_of_pending {here : String} {record : CommandRecord}
    (pending : tracker.Pending here) (cmdId : String) :
    (tracker.insert here record).Pending cmdId ↔ tracker.Pending cmdId := by
  rw [pending_insert, or_iff_right_iff_imp]
  rintro rfl
  exact pending

theorem invariant_insert (holds : tracker.Invariant) {cmdId : String} (record : CommandRecord)
    (pending : tracker.Pending cmdId) : (tracker.insert cmdId record).Invariant :=
  holds.of_same (pending_insert_of_pending pending) rfl rfl rfl rfl rfl rfl

/-- The state asked for a channel is that of the command that holds it. -/
theorem Views.lookup_desiredOf (views : tracker.Views) (distinct : tracker.issuedIds.Nodup)
    (deviceKey channel : String) (value : Bool) :
    (tracker.desiredOf deviceKey).lookup channel = some value ↔
      exists cmdId, tracker.Waiting cmdId ⟨deviceKey, channel, value⟩ := by
  constructor
  · intro found
    exact (views.desired deviceKey channel value).mp (SortedMap.mem_of_lookup found)
  · rintro ⟨cmdId, waits⟩
    have inside := (views.desired deviceKey channel value).mpr ⟨cmdId, waits⟩
    cases found : (tracker.desiredOf deviceKey).lookup channel with
    | none =>
        have absent := List.lookup_eq_none_iff.mp found _ inside
        simp at absent
    | some other =>
        rcases (views.desired deviceKey channel other).mp (SortedMap.mem_of_lookup found) with
          ⟨otherId, otherWaits⟩
        cases views.sole waits otherWaits rfl
        exact congrArg (fun request => some request.value)
          (request_unique distinct otherWaits waits)

/-! ## A new command -/

/-- A command with a new identifier becomes pending. -/
theorem Invariant.of_issued {other : CommandTracker} {here : String} (holds : tracker.Invariant)
    (fresh : here ∉ tracker.issuedIds) (views : other.Views)
    (pending : forall cmdId, other.Pending cmdId ↔ cmdId = here ∨ tracker.Pending cmdId)
    (timers : other.timeoutTimers = tracker.timeoutTimers.put here 20000)
    (issued : other.issuedIds = tracker.issuedIds ++ [here])
    (finished : other.finishedIds = tracker.finishedIds) : other.Invariant where
  views := views
  timers := by
    intro cmdId
    rw [timers, pending, Table.isSome_get_put, holds.timers]
  known := by
    intro cmdId waits
    rw [issued, List.mem_append, List.mem_singleton]
    rcases (pending cmdId).mp waits with new | old
    · exact Or.inr new
    · exact Or.inl (holds.known cmdId old)
  finishedKnown := by
    intro cmdId inside
    rw [issued]
    exact List.mem_append_left _ (holds.finishedKnown cmdId (finished ▸ inside))
  finishedOver := by
    intro cmdId inside waits
    rw [finished] at inside
    rcases (pending cmdId).mp waits with rfl | old
    · exact fresh (holds.finishedKnown cmdId inside)
    · exact holds.finishedOver cmdId inside old
  finishedOnce := by
    rw [finished]
    exact holds.finishedOnce

theorem not_waiting_of_fresh {here : String} (fresh : here ∉ tracker.issuedIds)
    (request : RelayRequest) : ¬tracker.Waiting here request := by
  intro waits
  exact fresh (List.mem_map.mpr ⟨_, waits.1, rfl⟩)

theorem waiting_track {here : String} (fresh : here ∉ tracker.issuedIds) (record : CommandRecord)
    (cmdId : String) (request : RelayRequest) :
    (tracker.track here record).Waiting cmdId request ↔ tracker.Waiting cmdId request := by
  have listed : ⟨cmdId, some request⟩ ∈ (tracker.track here record).issued ↔
      ⟨cmdId, some request⟩ ∈ tracker.issued := by
    simp [track]
  have pending : (tracker.track here record).Pending cmdId ↔
      cmdId = here ∨ tracker.Pending cmdId := pending_insert
  rw [Waiting, listed, pending]
  constructor
  · rintro ⟨inside, rfl | waits⟩
    · exact absurd (List.mem_map.mpr ⟨_, inside, rfl⟩) fresh
    · exact ⟨inside, waits⟩
  · rintro ⟨inside, waits⟩
    exact ⟨inside, Or.inr waits⟩

theorem invariant_track (holds : tracker.Invariant) {here : String}
    (fresh : here ∉ tracker.issuedIds) (record : CommandRecord) :
    (tracker.track here record).Invariant := by
  refine holds.of_issued fresh ?_ (fun _ => pending_insert) rfl (List.map_append ..) rfl
  constructor
  · intro cmdId info
    simp only [waiting_track fresh]
    exact holds.views.byCmdId cmdId info
  · intro key cmdId
    simp only [waiting_track fresh]
    exact holds.views.byKey key cmdId
  · intro deviceKey channel value
    simp only [waiting_track fresh]
    exact holds.views.desired deviceKey channel value

section Relay

variable {here : String} {record : CommandRecord} {request : RelayRequest}

theorem pending_trackRelay (cmdId : String) :
    (tracker.trackRelay here record request).Pending cmdId ↔
      cmdId = here ∨ tracker.Pending cmdId :=
  pending_insert

theorem waiting_trackRelay (fresh : here ∉ tracker.issuedIds) (cmdId : String)
    (other : RelayRequest) :
    (tracker.trackRelay here record request).Waiting cmdId other ↔
      (cmdId = here ∧ other = request) ∨ tracker.Waiting cmdId other := by
  have listed : ⟨cmdId, some other⟩ ∈ (tracker.trackRelay here record request).issued ↔
      ⟨cmdId, some other⟩ ∈ tracker.issued ∨ cmdId = here ∧ other = request := by
    simp [trackRelay]
  rw [Waiting, listed, pending_trackRelay]
  constructor
  · rintro ⟨inside | new, waits⟩
    · rcases waits with rfl | waits
      · exact absurd (List.mem_map.mpr ⟨_, inside, rfl⟩) fresh
      · exact Or.inr ⟨inside, waits⟩
    · exact Or.inl new
  · rintro (new | old)
    · exact ⟨Or.inr new, Or.inl new.1⟩
    · exact ⟨Or.inl old.1, Or.inr old.2⟩

theorem desiredOf_trackRelay (deviceKey : String) :
    (tracker.trackRelay here record request).desiredOf deviceKey =
      if deviceKey = request.deviceKey then
        SortedMap.insert request.channel request.value (tracker.desiredOf deviceKey)
      else tracker.desiredOf deviceKey := by
  change (Table.get (Table.put _ _ _) _).getD [] = _
  rw [Table.get_put]
  split
  · rename_i same
    rw [same]
    rfl
  · rfl

/-- No waiting command holds a channel that is free. -/
theorem Views.not_held (views : tracker.Views)
    (free : tracker.relayCmdIdByKey.get request.commandKey = none) {cmdId : String}
    {other : RelayRequest} (waits : tracker.Waiting cmdId other) :
    other.commandKey ≠ request.commandKey := by
  intro same
  have held := (views.byKey _ cmdId).mpr ⟨other, waits, same⟩
  rw [free] at held
  cases held

theorem views_trackRelay (views : tracker.Views) (fresh : here ∉ tracker.issuedIds)
    (free : tracker.relayCmdIdByKey.get request.commandKey = none) :
    (tracker.trackRelay here record request).Views where
  byCmdId := by
    intro cmdId info
    simp only [waiting_trackRelay fresh]
    change (tracker.relayByCmdId.put here request.info).get cmdId = _ ↔ _
    rw [Table.get_put]
    split
    · rename_i same
      subst same
      constructor
      · intro named
        exact ⟨request, Or.inl ⟨rfl, rfl⟩, Option.some.inj named⟩
      · rintro ⟨other, ⟨-, rfl⟩ | waits, named⟩
        · exact congrArg some named
        · exact absurd waits (not_waiting_of_fresh fresh other)
    · rename_i different
      rw [views.byCmdId]
      simp only [different, false_and, false_or]
  byKey := by
    intro key cmdId
    simp only [waiting_trackRelay fresh]
    change (tracker.relayCmdIdByKey.put request.commandKey here).get key = _ ↔ _
    rw [Table.get_put]
    split
    · rename_i same
      subst same
      constructor
      · intro named
        exact ⟨request, Or.inl ⟨(Option.some.inj named).symm, rfl⟩, rfl⟩
      · rintro ⟨other, ⟨rfl, -⟩ | waits, held⟩
        · rfl
        · exact absurd held (views.not_held free waits)
    · rename_i different
      rw [views.byKey]
      constructor
      · rintro ⟨other, waits, held⟩
        exact ⟨other, Or.inr waits, held⟩
      · rintro ⟨other, ⟨-, rfl⟩ | waits, held⟩
        · exact absurd held.symm different
        · exact ⟨other, waits, held⟩
  desired := by
    intro deviceKey channel value
    simp only [waiting_trackRelay fresh]
    rw [desiredOf_trackRelay]
    split
    · rename_i same
      have absent : forall entry, entry ∈ tracker.desiredOf deviceKey ->
          entry.1 ≠ request.channel := by
        intro entry inside channel
        rcases (views.desired deviceKey entry.1 entry.2).mp inside with ⟨cmdId, waits⟩
        refine views.not_held free waits ?_
        rw [RelayRequest.commandKey, RelayRequest.commandKey, channel, same]
      rw [SortedMap.mem_insert_of_absent absent, views.desired]
      constructor
      · rintro (new | ⟨cmdId, waits⟩)
        · cases new
          exact ⟨here, Or.inl ⟨rfl, by rw [same]⟩⟩
        · exact ⟨cmdId, Or.inr waits⟩
      · rintro ⟨cmdId, ⟨-, new⟩ | waits⟩
        · rw [← new]
          exact Or.inl rfl
        · exact Or.inr ⟨cmdId, waits⟩
    · rename_i different
      rw [views.desired]
      constructor
      · rintro ⟨cmdId, waits⟩
        exact ⟨cmdId, Or.inr waits⟩
      · rintro ⟨cmdId, ⟨-, new⟩ | waits⟩
        · exact absurd (congrArg RelayRequest.deviceKey new) different
        · exact ⟨cmdId, waits⟩

theorem invariant_trackRelay (holds : tracker.Invariant) (fresh : here ∉ tracker.issuedIds)
    (free : tracker.relayCmdIdByKey.get request.commandKey = none) :
    (tracker.trackRelay here record request).Invariant :=
  holds.of_issued fresh (views_trackRelay holds.views fresh free) (fun _ => pending_insert) rfl
    (List.map_append ..) rfl

end Relay

/-! ## The end of a command -/

theorem pending_finishCommand (here : String) (outcome : CommandOutcome) (cmdId : String) :
    (tracker.finishCommand here outcome).Pending cmdId ↔
      cmdId ≠ here ∧ tracker.Pending cmdId := by
  have manager : (tracker.finishCommand here outcome).manager =
      tracker.manager.finishCommand here outcome := by
    unfold finishCommand clearRelayPending
    split <;> rfl
  rw [Pending, manager]
  change (Table.get (AList.erase here tracker.manager.pending) cmdId).isSome = true ↔ _
  rw [Table.get_erase]
  split
  · rename_i same
    exact iff_of_false Bool.false_ne_true fun both => both.1 same
  · rename_i different
    exact ⟨fun waits => ⟨different, waits⟩, And.right⟩

/-- What does not depend on the relay maps. -/
theorem finishCommand_rest (here : String) (outcome : CommandOutcome) :
    (tracker.finishCommand here outcome).issued = tracker.issued ∧
      (tracker.finishCommand here outcome).timeoutTimers =
        AList.erase here tracker.timeoutTimers ∧
      (tracker.finishCommand here outcome).finishedIds = tracker.finishedIds ++ [here] := by
  unfold finishCommand clearRelayPending
  split <;> exact ⟨rfl, rfl, List.map_append ..⟩

theorem waiting_finishCommand (here : String) (outcome : CommandOutcome) (cmdId : String)
    (request : RelayRequest) :
    (tracker.finishCommand here outcome).Waiting cmdId request ↔
      cmdId ≠ here ∧ tracker.Waiting cmdId request := by
  rw [Waiting, (finishCommand_rest here outcome).1, pending_finishCommand]
  exact and_left_comm

/-- A command without a channel leaves the relay maps alone. -/
theorem finishCommand_of_none {here : String} (outcome : CommandOutcome)
    (none : tracker.relayByCmdId.get here = none) :
    (tracker.finishCommand here outcome).relayByCmdId = tracker.relayByCmdId ∧
      (tracker.finishCommand here outcome).relayCmdIdByKey = tracker.relayCmdIdByKey ∧
      (tracker.finishCommand here outcome).relayDesiredByDevice = tracker.relayDesiredByDevice := by
  unfold finishCommand clearRelayPending
  dsimp only
  rw [none]
  exact ⟨rfl, rfl, rfl⟩

section Channel

variable {here : String} {info : RelayPendingInfo}
  (found : tracker.relayByCmdId.get here = some info) (outcome : CommandOutcome)
include found

theorem relayByCmdId_finishCommand :
    (tracker.finishCommand here outcome).relayByCmdId = AList.erase here tracker.relayByCmdId := by
  unfold finishCommand clearRelayPending
  dsimp only
  rw [found]

theorem relayCmdIdByKey_finishCommand :
    (tracker.finishCommand here outcome).relayCmdIdByKey =
      AList.erase info.commandKey tracker.relayCmdIdByKey := by
  unfold finishCommand clearRelayPending
  dsimp only
  rw [found]

theorem desiredOf_finishCommand (deviceKey : String) :
    (tracker.finishCommand here outcome).desiredOf deviceKey =
      if deviceKey = info.deviceKey then
        SortedMap.erase info.channel (tracker.desiredOf deviceKey)
      else tracker.desiredOf deviceKey := by
  unfold finishCommand clearRelayPending desiredOf
  dsimp only
  rw [found]
  dsimp only
  cases states : tracker.relayDesiredByDevice.get info.deviceKey with
  | none =>
      dsimp only
      split
      · rename_i same
        rw [same, states]
        rfl
      · rfl
  | some states' =>
      dsimp only
      split
      · rename_i empty
        rw [Table.get_erase]
        split
        · rename_i same
          rw [same, states]
          exact empty.symm
        · rfl
      · rw [Table.get_put]
        split
        · rename_i same
          rw [same, states]
          rfl
        · rfl

end Channel

theorem views_finishCommand (views : tracker.Views) (distinct : tracker.issuedIds.Nodup)
    (here : String) (outcome : CommandOutcome) :
    (tracker.finishCommand here outcome).Views := by
  cases found : tracker.relayByCmdId.get here with
  | none =>
      rcases finishCommand_of_none outcome found with ⟨byCmdId, byKey, desired⟩
      have waiting : forall cmdId request,
          (tracker.finishCommand here outcome).Waiting cmdId request ↔
            tracker.Waiting cmdId request := by
        intro cmdId request
        rw [waiting_finishCommand, and_iff_right_iff_imp]
        rintro waits rfl
        have held := (views.byCmdId cmdId request.info).mpr ⟨request, waits, rfl⟩
        rw [found] at held
        cases held
      constructor
      · intro cmdId info
        simp only [waiting, byCmdId]
        exact views.byCmdId cmdId info
      · intro key cmdId
        simp only [waiting, byKey]
        exact views.byKey key cmdId
      · intro deviceKey channel value
        simp only [waiting, desiredOf, desired]
        exact views.desired deviceKey channel value
  | some info =>
      rcases (views.byCmdId here info).mp found with ⟨ended, endedWaits, rfl⟩
      constructor
      · intro cmdId info
        simp only [waiting_finishCommand]
        rw [relayByCmdId_finishCommand found, Table.get_erase]
        split
        · rename_i same
          subst same
          simp
        · rename_i different
          rw [views.byCmdId]
          simp only [ne_eq, different, not_false_eq_true, true_and]
      · intro key cmdId
        simp only [waiting_finishCommand]
        rw [relayCmdIdByKey_finishCommand found, Table.get_erase]
        split
        · rename_i same
          refine iff_of_false (Option.some_ne_none cmdId).symm ?_
          rintro ⟨request, ⟨different, waits⟩, held⟩
          exact different (views.sole waits endedWaits (held.trans same))
        · rename_i different
          rw [views.byKey]
          constructor
          · rintro ⟨request, waits, held⟩
            refine ⟨request, ⟨?_, waits⟩, held⟩
            rintro rfl
            rw [request_unique distinct waits endedWaits] at held
            exact different held.symm
          · rintro ⟨request, ⟨-, waits⟩, held⟩
            exact ⟨request, waits, held⟩
      · intro deviceKey channel value
        simp only [waiting_finishCommand]
        rw [desiredOf_finishCommand found]
        split
        · rename_i same
          rw [SortedMap.mem_erase, views.desired]
          constructor
          · rintro ⟨⟨cmdId, waits⟩, other⟩
            refine ⟨cmdId, ?_, waits⟩
            rintro rfl
            exact other (congrArg RelayRequest.channel (request_unique distinct waits endedWaits))
          · rintro ⟨cmdId, different, waits⟩
            refine ⟨⟨cmdId, waits⟩, ?_⟩
            intro sameChannel
            refine different (views.sole waits endedWaits ?_)
            rw [RelayRequest.commandKey, RelayRequest.commandKey]
            exact congrArg₂ (fun device channel => device ++ "|" ++ normalizeRelayChannel channel)
              same sameChannel
        · rename_i different
          rw [views.desired]
          constructor
          · rintro ⟨cmdId, waits⟩
            refine ⟨cmdId, ?_, waits⟩
            rintro rfl
            exact different
              (congrArg RelayRequest.deviceKey (request_unique distinct waits endedWaits))
          · rintro ⟨cmdId, -, waits⟩
            exact ⟨cmdId, waits⟩

theorem invariant_finishCommand (holds : tracker.Invariant) (distinct : tracker.issuedIds.Nodup)
    {here : String} (outcome : CommandOutcome) (pending : tracker.Pending here) :
    (tracker.finishCommand here outcome).Invariant := by
  rcases finishCommand_rest here outcome with ⟨issued, timers, finished⟩
  constructor
  · exact views_finishCommand holds.views distinct here outcome
  · intro cmdId
    rw [timers, pending_finishCommand, Table.get_erase]
    split
    · rename_i same
      exact iff_of_false Bool.false_ne_true fun both => both.1 same
    · rename_i different
      rw [holds.timers]
      exact ⟨fun waits => ⟨different, waits⟩, And.right⟩
  · intro cmdId waits
    rw [issuedIds, issued]
    exact holds.known cmdId ((pending_finishCommand here outcome cmdId).mp waits).2
  · intro cmdId inside
    rw [issuedIds, issued]
    rw [finished, List.mem_append, List.mem_singleton] at inside
    rcases inside with old | rfl
    · exact holds.finishedKnown cmdId old
    · exact holds.known cmdId pending
  · intro cmdId inside
    rw [pending_finishCommand]
    rw [finished, List.mem_append, List.mem_singleton] at inside
    rintro ⟨different, waits⟩
    exact inside.elim (fun old => holds.finishedOver cmdId old waits) different
  · rw [finished, List.nodup_append_comm]
    exact List.nodup_cons.mpr
      ⟨fun old => holds.finishedOver here old pending, holds.finishedOnce⟩

/-! ## Every step -/

namespace Reply

variable {cmdId : String} {next : CommandTracker}

theorem issued_eq (reply : Reply tracker cmdId next) : next.issued = tracker.issued := by
  cases reply with
  | kept => rfl
  | inserted record pending => rfl
  | finished outcome pending => exact (finishCommand_rest cmdId outcome).1
  | insertedFinished record outcome pending => exact (finishCommand_rest cmdId outcome).1

theorem cmdCounter_eq (reply : Reply tracker cmdId next) :
    next.cmdCounter = tracker.cmdCounter := by
  have finished : forall tracker outcome,
      (finishCommand tracker cmdId outcome).cmdCounter = tracker.cmdCounter := by
    intro tracker outcome
    unfold finishCommand clearRelayPending
    split <;> rfl
  cases reply with
  | kept => rfl
  | inserted record pending => rfl
  | finished outcome pending => exact finished tracker outcome
  | insertedFinished record outcome pending => exact finished _ outcome

/-- No other command is touched, and none becomes pending. -/
theorem pending_iff (reply : Reply tracker cmdId next) {other : String}
    (different : other ≠ cmdId) : next.Pending other ↔ tracker.Pending other := by
  have inserted : forall record, (tracker.insert cmdId record).Pending other ↔
      tracker.Pending other := by
    intro record
    rw [pending_insert, or_iff_right different]
  cases reply with
  | kept => exact Iff.rfl
  | inserted record pending => exact inserted record
  | finished outcome pending => rw [pending_finishCommand, and_iff_right different]
  | insertedFinished record outcome pending =>
      rw [pending_finishCommand, and_iff_right different, inserted]

theorem pending_before (reply : Reply tracker cmdId next) {other : String}
    (waits : next.Pending other) : tracker.Pending other := by
  by_cases same : other = cmdId
  · subst same
    cases reply with
    | kept => exact waits
    | inserted record pending => exact pending
    | finished outcome pending => exact pending
    | insertedFinished record outcome pending => exact pending
  · exact (reply.pending_iff same).mp waits

theorem invariant (reply : Reply tracker cmdId next) (holds : tracker.Invariant)
    (distinct : tracker.issuedIds.Nodup) : next.Invariant := by
  cases reply with
  | kept => exact holds
  | inserted record pending => exact invariant_insert holds record pending
  | finished outcome pending => exact invariant_finishCommand holds distinct outcome pending
  | insertedFinished record outcome pending =>
      exact invariant_finishCommand (invariant_insert holds record pending) distinct outcome
        ((pending_insert_of_pending pending cmdId).mpr pending)

end Reply

/-- A step forgets none of the commands that were sent. -/
theorem Change.issuedIds_grow {next : CommandTracker} (change : Change tracker next) :
    tracker.issuedIds <+: next.issuedIds := by
  cases change with
  | kept => exact List.prefix_rfl
  | counted => exact List.prefix_rfl
  | tracked time record => exact (List.prefix_append ..).map _
  | relayTracked time record request free => exact (List.prefix_append ..).map _
  | replied cmdId reply =>
      rw [issuedIds, issuedIds, reply.issued_eq]

/-- A step keeps the invariant if the identifiers are still distinct after it. -/
theorem invariant_change {next : CommandTracker} (change : Change tracker next)
    (holds : tracker.Invariant) (distinct : next.issuedIds.Nodup) : next.Invariant := by
  have before := distinct.sublist change.issuedIds_grow.sublist
  have counted : tracker.counted.Invariant :=
    holds.of_same (fun _ => Iff.rfl) rfl rfl rfl rfl rfl rfl
  cases change with
  | kept => exact holds
  | counted => exact counted
  | tracked time record =>
      refine invariant_track counted ?_ record
      rw [issuedIds, track, List.map_append, List.nodup_append_comm] at distinct
      exact (List.nodup_cons.mp distinct).1
  | relayTracked time record request free =>
      refine invariant_trackRelay counted ?_ free
      rw [issuedIds, trackRelay, List.map_append, List.nodup_append_comm] at distinct
      exact (List.nodup_cons.mp distinct).1
  | replied cmdId reply => exact reply.invariant holds before

end CommandTracker

end Ui
end Imx6Gateway
