import Imx6Gateway.Library.Separator
import Imx6Gateway.Ui.TrackerInvariant

namespace Imx6Gateway
namespace Ui

open Library

/-!
# Every run of the command manager

From a new program on, the maps of the command manager agree after every list
of commands and messages in which no identifier is given twice.  The counter
in the identifiers sees to that until it runs over.
-/

namespace CommandTracker

variable {tracker : CommandTracker}

theorem invariant_start : start.Invariant := by
  have nothing : forall cmdId, ¬start.Pending cmdId := fun _ => Bool.false_ne_true
  have noRelay : forall cmdId request, ¬start.Waiting cmdId request :=
    fun cmdId _ waits => nothing cmdId waits.2
  constructor
  · constructor
    · intro cmdId info
      refine iff_of_false (Option.some_ne_none info).symm ?_
      rintro ⟨request, waits, -⟩
      exact noRelay cmdId request waits
    · intro key cmdId
      refine iff_of_false (Option.some_ne_none cmdId).symm ?_
      rintro ⟨request, waits, -⟩
      exact noRelay cmdId request waits
    · intro deviceKey channel value
      refine iff_of_false List.not_mem_nil ?_
      rintro ⟨cmdId, waits⟩
      exact noRelay cmdId _ waits
  · exact fun cmdId => iff_of_false Bool.false_ne_true (nothing cmdId)
  · exact fun cmdId pending => absurd pending (nothing cmdId)
  · exact fun cmdId inside => absurd inside List.not_mem_nil
  · exact fun cmdId inside => absurd inside List.not_mem_nil
  · exact List.nodup_nil

theorem issuedIds_runFrom (events : List CommandEvent) (state : CommandTracker) :
    state.issuedIds <+: (system.runFrom state events).issuedIds := by
  induction events generalizing state with
  | nil => exact List.prefix_rfl
  | cons event events ih => exact (change_step state event).issuedIds_grow.trans (ih _)

theorem invariant_runFrom (events : List CommandEvent) {state : CommandTracker}
    (holds : state.Invariant) (distinct : (system.runFrom state events).issuedIds.Nodup) :
    (system.runFrom state events).Invariant := by
  induction events generalizing state with
  | nil => exact holds
  | cons event events ih =>
      have next := distinct.sublist (issuedIds_runFrom events (state.step event)).sublist
      exact ih (invariant_change (change_step state event) holds next) distinct

/-- The maps of the command manager agree with one another and with the
commands that were sent. -/
structure Consistent (tracker : CommandTracker) : Prop where
  timers : forall cmdId, (tracker.timeoutTimers.get cmdId).isSome = true ↔ tracker.Pending cmdId
  inverse : forall cmdId key,
    (exists info, tracker.relayByCmdId.get cmdId = some info ∧ info.commandKey = key) ↔
      tracker.relayCmdIdByKey.get key = some cmdId
  relaysPending : forall cmdId info, tracker.relayByCmdId.get cmdId = some info ->
    tracker.Pending cmdId
  relaysHeld : forall cmdId request, tracker.Waiting cmdId request ->
    tracker.relayByCmdId.get cmdId = some request.info
  sole : forall first second firstRequest secondRequest, tracker.Waiting first firstRequest ->
    tracker.Waiting second secondRequest -> firstRequest.deviceKey = secondRequest.deviceKey ->
    normalizeRelayChannel firstRequest.channel = normalizeRelayChannel secondRequest.channel ->
    first = second
  desired : forall deviceKey channel,
    (exists value, (tracker.desiredOf deviceKey).lookup channel = some value) ↔
      exists cmdId info, tracker.relayByCmdId.get cmdId = some info ∧
        info.deviceKey = deviceKey ∧ info.channel = channel
  desiredValue : forall cmdId request, tracker.Waiting cmdId request ->
    (tracker.desiredOf request.deviceKey).lookup request.channel = some request.value
  finishedOnce : tracker.finishedIds.Nodup

theorem consistent_of_invariant (holds : tracker.Invariant) (distinct : tracker.issuedIds.Nodup) :
    tracker.Consistent where
  timers := holds.timers
  inverse := by
    intro cmdId key
    rw [holds.views.byKey]
    constructor
    · rintro ⟨info, found, named⟩
      rcases (holds.views.byCmdId cmdId info).mp found with ⟨request, waits, rfl⟩
      exact ⟨request, waits, named⟩
    · rintro ⟨request, waits, named⟩
      exact ⟨request.info, (holds.views.byCmdId cmdId _).mpr ⟨request, waits, rfl⟩, named⟩
  relaysPending := by
    intro cmdId info found
    rcases (holds.views.byCmdId cmdId info).mp found with ⟨request, waits, -⟩
    exact waits.2
  relaysHeld := by
    intro cmdId request waits
    exact (holds.views.byCmdId cmdId request.info).mpr ⟨request, waits, rfl⟩
  sole := by
    intro first second firstRequest secondRequest firstWaits secondWaits device channel
    refine holds.views.sole firstWaits secondWaits ?_
    rw [RelayRequest.commandKey, RelayRequest.commandKey, device, channel]
  desired := by
    intro deviceKey channel
    constructor
    · rintro ⟨value, found⟩
      rcases (holds.views.lookup_desiredOf distinct deviceKey channel value).mp found with
        ⟨cmdId, waits⟩
      exact ⟨cmdId, _, (holds.views.byCmdId cmdId _).mpr ⟨_, waits, rfl⟩, rfl, rfl⟩
    · rintro ⟨cmdId, info, found, rfl, rfl⟩
      rcases (holds.views.byCmdId cmdId info).mp found with ⟨request, waits, rfl⟩
      exact ⟨request.value,
        (holds.views.lookup_desiredOf distinct _ _ request.value).mpr ⟨cmdId, waits⟩⟩
  desiredValue := by
    intro cmdId request waits
    exact (holds.views.lookup_desiredOf distinct _ _ _).mpr ⟨cmdId, waits⟩
  finishedOnce := holds.finishedOnce

/-! ## The identifiers -/

/-- What `createCmdId` makes of a number. -/
def numberedId (time : String) (number : Nat) : String :=
  "CMD" ++ time ++ "_" ++ toString number

theorem numberedId_injective {firstTime secondTime : String} {first second : Nat}
    (same : numberedId firstTime first = numberedId secondTime second) : first = second := by
  have noSeparator : forall number : Nat, '_' ∉ (Nat.toDigits 10 number).reverse := by
    intro number inside
    have digit := Nat.isDigit_of_mem_toDigits (by decide) (by decide) (List.mem_reverse.mp inside)
    revert digit
    decide
  have backwards : forall (time : String) (number : Nat),
      (numberedId time number).toList.reverse =
        (Nat.toDigits 10 number).reverse ++ '_' :: ("CMD" ++ time).toList.reverse := by
    intro time number
    simp [numberedId]
  have cut := fun time number => (congrArg (cutAt '_') (backwards time number)).trans
    (cutAt_append _ (noSeparator number))
  have parts := (cut firstTime first).symm.trans
    ((congrArg (fun text => cutAt '_' text.toList.reverse) same).trans (cut secondTime second))
  have digits := List.reverse_injective (congrArg Prod.fst (Option.some.inj parts))
  rw [← Nat.ofDigitChars_ten_toDigits (n := first), digits, Nat.ofDigitChars_ten_toDigits]

/-- The identifiers given so far have different numbers, none beyond the counter. -/
structure Numbered (tracker : CommandTracker) : Prop where
  named : forall cmdId, cmdId ∈ tracker.issuedIds -> exists time number,
    cmdId = numberedId time number ∧ number ≤ tracker.cmdCounter.toNat
  distinct : tracker.issuedIds.Nodup

theorem Numbered.of_same {other : CommandTracker} (numbered : tracker.Numbered)
    (issued : other.issuedIds = tracker.issuedIds)
    (later : tracker.cmdCounter.toNat ≤ other.cmdCounter.toNat) : other.Numbered where
  named := by
    intro cmdId inside
    rw [issued] at inside
    rcases numbered.named cmdId inside with ⟨time, number, same, bound⟩
    exact ⟨time, number, same, bound.trans later⟩
  distinct := by
    rw [issued]
    exact numbered.distinct

/-- The next number is a new one. -/
theorem Numbered.of_issued {other : CommandTracker} (numbered : tracker.Numbered) {time : String}
    (counter : other.cmdCounter.toNat = tracker.cmdCounter.toNat + 1)
    (issued : other.issuedIds =
      tracker.issuedIds ++ [numberedId time (tracker.cmdCounter.toNat + 1)]) :
    other.Numbered where
  named := by
    intro cmdId inside
    rw [issued, List.mem_append, List.mem_singleton] at inside
    rw [counter]
    rcases inside with old | rfl
    · rcases numbered.named cmdId old with ⟨time, number, same, bound⟩
      exact ⟨time, number, same, Nat.le_succ_of_le bound⟩
    · exact ⟨time, _, rfl, Nat.le_refl _⟩
  distinct := by
    rw [issued, List.nodup_append_comm]
    refine List.nodup_cons.mpr ⟨?_, numbered.distinct⟩
    intro old
    rcases numbered.named _ old with ⟨time, number, same, bound⟩
    have number := numberedId_injective same
    omega

theorem numbered_change {next : CommandTracker} (change : Change tracker next)
    (numbered : tracker.Numbered) (short : tracker.cmdCounter.toNat + 1 < 2 ^ 64) :
    next.Numbered ∧ next.cmdCounter.toNat ≤ tracker.cmdCounter.toNat + 1 := by
  have counted : (tracker.cmdCounter + 1).toNat = tracker.cmdCounter.toNat + 1 := by
    rw [UInt64.toNat_add, UInt64.toNat_one, Nat.mod_eq_of_lt short]
  have named : forall time, tracker.createCmdId time =
      numberedId time (tracker.cmdCounter.toNat + 1) := by
    intro time
    rw [createCmdId, counted]
    rfl
  cases change with
  | kept => exact ⟨numbered, Nat.le_succ _⟩
  | counted =>
      exact ⟨numbered.of_same rfl (counted ▸ Nat.le_succ _), Nat.le_of_eq counted⟩
  | tracked time record =>
      have issued : (tracker.counted.track (tracker.createCmdId time) record).issuedIds =
          tracker.issuedIds ++ [numberedId time (tracker.cmdCounter.toNat + 1)] := by
        rw [← named]
        exact List.map_append ..
      exact ⟨numbered.of_issued counted issued, Nat.le_of_eq counted⟩
  | relayTracked time record request free =>
      have issued : (tracker.counted.trackRelay (tracker.createCmdId time) record
          request).issuedIds =
          tracker.issuedIds ++ [numberedId time (tracker.cmdCounter.toNat + 1)] := by
        rw [← named]
        exact List.map_append ..
      exact ⟨numbered.of_issued counted issued, Nat.le_of_eq counted⟩
  | replied cmdId reply =>
      have same : next.issuedIds = tracker.issuedIds := by
        rw [issuedIds, issuedIds, reply.issued_eq]
      rw [reply.cmdCounter_eq]
      exact ⟨numbered.of_same same (by rw [reply.cmdCounter_eq]), Nat.le_succ _⟩

theorem numbered_runFrom (events : List CommandEvent) {state : CommandTracker}
    (numbered : state.Numbered) (short : state.cmdCounter.toNat + events.length < 2 ^ 64) :
    (system.runFrom state events).Numbered := by
  induction events generalizing state with
  | nil => exact numbered
  | cons event events ih =>
      rw [List.length_cons] at short
      rcases numbered_change (change_step state event) numbered (by omega) with ⟨next, counter⟩
      refine ih next ?_
      rw [system]
      dsimp only
      omega

/-- Until the counter runs over, no identifier is given twice. -/
theorem issuedIds_nodup_run (events : List CommandEvent) (short : events.length < 2 ^ 64) :
    (system.run events).issuedIds.Nodup := by
  have numbered : start.Numbered :=
    ⟨fun cmdId inside => absurd inside List.not_mem_nil, List.nodup_nil⟩
  refine (numbered_runFrom events numbered ?_).distinct
  change (0 : UInt64).toNat + events.length < 2 ^ 64
  simpa using short

/-- Whatever is sent and whatever messages arrive, the maps agree. -/
theorem commands_tracked (events : List CommandEvent)
    (distinct : (system.run events).issuedIds.Nodup) : (system.run events).Consistent :=
  consistent_of_invariant (invariant_runFrom events invariant_start distinct) distinct

/-- A relay of four channels, all of them off. -/
def sampleRelay : DeviceNode :=
  ⟨"factory_001", "area_001", "gateway_001", "port_001", 0, 3, 3, "relay"⟩

/-- Two channels are switched, the same one a second time, a device is added,
and the first command ends twice. -/
def sampleEvents : List CommandEvent :=
  [.sendRelayCommand "20260102030405006" 1 sampleRelay "relay_1" true
      (channelTable 4 fun _ => false),
    .sendRelayCommand "20260102030405006" 1 sampleRelay "fan" true (channelTable 4 fun _ => false),
    .sendRelayCommand "20260102030405007" 1 sampleRelay "led" false
      (channelTable 4 fun _ => false),
    .sendAddDeviceCommand "20260102030405008" 1 "gateway_001" "port_001" 4 "relay" 1000 [],
    .onCommandAck (buildCommandAckJson "CMD20260102030405006_1" "set_relay" "done" true "" ""),
    .onCommandAck (buildCommandAckJson "CMD20260102030405006_1" "set_relay" "done" true "" "")]

theorem sample_commands_tracked : (system.run sampleEvents).issuedIds.length = 3 ∧
    (system.run sampleEvents).finishedIds.length = 1 ∧ (system.run sampleEvents).Consistent :=
  ⟨by decide +kernel, by decide +kernel, commands_tracked sampleEvents (by decide +kernel)⟩

/-! ## The commands alone -/

/-- Without its maps a command manager ends the same commands. -/
theorem manager_finishCommand (cmdId : String) (outcome : CommandOutcome) :
    (tracker.finishCommand cmdId outcome).manager =
      tracker.manager.finishCommand cmdId outcome := by
  unfold finishCommand clearRelayPending
  split <;> rfl

theorem manager_onCommandAck (object : Json) :
    (tracker.onCommandAck object).manager = tracker.manager.onCommandAck object := by
  unfold onCommandAck CommandManager.onCommandAck
  dsimp only
  generalize (if textOr (object.lookup "cmd_id") "" = "" then none
    else tracker.manager.pending.get (textOr (object.lookup "cmd_id") "")) = found
  cases found with
  | none => rfl
  | some pending =>
      dsimp only
      split_ifs
      · exact manager_finishCommand _ _
      · rfl
      · exact manager_finishCommand _ _
      · exact manager_finishCommand _ _
      · rfl
      · exact manager_finishCommand _ _

theorem manager_onCommandLogUpdate (object : Json) :
    (tracker.onCommandLogUpdate object).manager = tracker.manager.onCommandLogUpdate object := by
  unfold onCommandLogUpdate CommandManager.onCommandLogUpdate
  dsimp only
  generalize textOr (object.lookup "status") _ = status
  generalize (if textOr (object.lookup "reason") "" = "" then textOr (object.lookup "message") ""
    else textOr (object.lookup "reason") "") = reason
  generalize (if textOr (object.lookup "cmd_id") "" = "" then none
    else tracker.manager.pending.get (textOr (object.lookup "cmd_id") "")) = found
  cases found with
  | none => rfl
  | some record =>
      dsimp only
      split_ifs
      · rfl
      · exact manager_finishCommand _ _
      · rfl
      · exact manager_finishCommand _ _
      · rfl

end CommandTracker

end Ui
end Imx6Gateway
