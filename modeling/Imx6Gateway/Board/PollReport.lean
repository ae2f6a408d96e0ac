import Imx6Gateway.Board.PortManager
import Imx6Gateway.Board.StatusChanges

namespace Imx6Gateway
namespace Board

open Library

/-!
# When a silent device is reported

The poll threads of `port_manager.cpp` count the failures of each device in
its `ManagedDevice` and publish that it is offline once the third one in a row
has been counted.  A poll looks its device up by the address, in the list as it
is when the device has been read; devices may have been added or removed in the
meantime.

What the reports are for is said by the results themselves: a log keeps, for
every device on a port, the answers to its polls, the newest first.
-/

def kOfflineFailureThreshold : Int32 := 3

/-- The rest of a `ManagedDevice`: what the polls keep beside the sensor. -/
structure PolledDevice where
  sensor : ManagedDevice
  consecutiveFailures : Int32
  offlineReported : Bool
deriving DecidableEq

namespace PolledDevice

def constructed (sensor : ManagedDevice) : PolledDevice := ⟨sensor, 0, false⟩

def hasAddress (slaveId : Int32) (device : PolledDevice) : Bool :=
  device.sensor.slaveId = slaveId

def succeed (device : PolledDevice) : PolledDevice :=
  { device with consecutiveFailures := 0, offlineReported := false }

/-- The body of the loop of `recordPollFailure`, with its result. -/
def fail (device : PolledDevice) : Bool × PolledDevice :=
  let counted := { device with consecutiveFailures := device.consecutiveFailures + 1 }
  if kOfflineFailureThreshold ≤ counted.consecutiveFailures ∧ counted.offlineReported = false then
    (true, { counted with offlineReported := true })
  else (false, counted)

end PolledDevice

/-! ## The functions of the port manager -/

def recordPollSuccess (slaveId : Int32) (devices : List PolledDevice) : Bool × List PolledDevice :=
  match updateFirst (PolledDevice.hasAddress slaveId) PolledDevice.succeed devices with
  | none => (false, devices)
  | some (_, changed) => (true, changed)

def recordPollFailure (slaveId : Int32) (devices : List PolledDevice) : Bool × List PolledDevice :=
  match updateFirst (PolledDevice.hasAddress slaveId) (fun device => device.fail.2) devices with
  | none => (false, devices)
  | some (device, changed) => (device.fail.1, changed)

/-- `pollDevice` on an open port, with the state that it publishes.  The device
answers if its reading has succeeded and is valid. -/
def pollDevice (slot : Slot) (slaveId : Int32) (answers : Bool) (devices : List PolledDevice) :
    Option StatusReport × List PolledDevice :=
  let recorded := if answers then recordPollSuccess slaveId devices
    else recordPollFailure slaveId devices
  (if recorded.1 then some ⟨(slotNumber slot).toInt, slaveId.toInt, answers⟩ else none, recorded.2)

/-- What happens to the devices of a port: a poll, a device that is added or
read from the file, one that is removed (or put back, if the file cannot be
written), and a port that is closed. -/
inductive PollEvent where
  | poll (slot : Slot) (slaveId : Int32) (answers : Bool)
  | add (slot : Slot) (sensor : ManagedDevice)
  | remove (slot : Slot) (slaveId : Int32) (stored : Bool)
  | clear (slot : Slot)
deriving DecidableEq

def addPolled (sensor : ManagedDevice) (devices : List PolledDevice) : List PolledDevice :=
  if (devices.find? (PolledDevice.hasAddress sensor.slaveId)).isSome then devices
  else devices ++ [.constructed sensor]

def removePolled (slaveId : Int32) (stored : Bool) (devices : List PolledDevice) :
    List PolledDevice :=
  match devices.find? (PolledDevice.hasAddress slaveId) with
  | none => devices
  | some removed =>
      let fewer := devices.eraseP (PolledDevice.hasAddress slaveId)
      if stored then fewer else fewer ++ [removed]

abbrev PolledChannels : Type := Slot -> List PolledDevice

namespace PolledChannels

def step (channels : PolledChannels) : PollEvent -> PolledChannels
  | .poll slot slaveId answers =>
      Function.update channels slot (pollDevice slot slaveId answers (channels slot)).2
  | .add slot sensor => Function.update channels slot (addPolled sensor (channels slot))
  | .remove slot slaveId stored =>
      Function.update channels slot (removePolled slaveId stored (channels slot))
  | .clear slot => Function.update channels slot []

def system : TransitionSystem PolledChannels PollEvent where
  initial := fun _ => []
  step := step

end PolledChannels

/-! ## The results of the polls -/

/-- The results of each device since it has been on its port, newest first. -/
abbrev PollLog : Type := Slot -> Int32 -> Option (List Bool)

namespace PollLog

def write (log : PollLog) (slot : Slot) (slaveId : Int32) (results : Option (List Bool)) : PollLog :=
  Function.update log slot (Function.update (log slot) slaveId results)

def step (log : PollLog) : PollEvent -> PollLog
  | .poll slot slaveId answers => log.write slot slaveId ((log slot slaveId).map (answers :: ·))
  | .add slot sensor => log.write slot sensor.slaveId (some ((log slot sensor.slaveId).getD []))
  | .remove slot slaveId stored => if stored then log.write slot slaveId none else log
  | .clear slot => Function.update log slot fun _ => none

def system : TransitionSystem PollLog PollEvent where
  initial := fun _ _ => none
  step := step

end PollLog

/-- The failures since the last success. -/
def failuresInRow : List Bool -> Nat
  | false :: results => failuresInRow results + 1
  | _ => 0

/-- The state that a poll should publish: the one of a device that answers, and
the one of a device that has been silent for the third time in a row. -/
def expectedReport (slot : Slot) (slaveId : Int32) (answers : Bool) (results : Option (List Bool)) :
    Option StatusReport :=
  if results.any fun results => answers || failuresInRow (false :: results) = 3 then
    some ⟨(slotNumber slot).toInt, slaveId.toInt, answers⟩
  else none

/-! ## The counters follow the results -/

/-- The counter stops to matter once the device has been reported. -/
structure Counts (device : PolledDevice) (results : List Bool) : Prop where
  reported : device.offlineReported = decide (3 ≤ failuresInRow results)
  counted : failuresInRow results < 3 ->
    device.consecutiveFailures = Int32.ofNat (failuresInRow results)

theorem counts_constructed (sensor : ManagedDevice) : Counts (.constructed sensor) [] :=
  ⟨rfl, fun _ => rfl⟩

theorem Counts.succeed (device : PolledDevice) (results : List Bool) :
    Counts device.succeed (true :: results) :=
  ⟨rfl, fun _ => rfl⟩

theorem Counts.fail {device : PolledDevice} {results : List Bool} (counts : Counts device results) :
    device.fail.1 = decide (failuresInRow (false :: results) = 3) ∧
      Counts device.fail.2 (false :: results) := by
  have reported := counts.reported
  have more : failuresInRow (false :: results) = failuresInRow results + 1 := rfl
  by_cases few : failuresInRow results < 3
  · -- The counter is exact: three values are left.
    have counted := counts.counted few
    rw [decide_eq_false (not_le.mpr few)] at reported
    unfold PolledDevice.fail
    simp only [counted, reported]
    have cases : failuresInRow results = 0 ∨ failuresInRow results = 1 ∨
        failuresInRow results = 2 := by omega
    rcases cases with zero | one | two
    · rw [zero, if_neg (by decide)]
      refine ⟨by rw [more, zero]; rfl, ⟨?_, ?_⟩⟩
      · rw [more, zero]
        rfl
      · intro _
        rw [more, zero]
        rfl
    · rw [one, if_neg (by decide)]
      refine ⟨by rw [more, one]; rfl, ⟨?_, ?_⟩⟩
      · rw [more, one]
        rfl
      · intro _
        rw [more, one]
        rfl
    · rw [two, if_pos (by decide)]
      refine ⟨by rw [more, two]; rfl, ⟨?_, ?_⟩⟩
      · rw [more, two]
        rfl
      · intro fewer
        omega
  · have many : 3 ≤ failuresInRow results := not_lt.mp few
    rw [decide_eq_true many] at reported
    have silent : device.fail =
        (false, { device with consecutiveFailures := device.consecutiveFailures + 1 }) := by
      unfold PolledDevice.fail
      dsimp only
      rw [if_neg]
      rintro ⟨-, fresh⟩
      exact Bool.false_ne_true (fresh.symm.trans reported)
    rw [silent]
    refine ⟨(decide_eq_false (by omega)).symm, ⟨?_, ?_⟩⟩
    · rw [decide_eq_true (by omega)]
      exact reported
    · intro fewer
      omega

/-- The record of an address among the devices of a port. -/
def polled (devices : List PolledDevice) (slaveId : Int32) : Option PolledDevice :=
  devices.find? (PolledDevice.hasAddress slaveId)

structure Tracks (devices : List PolledDevice) (results : Int32 -> Option (List Bool)) : Prop where
  distinct : (devices.map fun device => device.sensor.slaveId).Nodup
  counts : forall slaveId, Option.Rel Counts (polled devices slaveId) (results slaveId)

theorem tracks_nil : Tracks [] fun _ => none :=
  ⟨List.nodup_nil, fun _ => .none⟩

theorem hasAddress_iff {slaveId : Int32} {device : PolledDevice} :
    device.hasAddress slaveId = true ↔ device.sensor.slaveId = slaveId :=
  decide_eq_true_iff

theorem polled_eq_none_iff {devices : List PolledDevice} {slaveId : Int32} :
    polled devices slaveId = none ↔
      slaveId ∉ devices.map fun device => device.sensor.slaveId := by
  rw [polled, List.find?_eq_none, List.mem_map]
  constructor
  · rintro misses ⟨device, member, same⟩
    exact misses device member (hasAddress_iff.mpr same)
  · intro absent device member same
    exact absent ⟨device, member, hasAddress_iff.mp same⟩

/-- The searched device is changed in place, by whatever keeps its address. -/
theorem Tracks.changed {devices changed : List PolledDevice}
    {results : Int32 -> Option (List Bool)} (tracks : Tracks devices results) {slaveId : Int32}
    {change : PolledDevice -> PolledDevice} {device : PolledDevice}
    (stopped : updateFirst (PolledDevice.hasAddress slaveId) change devices = some (device, changed))
    (same : (change device).sensor = device.sensor) {next : List Bool}
    (counts : Counts (change device) next) :
    Tracks changed (Function.update results slaveId (some next)) := by
  have address : device.sensor.slaveId = slaveId :=
    hasAddress_iff.mp (List.find?_some (find?_of_updateFirst _ change stopped))
  have stays : (change device).hasAddress slaveId = true := by
    rw [hasAddress_iff, same, address]
  refine ⟨?_, ?_⟩
  · rw [map_updateFirst (PolledDevice.hasAddress slaveId) change stopped (by rw [same])]
    exact tracks.distinct
  · intro other
    by_cases here : other = slaveId
    · subst here
      rw [Function.update_self, polled, find?_updateFirst_self _ change stopped stays]
      exact .some counts
    · have apart : device.hasAddress other = false := by
        apply Bool.eq_false_iff.mpr
        rw [Ne, hasAddress_iff, address]
        exact Ne.symm here
      have apartAfter : (change device).hasAddress other = false := by
        apply Bool.eq_false_iff.mpr
        rw [Ne, hasAddress_iff, same, address]
        exact Ne.symm here
      rw [Function.update_of_ne here, polled,
        find?_updateFirst_of_ne _ change stopped apart apartAfter]
      exact tracks.counts other

theorem sensor_fail (device : PolledDevice) : device.fail.2.sensor = device.sensor := by
  unfold PolledDevice.fail
  dsimp only
  split
  · rfl
  · rfl

/-- What a poll returns and leaves. -/
theorem Tracks.pollDevice {devices : List PolledDevice} {results : Int32 -> Option (List Bool)}
    (tracks : Tracks devices results) (slot : Slot) (slaveId : Int32) (answers : Bool) :
    (pollDevice slot slaveId answers devices).1 =
        expectedReport slot slaveId answers (results slaveId) ∧
      Tracks (pollDevice slot slaveId answers devices).2
        (Function.update results slaveId ((results slaveId).map (answers :: ·))) := by
  have counts := tracks.counts slaveId
  generalize known : results slaveId = own at counts
  generalize found : polled devices slaveId = record at counts
  cases counts with
  | none =>
      have misses : forall change, updateFirst (PolledDevice.hasAddress slaveId) change devices =
          none := by
        intro change
        rw [updateFirst_eq_none]
        exact fun device member => Bool.eq_false_iff.mpr (List.find?_eq_none.mp found device member)
      have unchanged : Function.update results slaveId (Option.map (answers :: ·) none) = results := by
        rw [Option.map_none, ← known, Function.update_eq_self]
      rw [unchanged]
      unfold Board.pollDevice recordPollSuccess recordPollFailure
      simp only [misses, ite_self]
      exact ⟨rfl, tracks⟩
  | @some device past counts =>
      have stops : forall change, exists changed,
          Library.updateFirst (PolledDevice.hasAddress slaveId) change devices =
            Option.some (device, changed) := by
        intro change
        cases stopped : Library.updateFirst (PolledDevice.hasAddress slaveId) change devices with
        | none =>
            have passes := List.find?_some found
            rw [(updateFirst_eq_none _ change).mp stopped device (List.mem_of_find?_eq_some found)]
              at passes
            cases passes
        | some pair =>
            have same := (find?_of_updateFirst _ change stopped).symm.trans found
            exact ⟨pair.2, congrArg Option.some (Prod.ext (Option.some.inj same) rfl)⟩
      cases answers with
      | true =>
          rcases stops PolledDevice.succeed with ⟨changed, stopped⟩
          unfold Board.pollDevice recordPollSuccess
          simp only [stopped, if_true]
          exact ⟨rfl, tracks.changed stopped rfl (.succeed device past)⟩
      | false =>
          rcases stops fun device => device.fail.2 with ⟨changed, stopped⟩
          have failed := counts.fail
          unfold Board.pollDevice recordPollFailure
          simp only [stopped, Bool.false_eq_true, if_false]
          refine ⟨?_, tracks.changed stopped (sensor_fail device) failed.2⟩
          rw [failed.1, expectedReport, Option.any_some, Bool.false_or]

/-- A device that comes to the end of the list. -/
theorem Tracks.append {devices : List PolledDevice} {results : Int32 -> Option (List Bool)}
    (tracks : Tracks devices results) {device : PolledDevice}
    (absent : polled devices device.sensor.slaveId = none) {past : List Bool}
    (counts : Counts device past) :
    Tracks (devices ++ [device]) (Function.update results device.sensor.slaveId (some past)) := by
  refine ⟨?_, ?_⟩
  · rw [List.map_append]
    exact tracks.distinct.append (List.nodup_singleton _)
      (List.disjoint_singleton.mpr (polled_eq_none_iff.mp absent))
  · intro other
    rw [polled, List.find?_append]
    by_cases here : other = device.sensor.slaveId
    · subst here
      have own : device.hasAddress device.sensor.slaveId = true := hasAddress_iff.mpr rfl
      rw [Function.update_self, show devices.find? _ = _ from absent, Option.none_or,
        List.find?_cons_of_pos own]
      exact .some counts
    · have misses : device.hasAddress other ≠ true := by
        rw [Ne, hasAddress_iff]
        exact Ne.symm here
      rw [Function.update_of_ne here, List.find?_cons_of_neg misses, List.find?_nil, Option.or_none]
      exact tracks.counts other

/-- The first device of an address is the only one. -/
theorem Tracks.erase {devices : List PolledDevice} {results : Int32 -> Option (List Bool)}
    (tracks : Tracks devices results) {slaveId : Int32} {device : PolledDevice}
    (found : polled devices slaveId = some device) :
    Tracks (devices.eraseP (PolledDevice.hasAddress slaveId))
      (Function.update results slaveId none) := by
  rcases List.exists_of_eraseP (List.mem_of_find?_eq_some found) (List.find?_some found) with
    ⟨removed, front, back, -, passes, split, fewer⟩
  have address := hasAddress_iff.mp passes
  have distinct := tracks.distinct
  rw [split, List.map_append, List.map_cons, List.nodup_middle, List.nodup_cons] at distinct
  rw [fewer]
  refine ⟨?_, ?_⟩
  · rw [List.map_append]
    exact distinct.2
  · intro other
    by_cases here : other = slaveId
    · subst here
      have gone : polled (front ++ back) other = none := by
        rw [polled_eq_none_iff, List.map_append, ← address]
        exact distinct.1
      rw [Function.update_self, gone]
      exact .none
    · have misses : removed.hasAddress other ≠ true := by
        rw [Ne, hasAddress_iff, address]
        exact Ne.symm here
      have counts := tracks.counts other
      rw [polled, split, List.find?_append, List.find?_cons_of_neg misses] at counts
      rw [Function.update_of_ne here, polled, List.find?_append]
      exact counts

theorem Tracks.addPolled {devices : List PolledDevice} {results : Int32 -> Option (List Bool)}
    (tracks : Tracks devices results) (sensor : ManagedDevice) :
    Tracks (addPolled sensor devices) (Function.update results sensor.slaveId
      (some ((results sensor.slaveId).getD []))) := by
  have counts := tracks.counts sensor.slaveId
  generalize known : results sensor.slaveId = own at counts
  generalize found : polled devices sensor.slaveId = record at counts
  cases counts with
  | @some device past counts =>
      have unchanged : Function.update results sensor.slaveId
          (Option.some ((Option.some past).getD [])) = results := by
        rw [Option.getD_some, ← known, Function.update_eq_self]
      have kept : Board.addPolled sensor devices = devices := by
        unfold Board.addPolled
        rw [show devices.find? _ = _ from found, Option.isSome_some, if_pos rfl]
      rw [unchanged, kept]
      exact tracks
  | none =>
      have added : Board.addPolled sensor devices = devices ++ [.constructed sensor] := by
        unfold Board.addPolled
        rw [show devices.find? _ = _ from found, Option.isSome_none, if_neg Bool.false_ne_true]
      rw [added]
      exact tracks.append found (counts_constructed sensor)

theorem Tracks.removePolled {devices : List PolledDevice} {results : Int32 -> Option (List Bool)}
    (tracks : Tracks devices results) (slaveId : Int32) (stored : Bool) :
    Tracks (removePolled slaveId stored devices)
      (if stored then Function.update results slaveId none else results) := by
  have counts := tracks.counts slaveId
  generalize known : results slaveId = own at counts
  generalize found : polled devices slaveId = record at counts
  cases counts with
  | none =>
      have unchanged : Function.update results slaveId none = results := by
        rw [← known, Function.update_eq_self]
      have kept : Board.removePolled slaveId stored devices = devices := by
        unfold Board.removePolled
        rw [show devices.find? _ = _ from found]
      rw [unchanged, ite_self, kept]
      exact tracks
  | @some device past counts =>
      have erased := tracks.erase found
      have address : device.sensor.slaveId = slaveId := hasAddress_iff.mp (List.find?_some found)
      unfold Board.removePolled
      rw [show devices.find? _ = _ from found]
      dsimp only
      cases stored with
      | true => exact erased
      | false =>
          -- The file could not be written: the device is back, with its counter.
          have gone : polled (devices.eraseP (PolledDevice.hasAddress slaveId))
              device.sensor.slaveId = Option.none := by
            have absent := erased.counts slaveId
            rw [Function.update_self] at absent
            rw [address]
            generalize polled (devices.eraseP (PolledDevice.hasAddress slaveId)) slaveId = record
              at absent
            cases absent
            rfl
          have back := erased.append gone counts
          rw [address, Function.update_idem, ← known, Function.update_eq_self] at back
          exact back

/-! ## Whole runs -/

theorem tracks_step {channels : PolledChannels} {log : PollLog}
    (tracks : forall slot, Tracks (channels slot) (log slot)) (event : PollEvent) :
    forall slot, Tracks (channels.step event slot) (log.step event slot) := by
  have elsewhere : forall {slot here : Slot} {devices : List PolledDevice}
      {results : Int32 -> Option (List Bool)}, Tracks devices results ->
        Tracks (Function.update channels here devices slot)
          (Function.update log here results slot) := by
    intro slot here devices results changed
    by_cases same : slot = here
    · subst same
      rw [Function.update_self, Function.update_self]
      exact changed
    · rw [Function.update_of_ne same, Function.update_of_ne same]
      exact tracks slot
  intro slot
  cases event with
  | poll here slaveId answers => exact elsewhere ((tracks here).pollDevice here slaveId answers).2
  | add here sensor => exact elsewhere ((tracks here).addPolled sensor)
  | remove here slaveId stored =>
      have removed := (tracks here).removePolled slaveId stored
      cases stored with
      | true => exact elsewhere removed
      | false =>
          have unchanged : log.step (.remove here slaveId false) =
              Function.update log here (log here) := (Function.update_eq_self here log).symm
          rw [unchanged]
          exact elsewhere removed
  | clear here => exact elsewhere tracks_nil

theorem tracks_run (events : List PollEvent) :
    forall slot, Tracks (PolledChannels.system.run events slot) (PollLog.system.run events slot) := by
  induction events using List.reverseRecOn with
  | nil => exact fun _ => tracks_nil
  | append_singleton events event ih =>
      rw [TransitionSystem.run, TransitionSystem.run, TransitionSystem.runFrom_append,
        TransitionSystem.runFrom_append]
      exact tracks_step ih event

/-- `recordPollFailure` returns true, and `pollDevice` publishes that a device is
offline, at the third failure after the last success and at no other poll. -/
theorem offline_at_third_failure (events : List PollEvent) (slot : Slot) (slaveId : Int32) :
    (recordPollFailure slaveId (PolledChannels.system.run events slot)).1 =
        (PollLog.system.run events slot slaveId).any
          (fun results => failuresInRow (false :: results) = 3) ∧
      forall answers, (pollDevice slot slaveId answers (PolledChannels.system.run events slot)).1 =
        expectedReport slot slaveId answers (PollLog.system.run events slot slaveId) := by
  have tracks := tracks_run events slot
  refine ⟨?_, fun answers => (tracks.pollDevice slot slaveId answers).1⟩
  have silent := (tracks.pollDevice slot slaveId false).1
  have returned : (pollDevice slot slaveId false (PolledChannels.system.run events slot)).1.isSome =
      (recordPollFailure slaveId (PolledChannels.system.run events slot)).1 := by
    unfold pollDevice
    dsimp only
    rw [if_neg Bool.false_ne_true]
    cases (recordPollFailure slaveId (PolledChannels.system.run events slot)).1 with
    | false => rfl
    | true => rfl
  rw [← returned, silent, expectedReport]
  simp only [Bool.false_or]
  cases (PollLog.system.run events slot slaveId).any
      (fun results => failuresInRow (false :: results) = 3) with
  | false => rfl
  | true => rfl

end Board
end Imx6Gateway
