import Imx6Gateway.Library.SnapshotSenders
import Imx6Gateway.Link.LatestPointsText
import Imx6Gateway.Pc.IpcMessageHandler
import Imx6Gateway.Pc.RegistryEffect
import Imx6Gateway.Pc.TelemetryHistory

namespace Imx6Gateway
namespace Link

open Library Pc

/-!
# The threads that send the latest points

`latestPublisherLoop` sends the latest points to Pc_ui some time after
telemetry has come in.  The thread of the pipe sends them for a client that
connects and for some requests, and the thread of the broker when a message
has changed the devices.  Each of them reads the points before it sends them.

The worker of the telemetry changes the points first and sets the flag of the
publisher afterwards, so that the publisher may come between the two.
-/

/-- The threads that send the points besides the publisher. -/
inductive PointSender where
  | mqtt
  | ipc
deriving DecidableEq

structure PublisherWorld where
  pcData : PcData
  senders : SnapshotSenders String PointSender

/-- A handler runs, the worker sets the flag, the publisher or a thread goes on
by one step, or a client comes or goes.  The answer to a request of the user may
be the last one that the request waits for. -/
inductive PublisherEvent where
  | handled (event : PcEvent) (last : Bool)
  | marked
  | woken
  | taken
  | checked
  | read
  | published (written : Bool)
  | senderReads (sender : PointSender)
  | senderSends (sender : PointSender) (written : Bool)
  | connected
  | disconnected

namespace PublisherWorld

section Handlers

variable (pc : JsonCodec) (stod : String -> Option Rat)

/-- Whether the handler of a message ends with the latest points. -/
def messageSends (last : Bool) (state : PcData) : RegistryEffect -> Bool
  | .delete nowMs gatewayId portId deviceId =>
      (state.database.deleteDeviceData nowMs gatewayId portId deviceId).2
  | .restore _ _ _ _ => state.database.isOpen
  | .snapshot nowMs gatewayId entries fullSnapshot =>
      (state.storeSnapshot nowMs gatewayId entries fullSnapshot).2
  | .selection nowMs pending entries => last && (state.storeSelection nowMs pending entries).2
  | .register _ _ => true
  | _ => false

/-- Whether a request of the client is answered with the latest points. -/
def requestSends (text : String) : Bool :=
  match handledAs pc text with
  | some .deleteDeviceData | some .deleteMasterData | some .clearAllData
  | some .getLatestPoints => true
  | _ => false

/-- A thread handles one message after the other.  The handlers of the broker
look for a client first. -/
def handle (world : PublisherWorld) (event : PcEvent) (last : Bool) : PublisherWorld :=
  let after := (world.pcData.step pc stod event).1
  match event with
  | .telemetryTurn _ =>
      if world.senders.owing then world
      else
        ⟨after, match PcData.effectOf pc stod world.pcData event with
          | .points _ _ => world.senders.owe
          | _ => world.senders⟩
  | .message _ _ _ =>
      if world.senders.sender .mqtt ≠ .idle then world
      else
        let effect := PcData.effectOf pc stod world.pcData event
        ⟨after, if messageSends last world.pcData effect && world.senders.connected then
            world.senders.call .mqtt
          else world.senders⟩
  | .request _ text =>
      if world.senders.sender .ipc ≠ .idle then world
      else ⟨after, if requestSends pc text then world.senders.call .ipc else world.senders⟩
  | _ => ⟨after, world.senders⟩

end Handlers

section Steps

variable (pc : JsonCodec) (stod : String -> Option Rat) (special : SnapshotPoint -> NotFinite)

/-- What a thread that reads the points now will send. -/
def text (world : PublisherWorld) : String :=
  latestPointsText special world.pcData.service.snapshot.values

def step (world : PublisherWorld) : PublisherEvent -> PublisherWorld
  | .handled event last => world.handle pc stod event last
  | .marked =>
      if world.senders.owing then { world with senders := world.senders.mark } else world
  | .woken => { world with senders := world.senders.wake }
  | .taken => { world with senders := world.senders.take }
  | .checked => { world with senders := world.senders.check }
  | .read => { world with senders := world.senders.read (world.text special) }
  | .published written => { world with senders := world.senders.publish written }
  | .senderReads sender =>
      { world with senders := world.senders.senderReads sender (world.text special) }
  | .senderSends sender written =>
      { world with senders := world.senders.senderSends sender written }
  | .connected =>
      if world.senders.connected ∨ world.senders.sender .ipc ≠ .idle then world
      else { world with senders := world.senders.connect .ipc }
  | .disconnected =>
      if world.senders.sender .ipc ≠ .idle then world
      else { world with senders := world.senders.disconnect }

end Steps
end PublisherWorld

/-- Pc_data from its start with a database, while no client is there. -/
def publisherSystem (pc : JsonCodec) (stod : String -> Option Rat)
    (special : SnapshotPoint -> NotFinite) (database : Database) (startMs : Int) :
    TransitionSystem PublisherWorld PublisherEvent where
  initial := ⟨seeded database startMs, .start⟩
  step := PublisherWorld.step pc stod special

namespace PublisherWorld

/-! ## Handlers that change the points -/

section Points

theorem snapshot_foldl {Item : Type} {operation : DataService -> Item -> DataService}
    (kept : forall service item, (operation service item).snapshot = service.snapshot)
    (items : List Item) (service : DataService) :
    (items.foldl operation service).snapshot = service.snapshot := by
  induction items generalizing service with
  | nil => rfl
  | cons item items ih => exact (ih (operation service item)).trans (kept service item)

theorem snapshot_forgetRemovedDevice (service : DataService) (nowMs : Int)
    (gatewayId portId : String) (deviceId : Int) :
    (service.forgetRemovedDevice nowMs gatewayId portId deviceId).snapshot = service.snapshot := by
  unfold DataService.forgetRemovedDevice
  split <;> rfl

theorem snapshot_rememberDeviceRegistry (service : DataService) (device : DeviceRecord) :
    (service.rememberDeviceRegistry device).snapshot = service.snapshot := by
  unfold DataService.rememberDeviceRegistry
  split <;> rfl

theorem snapshot_replaceGatewayRegistry (service : DataService) (gatewayId : String)
    (entries : ConfigSnapshot) (fullSnapshot : Bool) :
    (service.replaceGatewayRegistry gatewayId entries fullSnapshot).snapshot =
      service.snapshot := by
  unfold DataService.replaceGatewayRegistry
  split
  · rfl
  · refine (DataService.rememberPointConfigs_same _ _).snapshot.trans ?_
    refine (snapshot_foldl snapshot_rememberDeviceRegistry _ _).trans ?_
    refine (DataService.rememberGatewayPorts_same _ _).snapshot.trans ?_
    cases fullSnapshot with
    | false => rfl
    | true => rfl

theorem snapshot_storeSelection (state : PcData) (nowMs : Int) (pending : SyncGatewayPending)
    (entries : ConfigSnapshot) :
    (state.storeSelection nowMs pending entries).1.service.snapshot = state.service.snapshot := by
  unfold PcData.storeSelection
  dsimp only
  split
  · refine (snapshot_replaceGatewayRegistry _ _ _ _).trans ?_
    exact snapshot_foldl (fun service device => snapshot_forgetRemovedDevice service nowMs _ _ _)
      _ _
  · rfl

variable {pc : JsonCodec} {stod : String -> Option Rat} {state : PcData}

theorem snapshot_step (event : PcEvent) : (state.step pc stod event).1.service.snapshot =
    ((PcData.effectOf pc stod state event).run state).service.snapshot :=
  (PcData.step_effect pc stod state event).service.snapshot

/-- A message whose handler does not send the points leaves them as they are. -/
theorem snapshot_of_silent {nowMs : Int} {topic payload : String} {last : Bool}
    (silent : messageSends last state
      (PcData.effectOf pc stod state (.message nowMs topic payload)) = false) :
    (state.step pc stod (.message nowMs topic payload)).1.service.snapshot =
      state.service.snapshot := by
  rw [snapshot_step]
  have origin := PcData.effectOf_readFrom pc state stod (.message nowMs topic payload)
  generalize PcData.effectOf pc stod state (.message nowMs topic payload) = effect at origin silent
  cases origin with
  | nothing => rfl
  | removed =>
      rw [messageSends] at silent
      rw [RegistryEffect.run, PcData.deleteDevice]
      dsimp only
      rw [silent]
      rfl
  | added => exact snapshot_forgetRemovedDevice _ _ _ _ _
  | snapshot =>
      rw [messageSends] at silent
      rw [RegistryEffect.run]
      unfold PcData.storeSnapshot at silent ⊢
      dsimp only at silent ⊢
      split at silent
      · cases silent
      · rename_i unsaved
        rw [if_neg unsaved]
  | selection => exact snapshot_storeSelection _ _ _ _
  | registered => cases silent

/-- A request that is not answered with the points does not change them. -/
theorem snapshot_of_unasked {nowMs : Int} {text : String} (unasked : requestSends pc text = false) :
    (state.step pc stod (.request nowMs text)).1.service.snapshot = state.service.snapshot := by
  rw [snapshot_step]
  change ((PcData.requestEffect pc nowMs text).run state).service.snapshot = _
  unfold PcData.requestEffect
  split
  · rfl
  · rename_i root parsed
    have asked {type : String} {request : IpcRequest} (named : (type, request) ∈ parsedTypes)
        (same : getJsonString root "type" = type) (whole : identified root request = true) :
        handledAs pc text = some request := by
      rw [handledAs, parsed, Option.getD_some, parsedRequest_of_type named same, if_pos whole]
    split
    · rfl
    · split
      · rename_i key found
        have type : getJsonString root "type" = "delete_device_data" := by
          by_contra other
          rw [parseDeleteDeviceRequest, if_pos other] at found
          cases found
        have device : handledAs pc text = some .deleteDeviceData :=
          asked (by decide) type (congrArg Option.isSome found)
        rw [requestSends, device] at unasked
        cases unasked
      · split
        · rename_i gatewayId portId found
          have type : getJsonString root "type" = "delete_master_data" := by
            by_contra other
            rw [parseDeleteMasterRequest, if_pos (Or.inl other)] at found
            cases found
          have master : handledAs pc text = some .deleteMasterData :=
            asked (by decide) type (congrArg Option.isSome found)
          rw [requestSends, master] at unasked
          cases unasked
        · split
          · rename_i clear
            have all : handledAs pc text = some .clearAllData :=
              asked (by decide) (of_decide_eq_true clear) rfl
            rw [requestSends, all] at unasked
            cases unasked
          · rfl

/-- Between two turns of the worker the points change only in handlers. -/
theorem snapshot_turn {nowMs : Int}
    (nothing : forall receivedMs received,
      PcData.effectOf pc stod state (.telemetryTurn nowMs) ≠ .points receivedMs received) :
    (state.step pc stod (.telemetryTurn nowMs)).1.service.snapshot = state.service.snapshot := by
  rw [snapshot_step]
  have origin := PcData.effectOf_readFrom pc state stod (.telemetryTurn nowMs)
  generalize PcData.effectOf pc stod state (.telemetryTurn nowMs) = effect at origin nothing
  cases origin with
  | nothing => rfl
  | telemetry => exact absurd rfl (nothing _ _)

end Points

/-! ## The client is covered -/

section Coverage

variable {pc : JsonCodec} {stod : String -> Option Rat} {special : SnapshotPoint -> NotFinite}

/-- The client has the points, or they are still to come. -/
def Covered (special : SnapshotPoint -> NotFinite) (world : PublisherWorld) : Prop :=
  world.senders.Covered (world.text special)

/-- What a step sends is the points of now, or something is to come after it. -/
def Timely (special : SnapshotPoint -> NotFinite) (world : PublisherWorld) :
    PublisherEvent -> Prop
  | .published written =>
      SnapshotSenders.PublishTimely (world.text special) written world.senders
  | .senderSends sender written =>
      SnapshotSenders.SendTimely (world.text special) sender written world.senders
  | _ => True

theorem covered_of_snapshot {world : PublisherWorld} {after : PcData}
    (covered : world.Covered special)
    (same : after.service.snapshot = world.pcData.service.snapshot) :
    Covered special ⟨after, world.senders⟩ := by
  rw [Covered, text, same]
  exact covered

/-- A handler that changes the points makes its thread send them, and the
worker owes the flag for the change. -/
theorem covered_handle {world : PublisherWorld} (covered : world.Covered special)
    (event : PcEvent) (last : Bool) : (world.handle pc stod event last).Covered special := by
  cases event with
  | telemetryTurn nowMs =>
      unfold handle
      dsimp only
      split
      · exact covered
      · split
        · exact SnapshotSenders.covered_owe _ _
        · rename_i nothing
          exact covered_of_snapshot covered (snapshot_turn nothing)
  | message nowMs topic payload =>
      unfold handle
      dsimp only
      split
      · exact covered
      · split
        · exact SnapshotSenders.covered_call _ _ _
        · rename_i unsent
          rw [Bool.and_eq_true, not_and_or, Bool.not_eq_true, Bool.not_eq_true] at unsent
          rcases unsent with silent | away
          · exact covered_of_snapshot covered (snapshot_of_silent silent)
          · exact SnapshotSenders.covered_of_disconnected away
  | request nowMs text =>
      unfold handle
      dsimp only
      split
      · exact covered
      · split
        · exact SnapshotSenders.covered_call _ _ _
        · rename_i unasked
          exact covered_of_snapshot covered (snapshot_of_unasked (eq_false_of_ne_true unasked))
  | command target =>
      exact covered_of_snapshot covered (snapshot_step (.command target))
  | writerTurn nowMs => exact covered_of_snapshot covered (snapshot_step (.writerTurn nowMs))
  | syncTimeouts nowMs => exact covered_of_snapshot covered (snapshot_step (.syncTimeouts nowMs))

/-- Only a message that was read too early uncovers the client. -/
theorem covered_step_iff {world : PublisherWorld} (covered : world.Covered special)
    (event : PublisherEvent) :
    (world.step pc stod special event).Covered special ↔ world.Timely special event := by
  cases event with
  | handled event last => exact iff_of_true (covered_handle covered event last) trivial
  | marked =>
      refine iff_of_true ?_ trivial
      rw [step]
      split
      · exact SnapshotSenders.covered_mark _ _
      · exact covered
  | woken => exact iff_of_true (SnapshotSenders.covered_wake covered) trivial
  | taken => exact iff_of_true (SnapshotSenders.covered_take covered) trivial
  | checked => exact iff_of_true (SnapshotSenders.covered_check covered) trivial
  | read => exact iff_of_true (SnapshotSenders.covered_read covered) trivial
  | published written => exact SnapshotSenders.covered_publish_iff covered written
  | senderReads sender =>
      exact iff_of_true (SnapshotSenders.covered_senderReads covered sender) trivial
  | senderSends sender written =>
      exact SnapshotSenders.covered_senderSends_iff covered sender written
  | connected =>
      refine iff_of_true ?_ trivial
      rw [step]
      split
      · exact covered
      · exact SnapshotSenders.covered_connect _ _ _
  | disconnected =>
      refine iff_of_true ?_ trivial
      rw [step]
      split
      · exact covered
      · exact SnapshotSenders.covered_disconnect _ _

end Coverage
end PublisherWorld

section Runs

variable (pc : JsonCodec) (stod : String -> Option Rat) (special : SnapshotPoint -> NotFinite)
  (database : Database) (startMs : Int)

/-- Whatever the threads do, the client has the latest points or they are still
to come, all the way, exactly if no thread sends points that it has read too
early: the flag of the publisher and the handlers lose nothing. -/
theorem latest_points_covered_iff (events : List PublisherEvent) :
    (forall before after, events = before ++ after ->
      ((publisherSystem pc stod special database startMs).run before).Covered special) ↔
      (publisherSystem pc stod special database startMs).Admissible
        (PublisherWorld.Timely special) events := by
  let invariant (_ : PublisherWorld) : Prop := True
  have initially : invariant (publisherSystem pc stod special database startMs).initial := trivial
  have start : (publisherSystem pc stod special database startMs).initial.Covered special :=
    SnapshotSenders.covered_start _
  refine (publisherSystem pc stod special database startMs).everywhere_iff_of_forall initially
    start ?_ ?_ events
  · exact fun _ _ _ => trivial
  · exact fun world event _ covered => PublisherWorld.covered_step_iff covered event

/-- A client connects, and the thread of the pipe sends it the points. -/
def firstClient : List PublisherEvent :=
  [.connected, .senderReads .ipc, .senderSends .ipc true, .woken]

end Runs
end Link
end Imx6Gateway
