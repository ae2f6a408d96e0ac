import Imx6Gateway.Library.Transition
import Imx6Gateway.Ui.DataManager

namespace Imx6Gateway
namespace Ui
namespace Realtime

open Library

/-!
# Devices that are offline

A device is offline because its latest data say so or because the connection
to Pc_data is lost, and it should stay so until newer valid data arrive.  The
timer that looks for old data decides by the time of the last update alone.
-/

/-- What acts on the state of the devices between two snapshots. -/
inductive OfflineEvent where
  | latestPoints (nowMs : Int) (message : Json)
  | markAllDevicesOffline (reason : String)
  | refreshOfflineStates (nowMs timeoutMs : Int)

/-- The manager, with the devices that are to stay offline.  Each is held with
the time of the data that report it offline, or that it had when the service
was lost. -/
structure Watched where
  manager : DataManager
  held : String -> Option Int

namespace DataManager

/-- The time of what the manager knows of a device. -/
def lastKnown (manager : DataManager) (own : String) : Option Int :=
  ((manager.realtime.get own).map fun data => data.node.lastUpdateTime).or
    ((manager.devices.get own).map fun node => node.lastUpdateTime)

/-- The data of a device that a message brings and that are taken. -/
def taken (manager : DataManager) (nowMs : Int) (message : Json) (own : String) :
    Option RealtimeDeviceData :=
  ((parseLatestPoints nowMs message).get own).filter fun data =>
    takes nowMs manager.deletedDevices (manager.realtime.get own) data

end DataManager

/-- Valid data that are newer than those the device is held with. -/
def releases (since : Int) (data : RealtimeDeviceData) : Bool :=
  data.valid && decide (since < data.node.lastUpdateTime)

/-- The time with which a device is held after data have been taken. -/
def heldAfter (held : Option Int) (data : RealtimeDeviceData) : Option Int :=
  if reportsOffline data then some data.node.lastUpdateTime
  else held.filter fun since => !releases since data

namespace Watched

def start (manager : DataManager) : Watched :=
  ⟨manager, fun _ => none⟩

def step (watched : Watched) : OfflineEvent -> Watched
  | .latestPoints nowMs message =>
      { manager := watched.manager.onLatestPointsMessage nowMs message
        held := fun own =>
          match watched.manager.taken nowMs message own with
          | none => watched.held own
          | some data => heldAfter (watched.held own) data }
  | .markAllDevicesOffline reason =>
      { manager := watched.manager.markAllDevicesOffline reason
        held := fun own => (watched.manager.lastKnown own).or (watched.held own) }
  | .refreshOfflineStates nowMs timeoutMs =>
      { watched with manager := watched.manager.refreshOfflineStates nowMs timeoutMs }

end Watched

/-- The user interface from any state of its stores. -/
def offlineSystem (manager : DataManager) : TransitionSystem Watched OfflineEvent where
  initial := Watched.start manager
  step := Watched.step

/-- Neither store shows the device online. -/
def ShownOffline (manager : DataManager) (own : String) : Prop :=
  (forall node, manager.devices.get own = some node -> node.online = false) ∧
    forall data, manager.realtime.get own = some data -> data.node.online = false

/-- The devices that are held are offline in both stores. -/
def StaysOffline (watched : Watched) : Prop :=
  forall own since, watched.held own = some since -> ShownOffline watched.manager own

/-- Data of a device that is held are old, or report it offline, or have a
wrong checksum, or are valid and newer.  The timer finds no device that is held
and has been updated recently, unless it sends no telemetry. -/
def OfflineCondition (watched : Watched) : OfflineEvent -> Prop
  | .latestPoints nowMs message =>
      forall own since data, watched.held own = some since ->
        watched.manager.taken nowMs message own = some data ->
        answersFreshly nowMs data -> checksumError data ∨ releases since data = true
  | .markAllDevicesOffline _ => True
  | .refreshOfflineStates nowMs timeoutMs =>
      forall own since node, watched.held own = some since ->
        watched.manager.devices.get own = some node -> node.expectTelemetry = true ->
        DataManager.recentlyUpdated nowMs timeoutMs node = false

/-! ## The stores after a step -/

theorem shownOffline_iff (manager : DataManager) (own : String) :
    ShownOffline manager own ↔
      (manager.view own).1.all (fun node => !node.online) = true ∧
        (manager.view own).2.1.all (fun data => !data.node.online) = true := by
  unfold ShownOffline DataManager.view
  dsimp only
  cases manager.devices.get own <;> cases manager.realtime.get own <;> simp

theorem shownOffline_of_view {first second : DataManager} {own : String}
    (same : first.view own = second.view own) :
    ShownOffline first own ↔ ShownOffline second own := by
  rw [shownOffline_iff, shownOffline_iff, same]

/-- Data that are taken replace both entries. -/
theorem shownOffline_latestPoints (manager : DataManager) (nowMs : Int) (message : Json)
    (own : String) :
    ShownOffline (manager.onLatestPointsMessage nowMs message) own ↔
      match manager.taken nowMs message own with
      | none => ShownOffline manager own
      | some data => data.node.online = false := by
  rw [shownOffline_iff, manager.view_onLatestPointsMessage, DataManager.taken]
  cases (parseLatestPoints nowMs message).get own with
  | none => rw [Option.filter_none, ← shownOffline_iff]
  | some data =>
      dsimp only
      rw [Option.filter_some]
      split
      · simp
      · rw [← shownOffline_iff]

theorem online_of_taken {manager : DataManager} {nowMs : Int} {message : Json} {own : String}
    {data : RealtimeDeviceData} (here : manager.taken nowMs message own = some data) :
    data.node.online = true ↔ answersFreshly nowMs data ∧ ¬ checksumError data := by
  rw [DataManager.taken, Option.filter_eq_some_iff] at here
  rcases parseLatestPoints_built here.1 with ⟨group, rfl⟩
  exact (buildRealtimeDeviceData_spec nowMs group).2

theorem shownOffline_markAll (manager : DataManager) (reason own : String) :
    ShownOffline (manager.markAllDevicesOffline reason) own := by
  rw [shownOffline_iff, manager.view_markAllDevicesOffline]
  dsimp only
  cases manager.devices.get own <;> cases manager.realtime.get own <;>
    simp [DataManager.nodeOffline, DataManager.dataOffline]

/-- The timer turns a device online exactly when it has been updated recently. -/
theorem shownOffline_refresh {manager : DataManager} {own : String}
    (shown : ShownOffline manager own) (nowMs timeoutMs : Int) :
    ShownOffline (manager.refreshOfflineStates nowMs timeoutMs) own ↔
      forall node, manager.devices.get own = some node -> node.expectTelemetry = true ->
        DataManager.recentlyUpdated nowMs timeoutMs node = false := by
  rw [shownOffline_iff, manager.view_refreshOfflineStates]
  have before := (shownOffline_iff manager own).mp shown
  cases found : manager.devices.get own with
  | none =>
      dsimp only
      refine iff_of_true before ?_
      intro node absent
      cases absent
  | some node =>
      have offline := shown.1 node found
      dsimp only
      unfold DataManager.refreshedView DataManager.needsRefresh
      rw [offline]
      cases expected : node.expectTelemetry with
      | false =>
          refine iff_of_true before ?_
          intro other same expects
          cases same
          rw [expected] at expects
          cases expects
      | true =>
          cases recent : DataManager.recentlyUpdated nowMs timeoutMs node with
          | false =>
              refine iff_of_true before ?_
              intro other same _
              cases same
              exact recent
          | true =>
              refine iff_of_false ?_ ?_
              · rintro ⟨nodes, -⟩
                simp [DataManager.view, found] at nodes
              · intro old
                exact Bool.false_ne_true ((old node rfl expected).symm.trans recent)

/-! ## Steps and runs -/

theorem heldAfter_eq_some {held : Option Int} {data : RealtimeDeviceData} {since : Int}
    (stays : heldAfter held data = some since) :
    reportsOffline data = true ∨
      exists before, held = some before ∧ releases before data = false := by
  unfold heldAfter at stays
  split at stays
  · rename_i reported
    exact Or.inl reported
  · rw [Option.filter_eq_some_iff] at stays
    exact Or.inr ⟨since, stays.1, by simpa using stays.2⟩

theorem staysOffline_step_iff {watched : Watched} (stays : StaysOffline watched)
    (event : OfflineEvent) :
    StaysOffline (watched.step event) ↔ OfflineCondition watched event := by
  cases event with
  | latestPoints nowMs message =>
      constructor
      · intro after own since data held here fresh
        by_contra neither
        rw [not_or, Bool.not_eq_true] at neither
        have still : (watched.step (.latestPoints nowMs message)).held own = some since := by
          change (match watched.manager.taken nowMs message own with
            | none => watched.held own
            | some data => heldAfter (watched.held own) data) = some since
          rw [here, held]
          dsimp only
          rw [heldAfter, fresh.1, if_neg Bool.false_ne_true, Option.filter_some, neither.2]
          rfl
        have shown := (shownOffline_latestPoints watched.manager nowMs message own).mp
          (after own since still)
        rw [here] at shown
        have online := (online_of_taken here).mpr ⟨fresh, neither.1⟩
        exact Bool.false_ne_true (shown.symm.trans online)
      · intro condition own since held
        apply (shownOffline_latestPoints watched.manager nowMs message own).mpr
        change (match watched.manager.taken nowMs message own with
          | none => watched.held own
          | some data => heldAfter (watched.held own) data) = some since at held
        cases here : watched.manager.taken nowMs message own with
        | none =>
            rw [here] at held
            exact stays own since held
        | some data =>
            rw [here] at held
            dsimp only
            rw [← Bool.not_eq_true, online_of_taken here]
            rintro ⟨fresh, checked⟩
            rcases heldAfter_eq_some held with reported | ⟨before, was, kept⟩
            · exact Bool.false_ne_true (fresh.1.symm.trans reported)
            · rcases condition own before data was here fresh with checksum | released
              · exact checked checksum
              · exact Bool.false_ne_true (kept.symm.trans released)
  | markAllDevicesOffline reason =>
      exact iff_of_true (fun own since _ => shownOffline_markAll watched.manager reason own) trivial
  | refreshOfflineStates nowMs timeoutMs =>
      constructor
      · intro after own since node held
        exact (shownOffline_refresh (stays own since held) nowMs timeoutMs).mp
          (after own since held) node
      · intro condition own since held
        apply (shownOffline_refresh (stays own since held) nowMs timeoutMs).mpr
        exact fun node => condition own since node held

/-- A run keeps the devices offline that are to stay so exactly if each of its
steps meets the condition. -/
theorem stays_offline_run_iff (manager : DataManager) (events : List OfflineEvent) :
    (forall before after, events = before ++ after ->
      StaysOffline ((offlineSystem manager).run before)) ↔
      (offlineSystem manager).Admissible OfflineCondition events := by
  have start : StaysOffline (offlineSystem manager).initial := by
    intro own since held
    cases held
  have step (watched : Watched) (event : OfflineEvent) (_ : True)
      (stays : StaysOffline watched) :
      StaysOffline ((offlineSystem manager).step watched event) ↔ OfflineCondition watched event :=
    staysOffline_step_iff stays event
  exact (offlineSystem manager).everywhere_iff_of_forall trivial start (fun _ _ _ => trivial) step
    events

/-- One point that reports a device as not answering, received at 1000. -/
def silentPoint : Json :=
  .obj [("factoryId", .str "factory_001"), ("areaId", .str "area_001"),
    ("gatewayId", .str "gateway_001"), ("portId", .str "port_001"), ("deviceId", .int 3),
    ("deviceType", .str "meter"), ("pointKey", .str "voltage"), ("valid", .bool false),
    ("errorMessage", .str "device_offline"), ("timestampMs", .int 1000),
    ("receiveTimeMs", .int 1000)]

def silentMessage : Json :=
  .obj [("type", .str "latest_points"), ("points", .arr [silentPoint])]

/-- A second later the timer shows the device online. -/
theorem silent_turned_online :
    ¬ StaysOffline ((offlineSystem DataManager.start).run
      [.latestPoints 1000 silentMessage, .refreshOfflineStates 2000 30000]) := by
  intro stays
  have shown := stays "factory_001/area_001/gateway_001/port_001/3" 1000 (by decide +kernel)
  rw [shownOffline_iff] at shown
  revert shown
  decide +kernel

end Realtime
end Ui
end Imx6Gateway
