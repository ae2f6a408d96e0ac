import Imx6Gateway.LocalUi.Widget
import Mathlib.Data.List.Nodup

namespace Imx6Gateway
namespace LocalUi

open Library

/-!
# What the interface on the board keeps true

No two slaves have the same key, so that a loop that removes slaves removes
only the one it is at, and its index stays in the list.  The set of connected
slots and the table of the ports say the same of every slot.
-/

abbrev SlaveDeviceInfo.key (slave : SlaveDeviceInfo) : Int × Int × String :=
  (slave.masterSlot, slave.slaveAddr, slave.deviceType)

theorem SlaveDeviceInfo.named_iff {slave : SlaveDeviceInfo} {masterSlot slaveAddr : Int}
    {deviceType : String} :
    slave.named masterSlot slaveAddr deviceType = true ↔
      slave.key = (masterSlot, slaveAddr, deviceType) := by
  simp [named, key, and_assoc]

structure SlaveDeviceInfo.Valid (slave : SlaveDeviceInfo) : Prop where
  masterSlot : 0 ≤ slave.masterSlot
  slaveAddr : 0 < slave.slaveAddr
  deviceType : slave.deviceType ≠ ""

structure SlavesWellFormed (slaves : List SlaveDeviceInfo) : Prop where
  valid : forall slave, slave ∈ slaves -> slave.Valid
  distinct : (slaves.map SlaveDeviceInfo.key).Nodup

namespace SlavesWellFormed

variable {slaves others : List SlaveDeviceInfo}

theorem nil : SlavesWellFormed [] :=
  ⟨fun _ absent => absurd absent List.not_mem_nil, List.nodup_nil⟩

theorem sublist (holds : SlavesWellFormed slaves) (fewer : others.Sublist slaves) :
    SlavesWellFormed others where
  valid := fun slave inside => holds.valid slave (fewer.subset inside)
  distinct := holds.distinct.sublist (fewer.map _)

/-- Only the keys count. -/
theorem of_map_eq (holds : SlavesWellFormed slaves)
    (same : others.map SlaveDeviceInfo.key = slaves.map SlaveDeviceInfo.key) :
    SlavesWellFormed others where
  valid := by
    intro slave inside
    have listed : slave.key ∈ slaves.map SlaveDeviceInfo.key :=
      same ▸ List.mem_map_of_mem inside
    rcases List.mem_map.mp listed with ⟨twin, there, equal⟩
    have valid := holds.valid twin there
    injection equal with slot rest
    injection rest with address type
    exact ⟨slot ▸ valid.masterSlot, address ▸ valid.slaveAddr, type ▸ valid.deviceType⟩
  distinct := same ▸ holds.distinct

theorem push (holds : SlavesWellFormed slaves) {slave : SlaveDeviceInfo} (valid : slave.Valid)
    (fresh : slave.key ∉ slaves.map SlaveDeviceInfo.key) : SlavesWellFormed (slaves ++ [slave]) where
  valid := by
    intro other inside
    rcases List.mem_append.mp inside with old | new
    · exact holds.valid other old
    · rw [List.mem_singleton.mp new]
      exact valid
  distinct := by
    rw [List.map_append, List.map_singleton]
    exact holds.distinct.append (List.nodup_singleton _) (by simpa using fresh)

end SlavesWellFormed

/-! ## The operations on the list -/

/-- A change of the first slave with a key leaves all keys. -/
theorem map_key_replaceF {change : SlaveDeviceInfo -> SlaveDeviceInfo}
    (kept : forall slave, (change slave).key = slave.key) (masterSlot slaveAddr : Int)
    (deviceType : String) (slaves : List SlaveDeviceInfo) :
    (slaves.replaceF fun slave =>
        if slave.named masterSlot slaveAddr deviceType then some (change slave) else none).map
      SlaveDeviceInfo.key = slaves.map SlaveDeviceInfo.key := by
  induction slaves with
  | nil => rfl
  | cons slave slaves ih =>
      rw [List.replaceF_cons]
      by_cases named : slave.named masterSlot slaveAddr deviceType = true
      · rw [if_pos named]
        exact congrArg (fun first => first :: slaves.map SlaveDeviceInfo.key) (kept slave)
      · rw [if_neg named]
        exact congrArg (fun rest => slave.key :: rest) ih

theorem map_key_updateSlaveOnline (masterSlot slaveAddr : Int) (deviceType : String)
    (online : Bool) (slaves : List SlaveDeviceInfo) :
    (updateSlaveOnline masterSlot slaveAddr deviceType online slaves).map SlaveDeviceInfo.key =
      slaves.map SlaveDeviceInfo.key :=
  @map_key_replaceF (fun slave => { slave with online := online }) (fun _ => rfl) masterSlot
    slaveAddr deviceType slaves

theorem any_named_iff {slaves : List SlaveDeviceInfo} {masterSlot slaveAddr : Int}
    {deviceType : String} :
    (slaves.any fun slave => slave.named masterSlot slaveAddr deviceType) = true ↔
      (masterSlot, slaveAddr, deviceType) ∈ slaves.map SlaveDeviceInfo.key := by
  rw [List.any_eq_true, List.mem_map]
  constructor
  · rintro ⟨slave, inside, named⟩
    exact ⟨slave, inside, SlaveDeviceInfo.named_iff.mp named⟩
  · rintro ⟨slave, inside, same⟩
    exact ⟨slave, inside, SlaveDeviceInfo.named_iff.mpr same⟩

/-- After an upsert the key is there, if it is a valid one, and no other key
comes or goes. -/
theorem map_key_upsert (masterSlot slaveAddr : Int) (deviceName deviceType : String)
    (slaves : List SlaveDeviceInfo) :
    (upsertRegisteredSlave masterSlot slaveAddr deviceName deviceType slaves).map
        SlaveDeviceInfo.key =
      if masterSlot < 0 ∨ slaveAddr ≤ 0 ∨ deviceType = "" ∨
          (masterSlot, slaveAddr, deviceType) ∈ slaves.map SlaveDeviceInfo.key then
        slaves.map SlaveDeviceInfo.key
      else slaves.map SlaveDeviceInfo.key ++ [(masterSlot, slaveAddr, deviceType)] := by
  unfold upsertRegisteredSlave
  dsimp only
  by_cases invalid : masterSlot < 0 ∨ slaveAddr ≤ 0 ∨ deviceType = ""
  · rw [if_pos invalid, if_pos]
    rcases invalid with slot | address | type
    · exact Or.inl slot
    · exact Or.inr (Or.inl address)
    · exact Or.inr (Or.inr (Or.inl type))
  · rw [if_neg invalid]
    by_cases known : (masterSlot, slaveAddr, deviceType) ∈ slaves.map SlaveDeviceInfo.key
    · rw [if_pos (any_named_iff.mpr known), if_pos (Or.inr (Or.inr (Or.inr known)))]
      exact @map_key_replaceF
        (fun slave => { slave with displayName := displayName slaveAddr deviceName deviceType })
        (fun _ => rfl) masterSlot slaveAddr deviceType slaves
    · have absent : ¬ (masterSlot < 0 ∨ slaveAddr ≤ 0 ∨ deviceType = "" ∨
          (masterSlot, slaveAddr, deviceType) ∈ slaves.map SlaveDeviceInfo.key) := by
        rw [not_or, not_or] at invalid
        simp only [not_or]
        exact ⟨invalid.1, invalid.2.1, invalid.2.2, known⟩
      rw [if_neg (mt any_named_iff.mp known), if_neg absent, List.map_append, List.map_singleton]

theorem SlavesWellFormed.upsert {slaves : List SlaveDeviceInfo} (holds : SlavesWellFormed slaves)
    (masterSlot slaveAddr : Int) (deviceName deviceType : String) :
    SlavesWellFormed (upsertRegisteredSlave masterSlot slaveAddr deviceName deviceType slaves) := by
  have keys := map_key_upsert masterSlot slaveAddr deviceName deviceType slaves
  split at keys
  · exact holds.of_map_eq keys
  · rename_i new
    simp only [not_or, not_lt, not_le] at new
    have pushed := holds.push
      (show (SlaveDeviceInfo.mk masterSlot slaveAddr deviceType "" false).Valid from
        ⟨new.1, new.2.1, new.2.2.1⟩) new.2.2.2
    exact pushed.of_map_eq (by rw [keys, List.map_append, List.map_singleton])

/-! ## The loops -/

theorem removeRegisteredSlave_eq (masterSlot slaveAddr : Int) (deviceType : String)
    (table : SlaveTable) :
    removeRegisteredSlave masterSlot slaveAddr deviceType table =
      some (table.1.filter fun slave => !slave.named masterSlot slaveAddr deviceType,
        Function.update table.2 (relayStateKey masterSlot slaveAddr) none) := by
  have loop := @removeDown_all (List SlaveDeviceInfo) SlaveDeviceInfo id
    (fun index slave slaves =>
      some (if slave.named masterSlot slaveAddr deviceType then slaves.eraseIdx index else slaves))
    (fun _ => True) (fun slave => !slave.named masterSlot slaveAddr deviceType)
    (by
      intro slaves before slave after _ split
      refine ⟨_, rfl, trivial, ?_⟩
      rw [id_eq] at split
      rw [id_eq, split]
      by_cases named : slave.named masterSlot slaveAddr deviceType = true
      · rw [if_pos named, List.eraseIdx_append_of_length_le (le_refl _), Nat.sub_self,
          List.eraseIdx_cons_zero]
        simp [named]
      · rw [if_neg named]
        simp [named])
    table.1 trivial
  rcases loop with ⟨slaves, run, -, kept⟩
  rw [id_eq] at run kept
  rw [removeRegisteredSlave, run, Option.map_some, kept, id_eq]

/-- With distinct keys the removal of one slave's key removes that slave. -/
theorem filter_not_named {before after : List SlaveDeviceInfo} {slave : SlaveDeviceInfo}
    (distinct : ((before ++ slave :: after).map SlaveDeviceInfo.key).Nodup) :
    ((before ++ slave :: after).filter fun other =>
      !other.named slave.masterSlot slave.slaveAddr slave.deviceType) = before ++ after := by
  rw [List.map_append, List.map_cons, List.nodup_append'] at distinct
  rcases distinct with ⟨-, back, apart⟩
  have unnamed : forall other : SlaveDeviceInfo, other.key ≠ slave.key ->
      (!other.named slave.masterSlot slave.slaveAddr slave.deviceType) = true := by
    intro other different
    rw [Bool.not_eq_true', Bool.eq_false_iff]
    exact mt SlaveDeviceInfo.named_iff.mp different
  rw [List.filter_append, List.filter_cons_of_neg
    (by rw [SlaveDeviceInfo.named_iff.mpr rfl]; exact Bool.false_ne_true)]
  congr 1
  · apply List.filter_eq_self.mpr
    intro other inside
    apply unnamed
    intro same
    exact apart (List.mem_map_of_mem inside) (same ▸ List.mem_cons_self)
  · apply List.filter_eq_self.mpr
    intro other inside
    apply unnamed
    intro same
    exact (List.nodup_cons.mp back).1 (same ▸ List.mem_map_of_mem inside)

/-- The loops that remove slaves by their keys stay in the list and remove
those that meet the condition. -/
theorem removeSlavesWhere_eq (condition : SlaveDeviceInfo -> Bool) {table : SlaveTable}
    (distinct : (table.1.map SlaveDeviceInfo.key).Nodup) :
    exists relayStates, removeSlavesWhere condition table =
      some (table.1.filter fun slave => !condition slave, relayStates) := by
  have loop := @removeDown_all SlaveTable SlaveDeviceInfo Prod.fst
    (fun _ slave table =>
      if condition slave then
        removeRegisteredSlave slave.masterSlot slave.slaveAddr slave.deviceType table
      else some table)
    (fun table => (table.1.map SlaveDeviceInfo.key).Nodup) (fun slave => !condition slave)
    (by
      intro table before slave after distinct split
      by_cases removed : condition slave = true
      · refine ⟨_, by rw [if_pos removed, removeRegisteredSlave_eq], ?_, ?_⟩
        · exact distinct.sublist (List.filter_sublist.map _)
        · rw [split] at distinct
          rw [split, filter_not_named distinct]
          simp [removed]
      · refine ⟨table, by rw [if_neg removed], distinct, ?_⟩
        rw [split]
        simp [removed])
    table distinct
  rcases loop with ⟨final, run, -, kept⟩
  exact ⟨final.2, by rw [removeSlavesWhere, run, ← kept]⟩

/-! ## The tables of the widget -/

namespace Widget

structure WellFormed (widget : Widget) : Prop where
  slaves : SlavesWellFormed widget.slaveDevices
  ports : forall slot, slot ∈ widget.connectedMasterSlots ↔
    exists info, widget.runtimePorts slot = some info ∧ info.connected = true

/-- The slaves keep their keys, and the ports are as they were. -/
structure SameTables (before after : Widget) : Prop where
  slaves : after.slaveDevices.map SlaveDeviceInfo.key = before.slaveDevices.map SlaveDeviceInfo.key
  connected : after.connectedMasterSlots = before.connectedMasterSlots
  ports : after.runtimePorts = before.runtimePorts

namespace SameTables

theorem refl (widget : Widget) : SameTables widget widget := ⟨rfl, rfl, rfl⟩

theorem trans {first second third : Widget} (one : SameTables first second)
    (two : SameTables second third) : SameTables first third :=
  ⟨two.slaves.trans one.slaves, two.connected.trans one.connected, two.ports.trans one.ports⟩

theorem sendCommand (env : Surroundings) (cmd : String) (payload : Members) (widget : Widget) :
    SameTables widget (widget.sendCommand env cmd payload).2 := by
  unfold Widget.sendCommand
  dsimp only
  split
  · exact .refl widget
  · split
    · exact ⟨rfl, rfl, rfl⟩
    · exact ⟨rfl, rfl, rfl⟩

theorem of_sendCommand {env : Surroundings} {cmd : String} {payload : Members}
    {widget after : Widget} {seq : Option UInt32}
    (run : widget.sendCommand env cmd payload = (seq, after)) : SameTables widget after := by
  have same := sendCommand env cmd payload widget
  rw [run] at same
  exact same

theorem withPending (pendingAddSlave pendingRemoveSlave : Option PendingSlave) (widget : Widget) :
    SameTables widget (widget.withPending pendingAddSlave pendingRemoveSlave) :=
  ⟨rfl, rfl, rfl⟩

theorem requestRuntimeRefresh (env : Surroundings) (widget : Widget) :
    SameTables widget (widget.requestRuntimeRefresh env) :=
  (sendCommand env _ _ widget).trans (sendCommand env _ _ _)

theorem failPendingRelay (widget : Widget) : SameTables widget widget.failPendingRelay := by
  unfold Widget.failPendingRelay
  split
  · exact .refl widget
  · exact ⟨rfl, rfl, rfl⟩

/-- The relay fails only if it has the number. -/
theorem failPendingRelay_if (condition : Prop) [Decidable condition] (widget : Widget) :
    SameTables widget (if condition then widget.failPendingRelay else widget) := by
  split
  · exact .failPendingRelay widget
  · exact .refl widget

theorem commandTimeout (seq : UInt32) (widget : Widget) :
    SameTables widget (widget.commandTimeout seq) := by
  unfold Widget.commandTimeout
  split
  · exact .refl widget
  · refine .trans ?_ (.failPendingRelay_if _ _)
    exact ⟨rfl, rfl, rfl⟩

theorem handleOfflineCacheAck (env : Surroundings) (cmd : String) (ok : Bool) (widget : Widget) :
    SameTables widget (widget.handleOfflineCacheAck env cmd ok) := by
  unfold Widget.handleOfflineCacheAck
  split
  · exact .refl widget
  · exact .sendCommand env _ _ widget

theorem commandFailed (cmd : String) (seq : UInt32) (widget : Widget) :
    SameTables widget (widget.commandFailed cmd seq) :=
  (withPending _ _ widget).trans (.failPendingRelay_if _ _)

theorem relayAcknowledged (env : Surroundings) (seq : UInt32) (widget : Widget) :
    SameTables widget (widget.relayAcknowledged env seq) := by
  have same := requestRuntimeRefresh env widget.acknowledgeRelay
  exact ⟨same.slaves, same.connected, same.ports⟩

theorem markMasterRuntimeOffline (masterSlot : Int) (widget : Widget) :
    SameTables widget (widget.markMasterRuntimeOffline masterSlot) := by
  refine ⟨?_, rfl, rfl⟩
  rw [Widget.markMasterRuntimeOffline, List.map_map]
  apply List.map_congr_left
  intro slave _
  rw [Function.comp_apply]
  split
  · rfl
  · rfl

theorem setOnline (masterSlot slaveAddr : Int) (deviceType : String) (online : Bool)
    (widget : Widget) :
    SameTables widget (widget.setOnline masterSlot slaveAddr deviceType online) :=
  ⟨map_key_updateSlaveOnline masterSlot slaveAddr deviceType online _, rfl, rfl⟩

theorem takeStatus (nowMs masterSlot : Int) (widget : Widget) (device : DeviceData) :
    SameTables widget (widget.takeStatus nowMs masterSlot device) := by
  unfold Widget.takeStatus
  dsimp only
  split
  · exact .refl widget
  · split
    · exact .setOnline _ _ _ _ widget
    · split
      · exact .setOnline _ _ _ _ widget
      · exact .trans (.setOnline _ _ _ _ widget) ⟨rfl, rfl, rfl⟩
      · exact .refl widget

theorem handleDeviceStatus (nowMs : Int) (pack : DataPack) (widget : Widget) :
    SameTables widget (widget.handleDeviceStatus nowMs pack) := by
  rw [Widget.handleDeviceStatus]
  induction pack.devices generalizing widget with
  | nil => exact .refl widget
  | cons device devices ih => exact (takeStatus nowMs pack.masterSlot widget device).trans (ih _)

theorem handleRequest (env : Surroundings) (widget : Widget) (request : Request) :
    SameTables widget (widget.handleRequest env request) := by
  cases request with
  | scanPorts | connectMaster | disconnectMaster | offlineCacheConfig | refreshOfflineCache
  | clearOfflineCache | flushOfflineCache => exact .sendCommand env _ _ widget
  | addSlave slot slaveId deviceType pollIntervalMs thresholdPayload =>
      rw [Widget.handleRequest, requestAddSlave]
      split
      · rename_i seq sent run
        exact (of_sendCommand run).trans ⟨rfl, rfl, rfl⟩
      · rename_i unsent run
        exact of_sendCommand run
  | removeSlave masterSlot slaveAddr deviceType =>
      rw [Widget.handleRequest, requestRemoveSlave]
      split
      · exact .refl widget
      · split
        · rename_i seq sent run
          exact (of_sendCommand run).trans ⟨rfl, rfl, rfl⟩
        · rename_i unsent run
          exact of_sendCommand run
  | relayCommand masterSlot slaveAddr channel on =>
      rw [Widget.handleRequest, requestRelay]
      split
      · exact .refl widget
      · dsimp only
        split
        · rename_i seq sent run
          exact (of_sendCommand run).trans ⟨rfl, rfl, rfl⟩
        · rename_i unsent run
          exact of_sendCommand run

end SameTables

namespace WellFormed

variable {widget : Widget}

theorem constructed : WellFormed .constructed where
  slaves := .nil
  ports := by
    intro slot
    constructor
    · exact fun inside => absurd inside List.not_mem_nil
    · rintro ⟨info, port, -⟩
      cases port

theorem of_same {after : Widget} (holds : widget.WellFormed) (same : SameTables widget after) :
    after.WellFormed where
  slaves := holds.slaves.of_map_eq same.slaves
  ports := by
    rw [same.connected, same.ports]
    exact holds.ports

theorem setPort (holds : widget.WellFormed) (slot : Int) (info : MasterPortInfo) :
    (widget.setPort slot info).WellFormed where
  slaves := holds.slaves
  ports := by
    intro other
    rw [Widget.setPort]
    dsimp only
    by_cases same : other = slot
    · subst same
      rw [Function.update_self]
      cases connected : info.connected with
      | true => simp [connected]
      | false => simp [connected]
    · rw [Function.update_of_ne same, ← holds.ports other]
      cases info.connected with
      | true => simp [same]
      | false => simp [same]

theorem withSlaves (holds : widget.WellFormed) {slaves : List SlaveDeviceInfo}
    (wellFormed : SlavesWellFormed slaves) :
    WellFormed { widget with slaveDevices := slaves } :=
  ⟨wellFormed, holds.ports⟩

theorem portStatusUpdated (holds : widget.WellFormed) (env : Surroundings) (slot : Int)
    (port : String) (baud : Int) (connected : Bool) (message : String) :
    (widget.portStatusUpdated env slot port baud connected message).WellFormed := by
  unfold Widget.portStatusUpdated
  dsimp only
  split
  · split
    · exact (holds.setPort slot _).of_same (.sendCommand env _ _ _)
    · exact holds.setPort slot _
  · exact (holds.setPort slot _).of_same (.markMasterRuntimeOffline slot _)

theorem handleIpcDisconnected (holds : widget.WellFormed) :
    widget.handleIpcDisconnected.WellFormed where
  slaves := by
    apply holds.slaves.of_map_eq
    rw [Widget.handleIpcDisconnected, failAllPendingCommands, List.map_map]
    rfl
  ports := by
    intro slot
    constructor
    · exact fun inside => absurd inside List.not_mem_nil
    · rintro ⟨info, port, -⟩
      cases port

theorem takePort (holds : widget.WellFormed) (slot : Int) (object : Json) :
    (widget.takePort slot object).WellFormed := by
  have set := holds.setPort slot
    { deviceNode := if Ui.textOr (object.lookup "port") "" = "" then
        ((widget.runtimePorts slot).getD {}).deviceNode else Ui.textOr (object.lookup "port") ""
      baudRate := if 0 < Ui.intOr (object.lookup "baud") 9600 then
        Ui.intOr (object.lookup "baud") 9600 else ((widget.runtimePorts slot).getD {}).baudRate
      connected := Ui.boolOr (object.lookup "connected") false }
  apply set.withSlaves
  have every : forall (devices : List (Int × String × String)) (slaves : List SlaveDeviceInfo),
      SlavesWellFormed slaves -> SlavesWellFormed (devices.foldl (fun slaves device =>
        upsertRegisteredSlave slot device.1 device.2.1 device.2.2 slaves) slaves) := by
    intro devices
    induction devices with
    | nil => exact fun slaves wellFormed => wellFormed
    | cons device devices ih =>
        exact fun slaves wellFormed => ih _ (wellFormed.upsert slot device.1 device.2.1 device.2.2)
  exact every _ _ set.slaves

theorem takePorts (ports : List (Int × Json)) (holds : widget.WellFormed) :
    (ports.foldl (fun widget port => widget.takePort port.1 port.2) widget).WellFormed := by
  induction ports generalizing widget with
  | nil => exact holds
  | cons port ports ih => exact ih (holds.takePort port.1 port.2)

/-- A removal loop of a well-formed widget ends, and leaves one. -/
theorem removeSlavesWhere (holds : widget.WellFormed) (condition : SlaveDeviceInfo -> Bool) :
    exists table, LocalUi.removeSlavesWhere condition widget.slaveTable = some table ∧
      table.1 = widget.slaveDevices.filter (fun slave => !condition slave) ∧
      (widget.withTable table).WellFormed := by
  have distinct : (widget.slaveTable.1.map SlaveDeviceInfo.key).Nodup := holds.slaves.distinct
  rcases removeSlavesWhere_eq condition distinct with ⟨relayStates, run⟩
  exact ⟨_, run, rfl, holds.slaves.sublist List.filter_sublist, holds.ports⟩

theorem handleRuntimeStateSnapshot (holds : widget.WellFormed) (ports : List Json) :
    exists next, widget.handleRuntimeStateSnapshot ports = some next ∧ next.WellFormed := by
  rcases (holds.takePorts (ports.filterMap snapshotPort)).removeSlavesWhere (goneFrom ports)
    with ⟨table, run, -, next⟩
  exact ⟨_, by rw [Widget.handleRuntimeStateSnapshot, run, Option.map_some], next⟩

theorem handleRemoteRemoveDeviceAck (holds : widget.WellFormed) (ack : Json) :
    exists next, widget.handleRemoteRemoveDeviceAck ack = some next ∧ next.WellFormed := by
  unfold Widget.handleRemoteRemoveDeviceAck
  split
  split
  · exact ⟨widget, rfl, holds⟩
  · rename_i masterSlot slaveAddr _ _
    rcases holds.removeSlavesWhere
      (fun slave => slave.masterSlot = masterSlot && slave.slaveAddr = slaveAddr)
      with ⟨table, run, -, next⟩
    exact ⟨_, by rw [run, Option.map_some], next⟩

theorem commandAckReceived (holds : widget.WellFormed) (env : Surroundings) (seq : UInt32)
    (cmd status : String) (ackRoot : Json) :
    exists next, widget.commandAckReceived env seq cmd status ackRoot = some next ∧
      next.WellFormed := by
  have completed : (widget.completePendingCommand seq).WellFormed := holds.of_same ⟨rfl, rfl, rfl⟩
  unfold Widget.commandAckReceived
  dsimp only
  split
  · exact ⟨_, rfl, completed.of_same (.handleOfflineCacheAck env _ _ _)⟩
  · split
    · exact ⟨_, rfl, completed.of_same (.commandFailed _ _ _)⟩
    · split
      · exact ⟨_, rfl, completed.of_same
          ((SameTables.withPending _ _ _).trans (.requestRuntimeRefresh env _))⟩
      · split
        · rcases completed.handleRemoteRemoveDeviceAck ackRoot with ⟨removed, run, wellFormed⟩
          exact ⟨_, by rw [run, Option.map_some],
            wellFormed.of_same
              ((SameTables.withPending _ _ _).trans (.requestRuntimeRefresh env _))⟩
        · split
          · exact ⟨_, rfl, completed.of_same (.relayAcknowledged env seq _)⟩
          · split
            · exact ⟨_, rfl, completed⟩
            · split
              · exact ⟨_, rfl, completed.of_same (.requestRuntimeRefresh env _)⟩
              · exact ⟨_, rfl, completed⟩

theorem takeAck (holds : widget.WellFormed) (env : Surroundings) (root : Json) :
    exists next, widget.takeAck env root = some next ∧ next.WellFormed := by
  have answered : (widget.portAnswered env root).WellFormed := by
    unfold Widget.portAnswered
    dsimp only
    split
    · exact holds.portStatusUpdated env _ _ _ _ _
    · exact holds
  exact answered.commandAckReceived env _ _ _ root

section Steps

variable (doubleOfText : String -> Rat) (fromJson : String -> Option Json)

theorem takeFrame (holds : widget.WellFormed) (env : Surroundings) (frame : String) :
    exists next, widget.takeFrame doubleOfText fromJson env frame = some next ∧
      next.WellFormed := by
  unfold Widget.takeFrame
  split
  · dsimp only
    split
    · exact holds.takeAck env _
    · split
      · exact ⟨widget, rfl, holds⟩
      · split
        · exact holds.handleRuntimeStateSnapshot _
        · split
          · exact ⟨widget, rfl, holds⟩
          · split
            · exact ⟨_, rfl, holds.portStatusUpdated env _ _ _ _ _⟩
            · split
              · exact ⟨_, rfl, holds.withSlaves (holds.slaves.upsert _ _ _ _)⟩
              · split
                · exact ⟨widget, rfl, holds⟩
                · split
                  · exact ⟨_, rfl, holds.of_same (.handleDeviceStatus _ _ _)⟩
                  · exact ⟨widget, rfl, holds⟩
  · exact ⟨widget, rfl, holds⟩

theorem step (holds : widget.WellFormed) (env : Surroundings) (event : Event) :
    exists next, widget.step doubleOfText fromJson env event = some next ∧ next.WellFormed := by
  cases event with
  | connected =>
      have connected : WellFormed { widget with isConnected := true } := holds.of_same ⟨rfl, rfl, rfl⟩
      exact ⟨_, rfl, connected.of_same
        ((SameTables.requestRuntimeRefresh env _).trans (.sendCommand env _ _ _))⟩
  | disconnected => exact ⟨_, rfl, holds.handleIpcDisconnected⟩
  | received frame => exact holds.takeFrame doubleOfText fromJson env frame
  | requested request => exact ⟨_, rfl, holds.of_same (.handleRequest env widget request)⟩
  | timedOut seq => exact ⟨_, rfl, holds.of_same (.commandTimeout seq widget)⟩
  | confirmTimedOut seq => exact ⟨_, rfl, holds.of_same ⟨rfl, rfl, rfl⟩⟩

end Steps

end WellFormed
end Widget

/-- Whatever happens, no loop leaves the list of slaves, the keys of the
slaves are distinct and valid, and the connected slots are those whose port is
connected. -/
theorem widget_wellFormed_run (doubleOfText : String -> Rat) (fromJson : String -> Option Json)
    (events : List (Surroundings × Widget.Event)) :
    exists widget, (widgetSystem doubleOfText fromJson).run events = some widget ∧
      widget.WellFormed := by
  let invariant (state : Option Widget) : Prop :=
    exists widget, state = some widget ∧ widget.WellFormed
  have start : invariant (widgetSystem doubleOfText fromJson).initial := ⟨_, rfl, .constructed⟩
  refine (widgetSystem doubleOfText fromJson).invariant_everywhere start ?_ events
  rintro state event ⟨widget, rfl, holds⟩
  exact holds.step doubleOfText fromJson event.1 event.2

end LocalUi
end Imx6Gateway
