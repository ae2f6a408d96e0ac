import Imx6Gateway.Library.Separator
import Imx6Gateway.LocalUi.WidgetInvariant
import Imx6Gateway.Pc.Registered

namespace Imx6Gateway
namespace LocalUi

open Library

/-!
# A snapshot of the ports

After a snapshot the interface has exactly its slaves for the slots it names,
and the slaves of the other slots as they were.  The slaves are compared by a
text; slot and address have no colon, so the text says which slave it is.
-/

abbrev SlaveKey : Type := Int × Int × String

theorem colon_not_mem_toString (value : Int) : ':' ∉ (toString value).toList :=
  Pc.not_mem_toString_int (by decide) rfl value

theorem toList_slaveKey (masterSlot slaveAddr : Int) (deviceType : String) :
    (slaveKey masterSlot slaveAddr deviceType).toList =
      (toString masterSlot).toList ++
        ':' :: ((toString slaveAddr).toList ++ ':' :: deviceType.toList) := by
  rw [slaveKey]
  simp only [String.toList_append, List.append_assoc]
  rfl

theorem slaveKey_inj {masterSlot slaveAddr otherSlot otherAddr : Int}
    {deviceType otherType : String} :
    slaveKey masterSlot slaveAddr deviceType = slaveKey otherSlot otherAddr otherType ↔
      (masterSlot, slaveAddr, deviceType) = (otherSlot, otherAddr, otherType) := by
  rw [← String.toList_inj, toList_slaveKey, toList_slaveKey,
    append_first_separator_inj (colon_not_mem_toString _) (colon_not_mem_toString _),
    append_first_separator_inj (colon_not_mem_toString _) (colon_not_mem_toString _),
    String.toList_inj, String.toList_inj, String.toList_inj, Pc.toString_int_inj,
    Pc.toString_int_inj, Prod.mk.injEq, Prod.mk.injEq]

namespace Widget

/-- The slaves of a snapshot. -/
def snapshotKeys (ports : List Json) : List SlaveKey :=
  (ports.filterMap snapshotPort).flatMap fun port =>
    (snapshotDevices port.2).map fun device => (port.1, device.1, device.2.2)

theorem mem_snapshotSlaveKeys {ports : List Json} {masterSlot slaveAddr : Int}
    {deviceType : String} :
    slaveKey masterSlot slaveAddr deviceType ∈ snapshotSlaveKeys ports ↔
      (masterSlot, slaveAddr, deviceType) ∈ snapshotKeys ports := by
  simp only [snapshotSlaveKeys, snapshotKeys, List.mem_flatMap, List.mem_map]
  constructor
  · rintro ⟨port, listed, device, inside, same⟩
    exact ⟨port, listed, device, inside, slaveKey_inj.mp same⟩
  · rintro ⟨port, listed, device, inside, same⟩
    exact ⟨port, listed, device, inside, slaveKey_inj.mpr same⟩

theorem goneFrom_eq_true_iff {ports : List Json} {slave : SlaveDeviceInfo} :
    goneFrom ports slave = true ↔
      slave.masterSlot ∈ snapshotSlots ports ∧ slave.key ∉ snapshotKeys ports := by
  rw [goneFrom, Bool.and_eq_true, List.contains_iff_mem, Bool.not_eq_true', Bool.eq_false_iff,
    ne_eq, List.contains_iff_mem, mem_snapshotSlaveKeys]

/-- What the reader returns has a slot, an address and a type. -/
theorem snapshotPort_slot {value : Json} {port : Int × Json} (read : snapshotPort value = some port) :
    0 ≤ port.1 := by
  unfold snapshotPort at read
  split at read
  · dsimp only at read
    split at read
    · cases read
    · rename_i valid
      cases read
      exact not_lt.mp valid
  · cases read

theorem snapshotDevice_valid {value : Json} {device : Int × String × String}
    (read : snapshotDevice value = some device) : 0 < device.1 ∧ device.2.2 ≠ "" := by
  unfold snapshotDevice at read
  split at read
  · dsimp only at read
    split at read
    · cases read
    · rename_i valid
      cases read
      rw [not_or] at valid
      exact ⟨not_le.mp valid.1, valid.2⟩
  · cases read

/-! ## The ports are taken -/

theorem mem_keys_upsert {masterSlot slaveAddr : Int} (deviceName : String) {deviceType : String}
    (slot : 0 ≤ masterSlot) (address : 0 < slaveAddr) (type : deviceType ≠ "")
    (slaves : List SlaveDeviceInfo) (key : SlaveKey) :
    key ∈ (upsertRegisteredSlave masterSlot slaveAddr deviceName deviceType slaves).map
        SlaveDeviceInfo.key ↔
      key ∈ slaves.map SlaveDeviceInfo.key ∨ key = (masterSlot, slaveAddr, deviceType) := by
  rw [map_key_upsert]
  split
  · rename_i unchanged
    rcases unchanged with low | zero | empty | known
    · exact absurd slot (not_le.mpr low)
    · exact absurd address (not_lt.mpr zero)
    · exact absurd empty type
    · constructor
      · exact Or.inl
      · rintro (old | rfl)
        · exact old
        · exact known
  · rw [List.mem_append, List.mem_singleton]

/-- The devices of one port are added to the slaves. -/
theorem mem_keys_foldl_upsert {slot : Int} (valid : 0 ≤ slot)
    {devices : List (Int × String × String)}
    (each : forall device, device ∈ devices -> 0 < device.1 ∧ device.2.2 ≠ "")
    (slaves : List SlaveDeviceInfo) (key : SlaveKey) :
    key ∈ (devices.foldl (fun slaves device =>
        upsertRegisteredSlave slot device.1 device.2.1 device.2.2 slaves) slaves).map
          SlaveDeviceInfo.key ↔
      key ∈ slaves.map SlaveDeviceInfo.key ∨
        key ∈ devices.map fun device => (slot, device.1, device.2.2) := by
  induction devices generalizing slaves with
  | nil => simp
  | cons device devices ih =>
      have here := each device List.mem_cons_self
      rw [List.foldl_cons, ih fun other inside => each other (List.mem_cons_of_mem device inside),
        mem_keys_upsert device.2.1 valid here.1 here.2, List.map_cons, List.mem_cons, or_assoc]

theorem mem_keys_takePort {widget : Widget} {slot : Int} (valid : 0 ≤ slot) (object : Json)
    (key : SlaveKey) :
    key ∈ (widget.takePort slot object).slaveDevices.map SlaveDeviceInfo.key ↔
      key ∈ widget.slaveDevices.map SlaveDeviceInfo.key ∨
        key ∈ (snapshotDevices object).map fun device => (slot, device.1, device.2.2) := by
  apply mem_keys_foldl_upsert valid
  intro device inside
  rcases List.mem_filterMap.mp inside with ⟨value, -, read⟩
  exact snapshotDevice_valid read

theorem mem_keys_takePorts (values : List Json) (widget : Widget) (key : SlaveKey) :
    key ∈ ((values.filterMap snapshotPort).foldl
        (fun widget port => widget.takePort port.1 port.2) widget).slaveDevices.map
          SlaveDeviceInfo.key ↔
      key ∈ widget.slaveDevices.map SlaveDeviceInfo.key ∨ key ∈ snapshotKeys values := by
  have each : forall ports : List (Int × Json), (forall port, port ∈ ports -> 0 ≤ port.1) ->
      forall widget : Widget, (key ∈ (ports.foldl (fun widget port => widget.takePort port.1 port.2)
          widget).slaveDevices.map SlaveDeviceInfo.key ↔
        key ∈ widget.slaveDevices.map SlaveDeviceInfo.key ∨
          key ∈ ports.flatMap fun port =>
            (snapshotDevices port.2).map fun device => (port.1, device.1, device.2.2)) := by
    intro ports valid
    induction ports with
    | nil => simp
    | cons port ports ih =>
        intro widget
        rw [List.foldl_cons, ih (fun other inside => valid other (List.mem_cons_of_mem port inside)),
          mem_keys_takePort (valid port List.mem_cons_self), List.flatMap_cons, List.mem_append,
          or_assoc]
  apply each
  intro port inside
  rcases List.mem_filterMap.mp inside with ⟨value, -, read⟩
  exact snapshotPort_slot read

/-- A port of the snapshot decides whether its slot is connected. -/
theorem mem_connected_takePort (widget : Widget) (slot other : Int) (object : Json) :
    other ∈ (widget.takePort slot object).connectedMasterSlots ↔
      if other = slot then Ui.boolOr (object.lookup "connected") false = true
      else other ∈ widget.connectedMasterSlots := by
  rw [takePort, setPort]
  dsimp only
  cases connected : Ui.boolOr (object.lookup "connected") false with
  | true =>
      rw [if_pos rfl, List.mem_insert_iff]
      split
      · rename_i same
        exact iff_of_true (Or.inl same) rfl
      · rename_i different
        exact or_iff_right different
  | false =>
      rw [if_neg Bool.false_ne_true, List.mem_filter, decide_eq_true_eq]
      split
      · rename_i same
        exact iff_of_false (fun both => both.2 same) Bool.false_ne_true
      · rename_i different
        exact and_iff_left different

/-- With one port for each slot, every slot is as its port says. -/
theorem mem_connected_takePorts {ports : List (Int × Json)} (distinct : (ports.map Prod.fst).Nodup)
    (widget : Widget) (slot : Int) :
    slot ∈ (ports.foldl (fun widget port => widget.takePort port.1 port.2)
        widget).connectedMasterSlots ↔
      (exists object, (slot, object) ∈ ports ∧
        Ui.boolOr (object.lookup "connected") false = true) ∨
      (slot ∉ ports.map Prod.fst ∧ slot ∈ widget.connectedMasterSlots) := by
  induction ports generalizing widget with
  | nil => simp
  | cons port ports ih =>
      rw [List.map_cons, List.nodup_cons] at distinct
      rw [List.foldl_cons, ih distinct.2, mem_connected_takePort]
      by_cases same : slot = port.1
      · rw [if_pos same, and_iff_right (same ▸ distinct.1)]
        have absent : forall object, (slot, object) ∉ ports := by
          intro object inside
          exact distinct.1 (same ▸ List.mem_map_of_mem inside)
        constructor
        · rintro (⟨object, inside, -⟩ | connected)
          · exact absurd inside (absent object)
          · exact Or.inl ⟨port.2, by rw [same]; exact List.mem_cons_self, connected⟩
        · rintro (⟨object, inside, connected⟩ | ⟨unnamed, -⟩)
          · rcases List.mem_cons.mp inside with here | later
            · rw [← here]
              exact Or.inr connected
            · exact absurd later (absent object)
          · exact absurd (same ▸ List.mem_cons_self) unnamed
      · have there : forall object, (slot, object) ∈ port :: ports ↔ (slot, object) ∈ ports := by
          intro object
          rw [List.mem_cons]
          exact or_iff_right fun here => same (congrArg Prod.fst here)
        rw [if_neg same, List.map_cons, List.mem_cons, not_or, and_iff_right same]
        simp only [there]

/-! ## The snapshot -/

/-- After a snapshot the slaves of its slots are its own, and those of other
slots are as they were. -/
theorem handleRuntimeStateSnapshot_spec {widget : Widget} (holds : widget.WellFormed)
    {ports : List Json} (distinct : (snapshotSlots ports).Nodup) :
    exists next, widget.handleRuntimeStateSnapshot ports = some next ∧ next.WellFormed ∧
      (forall key : SlaveKey, key ∈ next.slaveDevices.map SlaveDeviceInfo.key ↔
        key ∈ snapshotKeys ports ∨
          (key.1 ∉ snapshotSlots ports ∧ key ∈ widget.slaveDevices.map SlaveDeviceInfo.key)) ∧
      forall slot, slot ∈ next.connectedMasterSlots ↔
        (exists object, (slot, object) ∈ ports.filterMap snapshotPort ∧
          Ui.boolOr (object.lookup "connected") false = true) ∨
        (slot ∉ snapshotSlots ports ∧ slot ∈ widget.connectedMasterSlots) := by
  rcases (holds.takePorts (ports.filterMap snapshotPort)).removeSlavesWhere (goneFrom ports)
    with ⟨table, run, left, next⟩
  refine ⟨_, by rw [handleRuntimeStateSnapshot, run, Option.map_some], next, ?_, ?_⟩
  · intro key
    change key ∈ table.1.map SlaveDeviceInfo.key ↔ _
    have taken := mem_keys_takePorts ports widget key
    rw [left, List.mem_map]
    rw [List.mem_map] at taken
    constructor
    · rintro ⟨slave, kept, rfl⟩
      rcases List.mem_filter.mp kept with ⟨inside, stays⟩
      rw [Bool.not_eq_true', Bool.eq_false_iff, ne_eq, goneFrom_eq_true_iff, not_and_not_right]
        at stays
      rcases taken.mp ⟨slave, inside, rfl⟩ with old | new
      · by_cases named : slave.masterSlot ∈ snapshotSlots ports
        · exact Or.inl (stays named)
        · exact Or.inr ⟨named, old⟩
      · exact Or.inl new
    · intro shown
      have there : exists slave, slave ∈ ((ports.filterMap snapshotPort).foldl
          (fun widget port => widget.takePort port.1 port.2) widget).slaveDevices ∧
          slave.key = key := by
        rcases shown with new | ⟨-, old⟩
        · exact taken.mpr (Or.inr new)
        · exact taken.mpr (Or.inl old)
      rcases there with ⟨slave, inside, rfl⟩
      refine ⟨slave, List.mem_filter.mpr ⟨inside, ?_⟩, rfl⟩
      rw [Bool.not_eq_true', Bool.eq_false_iff, ne_eq, goneFrom_eq_true_iff, not_and_not_right]
      intro named
      rcases shown with new | ⟨unnamed, -⟩
      · exact new
      · exact absurd named unnamed
  · exact mem_connected_takePorts distinct widget

end Widget
end LocalUi
end Imx6Gateway
