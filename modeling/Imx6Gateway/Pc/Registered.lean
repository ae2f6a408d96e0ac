import Imx6Gateway.Library.JsonText
import Imx6Gateway.Pc.DataService
import Imx6Gateway.Pc.DeviceLife
import Mathlib.Data.Int.Order.Basic

namespace Imx6Gateway
namespace Pc

open Library

/-!
# What the memory holds of a device

`PcDataService` looks a device up by a text in two maps.  This file says when
two devices share a text, and what each function of the service makes of the
entries under a text.
-/

/-! ## The text of a device -/

/-- No part of the name has a slash of its own. -/
def PlainName (gatewayId portId : String) : Prop :=
  '/' ∉ gatewayId.toList ∧ '/' ∉ portId.toList

instance (gatewayId portId : String) : Decidable (PlainName gatewayId portId) :=
  inferInstanceAs (Decidable (_ ∧ _))

theorem toList_repr (value : Nat) : value.repr.toList = JsonText.natText value := by
  rw [Nat.repr, String.toList_ofList, JsonText.natText]

theorem toList_toString_int (value : Int) : (toString value).toList = JsonText.intText value := by
  cases value with
  | ofNat size =>
      have positive : ¬ (Int.ofNat size < 0) := not_lt.mpr (Int.natCast_nonneg size)
      rw [JsonText.intText, JsonText.signed, decide_eq_false positive, if_neg Bool.false_ne_true]
      exact toList_repr size
  | negSucc size =>
      rw [JsonText.intText, JsonText.signed, decide_eq_true (Int.negSucc_lt_zero size), if_pos rfl]
      change ("-" ++ (size + 1).repr).toList = _
      rw [String.toList_append, toList_repr]
      rfl

theorem toString_int_inj {first second : Int} :
    toString first = toString second ↔ first = second := by
  constructor
  · intro same
    have texts := congrArg String.toList same
    rw [toList_toString_int, toList_toString_int] at texts
    have read := JsonText.readNumber_intText first JsonText.stops_nil
    rw [texts, JsonText.readNumber_intText second JsonText.stops_nil] at read
    injection read with pair
    injection pair with json
    injection json with value
    exact value.symm
  · exact fun same => by rw [same]

/-- A number has no mark but digits and a sign. -/
theorem not_mem_toString_int {mark : Char} (sign : mark ≠ '-') (digit : mark.isDigit = false)
    (value : Int) : mark ∉ (toString value).toList := by
  rw [toList_toString_int, JsonText.intText, JsonText.signed]
  intro inside
  have digits : mark ∈ JsonText.natText value.natAbs := by
    split at inside
    · rcases List.mem_cons.mp inside with same | digits
      · exact absurd same sign
      · exact digits
    · exact inside
  exact Bool.false_ne_true (digit.symm.trans (JsonText.natText_digits _ _ digits))

theorem slash_not_mem_toString (value : Int) : '/' ∉ (toString value).toList :=
  not_mem_toString_int (by decide) rfl value

theorem toList_registryDeviceKey (gatewayId portId : String) (deviceId : Int) :
    (registryDeviceKey gatewayId portId deviceId).toList =
      gatewayId.toList ++ '/' :: (portId.toList ++ '/' :: (toString deviceId).toList) := by
  have slash : "/".toList = ['/'] := rfl
  simp only [registryDeviceKey, String.toList_append, slash, List.append_assoc, List.cons_append,
    List.nil_append]

theorem count_registryDeviceKey (gatewayId portId : String) (deviceId : Int) :
    (registryDeviceKey gatewayId portId deviceId).toList.count '/' =
      gatewayId.toList.count '/' + portId.toList.count '/' + 2 := by
  have last := List.count_eq_zero.mpr (slash_not_mem_toString deviceId)
  rw [toList_registryDeviceKey, List.count_append, List.count_cons_self, List.count_append,
    List.count_cons_self, last]
  omega

/-- A text that a plain name makes is not made by another name. -/
theorem registryDeviceKey_inj {gatewayId portId otherGateway otherPort : String}
    {deviceId otherDevice : Int} (plain : PlainName gatewayId portId) :
    registryDeviceKey gatewayId portId deviceId =
        registryDeviceKey otherGateway otherPort otherDevice ↔
      gatewayId = otherGateway ∧ portId = otherPort ∧ deviceId = otherDevice := by
  constructor
  · intro same
    have slashes := congrArg (fun text => text.toList.count '/') same
    simp only [count_registryDeviceKey, List.count_eq_zero.mpr plain.1,
      List.count_eq_zero.mpr plain.2] at slashes
    have otherPlain : '/' ∉ otherGateway.toList ∧ '/' ∉ otherPort.toList :=
      ⟨List.count_eq_zero.mp (by omega), List.count_eq_zero.mp (by omega)⟩
    have texts := congrArg String.toList same
    rw [toList_registryDeviceKey, toList_registryDeviceKey] at texts
    rw [append_first_separator_inj plain.1 otherPlain.1,
      append_first_separator_inj plain.2 otherPlain.2] at texts
    exact ⟨String.toList_injective texts.1, String.toList_injective texts.2.1,
      toString_int_inj.mp (String.toList_injective texts.2.2)⟩
  · rintro ⟨rfl, rfl, rfl⟩
    rfl

/-- The text begins with its gateway. -/
theorem startsWith_gateway (gatewayId portId : String) (deviceId : Int) :
    startsWith (gatewayId ++ "/") (registryDeviceKey gatewayId portId deviceId) = true := by
  rw [startsWith, List.isPrefixOf_iff_prefix, toList_registryDeviceKey, String.toList_append]
  refine ⟨portId.toList ++ '/' :: (toString deviceId).toList, ?_⟩
  rw [List.append_assoc]
  rfl

theorem startsWith_port (gatewayId portId : String) (deviceId : Int) :
    startsWith (registryPortKey gatewayId portId ++ "/")
      (registryDeviceKey gatewayId portId deviceId) = true := by
  rw [startsWith, List.isPrefixOf_iff_prefix, toList_registryDeviceKey, String.toList_append,
    registryPortKey, String.toList_append, String.toList_append]
  refine ⟨(toString deviceId).toList, ?_⟩
  have slash : "/".toList = ['/'] := rfl
  simp only [slash, List.append_assoc, List.cons_append, List.nil_append]

def DeviceKey.text (key : DeviceKey) : String :=
  registryDeviceKey key.gatewayId key.portId key.deviceId

def DeviceKey.Plain (key : DeviceKey) : Prop :=
  PlainName key.gatewayId key.portId

instance (key : DeviceKey) : Decidable key.Plain :=
  inferInstanceAs (Decidable (_ ∧ _))

/-- The text of a record. -/
def DeviceRecord.text (device : DeviceRecord) : String :=
  registryDeviceKey device.gatewayId device.portId device.deviceId

theorem DeviceRecord.text_of_key {device : DeviceRecord} {key : DeviceKey}
    (named : device.key? = some key) : device.text = key.text := by
  have same := deviceKey?_eq_some_iff.mp named
  rw [DeviceRecord.text, DeviceKey.text, same.1, same.2.1, same.2.2]

theorem DeviceKey.text_inj {key other : DeviceKey} (plain : key.Plain) :
    key.text = other.text ↔ key = other := by
  rw [DeviceKey.text, DeviceKey.text, registryDeviceKey_inj plain]
  constructor
  · rintro ⟨gateway, port, device⟩
    cases key
    cases other
    cases gateway
    cases port
    cases device
    rfl
  · rintro rfl
    exact ⟨rfl, rfl, rfl⟩

namespace DataService

/-! ## Functions that leave the devices alone -/

/-- The devices and the latest points are those of before. -/
structure SameDevices (service after : DataService) : Prop where
  registry : after.deviceRegistry = service.deviceRegistry
  types : after.registeredDeviceTypes = service.registeredDeviceTypes
  snapshot : after.snapshot = service.snapshot

/-- Nothing has been added to the devices or to the latest points, and no
record of a device has gone. -/
structure Shrinks (service after : DataService) : Prop where
  registry : after.deviceRegistry = service.deviceRegistry
  types : forall text, (after.registeredDeviceTypes.get text).isSome = true ->
    (service.registeredDeviceTypes.get text).isSome = true
  snapshot : forall pointId stored, after.snapshot.get pointId = some stored ->
    service.snapshot.get pointId = some stored

theorem SameDevices.refl (service : DataService) : service.SameDevices service :=
  ⟨rfl, rfl, rfl⟩

theorem SameDevices.trans {service between after : DataService}
    (first : service.SameDevices between) (second : between.SameDevices after) :
    service.SameDevices after :=
  ⟨second.registry.trans first.registry, second.types.trans first.types,
    second.snapshot.trans first.snapshot⟩

theorem SameDevices.shrinks {service after : DataService} (same : service.SameDevices after) :
    service.Shrinks after := by
  refine ⟨same.registry, ?_, ?_⟩
  · intro text present
    rwa [same.types] at present
  · intro pointId stored found
    rwa [same.snapshot] at found

theorem Shrinks.trans {service between after : DataService} (first : service.Shrinks between)
    (second : between.Shrinks after) : service.Shrinks after := by
  refine ⟨second.registry.trans first.registry, ?_, ?_⟩
  · intro text present
    exact first.types text (second.types text present)
  · intro pointId stored found
    exact first.snapshot pointId stored (second.snapshot pointId stored found)

section Lists

variable {Item : Type} {operation : DataService -> Item -> DataService}

theorem sameDevices_foldl
    (same : forall service item, SameDevices service (operation service item)) (items : List Item)
    (service : DataService) : SameDevices service (items.foldl operation service) := by
  induction items generalizing service with
  | nil => exact SameDevices.refl service
  | cons item items ih => exact (same service item).trans (ih (operation service item))

theorem shrinks_foldl
    (shrinks : forall service item, Shrinks service (operation service item)) (items : List Item)
    (service : DataService) : Shrinks service (items.foldl operation service) := by
  induction items generalizing service with
  | nil => exact (SameDevices.refl service).shrinks
  | cons item items ih => exact (shrinks service item).trans (ih (operation service item))

end Lists

theorem updateGatewayPort_same (service : DataService) (port : GatewayPort) :
    service.SameDevices (service.updateGatewayPort port) := by
  unfold updateGatewayPort
  split
  · exact SameDevices.refl service
  · exact ⟨rfl, rfl, rfl⟩

theorem rememberGatewayPorts_same (service : DataService) (ports : List GatewayPort) :
    service.SameDevices (service.rememberGatewayPorts ports) :=
  sameDevices_foldl updateGatewayPort_same ports service

theorem rememberGatewayRegistry_same (service : DataService) (registry : GatewayRegistry) :
    service.SameDevices (service.rememberGatewayRegistry registry) := by
  unfold rememberGatewayRegistry
  split
  · exact SameDevices.refl service
  · exact ⟨rfl, rfl, rfl⟩

theorem updateGatewayStatus_same (service : DataService) (gateway : GatewayStatus) :
    service.SameDevices (service.updateGatewayStatus gateway) := by
  unfold updateGatewayStatus
  split
  · exact SameDevices.refl service
  · exact ⟨rfl, rfl, rfl⟩

theorem updateGatewayStatuses_same (service : DataService) (gateways : List GatewayStatus) :
    service.SameDevices (service.updateGatewayStatuses gateways) :=
  sameDevices_foldl updateGatewayStatus_same gateways service

theorem rememberPointConfigs_same (service : DataService) (configs : List PointConfig) :
    service.SameDevices (service.rememberPointConfigs configs) := by
  apply sameDevices_foldl
  intro service config
  unfold updatePointConfig
  split
  · exact SameDevices.refl service
  · exact ⟨rfl, rfl, rfl⟩

theorem isRemovedDevice_same (service : DataService) (nowMs : Int) (gatewayId portId : String)
    (deviceId : Int) :
    service.SameDevices (service.isRemovedDevice nowMs gatewayId portId deviceId).1 := by
  unfold isRemovedDevice
  split
  · exact SameDevices.refl service
  · exact ⟨rfl, rfl, rfl⟩

theorem forgetRemovedDevice_same (service : DataService) (nowMs : Int) (gatewayId portId : String)
    (deviceId : Int) :
    service.SameDevices (service.forgetRemovedDevice nowMs gatewayId portId deviceId) := by
  unfold forgetRemovedDevice
  split
  · exact SameDevices.refl service
  · exact ⟨rfl, rfl, rfl⟩

theorem rememberPendingCommand_same (service : DataService) (target : PendingCommandTarget) :
    service.SameDevices (service.rememberPendingCommand target) := by
  unfold rememberPendingCommand
  split
  · exact SameDevices.refl service
  · exact ⟨rfl, rfl, rfl⟩

theorem beginSyncConfigRequest_same (service : DataService) (nowMs : Int)
    (targets : List SyncGatewaySelection) :
    service.SameDevices (service.beginSyncConfigRequest nowMs targets).1 := by
  have general : forall (targets : List SyncGatewaySelection) (requestId : Int)
      (state : DataService × List SyncGatewayPending),
      state.1.SameDevices (targets.foldl (beginSync nowMs requestId) state).1 := by
    intro targets requestId
    induction targets with
    | nil => exact fun state => SameDevices.refl state.1
    | cons target targets ih =>
        intro state
        have first : state.1.SameDevices (beginSync nowMs requestId state target).1 := by
          unfold beginSync
          split
          · exact SameDevices.refl state.1
          · exact ⟨rfl, rfl, rfl⟩
        exact first.trans (ih _)
  exact ⟨(general targets _ _).registry, (general targets _ _).types, (general targets _ _).snapshot⟩

/-! ## Functions that remove devices -/

theorem removeDeviceData_shrinks (service : DataService) (nowMs : Int) (gatewayId portId : String)
    (deviceId : Int) :
    service.Shrinks (service.removeDeviceData nowMs gatewayId portId deviceId) := by
  unfold removeDeviceData
  split
  · exact (SameDevices.refl service).shrinks
  · refine ⟨rfl, ?_, ?_⟩
    · intro text present
      rw [Table.get_erase] at present
      split at present
      · cases present
      · exact present
    · intro pointId stored found
      rw [Table.get_keepIf, Option.filter_eq_some_iff] at found
      exact found.1

theorem removeMasterData_shrinks (service : DataService) (nowMs : Int)
    (gatewayId portId : String) :
    service.Shrinks (service.removeMasterData nowMs gatewayId portId).1 := by
  unfold removeMasterData
  split
  · exact (SameDevices.refl service).shrinks
  · refine ⟨rfl, ?_, ?_⟩
    · intro text present
      rw [Table.get_keepIf_key] at present
      split at present
      · exact present
      · cases present
    · intro pointId stored found
      rw [Table.get_keepIf, Option.filter_eq_some_iff] at found
      exact found.1

/-- A full snapshot removes the devices that it does not list. -/
theorem removed_shrinks (service : DataService) (nowMs : Int) (fullSnapshot : Bool)
    (missing : List DeviceKey) :
    service.Shrinks (if fullSnapshot then missing.foldl (fun service key =>
        service.removeDeviceData nowMs key.gatewayId key.portId key.deviceId) service
      else service) := by
  split
  · exact shrinks_foldl (fun service key => removeDeviceData_shrinks service _ _ _ _) _ _
  · exact (SameDevices.refl _).shrinks

theorem forgotten_same (service : DataService) (nowMs : Int) (devices : List DeviceRecord) :
    service.SameDevices (devices.foldl (fun service device =>
      service.forgetRemovedDevice nowMs device.gatewayId device.portId device.deviceId) service) :=
  sameDevices_foldl (fun service _ => forgetRemovedDevice_same service nowMs _ _ _) devices service

/-- No latest point is a point of this device. -/
def NoPoints (service : DataService) (key : DeviceKey) : Prop :=
  forall pointId stored, service.snapshot.get pointId = some stored ->
    deviceKey? stored.point.site.gatewayId stored.point.site.portId stored.point.deviceId ≠ some key

theorem Shrinks.noPoints {service after : DataService} (shrinks : service.Shrinks after)
    {key : DeviceKey} (none : service.NoPoints key) : after.NoPoints key :=
  fun pointId stored found => none pointId stored (shrinks.snapshot pointId stored found)

/-- A removed device has neither a type nor a latest point. -/
theorem removeDeviceData_removes (service : DataService) (nowMs : Int) (key : DeviceKey) :
    ((service.removeDeviceData nowMs key.gatewayId key.portId key.deviceId).registeredDeviceTypes.get
        key.text).isSome = false ∧
      (service.removeDeviceData nowMs key.gatewayId key.portId key.deviceId).NoPoints key := by
  have valid : ¬ (key.gatewayId = "" ∨ key.portId = "" ∨ key.deviceId ≤ 0) := by
    rintro (gateway | port | device)
    · exact key.gatewayNamed gateway
    · exact key.portNamed port
    · exact absurd key.positive (not_lt.mpr device)
  unfold removeDeviceData
  rw [if_neg valid]
  constructor
  · rw [Table.get_erase, DeviceKey.text, if_pos rfl]
    rfl
  · intro pointId stored found here
    rw [Table.get_keepIf, Option.filter_eq_some_iff] at found
    have same := deviceKey?_eq_some_iff.mp here
    simp [same.1, same.2.1, same.2.2] at found

theorem removeMasterData_removes (service : DataService) (nowMs : Int) (key : DeviceKey) :
    ((service.removeMasterData nowMs key.gatewayId key.portId).1.registeredDeviceTypes.get
        key.text).isSome = false ∧
      (service.removeMasterData nowMs key.gatewayId key.portId).1.NoPoints key := by
  have valid : ¬ (key.gatewayId = "" ∨ key.portId = "") := by
    rintro (gateway | port)
    · exact key.gatewayNamed gateway
    · exact key.portNamed port
  unfold removeMasterData
  rw [if_neg valid]
  constructor
  · rw [Table.get_keepIf_key, DeviceKey.text, startsWith_port]
    rfl
  · intro pointId stored found here
    rw [Table.get_keepIf, Option.filter_eq_some_iff] at found
    have same := deviceKey?_eq_some_iff.mp here
    simp [same.1, same.2.1] at found

/-! ## Functions that enter devices -/

/-- A record with a key is entered under its text. -/
theorem rememberDeviceRegistry_keyed (service : DataService) {device : DeviceRecord}
    {key : DeviceKey} (named : device.key? = some key) :
    (service.rememberDeviceRegistry device).deviceRegistry =
        service.deviceRegistry.put device.text device ∧
      (service.rememberDeviceRegistry device).registeredDeviceTypes =
        service.registeredDeviceTypes.put device.text device.deviceType ∧
      (service.rememberDeviceRegistry device).snapshot = service.snapshot := by
  have same := deviceKey?_eq_some_iff.mp named
  have valid : ¬ (device.gatewayId = "" ∨ device.portId = "" ∨ device.deviceId ≤ 0) := by
    rw [← same.1, ← same.2.1, ← same.2.2]
    rintro (gateway | port | device)
    · exact key.gatewayNamed gateway
    · exact key.portNamed port
    · exact absurd key.positive (not_lt.mpr device)
  unfold rememberDeviceRegistry
  rw [if_neg valid]
  exact ⟨rfl, rfl, rfl⟩

/-- All records of the list have keys. -/
def Keyed (devices : List DeviceRecord) : Prop :=
  forall device, device ∈ devices -> exists key, device.key? = some key

theorem rememberDeviceRegistries_keyed (service : DataService) {devices : List DeviceRecord}
    (keyed : Keyed devices) :
    (service.rememberDeviceRegistries devices).deviceRegistry =
        Table.putAll DeviceRecord.text id devices service.deviceRegistry ∧
      (service.rememberDeviceRegistries devices).registeredDeviceTypes =
        Table.putAll DeviceRecord.text DeviceRecord.deviceType devices
          service.registeredDeviceTypes ∧
      (service.rememberDeviceRegistries devices).snapshot = service.snapshot := by
  unfold rememberDeviceRegistries Table.putAll
  induction devices generalizing service with
  | nil => exact ⟨rfl, rfl, rfl⟩
  | cons device devices ih =>
      rcases keyed device List.mem_cons_self with ⟨key, named⟩
      have entered := rememberDeviceRegistry_keyed service named
      have rest := ih (service.rememberDeviceRegistry device)
        (fun other inside => keyed other (List.mem_cons_of_mem device inside))
      rw [entered.1, entered.2.1, entered.2.2] at rest
      exact rest

/-- What a full snapshot of the gateway leaves of a record. -/
def spares (gatewayId : String) (fullSnapshot : Bool) (device : DeviceRecord) : Prop :=
  fullSnapshot = true -> device.gatewayId ≠ gatewayId

theorem get_clearGateway (service : DataService) (gatewayId text : String)
    (device : DeviceRecord) :
    (service.clearGateway gatewayId).deviceRegistry.get text = some device ↔
      service.deviceRegistry.get text = some device ∧ device.gatewayId ≠ gatewayId := by
  rw [clearGateway, Table.get_keepIf, Option.filter_eq_some_iff, decide_eq_true_eq]

theorem isSome_types_clearGateway (service : DataService) (gatewayId text : String) :
    ((service.clearGateway gatewayId).registeredDeviceTypes.get text).isSome = true ↔
      (service.registeredDeviceTypes.get text).isSome = true ∧
        startsWith (gatewayId ++ "/") text = false := by
  rw [clearGateway, Table.get_keepIf_key]
  cases startsWith (gatewayId ++ "/") text with
  | true => simp
  | false => simp

/-- The memory after a snapshot has been entered. -/
structure Replaced (service : DataService) (gatewayId : String) (devices : List DeviceRecord)
    (fullSnapshot : Bool) (after : DataService) : Prop where
  found : forall text device, after.deviceRegistry.get text = some device ->
    (device ∈ devices ∧ device.text = text) ∨
      (service.deviceRegistry.get text = some device ∧ spares gatewayId fullSnapshot device)
  listed : forall text, (exists device, device ∈ devices ∧ device.text = text) ->
    (after.deviceRegistry.get text).isSome = true
  kept : forall text device, service.deviceRegistry.get text = some device ->
    spares gatewayId fullSnapshot device -> (after.deviceRegistry.get text).isSome = true
  types : forall text, (after.registeredDeviceTypes.get text).isSome = true ↔
    (exists device, device ∈ devices ∧ device.text = text) ∨
      ((service.registeredDeviceTypes.get text).isSome = true ∧
        (fullSnapshot = true -> startsWith (gatewayId ++ "/") text = false))
  snapshot : after.snapshot = service.snapshot

theorem Replaced.cleared (service : DataService) (gatewayId : String) (fullSnapshot : Bool) :
    service.Replaced gatewayId [] fullSnapshot
      (if fullSnapshot then service.clearGateway gatewayId else service) := by
  cases fullSnapshot with
  | false =>
      refine ⟨?_, ?_, ?_, ?_, rfl⟩
      · intro text device found
        exact Or.inr ⟨found, fun full => absurd full Bool.false_ne_true⟩
      · rintro text ⟨device, inside, -⟩
        exact absurd inside List.not_mem_nil
      · intro text device found _
        rw [if_neg Bool.false_ne_true, found]
        rfl
      · intro text
        simp
  | true =>
      refine ⟨?_, ?_, ?_, ?_, rfl⟩
      · intro text device found
        have kept := (get_clearGateway service gatewayId text device).mp found
        exact Or.inr ⟨kept.1, fun _ => kept.2⟩
      · rintro text ⟨device, inside, -⟩
        exact absurd inside List.not_mem_nil
      · intro text device found spared
        rw [if_pos rfl, (get_clearGateway service gatewayId text device).mpr ⟨found, spared rfl⟩]
        rfl
      · intro text
        rw [if_pos rfl, isSome_types_clearGateway]
        simp

theorem Replaced.entered {service between : DataService} {gatewayId : String}
    {fullSnapshot : Bool} (cleared : service.Replaced gatewayId [] fullSnapshot between)
    {devices : List DeviceRecord} (keyed : Keyed devices) :
    service.Replaced gatewayId devices fullSnapshot (between.rememberDeviceRegistries devices) := by
  have after := rememberDeviceRegistries_keyed between keyed
  refine ⟨?_, ?_, ?_, ?_, after.2.2.trans cleared.snapshot⟩
  · intro text device found
    rw [after.1] at found
    rcases Table.get_putAll _ _ found with ⟨record, inside, named, same⟩ | old
    · rw [id] at same
      rw [same] at inside named
      exact Or.inl ⟨inside, named⟩
    · rcases cleared.found text device old with ⟨inside, -⟩ | kept
      · exact absurd inside List.not_mem_nil
      · exact Or.inr kept
  · intro text listed
    rw [after.1, Table.isSome_get_putAll]
    exact Or.inl listed
  · intro text device found spared
    rw [after.1, Table.isSome_get_putAll]
    exact Or.inr (cleared.kept text device found spared)
  · intro text
    rw [after.2.1, Table.isSome_get_putAll, cleared.types text]
    simp

theorem Replaced.congr {service other after final : DataService} {gatewayId : String}
    {devices : List DeviceRecord} {fullSnapshot : Bool} (before : service.SameDevices other)
    (replaced : other.Replaced gatewayId devices fullSnapshot after)
    (later : after.SameDevices final) :
    service.Replaced gatewayId devices fullSnapshot final := by
  refine ⟨?_, ?_, ?_, ?_, ?_⟩
  · rw [later.registry, ← before.registry]
    exact replaced.found
  · rw [later.registry]
    exact replaced.listed
  · rw [later.registry, ← before.registry]
    exact replaced.kept
  · rw [later.types, ← before.types]
    exact replaced.types
  · rw [later.snapshot, replaced.snapshot, before.snapshot]

theorem replaceGatewayRegistry_replaced (service : DataService) {gatewayId : String}
    (gateway : gatewayId ≠ "") (snapshot : ConfigSnapshot) (fullSnapshot : Bool)
    (keyed : Keyed (snapshot.devices.filter (Database.ownEntry gatewayId))) :
    service.Replaced gatewayId (snapshot.devices.filter (Database.ownEntry gatewayId)) fullSnapshot
      (service.replaceGatewayRegistry gatewayId snapshot fullSnapshot) := by
  unfold replaceGatewayRegistry
  rw [if_neg gateway]
  have known : service.SameDevices { service with
      registeredGateways := insert gatewayId service.registeredGateways } := ⟨rfl, rfl, rfl⟩
  have cleared := Replaced.cleared { service with
      registeredGateways := insert gatewayId service.registeredGateways } gatewayId fullSnapshot
  have ports := rememberGatewayPorts_same (if fullSnapshot then { service with
      registeredGateways := insert gatewayId service.registeredGateways }.clearGateway gatewayId
    else { service with registeredGateways := insert gatewayId service.registeredGateways })
    (snapshot.ports.filter (Database.ownPort gatewayId))
  exact Replaced.congr known
    (Replaced.entered (Replaced.congr (SameDevices.refl _) cleared ports) keyed)
    (rememberPointConfigs_same _ _)

/-! ## Points -/

theorem storePoint_found {receiveTimeMs : Int} {snapshot : Table String SnapshotPoint}
    {point : TelemetryPoint} {pointId : String} {stored : SnapshotPoint}
    (found : (storePoint receiveTimeMs snapshot point).get pointId = some stored) :
    stored.point = point ∨ snapshot.get pointId = some stored := by
  have put : (snapshot.put point.pointId ⟨point, receiveTimeMs⟩).get pointId = some stored ->
      stored.point = point ∨ snapshot.get pointId = some stored := by
    intro found
    rw [Table.get_put] at found
    split at found
    · injection found with same
      rw [← same]
      exact Or.inl rfl
    · exact Or.inr found
  unfold storePoint at found
  split at found
  · split at found
    · exact put found
    · exact Or.inr found
  · exact put found

/-- The latest points after a pack are points of the pack or were there. -/
theorem handleTelemetryPoints_found {service : DataService} {receiveTimeMs : Int}
    {points : List TelemetryPoint} {pointId : String} {stored : SnapshotPoint}
    (found : (service.handleTelemetryPoints receiveTimeMs points).snapshot.get pointId =
      some stored) :
    stored.point ∈ points ∨ service.snapshot.get pointId = some stored := by
  have general : forall (accepted : List TelemetryPoint) (snapshot : Table String SnapshotPoint),
      (accepted.foldl (storePoint receiveTimeMs) snapshot).get pointId = some stored ->
      stored.point ∈ accepted ∨ snapshot.get pointId = some stored := by
    intro accepted
    induction accepted with
    | nil => exact fun snapshot found => Or.inr found
    | cons point accepted ih =>
        intro snapshot found
        rcases ih _ found with later | old
        · exact Or.inl (List.mem_cons_of_mem point later)
        · rcases storePoint_found old with same | before
          · rw [same]
            exact Or.inl List.mem_cons_self
          · exact Or.inr before
  rcases general _ _ found with accepted | old
  · exact Or.inl (List.mem_filter.mp accepted).1
  · rw [Table.get_keepIf, Option.filter_eq_some_iff] at old
    exact Or.inr old.1

theorem handleTelemetryPoints_registry (service : DataService) (receiveTimeMs : Int)
    (points : List TelemetryPoint) :
    (service.handleTelemetryPoints receiveTimeMs points).deviceRegistry = service.deviceRegistry ∧
      (service.handleTelemetryPoints receiveTimeMs points).registeredDeviceTypes =
        service.registeredDeviceTypes :=
  ⟨rfl, rfl⟩

/-- Whether a device is registered only depends on the text. -/
theorem deviceRegistered_eq_false_iff (service : DataService) (gatewayId portId : String)
    (deviceId : Int) :
    service.deviceRegistered gatewayId portId deviceId = false ↔
      (service.registeredDeviceTypes.get
          (registryDeviceKey gatewayId portId deviceId)).isSome = false ∧
        (service.deviceRegistry.get (registryDeviceKey gatewayId portId deviceId)).isSome = false := by
  rw [deviceRegistered, Bool.or_eq_false_iff]

end DataService
end Pc
end Imx6Gateway
