import Imx6Gateway.Pc.ServiceCall

namespace Imx6Gateway
namespace Pc

open Library

/-!
# Which calls reach a device

Two devices whose names are divided differently can have one text, and the
text of a device can begin with the name of another gateway.  `Reaches` says of
a call and a device whether the texts of the call meet those of the device, and
a call leaves all answers about a device alone, in every reachable state,
exactly if it does not reach it.
-/

/-- The point is one of the device. -/
structure SnapshotPoint.Of (stored : SnapshotPoint) (key : DeviceKey) : Prop where
  gatewayId : stored.point.site.gatewayId = key.gatewayId
  portId : stored.point.site.portId = key.portId
  deviceId : stored.point.deviceId = key.deviceId

def DeviceKey.pointText (key : DeviceKey) (pointKey : String) : String :=
  registryPointKey key.gatewayId key.portId key.deviceId pointKey

/-- Everything that the service answers about the device, at times that can still come. -/
structure SameAnswers (key : DeviceKey) (later : Int -> Prop) (service after : DataService) :
    Prop where
  deviceRegistered : after.deviceRegistered key.gatewayId key.portId key.deviceId =
    service.deviceRegistered key.gatewayId key.portId key.deviceId
  portRegistered : after.portRegistered key.gatewayId key.portId =
    service.portRegistered key.gatewayId key.portId
  pointConfigRegistered : forall pointKey,
    after.pointConfigRegistered key.gatewayId key.portId key.deviceId pointKey =
      service.pointConfigRegistered key.gatewayId key.portId key.deviceId pointKey
  isRemovedDevice : forall nowMs, later nowMs ->
    (after.isRemovedDevice nowMs key.gatewayId key.portId key.deviceId).2 =
      (service.isRemovedDevice nowMs key.gatewayId key.portId key.deviceId).2
  points : forall pointId stored, SnapshotPoint.Of stored key ->
    (after.snapshot.get pointId = some stored ↔ service.snapshot.get pointId = some stored)

namespace ServiceCall

/-- The clock goes on after the call. -/
def Later : ServiceCall -> Int -> Prop
  | .telemetry nowMs _ _, time => nowMs ≤ time
  | .removeDevice nowMs _ _ _, time => nowMs ≤ time
  | .removeMaster nowMs _ _, time => nowMs ≤ time
  | .forget nowMs _ _ _, time => nowMs ≤ time
  | .prune nowMs, time => nowMs ≤ time
  | _, _ => True

/-! ## Texts of a call that meet those of a device -/

def DevicesReach (key : DeviceKey) (records : List DeviceRecord) : Prop :=
  exists device, device ∈ records ∧
    exists other, device.key? = some other ∧ other.portText = key.portText

def PortsReach (key : DeviceKey) (records : List GatewayPort) : Prop :=
  exists port, port ∈ records ∧ port.Named ∧ port.text = key.portText

def ConfigsReach (key : DeviceKey) (records : List PointConfig) : Prop :=
  exists config, config ∈ records ∧ config.Named ∧
    startsWith (key.text ++ "/") config.text = true

/-- The pack has a point with the number of the device, and its path has the
text of the device's port or is a path of the device. -/
def PackReaches (key : DeviceKey) (pack : TelemetryPack) (keeps : TelemetryPoint -> Bool) : Prop :=
  (exists point, point ∈ keptPoints pack keeps ∧ point.deviceId = key.deviceId) ∧
    (registryPortKey pack.site.gatewayId pack.site.portId = key.portText ∨
      exists factoryId areaId, sitePath factoryId areaId key.gatewayId key.portId =
        sitePath pack.site.factoryId pack.site.areaId pack.site.gatewayId pack.site.portId)

def DeviceReaches (key : DeviceKey) (gatewayId portId : String) (deviceId : Int) : Prop :=
  exists other, deviceKey? gatewayId portId deviceId = some other ∧ other.text = key.text

def Reaches (key : DeviceKey) : ServiceCall -> Prop
  | .telemetry _ pack keeps => PackReaches key pack keeps
  | .devices records => DevicesReach key records
  | .ports records => PortsReach key records
  | .configs records => ConfigsReach key records
  | .replace gatewayId snapshot fullSnapshot =>
      gatewayId ≠ "" ∧
        (fullSnapshot = true ∧ meets (gatewayId ++ "/") (key.text ++ "/") = true ∨
          PortsReach key (snapshot.ports.filter (Database.ownPort gatewayId)) ∨
          DevicesReach key (snapshot.devices.filter (Database.ownEntry gatewayId)) ∨
          ConfigsReach key (snapshot.pointConfigs.filter fun config =>
            config.gatewayId = gatewayId))
  | .removeDevice _ gatewayId portId deviceId => DeviceReaches key gatewayId portId deviceId
  | .removeMaster _ gatewayId portId =>
      gatewayId ≠ "" ∧ portId ≠ "" ∧ registryPortKey gatewayId portId = key.portText
  | .forget _ gatewayId portId deviceId => DeviceReaches key gatewayId portId deviceId
  | .clear => True
  | _ => False

end ServiceCall

/-! ## What is not reached stays -/

theorem DeviceKey.startsWith_pointText (key : DeviceKey) (pointKey : String) :
    startsWith (key.text ++ "/") (key.pointText pointKey) = true :=
  startsWith_iff.mpr ⟨pointKey, rfl⟩

theorem DeviceKey.valid (key : DeviceKey) :
    ¬ (key.gatewayId = "" ∨ key.portId = "" ∨ key.deviceId ≤ 0) := by
  rw [not_or, not_or, not_le]
  exact ⟨key.gatewayNamed, key.portNamed, key.positive⟩

/-- A device is remembered as removed until the time that stands under its text. -/
theorem isRemovedDevice_key (service : DataService) (nowMs : Int) (key : DeviceKey) :
    (service.isRemovedDevice nowMs key.gatewayId key.portId key.deviceId).2 =
      (service.removedDevices.get key.text).any fun expiry => nowMs < expiry := by
  rw [DataService.isRemovedDevice, if_neg key.valid]
  change ((service.removedDevices.keepIf fun _ expiry => nowMs < expiry).get key.text).isSome = _
  rw [Table.get_keepIf]
  cases service.removedDevices.get key.text with
  | none => rfl
  | some expiry =>
      rw [Option.filter_some, Option.any_some]
      split
      · rename_i later
        exact later.symm
      · rename_i expired
        exact (Bool.eq_false_iff.mpr expired).symm

/-- Forgetting what is older changes no later answer. -/
theorem any_keepIf_later {removed : Table String Int} {nowMs time : Int} (later : nowMs ≤ time)
    (text : String) :
    ((removed.keepIf fun _ expiry => nowMs < expiry).get text).any (fun expiry => time < expiry) =
      (removed.get text).any fun expiry => time < expiry := by
  rw [Table.get_keepIf]
  cases removed.get text with
  | none => rfl
  | some expiry =>
      rw [Option.filter_some]
      split
      · rfl
      · rename_i expired
        have ended : ¬ time < expiry := fun open_ => expired (decide_eq_true (later.trans_lt open_))
        rw [Option.any_none, Option.any_some, decide_eq_false ended]

namespace SameAnswers

theorem of_texts {key : DeviceKey} {later : Int -> Prop} {service after : DataService}
    (devices : after.HasDevice key.text ↔ service.HasDevice key.text)
    (ports : after.HasPort key.portText ↔ service.HasPort key.portText)
    (configs : forall pointKey,
      after.HasConfig (key.pointText pointKey) ↔ service.HasConfig (key.pointText pointKey))
    (removed : forall time, later time ->
      (after.removedDevices.get key.text).any (fun expiry => time < expiry) =
        (service.removedDevices.get key.text).any fun expiry => time < expiry)
    (points : forall pointId stored, SnapshotPoint.Of stored key ->
      (after.snapshot.get pointId = some stored ↔ service.snapshot.get pointId = some stored)) :
    SameAnswers key later service after where
  deviceRegistered := by
    rw [Bool.eq_iff_iff, DataService.deviceRegistered_iff, DataService.deviceRegistered_iff]
    exact devices
  portRegistered := by
    rw [Bool.eq_iff_iff, DataService.portRegistered_iff, DataService.portRegistered_iff]
    exact ports
  pointConfigRegistered pointKey := by
    rw [Bool.eq_iff_iff, DataService.pointConfigRegistered_iff,
      DataService.pointConfigRegistered_iff]
    exact configs pointKey
  isRemovedDevice nowMs comes := by
    rw [isRemovedDevice_key, isRemovedDevice_key]
    exact removed nowMs comes
  points := points

theorem refl (key : DeviceKey) (later : Int -> Prop) (service : DataService) :
    SameAnswers key later service service :=
  ⟨rfl, rfl, fun _ => rfl, fun _ _ => rfl, fun _ _ _ => Iff.rfl⟩

theorem trans {key : DeviceKey} {later : Int -> Prop} {service between after : DataService}
    (first : SameAnswers key later service between) (second : SameAnswers key later between after) :
    SameAnswers key later service after where
  deviceRegistered := second.deviceRegistered.trans first.deviceRegistered
  portRegistered := second.portRegistered.trans first.portRegistered
  pointConfigRegistered pointKey :=
    (second.pointConfigRegistered pointKey).trans (first.pointConfigRegistered pointKey)
  isRemovedDevice nowMs comes :=
    (second.isRemovedDevice nowMs comes).trans (first.isRemovedDevice nowMs comes)
  points pointId stored here :=
    (second.points pointId stored here).trans (first.points pointId stored here)

/-- Texts of others have been added. -/
theorem of_enters {key : DeviceKey} (later : Int -> Prop) {service after : DataService}
    {devices ports configs : String -> Prop} (enters : service.Enters after devices ports configs)
    (noDevice : ¬ devices key.text) (noPort : ¬ ports key.portText)
    (noConfig : forall pointKey, ¬ configs (key.pointText pointKey)) :
    SameAnswers key later service after := by
  apply of_texts
  · rw [enters.devices, or_iff_right noDevice]
  · rw [enters.ports, or_iff_right noPort]
  · intro pointKey
    rw [enters.configs, or_iff_right (noConfig pointKey)]
  · intro time _
    rw [enters.removed]
  · intro pointId stored _
    rw [enters.snapshot]

end SameAnswers

theorem startsWith_append {front text : String} (begins : startsWith front text = true)
    (rest : String) : startsWith front (text ++ rest) = true := by
  rcases startsWith_iff.mp begins with ⟨middle, rfl⟩
  exact startsWith_iff.mpr ⟨middle ++ rest, String.append_assoc⟩

theorem text_ne_of_apart {key : DeviceKey} {gatewayId portId : String} {deviceId : Int}
    (valid : ¬ (gatewayId = "" ∨ portId = "" ∨ deviceId ≤ 0))
    (apart : ¬ ServiceCall.DeviceReaches key gatewayId portId deviceId) :
    key.text ≠ registryDeviceKey gatewayId portId deviceId := by
  intro same
  rw [not_or, not_or, not_le] at valid
  exact apart ⟨⟨_, _, _, valid.1, valid.2.1, valid.2.2⟩,
    deviceKey?_eq_some_iff.mpr ⟨rfl, rfl, rfl⟩, same.symm⟩

namespace DataService

open ServiceCall

section Lists

variable (key : DeviceKey) (later : Int -> Prop) (service : DataService)

theorem same_rememberDeviceRegistries {records : List DeviceRecord}
    (apart : ¬ DevicesReach key records) :
    SameAnswers key later service (service.rememberDeviceRegistries records) := by
  refine SameAnswers.of_enters later (enters_foldl rememberDeviceRegistry_enters records service)
    ?_ ?_ ?_
  · rintro ⟨device, inside, other, named, same⟩
    exact apart ⟨device, inside, other, named, (DeviceKey.text_eq_iff.mp same).1⟩
  · exact apart
  · rintro pointKey ⟨device, inside, absurd⟩
    exact absurd

theorem same_rememberGatewayPorts {records : List GatewayPort} (apart : ¬ PortsReach key records) :
    SameAnswers key later service (service.rememberGatewayPorts records) := by
  refine SameAnswers.of_enters later (enters_foldl updateGatewayPort_enters records service)
    ?_ ?_ ?_
  · rintro ⟨port, inside, absurd⟩
    exact absurd
  · exact apart
  · rintro pointKey ⟨port, inside, absurd⟩
    exact absurd

theorem same_rememberPointConfigs {records : List PointConfig}
    (apart : ¬ ConfigsReach key records) :
    SameAnswers key later service (service.rememberPointConfigs records) := by
  refine SameAnswers.of_enters later (enters_foldl updatePointConfig_enters records service)
    ?_ ?_ ?_
  · rintro ⟨config, inside, absurd⟩
    exact absurd
  · rintro ⟨config, inside, absurd⟩
    exact absurd
  · rintro pointKey ⟨config, inside, named, same⟩
    refine apart ⟨config, inside, named, ?_⟩
    rw [same]
    exact key.startsWith_pointText pointKey

end Lists

section Sound

variable {key : DeviceKey} (later : Int -> Prop) {service : DataService} (sound : service.Sound)

include sound

theorem same_clearGateway {gatewayId : String}
    (apart : meets (gatewayId ++ "/") (key.text ++ "/") = false) :
    SameAnswers key later service (service.clearGateway gatewayId) := by
  have silent {text : String}
      (common : startsWith (gatewayId ++ "/") text = true ->
        meets (gatewayId ++ "/") (key.text ++ "/") = true) :
      startsWith (gatewayId ++ "/") text = false := by
    rw [← Bool.not_eq_true]
    exact fun begins => Bool.false_ne_true (apart.symm.trans (common begins))
  have device : startsWith (gatewayId ++ "/") key.text = false :=
    silent fun begins => Bool.or_eq_true_iff.mpr (Or.inl (startsWith_append begins "/"))
  have port : startsWith (gatewayId ++ "/") key.portText = false := by
    refine silent fun begins => Bool.or_eq_true_iff.mpr (Or.inl ?_)
    have longer := startsWith_append (startsWith_append (startsWith_append begins "/")
      (toString key.deviceId)) "/"
    exact longer
  have config (pointKey : String) : startsWith (gatewayId ++ "/") (key.pointText pointKey) = false :=
    silent fun begins => meets_of_common begins (key.startsWith_pointText pointKey)
  exact SameAnswers.of_texts (clearGateway_keeps sound device).1 (clearGateway_keeps sound port).2.1
    (fun pointKey => (clearGateway_keeps sound (config pointKey)).2.2) (fun _ _ => rfl)
    fun _ _ _ => Iff.rfl

theorem same_replaceGatewayRegistry {gatewayId : String} {snapshot : ConfigSnapshot}
    {fullSnapshot : Bool}
    (apart : ¬ Reaches key (.replace gatewayId snapshot fullSnapshot)) :
    SameAnswers key later service
      (service.replaceGatewayRegistry gatewayId snapshot fullSnapshot) := by
  unfold replaceGatewayRegistry
  by_cases unnamed : gatewayId = ""
  · rw [if_pos unnamed]
    exact SameAnswers.refl key later service
  rw [if_neg unnamed]
  have parts := not_or.mp fun reaches => apart ⟨unnamed, reaches⟩
  rcases parts with ⟨cleared, entries⟩
  rw [not_or, not_or] at entries
  have knownSound : Sound { service with
      registeredGateways := insert gatewayId service.registeredGateways } := { sound with }
  have known : SameAnswers key later service { service with
      registeredGateways := insert gatewayId service.registeredGateways } :=
    SameAnswers.of_texts Iff.rfl Iff.rfl (fun _ => Iff.rfl) (fun _ _ => rfl) fun _ _ _ => Iff.rfl
  have first : SameAnswers key later service (if fullSnapshot then clearGateway { service with
        registeredGateways := insert gatewayId service.registeredGateways } gatewayId
      else { service with
        registeredGateways := insert gatewayId service.registeredGateways }) := by
    split
    · rename_i full
      exact known.trans (same_clearGateway later knownSound
        (Bool.eq_false_iff.mpr fun met => cleared ⟨full, met⟩))
    · exact known
  exact ((first.trans (same_rememberGatewayPorts key later _ entries.1)).trans
    (same_rememberDeviceRegistries key later _ entries.2.1)).trans
    (same_rememberPointConfigs key later _ entries.2.2)

/-- Whatever is taken out beside the records was there with a record. -/
theorem Sound.hasDevice_iff (text : String) :
    service.HasDevice text ↔ (service.deviceRegistry.get text).isSome = true :=
  ⟨fun has => has.elim (sound.types text) id, Or.inr⟩

theorem Sound.hasConfig_iff (text : String) :
    service.HasConfig text ↔ (service.pointConfigs.get text).isSome = true :=
  ⟨fun has => has.elim (sound.configTexts text) id, Or.inr⟩

theorem same_removeDeviceData {nowMs : Int} {gatewayId portId : String} {deviceId : Int}
    (apart : ¬ DeviceReaches key gatewayId portId deviceId) :
    SameAnswers key (fun time => nowMs ≤ time) service
      (service.removeDeviceData nowMs gatewayId portId deviceId) := by
  have after := sound_removeDeviceData sound nowMs gatewayId portId deviceId
  by_cases refused : gatewayId = "" ∨ portId = "" ∨ deviceId ≤ 0
  · have result : service.removeDeviceData nowMs gatewayId portId deviceId = service :=
      if_pos refused
    rw [result]
    exact SameAnswers.refl key _ service
  have other := text_ne_of_apart refused apart
  apply SameAnswers.of_texts
  · rw [Sound.hasDevice_iff after, Sound.hasDevice_iff sound, removeDeviceData, if_neg refused]
    rfl
  · rw [removeDeviceData, if_neg refused]
    rfl
  · intro pointKey
    rw [Sound.hasConfig_iff after, Sound.hasConfig_iff sound, removeDeviceData, if_neg refused]
    rfl
  · intro time comes
    rw [removeDeviceData, if_neg refused]
    dsimp only
    rw [Table.get_put, if_neg other]
    exact any_keepIf_later comes key.text
  · intro pointId stored here
    rw [removeDeviceData, if_neg refused]
    dsimp only
    rw [Table.get_keepIf, Option.filter_eq_some_iff]
    apply and_iff_left
    rw [Bool.not_eq_true', ← Bool.not_eq_true]
    simp only [Bool.and_eq_true, decide_eq_true_eq]
    rintro ⟨⟨gateway, port⟩, device⟩
    apply other
    rw [DeviceKey.text, ← here.gatewayId, ← here.portId, ← here.deviceId, gateway, port, device]

theorem same_removeMasterData {nowMs : Int} {gatewayId portId : String}
    (apart : ¬ (gatewayId ≠ "" ∧ portId ≠ "" ∧ registryPortKey gatewayId portId = key.portText)) :
    SameAnswers key (fun time => nowMs ≤ time) service
      (service.removeMasterData nowMs gatewayId portId).1 := by
  have after := sound_removeMasterData sound nowMs gatewayId portId
  by_cases refused : gatewayId = "" ∨ portId = ""
  · have result : service.removeMasterData nowMs gatewayId portId = (service, false) :=
      if_pos refused
    rw [result]
    exact SameAnswers.refl key _ service
  have other : key.portText ≠ registryPortKey gatewayId portId := by
    intro same
    rw [not_or] at refused
    exact apart ⟨refused.1, refused.2, same.symm⟩
  apply SameAnswers.of_texts
  · rw [Sound.hasDevice_iff after, Sound.hasDevice_iff sound, removeMasterData, if_neg refused]
    rfl
  · rw [removeMasterData, if_neg refused, HasPort, HasPort]
    dsimp only
    rw [Finset.mem_erase, and_iff_right other]
    rfl
  · intro pointKey
    rw [Sound.hasConfig_iff after, Sound.hasConfig_iff sound, removeMasterData, if_neg refused]
    rfl
  · intro time comes
    rw [removeMasterData, if_neg refused]
    dsimp only
    rw [Table.get_putAll_of_forall]
    · exact any_keepIf_later comes key.text
    · intro stored inside same
      exact other (registryDeviceKey_eq_iff.mp same).1.symm
  · intro pointId stored here
    rw [removeMasterData, if_neg refused]
    dsimp only
    rw [Table.get_keepIf, Option.filter_eq_some_iff]
    apply and_iff_left
    rw [Bool.not_eq_true', ← Bool.not_eq_true]
    simp only [Bool.and_eq_true, decide_eq_true_eq]
    rintro ⟨gateway, port⟩
    apply other
    rw [DeviceKey.portText, ← here.gatewayId, ← here.portId, gateway, port]

theorem same_handleTelemetryPoints {nowMs : Int} {pack : TelemetryPack}
    {keeps : TelemetryPoint -> Bool} (apart : ¬ PackReaches key pack keeps) :
    SameAnswers key (fun time => nowMs ≤ time) service
      (service.handleTelemetryPoints nowMs (ServiceCall.keptPoints pack keeps)) := by
  have made {point : TelemetryPoint} (inside : point ∈ (ServiceCall.keptPoints pack keeps).filter
      (service.pruneExpiredRemovedDevices nowMs).acceptsPoint) :
      point ∈ ServiceCall.keptPoints pack keeps ∧ point.site = pack.site ∧ point.Built :=
    have listed := (List.mem_filter.mp inside).1
    ⟨listed, of_mem_toTelemetryPoints (List.mem_filter.mp listed).1⟩
  refine SameAnswers.of_texts Iff.rfl Iff.rfl (fun _ => Iff.rfl)
    (fun time comes => any_keepIf_later comes key.text) ?_
  intro pointId stored here
  rw [get_handleTelemetryPoints]
  constructor
  · intro after
    rcases Option.or_eq_some_iff.mp after with entered | ⟨-, kept⟩
    · rcases Option.map_eq_some_iff.mp entered with ⟨point, inside, rfl⟩
      rw [entering, Option.filter_eq_some_iff] at inside
      rcases made (of_find?_last inside.1).1 with ⟨listed, site, -⟩
      refine absurd ⟨⟨point, listed, here.deviceId⟩, Or.inl ?_⟩ apart
      rw [DeviceKey.portText, ← site, ← here.gatewayId, ← here.portId]
    · exact (get_keptPoints.mp kept).1
  · intro found
    rcases sound.points pointId stored found with ⟨named, built⟩
    rw [Option.or_eq_some_iff]
    refine Or.inr ⟨?_, get_keptPoints.mpr ⟨found, ?_⟩⟩
    · rw [Option.map_eq_none_iff, Option.eq_none_iff_forall_not_mem]
      intro point inside
      rw [entering, Option.mem_def, Option.filter_eq_some_iff] at inside
      rcases of_find?_last inside.1 with ⟨accepted, same⟩
      rcases made accepted with ⟨listed, site, other⟩
      rcases other.same built (same.trans named.symm) with ⟨path, device, -⟩
      refine apart ⟨⟨point, listed, device.trans here.deviceId⟩, Or.inr
        ⟨stored.point.site.factoryId, stored.point.site.areaId, ?_⟩⟩
      rw [← here.gatewayId, ← here.portId, ← site]
      exact path.symm
    · intro point accepted same
      rcases made accepted with ⟨listed, site, -⟩
      rcases registryDeviceKey_eq_iff.mp same with ⟨port, device⟩
      refine apart ⟨⟨point, listed, device.trans here.deviceId⟩, Or.inl ?_⟩
      rw [DeviceKey.portText, ← site, port, here.gatewayId, here.portId]

end Sound

theorem same_forgetRemovedDevice {key : DeviceKey} (service : DataService) {nowMs : Int}
    {gatewayId portId : String} {deviceId : Int}
    (apart : ¬ DeviceReaches key gatewayId portId deviceId) :
    SameAnswers key (fun time => nowMs ≤ time) service
      (service.forgetRemovedDevice nowMs gatewayId portId deviceId) := by
  by_cases refused : gatewayId = "" ∨ portId = "" ∨ deviceId ≤ 0
  · have result : service.forgetRemovedDevice nowMs gatewayId portId deviceId = service :=
      if_pos refused
    rw [result]
    exact SameAnswers.refl key _ service
  have other := text_ne_of_apart refused apart
  rw [forgetRemovedDevice, if_neg refused]
  refine SameAnswers.of_texts ?_ ?_ (fun _ => ?_) ?_ fun _ _ _ => ?_
  · rfl
  · rfl
  · rfl
  · intro time comes
    dsimp only
    rw [Table.get_erase, if_neg other]
    exact any_keepIf_later comes key.text
  · rfl

theorem same_of_not_reaches {key : DeviceKey} {service : DataService} (sound : service.Sound)
    {call : ServiceCall} (apart : ¬ call.Reaches key) :
    SameAnswers key call.Later service (call.run service) := by
  cases call with
  | telemetry nowMs pack keeps => exact same_handleTelemetryPoints sound apart
  | devices records => exact same_rememberDeviceRegistries key _ service apart
  | ports records => exact same_rememberGatewayPorts key _ service apart
  | configs records => exact same_rememberPointConfigs key _ service apart
  | gateway registry =>
      exact SameAnswers.of_enters _ (rememberGatewayRegistry_enters service registry) id id
        fun _ => id
  | statuses gateways =>
      refine SameAnswers.of_enters _ (enters_foldl updateGatewayStatus_enters gateways service) ?_ ?_ ?_
      · exact fun ⟨_, _, absurd⟩ => absurd
      · exact fun ⟨_, _, absurd⟩ => absurd
      · exact fun _ ⟨_, _, absurd⟩ => absurd
  | replace gatewayId snapshot fullSnapshot => exact same_replaceGatewayRegistry _ sound apart
  | removeDevice nowMs gatewayId portId deviceId => exact same_removeDeviceData sound apart
  | removeMaster nowMs gatewayId portId => exact same_removeMasterData sound apart
  | forget nowMs gatewayId portId deviceId => exact same_forgetRemovedDevice service apart
  | prune nowMs =>
      exact SameAnswers.of_texts Iff.rfl Iff.rfl (fun _ => Iff.rfl)
        (fun time comes => any_keepIf_later comes key.text) fun _ _ _ => Iff.rfl
  | waiting syncPendingBySeq pendingCommands nextSyncRequestId nextSyncSeq =>
      exact SameAnswers.of_texts Iff.rfl Iff.rfl (fun _ => Iff.rfl) (fun _ _ => rfl)
        fun _ _ _ => Iff.rfl
  | clear => exact absurd trivial apart

end DataService

/-! ## What is reached changes in some state -/

/-- The call leaves every answer about the device alone, in every reachable state. -/
def ServiceCall.LeavesAlone (call : ServiceCall) (key : DeviceKey) : Prop :=
  forall calls, SameAnswers key call.Later (serviceSystem.run calls)
    (call.run (serviceSystem.run calls))

/-- A record of the device. -/
def DeviceKey.record (key : DeviceKey) : DeviceRecord where
  factoryId := ""
  factoryName := ""
  areaId := ""
  areaName := ""
  gatewayId := key.gatewayId
  gatewayName := ""
  portId := key.portId
  portName := ""
  deviceId := key.deviceId
  deviceName := ""
  deviceType := ""
  pollIntervalMs := 0
  expectTelemetry := false
  enabled := true
  status := ""
  lastSeenMs := 0
  lastOfflineMs := 0
  statusReason := ""
  createTimeMs := 0
  updateTimeMs := 0

/-- A point of the first device of a port. -/
def configOn (gatewayId portId : String) : PointConfig where
  pointId := ""
  factoryId := ""
  factoryName := ""
  areaId := ""
  areaName := ""
  gatewayId := gatewayId
  gatewayName := ""
  portId := portId
  portName := ""
  deviceId := 1
  deviceName := ""
  deviceType := ""
  pointKey := "y"
  pointName := ""
  unit := ""
  valueType := ""
  enableAlarm := false
  alarmLow := none
  alarmHigh := none
  enabled := true
  timestampMs := 0

/-- The gateway has a point whose text is one of the device's. -/
theorem common_config {gatewayId : String} (named : gatewayId ≠ "") {key : DeviceKey}
    (met : meets (gatewayId ++ "/") (key.text ++ "/") = true) :
    exists (config : PointConfig) (pointKey : String), config.Named ∧
      config.gatewayId = gatewayId ∧ config.text = key.pointText pointKey := by
  have nonempty (rest : String) : rest ++ "x" ≠ "" := by
    intro same
    have empty := congrArg String.toList same
    rw [String.toList_append] at empty
    exact List.append_ne_nil_of_right_ne_nil _ (List.cons_ne_nil _ _) empty
  have text (portId : String) :
      (configOn gatewayId portId).text = gatewayId ++ "/" ++ (portId ++ "/1/y") := by
    have number : "/" ++ toString (1 : Int) ++ "/" ++ "y" = "/1/y" := by decide
    change gatewayId ++ "/" ++ portId ++ "/" ++ toString (1 : Int) ++ "/" ++ "y" = _
    rw [← number]
    simp only [String.append_assoc]
  have complete {portId : String} (port : portId ≠ "") : (configOn gatewayId portId).Named :=
    have pointKey : "y" ≠ "" := by decide
    ⟨named, port, Int.one_pos, pointKey⟩
  have point (pointKey : String) : key.pointText pointKey = key.text ++ "/" ++ pointKey := rfl
  have front : "x" ++ "/1/y" = "x/1/y" := by decide
  rcases Bool.or_eq_true_iff.mp met with longer | shorter
  · rcases startsWith_iff.mp longer with ⟨rest, same⟩
    refine ⟨configOn gatewayId (rest ++ "x"), "x/1/y", complete (nonempty rest), rfl, ?_⟩
    rw [text, point, same, ← front]
    simp only [String.append_assoc]
  · rcases startsWith_iff.mp shorter with ⟨rest, same⟩
    refine ⟨configOn gatewayId "x", rest ++ "x/1/y", complete (by decide), rfl, ?_⟩
    rw [text, point, same, ← front]
    simp only [String.append_assoc]

namespace DataService

open ServiceCall

theorem start_empty (text : String) :
    ¬ start.HasDevice text ∧ ¬ start.HasPort text ∧ ¬ start.HasConfig text := by
  refine ⟨?_, ?_, ?_⟩
  · rintro (found | found) <;> cases found
  · rintro (found | found)
    · exact Finset.notMem_empty text found
    · cases found
  · rintro (found | found)
    · exact Finset.notMem_empty text found
    · cases found

section Start

variable {key : DeviceKey} {call : ServiceCall} (alone : call.LeavesAlone key)

include alone

theorem leavesAlone_port (calls : List ServiceCall) :
    (call.run (serviceSystem.run calls)).HasPort key.portText ↔
      (serviceSystem.run calls).HasPort key.portText := by
  have same := (alone calls).portRegistered
  rw [Bool.eq_iff_iff, portRegistered_iff, portRegistered_iff] at same
  exact same

theorem leavesAlone_config (calls : List ServiceCall) (pointKey : String) :
    (call.run (serviceSystem.run calls)).HasConfig (key.pointText pointKey) ↔
      (serviceSystem.run calls).HasConfig (key.pointText pointKey) := by
  have same := (alone calls).pointConfigRegistered pointKey
  rw [Bool.eq_iff_iff, pointConfigRegistered_iff, pointConfigRegistered_iff] at same
  exact same

theorem leavesAlone_removed (calls : List ServiceCall) {time : Int} (later : call.Later time) :
    ((call.run (serviceSystem.run calls)).removedDevices.get key.text).any
        (fun expiry => time < expiry) =
      ((serviceSystem.run calls).removedDevices.get key.text).any fun expiry => time < expiry := by
  have same := (alone calls).isRemovedDevice time later
  rwa [isRemovedDevice_key, isRemovedDevice_key] at same

end Start

/-- A device that is registered on its own: the port is known through it only. -/
theorem run_record (key : DeviceKey) :
    (serviceSystem.run [.devices [key.record]]).HasPort key.portText ∧
      (serviceSystem.run [.devices [key.record]]).gatewayPorts = ∅ := by
  have entered : serviceSystem.run [.devices [key.record]] =
      start.rememberDeviceRegistry key.record := rfl
  rw [entered]
  constructor
  · rw [(rememberDeviceRegistry_enters start key.record).ports]
    exact Or.inl ⟨key, deviceKey?_key key, rfl⟩
  · have valid : ¬ (key.record.gatewayId = "" ∨ key.record.portId = "" ∨
        key.record.deviceId ≤ 0) := key.valid
    rw [rememberDeviceRegistry, if_neg valid]
    rfl

/-- What a snapshot enters, after the gateway has been cleared. -/
theorem snapshot_enters (service : DataService) {gatewayId : String} (named : gatewayId ≠ "")
    (snapshot : ConfigSnapshot) (fullSnapshot : Bool) :
    (if fullSnapshot then clearGateway { service with
        registeredGateways := insert gatewayId service.registeredGateways } gatewayId
      else { service with
        registeredGateways := insert gatewayId service.registeredGateways }).Enters
      (service.replaceGatewayRegistry gatewayId snapshot fullSnapshot)
      (fun text => exists device, device ∈ snapshot.devices.filter (Database.ownEntry gatewayId) ∧
        exists key, device.key? = some key ∧ key.text = text)
      (fun text => (exists port, port ∈ snapshot.ports.filter (Database.ownPort gatewayId) ∧
          port.Named ∧ port.text = text) ∨
        exists device, device ∈ snapshot.devices.filter (Database.ownEntry gatewayId) ∧
          exists key, device.key? = some key ∧ key.portText = text)
      (fun text => exists config, config ∈ snapshot.pointConfigs.filter (fun config =>
        config.gatewayId = gatewayId) ∧ config.Named ∧ config.text = text) := by
  rw [replaceGatewayRegistry, if_neg named]
  dsimp only
  generalize (if fullSnapshot = true then clearGateway { service with
      registeredGateways := insert gatewayId service.registeredGateways } gatewayId
    else { service with
      registeredGateways := insert gatewayId service.registeredGateways }) = cleared
  have ports : cleared.Enters (cleared.rememberGatewayPorts _) _ _ _ :=
    enters_foldl updateGatewayPort_enters (snapshot.ports.filter (Database.ownPort gatewayId)) cleared
  generalize cleared.rememberGatewayPorts _ = afterPorts at ports ⊢
  have devices : afterPorts.Enters (afterPorts.rememberDeviceRegistries _) _ _ _ :=
    enters_foldl rememberDeviceRegistry_enters
      (snapshot.devices.filter (Database.ownEntry gatewayId)) afterPorts
  generalize afterPorts.rememberDeviceRegistries _ = afterDevices at devices ⊢
  have configs : afterDevices.Enters (afterDevices.rememberPointConfigs _) _ _ _ :=
    enters_foldl updatePointConfig_enters
      (snapshot.pointConfigs.filter fun config => config.gatewayId = gatewayId) afterDevices
  refine ⟨?_, ?_, ?_, ?_, ?_⟩
  · intro text
    rw [configs.devices, devices.devices, ports.devices]
    simp only [Nothing, and_false, exists_false, false_or]
  · intro text
    rw [configs.ports, devices.ports, ports.ports]
    simp only [Nothing, and_false, exists_false, false_or]
    exact or_left_comm.trans or_assoc.symm
  · intro text
    rw [configs.configs, devices.configs, ports.configs]
    simp only [Nothing, and_false, exists_false, false_or]
  · exact configs.removed.trans (devices.removed.trans ports.removed)
  · exact configs.snapshot.trans (devices.snapshot.trans ports.snapshot)

section Changes

variable {key : DeviceKey}

theorem not_reaches_devices {records : List DeviceRecord}
    (alone : (ServiceCall.devices records).LeavesAlone key) : ¬ DevicesReach key records := by
  intro reaches
  have listed := ((enters_foldl rememberDeviceRegistry_enters records start).ports
    key.portText).mpr (Or.inl reaches)
  exact (start_empty _).2.1 ((leavesAlone_port alone []).mp listed)

theorem not_reaches_ports {records : List GatewayPort}
    (alone : (ServiceCall.ports records).LeavesAlone key) : ¬ PortsReach key records := by
  intro reaches
  have listed := ((enters_foldl updateGatewayPort_enters records start).ports
    key.portText).mpr (Or.inl reaches)
  exact (start_empty _).2.1 ((leavesAlone_port alone []).mp listed)

/-- A record whose text goes on after that of the device is entered as a point of the device. -/
theorem listed_of_configsReach {records : List PointConfig} (reaches : ConfigsReach key records) :
    exists pointKey, exists config, config ∈ records ∧ config.Named ∧
      config.text = key.pointText pointKey := by
  rcases reaches with ⟨config, inside, named, begins⟩
  rcases startsWith_iff.mp begins with ⟨pointKey, same⟩
  exact ⟨pointKey, config, inside, named, same⟩

theorem not_reaches_configs {records : List PointConfig}
    (alone : (ServiceCall.configs records).LeavesAlone key) : ¬ ConfigsReach key records := by
  intro reaches
  rcases listed_of_configsReach reaches with ⟨pointKey, listed⟩
  have entered := ((enters_foldl updatePointConfig_enters records start).configs
    (key.pointText pointKey)).mpr (Or.inl listed)
  exact (start_empty _).2.2 ((leavesAlone_config alone [] pointKey).mp entered)

theorem removedDevices_removeDeviceData (service : DataService) (nowMs : Int) (other : DeviceKey) :
    ((service.removeDeviceData nowMs other.gatewayId other.portId other.deviceId).removedDevices.get
      other.text).any (fun expiry => nowMs < expiry) = true := by
  rw [removeDeviceData, if_neg other.valid]
  dsimp only
  rw [DeviceKey.text, Table.get_put, if_pos rfl, Option.any_some, decide_eq_true_eq]
  exact Int.lt_add_of_pos_right nowMs (by decide)

theorem not_reaches_removeDevice {nowMs : Int} {gatewayId portId : String} {deviceId : Int}
    (alone : (ServiceCall.removeDevice nowMs gatewayId portId deviceId).LeavesAlone key) :
    ¬ DeviceReaches key gatewayId portId deviceId := by
  rintro ⟨other, named, same⟩
  rcases deviceKey?_eq_some_iff.mp named with ⟨rfl, rfl, rfl⟩
  have removed := removedDevices_removeDeviceData start nowMs other
  have kept := @leavesAlone_removed key _ alone [] nowMs (le_refl nowMs)
  rw [← same] at kept
  exact Bool.false_ne_true (kept.symm.trans removed)

theorem not_reaches_forget {nowMs : Int} {gatewayId portId : String} {deviceId : Int}
    (alone : (ServiceCall.forget nowMs gatewayId portId deviceId).LeavesAlone key) :
    ¬ DeviceReaches key gatewayId portId deviceId := by
  rintro ⟨other, named, same⟩
  rcases deviceKey?_eq_some_iff.mp named with ⟨rfl, rfl, rfl⟩
  have removed := removedDevices_removeDeviceData start nowMs other
  have kept := leavesAlone_removed alone
    [.removeDevice nowMs other.gatewayId other.portId other.deviceId] (le_refl nowMs)
  rw [← same] at kept
  have forgotten := kept.trans removed
  change ((forgetRemovedDevice _ nowMs other.gatewayId other.portId
    other.deviceId).removedDevices.get other.text).any _ = true at forgotten
  rw [forgetRemovedDevice, if_neg other.valid] at forgotten
  dsimp only at forgotten
  rw [DeviceKey.text, Table.get_erase, if_pos rfl] at forgotten
  cases forgotten

theorem not_reaches_removeMaster {nowMs : Int} {gatewayId portId : String}
    (alone : (ServiceCall.removeMaster nowMs gatewayId portId).LeavesAlone key) :
    ¬ (gatewayId ≠ "" ∧ portId ≠ "" ∧ registryPortKey gatewayId portId = key.portText) := by
  rintro ⟨gateway, port, same⟩
  rcases run_record key with ⟨known, alonePort⟩
  have kept := (leavesAlone_port alone [.devices [key.record]]).mpr known
  change ((serviceSystem.run [.devices [key.record]]).removeMasterData nowMs gatewayId
    portId).1.HasPort key.portText at kept
  rw [removeMasterData, if_neg (not_or.mpr ⟨gateway, port⟩), same] at kept
  rcases kept with listed | found
  · exact Finset.notMem_erase _ _ listed
  · change ((serviceSystem.run [.devices [key.record]]).gatewayPorts.get key.portText).isSome = true
      at found
    rw [alonePort] at found
    cases found

theorem not_reaches_clear (alone : ServiceCall.clear.LeavesAlone key) : False := by
  have kept := (leavesAlone_port alone [.devices [key.record]]).mpr (run_record key).1
  exact (start_empty key.portText).2.1 kept

/-- A point that was entered alone goes with its gateway. -/
theorem clearGateway_alone {config : PointConfig} (complete : config.Named) (gateways : Finset String) :
    ¬ (clearGateway { start.updatePointConfig config with registeredGateways := gateways }
      config.gatewayId).HasConfig config.text := by
  have valid : ¬ (config.gatewayId = "" ∨ config.portId = "" ∨ config.deviceId ≤ 0 ∨
      config.pointKey = "") := by
    rw [not_or, not_or, not_or, not_le]
    exact complete
  rw [updatePointConfig, if_neg valid]
  rintro (listed | found)
  · have apart := (Finset.mem_filter.mp listed).2
    rw [config.startsWith_text] at apart
    cases apart
  · change (((start.pointConfigs.put config.text config).keepIf fun _ other =>
      other.gatewayId ≠ config.gatewayId).get config.text).isSome = true at found
    rw [Table.get_keepIf, Table.get_put, if_pos rfl, Option.filter_some, if_neg] at found
    · cases found
    · exact fun different => of_decide_eq_true different rfl

theorem not_reaches_replace {gatewayId : String} {snapshot : ConfigSnapshot} {fullSnapshot : Bool}
    (alone : (ServiceCall.replace gatewayId snapshot fullSnapshot).LeavesAlone key) :
    ¬ Reaches key (.replace gatewayId snapshot fullSnapshot) := by
  rintro ⟨named, reaches⟩
  have entered (service : DataService) := snapshot_enters service named snapshot fullSnapshot
  have noConfig : ¬ ConfigsReach key (snapshot.pointConfigs.filter fun config =>
      config.gatewayId = gatewayId) := by
    intro configs
    rcases listed_of_configsReach configs with ⟨pointKey, listed⟩
    exact (start_empty _).2.2 ((leavesAlone_config alone [] pointKey).mp
      (((entered start).configs _).mpr (Or.inl listed)))
  rcases reaches with ⟨rfl, met⟩ | ports | devices | configs
  · rcases common_config named met with ⟨config, pointKey, complete, owner, text⟩
    -- the point of the gateway is also taken for one of the device, and is cleared
    have known : (serviceSystem.run [.configs [config]]).HasConfig (key.pointText pointKey) :=
      ((updatePointConfig_enters start config).configs _).mpr (Or.inl ⟨complete, text⟩)
    have kept := (leavesAlone_config alone [.configs [config]] pointKey).mpr known
    rcases ((entered _).configs _).mp kept with ⟨listed, inside, valid, same⟩ | before
    · refine noConfig ⟨listed, inside, valid, ?_⟩
      rw [same]
      exact key.startsWith_pointText pointKey
    · rw [if_pos rfl, ← owner, ← text] at before
      exact clearGateway_alone complete _ before
  · exact (start_empty _).2.1 ((leavesAlone_port alone []).mp
      (((entered start).ports _).mpr (Or.inl (Or.inl ports))))
  · exact (start_empty _).2.1 ((leavesAlone_port alone []).mp
      (((entered start).ports _).mpr (Or.inl (Or.inr devices))))
  · exact noConfig configs

/-- In a memory that has nothing, all points of a pack are put in. -/
theorem snapshot_firstPack (nowMs : Int) (pack : TelemetryPack) (keeps : TelemetryPoint -> Bool)
    (pointId : String) :
    (ServiceCall.run start (.telemetry nowMs pack keeps)).snapshot.get pointId =
      (lastUnder (ServiceCall.keptPoints pack keeps) pointId).map fun point => ⟨point, nowMs⟩ := by
  refine snapshot_first ⟨rfl, rfl⟩ rfl ?_ nowMs pointId
  intro point inside
  exact (of_mem_toTelemetryPoints (List.mem_filter.mp inside).1).2.named

theorem exists_last {points : List TelemetryPoint} {point : TelemetryPoint}
    (inside : point ∈ points) : exists last, lastUnder points point.pointId = some last ∧
      last ∈ points ∧ last.pointId = point.pointId := by
  cases found : lastUnder points point.pointId with
  | none => exact absurd rfl (find?_last_eq_none.mp found point inside)
  | some last => exact ⟨last, rfl, of_find?_last found⟩

section Telemetry

variable {nowMs : Int} {pack : TelemetryPack} {keeps : TelemetryPoint -> Bool}
  (alone : (ServiceCall.telemetry nowMs pack keeps).LeavesAlone key) {point : TelemetryPoint}
  (inside : point ∈ ServiceCall.keptPoints pack keeps) (device : point.deviceId = key.deviceId)

include alone inside device

/-- A point of the device itself would be new to an empty memory. -/
theorem foreign_of_leavesAlone :
    ¬ (pack.site.gatewayId = key.gatewayId ∧ pack.site.portId = key.portId) := by
  rintro ⟨gateway, port⟩
  rcases exists_last inside with ⟨last, found, listed, same⟩
  rcases of_mem_toTelemetryPoints (List.mem_filter.mp inside).1 with ⟨-, built⟩
  rcases of_mem_toTelemetryPoints (List.mem_filter.mp listed).1 with ⟨site, builtLast⟩
  have here : SnapshotPoint.Of ⟨last, nowMs⟩ key :=
    ⟨(congrArg SiteContext.gatewayId site).trans gateway,
      (congrArg SiteContext.portId site).trans port, (builtLast.same built same).2.1.trans device⟩
  have stored := snapshot_firstPack nowMs pack keeps point.pointId
  rw [found] at stored
  have before := ((alone []).points point.pointId ⟨last, nowMs⟩ here).mp stored
  cases before

/-- The same pack from the device's place, taken before, keeps its points. -/
theorem apart_of_leavesAlone {site : SiteContext} (gateway : site.gatewayId = key.gatewayId)
    (port : site.portId = key.portId) :
    registryPortKey pack.site.gatewayId pack.site.portId ≠ key.portText ∧
      sitePath site.factoryId site.areaId site.gatewayId site.portId ≠
        sitePath pack.site.factoryId pack.site.areaId pack.site.gatewayId pack.site.portId := by
  have foreign := foreign_of_leavesAlone alone inside device
  rcases of_mem_toTelemetryPoints (List.mem_filter.mp inside).1 with ⟨here, built⟩
  rcases exists_moved (List.mem_filter.mp inside).1 site with ⟨moved, made, number, pointKey⟩
  have kept : moved ∈ ServiceCall.keptPoints { pack with site := site } (fun _ => true) :=
    List.mem_filter.mpr ⟨made, rfl⟩
  rcases of_mem_toTelemetryPoints made with ⟨there, builtMoved⟩
  rcases exists_last kept with ⟨last, found, listed, same⟩
  rcases of_mem_toTelemetryPoints (List.mem_filter.mp listed).1 with ⟨place, builtLast⟩
  rcases builtLast.same builtMoved same with ⟨-, lastNumber, -⟩
  have own : SnapshotPoint.Of ⟨last, nowMs⟩ key :=
    ⟨(congrArg SiteContext.gatewayId place).trans gateway,
      (congrArg SiteContext.portId place).trans port, (lastNumber.trans number).trans device⟩
  have stored := snapshot_firstPack nowMs { pack with site := site } (fun _ => true) moved.pointId
  rw [found] at stored
  have after := ((alone [.telemetry nowMs { pack with site := site } fun _ => true]).points
    moved.pointId ⟨last, nowMs⟩ own).mpr stored
  have nothing : (ServiceCall.run start
    (.telemetry nowMs { pack with site := site } fun _ => true)).NothingRemoved := ⟨rfl, rfl⟩
  have named (point : TelemetryPoint) (inside : point ∈ ServiceCall.keptPoints pack keeps) :
      point.pointId ≠ "" := (of_mem_toTelemetryPoints (List.mem_filter.mp inside).1).2.named
  change ((ServiceCall.run start (.telemetry nowMs { pack with site := site } fun _ =>
    true)).handleTelemetryPoints nowMs (ServiceCall.keptPoints pack keeps)).snapshot.get
      moved.pointId = some ⟨last, nowMs⟩ at after
  rw [get_handleTelemetryPoints, pruned_of_nothingRemoved nothing,
    accepted_of_nothingRemoved nothing named, Option.or_eq_some_iff] at after
  rcases after with entered | ⟨out, stays⟩
  · rcases Option.map_eq_some_iff.mp entered with ⟨entrant, enters, one⟩
    rw [entering, Option.filter_eq_some_iff] at enters
    rcases of_mem_toTelemetryPoints (List.mem_filter.mp (of_find?_last enters.1).1).1 with ⟨site, -⟩
    rw [← one] at own
    refine absurd ⟨?_, ?_⟩ foreign
    · rw [← site]
      exact own.gatewayId
    · rw [← site]
      exact own.portId
  · have silent := (get_keptPoints.mp stays).2
    constructor
    · intro text
      refine silent point inside (registryDeviceKey_eq_iff.mpr ⟨?_, device.trans own.deviceId.symm⟩)
      rw [here, text, own.gatewayId, own.portId]
      rfl
    · intro path
      have ids : point.pointId = moved.pointId := by
        rw [built.pointId, builtMoved.pointId, TelemetryPoint.path, TelemetryPoint.path, here, there,
          ← path, number, pointKey]
      rcases exists_last inside with ⟨entrant, enters, -⟩
      rw [Option.map_eq_none_iff, entering, stays, ← ids, enters, Option.filter_some,
        Option.all_some, if_pos (decide_eq_true (le_refl nowMs))] at out
      cases out

end Telemetry

theorem not_reaches_telemetry {nowMs : Int} {pack : TelemetryPack}
    {keeps : TelemetryPoint -> Bool}
    (alone : (ServiceCall.telemetry nowMs pack keeps).LeavesAlone key) :
    ¬ PackReaches key pack keeps := by
  rintro ⟨⟨point, inside, device⟩, port | ⟨factoryId, areaId, path⟩⟩
  · exact (@apart_of_leavesAlone key nowMs pack keeps alone point inside device
      { pack.site with gatewayId := key.gatewayId, portId := key.portId } rfl rfl).1 port
  · exact (@apart_of_leavesAlone key nowMs pack keeps alone point inside device
      { pack.site with
        factoryId := factoryId
        areaId := areaId
        gatewayId := key.gatewayId
        portId := key.portId } rfl rfl).2 path

end Changes

theorem not_reaches_of_leavesAlone {key : DeviceKey} {call : ServiceCall}
    (alone : call.LeavesAlone key) : ¬ call.Reaches key := by
  cases call with
  | telemetry nowMs pack keeps => exact not_reaches_telemetry alone
  | devices records => exact not_reaches_devices alone
  | ports records => exact not_reaches_ports alone
  | configs records => exact not_reaches_configs alone
  | gateway registry => exact id
  | statuses gateways => exact id
  | replace gatewayId snapshot fullSnapshot => exact not_reaches_replace alone
  | removeDevice nowMs gatewayId portId deviceId => exact not_reaches_removeDevice alone
  | removeMaster nowMs gatewayId portId => exact not_reaches_removeMaster alone
  | forget nowMs gatewayId portId deviceId => exact not_reaches_forget alone
  | prune nowMs => exact id
  | waiting syncPendingBySeq pendingCommands nextSyncRequestId nextSyncSeq => exact id
  | clear => exact fun _ => not_reaches_clear alone

end DataService

/-- A call leaves all answers about a device alone exactly if it does not reach it. -/
theorem identity_separated_iff (call : ServiceCall) (key : DeviceKey) :
    (forall calls, SameAnswers key call.Later (serviceSystem.run calls)
      (call.run (serviceSystem.run calls))) ↔ ¬ call.Reaches key :=
  ⟨DataService.not_reaches_of_leavesAlone, fun apart calls =>
    DataService.same_of_not_reaches (DataService.sound_run calls) apart⟩

/-! ## Names without separators -/

/-- Neither name has a slash or a dot. -/
structure CleanNames (gatewayId portId : String) : Prop where
  plain : PlainName gatewayId portId
  gatewayDot : '.' ∉ gatewayId.toList
  portDot : '.' ∉ portId.toList

namespace ServiceCall

/-- All names that the call brings are clean. -/
def Clean : ServiceCall -> Prop
  | .telemetry _ pack _ => CleanNames pack.site.gatewayId pack.site.portId
  | .devices records => forall device, device ∈ records ->
      CleanNames device.gatewayId device.portId
  | .ports records => forall port, port ∈ records -> CleanNames port.gatewayId port.portId
  | .configs records => forall config, config ∈ records ->
      CleanNames config.gatewayId config.portId
  | .replace gatewayId _ _ => '/' ∉ gatewayId.toList
  | .removeDevice _ gatewayId portId _ => CleanNames gatewayId portId
  | .removeMaster _ gatewayId portId => CleanNames gatewayId portId
  | .forget _ gatewayId portId _ => CleanNames gatewayId portId
  | _ => True

/-- What the call is about: a device, the port that its registration registers
too, a whole port or a whole gateway. -/
def Names (key : DeviceKey) : ServiceCall -> Prop
  | .telemetry _ pack keeps =>
      (exists point, point ∈ keptPoints pack keeps ∧ point.deviceId = key.deviceId) ∧
        pack.site.gatewayId = key.gatewayId ∧ pack.site.portId = key.portId
  | .devices records => exists device, device ∈ records ∧
      device.gatewayId = key.gatewayId ∧ device.portId = key.portId
  | .ports records => exists port, port ∈ records ∧
      port.gatewayId = key.gatewayId ∧ port.portId = key.portId
  | .configs records => exists config, config ∈ records ∧ config.gatewayId = key.gatewayId ∧
      config.portId = key.portId ∧ config.deviceId = key.deviceId
  | .replace gatewayId _ _ => gatewayId = key.gatewayId
  | .removeDevice _ gatewayId portId deviceId =>
      gatewayId = key.gatewayId ∧ portId = key.portId ∧ deviceId = key.deviceId
  | .removeMaster _ gatewayId portId => gatewayId = key.gatewayId ∧ portId = key.portId
  | .forget _ gatewayId portId deviceId =>
      gatewayId = key.gatewayId ∧ portId = key.portId ∧ deviceId = key.deviceId
  | .clear => True
  | _ => False

end ServiceCall

section Clean

variable {key : DeviceKey} (clean : CleanNames key.gatewayId key.portId)

theorem registryPortKey_inj {gatewayId portId otherGateway otherPort : String}
    (plain : '/' ∉ portId.toList) (other : '/' ∉ otherPort.toList)
    (same : registryPortKey gatewayId portId = registryPortKey otherGateway otherPort) :
    gatewayId = otherGateway ∧ portId = otherPort := by
  have slash : "/".toList = ['/'] := rfl
  rw [registryPortKey, registryPortKey, ← String.toList_inj] at same
  simp only [String.toList_append, slash, List.append_assoc, List.singleton_append] at same
  rw [append_last_separator_inj plain other, String.toList_inj, String.toList_inj] at same
  exact same

theorem sitePath_inj {factoryId areaId gatewayId portId otherFactory otherArea otherGateway
      otherPort : String} (plain : '.' ∉ gatewayId.toList ∧ '.' ∉ portId.toList)
    (other : '.' ∉ otherGateway.toList ∧ '.' ∉ otherPort.toList)
    (same : sitePath factoryId areaId gatewayId portId =
      sitePath otherFactory otherArea otherGateway otherPort) :
    gatewayId = otherGateway ∧ portId = otherPort := by
  have dot : ".".toList = ['.'] := rfl
  have split (factoryId areaId gatewayId portId : String) :
      (sitePath factoryId areaId gatewayId portId).toList =
        ((factoryId ++ "." ++ areaId).toList ++ '.' :: gatewayId.toList) ++ '.' :: portId.toList := by
    simp only [sitePath, String.toList_append, dot, List.append_assoc, List.cons_append,
      List.nil_append]
  rw [← String.toList_inj, split, split, append_last_separator_inj plain.2 other.2,
    append_last_separator_inj plain.1 other.1, String.toList_inj, String.toList_inj,
    String.toList_inj, and_assoc] at same
  exact same.2

include clean

/-- The text of a gateway and that of a device only meet at the device's gateway. -/
theorem gateway_of_meets {gatewayId : String} (plain : '/' ∉ gatewayId.toList)
    (met : meets (gatewayId ++ "/") (key.text ++ "/") = true) : gatewayId = key.gatewayId := by
  have slash : "/".toList = ['/'] := rfl
  have text : (key.text ++ "/").toList =
      key.gatewayId.toList ++ '/' :: (key.portId.toList ++ '/' :: (toString key.deviceId).toList ++
        ['/']) := by
    rw [String.toList_append, DeviceKey.text, toList_registryDeviceKey, slash]
    simp only [List.append_assoc, List.cons_append]
  have front : (gatewayId ++ "/").toList = gatewayId.toList ++ '/' :: [] := by
    rw [String.toList_append, slash]
  rw [meets, Bool.or_eq_true, startsWith, startsWith, List.isPrefixOf_iff_prefix,
    List.isPrefixOf_iff_prefix, text, front] at met
  rcases met with ⟨rest, same⟩ | ⟨rest, same⟩
  · rw [List.append_assoc, List.cons_append, append_first_separator_inj plain clean.plain.1] at same
    exact String.toList_injective same.1
  · rw [List.append_assoc, List.cons_append, append_first_separator_inj clean.plain.1 plain] at same
    exact String.toList_injective same.1.symm

/-- The texts of a device's points are those of the device. -/
theorem device_of_startsWith {config : PointConfig}
    (plain : PlainName config.gatewayId config.portId)
    (begins : startsWith (key.text ++ "/") config.text = true) :
    config.gatewayId = key.gatewayId ∧ config.portId = key.portId ∧
      config.deviceId = key.deviceId := by
  have slash : "/".toList = ['/'] := rfl
  rcases startsWith_iff.mp begins with ⟨rest, same⟩
  rw [PointConfig.text, registryPointKey, DeviceKey.text, ← String.toList_inj] at same
  simp only [String.toList_append, toList_registryDeviceKey, slash, List.append_assoc,
    List.cons_append, List.nil_append] at same
  rw [append_first_separator_inj plain.1 clean.plain.1,
    append_first_separator_inj plain.2 clean.plain.2,
    append_first_separator_inj (slash_not_mem_toString _) (slash_not_mem_toString _),
    String.toList_inj, String.toList_inj, String.toList_inj, toString_int_inj] at same
  exact ⟨same.1, same.2.1, same.2.2.1⟩

/-- With clean names a call reaches nothing but what it is about. -/
theorem names_of_reaches {call : ServiceCall} (cleanCall : call.Clean)
    (reaches : call.Reaches key) : call.Names key := by
  have inGateway {gatewayId text : String} (plain : '/' ∉ gatewayId.toList)
      (begins : startsWith (gatewayId ++ "/") text = true) (same : text = key.portText) :
      gatewayId = key.gatewayId := by
    rw [same] at begins
    have longer := startsWith_append (startsWith_append (startsWith_append begins "/")
      (toString key.deviceId)) "/"
    exact gateway_of_meets clean plain (Bool.or_eq_true_iff.mpr (Or.inl longer))
  cases call with
  | telemetry nowMs pack keeps =>
      rcases reaches with ⟨point, port | ⟨factoryId, areaId, path⟩⟩
      · exact ⟨point, registryPortKey_inj cleanCall.plain.2 clean.plain.2 port⟩
      · obtain ⟨gateway, port⟩ := sitePath_inj ⟨clean.gatewayDot, clean.portDot⟩
          ⟨cleanCall.gatewayDot, cleanCall.portDot⟩ path
        exact ⟨point, gateway.symm, port.symm⟩
  | devices records =>
      rcases reaches with ⟨device, inside, other, named, same⟩
      rcases deviceKey?_eq_some_iff.mp named with ⟨gateway, port, -⟩
      refine ⟨device, inside, ?_⟩
      rw [DeviceKey.portText, gateway, port] at same
      exact registryPortKey_inj (cleanCall device inside).plain.2 clean.plain.2 same
  | ports records =>
      rcases reaches with ⟨port, inside, -, same⟩
      exact ⟨port, inside, registryPortKey_inj (cleanCall port inside).plain.2 clean.plain.2 same⟩
  | configs records =>
      rcases reaches with ⟨config, inside, -, begins⟩
      exact ⟨config, inside, device_of_startsWith clean (cleanCall config inside).plain begins⟩
  | gateway registry => exact reaches
  | statuses gateways => exact reaches
  | replace gatewayId snapshot fullSnapshot =>
      obtain ⟨-, ⟨-, met⟩ | ⟨port, inside, -, same⟩ | ⟨device, inside, other, named, same⟩ |
        ⟨config, inside, -, begins⟩⟩ := reaches
      · exact gateway_of_meets clean cleanCall met
      · have owner : port.gatewayId = gatewayId :=
          of_decide_eq_true (Bool.and_eq_true_iff.mp (List.mem_filter.mp inside).2).1
        rw [← owner] at cleanCall ⊢
        exact inGateway cleanCall (startsWith_iff.mpr ⟨port.portId, rfl⟩) same
      · have owner : other.gatewayId = gatewayId := by
          rw [(deviceKey?_eq_some_iff.mp named).1]
          exact of_decide_eq_true (Bool.and_eq_true_iff.mp
            (Bool.and_eq_true_iff.mp (List.mem_filter.mp inside).2).1).1
        rw [← owner] at cleanCall ⊢
        exact inGateway cleanCall (startsWith_iff.mpr ⟨other.portId, rfl⟩) same
      · have owner : config.gatewayId = gatewayId := of_decide_eq_true (List.mem_filter.mp inside).2
        have front := config.startsWith_text
        rw [owner] at front
        exact gateway_of_meets clean cleanCall (meets_of_common front begins)
  | removeDevice nowMs gatewayId portId deviceId =>
      rcases reaches with ⟨other, named, same⟩
      rw [(DeviceKey.text_inj clean.plain).mp same.symm]
      rcases deviceKey?_eq_some_iff.mp named with ⟨gateway, port, device⟩
      exact ⟨gateway.symm, port.symm, device.symm⟩
  | removeMaster nowMs gatewayId portId =>
      exact registryPortKey_inj cleanCall.plain.2 clean.plain.2 reaches.2.2
  | forget nowMs gatewayId portId deviceId =>
      rcases reaches with ⟨other, named, same⟩
      rw [(DeviceKey.text_inj clean.plain).mp same.symm]
      rcases deviceKey?_eq_some_iff.mp named with ⟨gateway, port, device⟩
      exact ⟨gateway.symm, port.symm, device.symm⟩
  | prune nowMs => exact reaches
  | waiting syncPendingBySeq pendingCommands nextSyncRequestId nextSyncSeq => exact reaches
  | clear => exact trivial

end Clean

/-- Device 1 of port `b/c` of gateway `a`, and device 1 of port `c` of gateway `a/b`. -/
def dividedEarly : DeviceKey where
  gatewayId := "a"
  portId := "b/c"
  deviceId := 1
  gatewayNamed := by decide
  portNamed := by decide
  positive := Int.one_pos

def dividedLate : DeviceKey where
  gatewayId := "a/b"
  portId := "c"
  deviceId := 1
  gatewayNamed := by decide
  portNamed := by decide
  positive := Int.one_pos

/-- Removing the one device marks the other one as removed. -/
theorem removed_with_other_device :
    ¬ forall (first second : DeviceKey), first ≠ second -> forall (nowMs : Int) calls,
      SameAnswers second (fun time => nowMs ≤ time) (serviceSystem.run calls)
        ((serviceSystem.run calls).removeDeviceData nowMs first.gatewayId first.portId
          first.deviceId) := by
  intro separate
  have same := (separate dividedEarly dividedLate (by decide) 0 []).isRemovedDevice 0 (le_refl 0)
  revert same
  decide +kernel

end Pc
end Imx6Gateway
