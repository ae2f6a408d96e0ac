import Imx6Gateway.Pc.Restart

namespace Imx6Gateway
namespace Pc

open Library

/-!
# Calls of the memory of Pc_data

The functions of `PcDataService` that change it, as events of a system of its
own.  Whether something is registered is a question about texts: each function
that registers adds texts, and each function that removes looks for texts or
for the records that stand under them.
-/

/-! ## Texts -/

theorem startsWith_iff {front text : String} :
    startsWith front text = true ↔ exists rest, text = front ++ rest := by
  rw [startsWith, List.isPrefixOf_iff_prefix]
  constructor
  · rintro ⟨rest, same⟩
    refine ⟨String.ofList rest, String.toList_injective ?_⟩
    rw [String.toList_append, String.toList_ofList, same]
  · rintro ⟨rest, rfl⟩
    exact ⟨rest.toList, (String.toList_append).symm⟩

/-- One of the two texts goes on after the other. -/
def meets (first second : String) : Bool :=
  startsWith first second || startsWith second first

theorem meets_of_common {first second text : String} (one : startsWith first text = true)
    (two : startsWith second text = true) : meets first second = true := by
  rw [startsWith, List.isPrefixOf_iff_prefix] at one two
  rw [meets, Bool.or_eq_true, startsWith, startsWith, List.isPrefixOf_iff_prefix,
    List.isPrefixOf_iff_prefix]
  exact List.prefix_or_prefix_of_prefix one two

def DeviceKey.portText (key : DeviceKey) : String :=
  registryPortKey key.gatewayId key.portId

/-- The text of a device is that of its port and its number. -/
theorem registryDeviceKey_eq_iff {gatewayId portId otherGateway otherPort : String}
    {deviceId otherDevice : Int} :
    registryDeviceKey gatewayId portId deviceId =
        registryDeviceKey otherGateway otherPort otherDevice ↔
      registryPortKey gatewayId portId = registryPortKey otherGateway otherPort ∧
        deviceId = otherDevice := by
  have slash : "/".toList = ['/'] := rfl
  have split (gatewayId portId : String) (deviceId : Int) :
      (registryDeviceKey gatewayId portId deviceId).toList =
        (registryPortKey gatewayId portId).toList ++ '/' :: (toString deviceId).toList := by
    change (registryPortKey gatewayId portId ++ "/" ++ toString deviceId).toList = _
    rw [String.toList_append, String.toList_append, slash, List.append_assoc]
    rfl
  rw [← String.toList_inj, split, split, append_last_separator_inj (slash_not_mem_toString _)
    (slash_not_mem_toString _), String.toList_inj, String.toList_inj, toString_int_inj]

theorem DeviceKey.text_eq_iff {key other : DeviceKey} :
    key.text = other.text ↔ key.portText = other.portText ∧ key.deviceId = other.deviceId :=
  registryDeviceKey_eq_iff

def GatewayPort.text (port : GatewayPort) : String :=
  registryPortKey port.gatewayId port.portId

/-- `updateGatewayPorts` takes the record. -/
def GatewayPort.Named (port : GatewayPort) : Prop :=
  port.gatewayId ≠ "" ∧ port.portId ≠ ""

def PointConfig.text (config : PointConfig) : String :=
  registryPointKey config.gatewayId config.portId config.deviceId config.pointKey

theorem PointConfig.startsWith_text (config : PointConfig) :
    startsWith (config.gatewayId ++ "/") config.text = true := by
  rcases startsWith_iff.mp (startsWith_gateway config.gatewayId config.portId config.deviceId) with
    ⟨rest, same⟩
  rw [startsWith_iff]
  refine ⟨rest ++ "/" ++ config.pointKey, ?_⟩
  rw [PointConfig.text, registryPointKey, same]
  simp only [String.append_assoc]

/-- `updatePointConfigs` takes the record. -/
def PointConfig.Named (config : PointConfig) : Prop :=
  config.gatewayId ≠ "" ∧ config.portId ≠ "" ∧ 0 < config.deviceId ∧ config.pointKey ≠ ""

/-! ## Identifiers of points -/

/-- The parts of a point's identifier before its device. -/
def sitePath (factoryId areaId gatewayId portId : String) : String :=
  factoryId ++ "." ++ areaId ++ "." ++ gatewayId ++ "." ++ portId

def TelemetryPoint.path (point : TelemetryPoint) : String :=
  sitePath point.site.factoryId point.site.areaId point.site.gatewayId point.site.portId

/-- The point has the identifier that `buildPointId` gives it. -/
structure TelemetryPoint.Built (point : TelemetryPoint) : Prop where
  pointId : point.pointId = point.path ++ "." ++ toString point.deviceId ++ "." ++ point.pointKey
  plainKey : '.' ∉ point.pointKey.toList

theorem TelemetryPoint.Built.named {point : TelemetryPoint} (built : point.Built) :
    point.pointId ≠ "" := by
  intro empty
  have characters := congrArg String.toList (built.pointId.symm.trans empty)
  have dot : '.' ∈ (point.path ++ "." ++ toString point.deviceId ++ "." ++ point.pointKey).toList := by
    simp only [String.toList_append, List.mem_append]
    exact Or.inl (Or.inr (List.mem_singleton.mpr rfl))
  rw [characters] at dot
  exact List.not_mem_nil dot

theorem dot_not_mem_relayKey (channel : Nat) : '.' ∉ (relayKey channel).toList := by
  have digits : (toString channel).toList = JsonText.natText channel := toList_repr channel
  rw [relayKey, String.toList_append, digits, List.mem_append, not_or]
  exact ⟨by decide, fun inside => Bool.noConfusion (JsonText.natText_digits _ _ inside)⟩

theorem built_of_mem_devicePoints {pack : TelemetryPack} {device : DeviceData}
    {point : TelemetryPoint} (inside : point ∈ devicePoints pack device) : point.Built := by
  rcases of_mem_devicePoints inside with ⟨site, number, pointId⟩
  refine ⟨?_, ?_⟩
  · rw [pointId, TelemetryPoint.path, site, number]
    rfl
  · unfold devicePoints at inside
    split at inside
    · simp only [temperatureHumidityPoints, List.mem_cons, List.not_mem_nil, or_false] at inside
      rcases inside with rfl | rfl <;> simp only [floatPoint, makePoint] <;> decide
    · simp only [electricMeterPoints, List.mem_cons, List.not_mem_nil, or_false] at inside
      rcases inside with rfl | rfl | rfl | rfl <;> simp only [floatPoint, makePoint] <;> decide
    · rcases List.mem_map.mp inside with ⟨index, -, rfl⟩
      exact dot_not_mem_relayKey (index + 1)
    · simp only [sysInfoPoints, List.mem_cons, List.not_mem_nil, or_false] at inside
      rcases inside with rfl | rfl | rfl | rfl | rfl | rfl | rfl <;>
        simp only [textPoint, numberPoint, makePoint] <;> decide
    · rw [List.mem_singleton] at inside
      rw [inside]
      simp only [unknownDevicePoint, textPoint, makePoint]
      decide

/-- The same pack from another place has the same points with other identifiers. -/
theorem devicePoints_moved (pack : TelemetryPack) (site : SiteContext) (device : DeviceData) :
    devicePoints { pack with site := site } device =
      (devicePoints pack device).map fun point =>
        { point with
          site := site
          pointId := buildPointId { pack with site := site } device point.pointKey } := by
  unfold devicePoints
  cases device.type with
  | sensorTh => rfl
  | electricMeter => rfl
  | relay =>
      dsimp only [relayPoints]
      rw [List.map_map]
      rfl
  | sysInfo => rfl
  | unknown => rfl

theorem exists_moved {pack : TelemetryPack} {point : TelemetryPoint}
    (inside : point ∈ toTelemetryPoints pack) (site : SiteContext) :
    exists moved, moved ∈ toTelemetryPoints { pack with site := site } ∧
      moved.deviceId = point.deviceId ∧ moved.pointKey = point.pointKey := by
  rcases List.mem_flatMap.mp inside with ⟨device, listed, made⟩
  refine ⟨{ point with
    site := site
    pointId := buildPointId { pack with site := site } device point.pointKey }, ?_, rfl, rfl⟩
  refine List.mem_flatMap.mpr ⟨device, listed, ?_⟩
  rw [devicePoints_moved]
  exact List.mem_map.mpr ⟨point, made, rfl⟩

theorem of_mem_toTelemetryPoints {pack : TelemetryPack} {point : TelemetryPoint}
    (inside : point ∈ toTelemetryPoints pack) : point.site = pack.site ∧ point.Built := by
  rcases List.mem_flatMap.mp inside with ⟨device, -, made⟩
  exact ⟨(of_mem_devicePoints made).1, built_of_mem_devicePoints made⟩

/-- Points with one identifier differ at most in how their paths are divided. -/
theorem TelemetryPoint.Built.same {point other : TelemetryPoint} (built : point.Built)
    (builtOther : other.Built) (same : point.pointId = other.pointId) :
    point.path = other.path ∧ point.deviceId = other.deviceId ∧ point.pointKey = other.pointKey := by
  have dot : ".".toList = ['.'] := rfl
  have number (value : Int) : '.' ∉ (toString value).toList :=
    not_mem_toString_int (by decide) rfl value
  have split {point : TelemetryPoint} (built : point.Built) : point.pointId.toList =
      (point.path.toList ++ '.' :: (toString point.deviceId).toList) ++
        '.' :: point.pointKey.toList := by
    rw [built.pointId]
    simp only [String.toList_append, dot, List.append_assoc, List.cons_append, List.nil_append]
  rw [← String.toList_inj, split built, split builtOther,
    append_last_separator_inj built.plainKey builtOther.plainKey,
    append_last_separator_inj (number _) (number _), String.toList_inj, String.toList_inj,
    String.toList_inj, toString_int_inj, and_assoc] at same
  exact same

/-! ## What is registered -/

namespace DataService

def HasDevice (service : DataService) (text : String) : Prop :=
  (service.registeredDeviceTypes.get text).isSome = true ∨
    (service.deviceRegistry.get text).isSome = true

def HasPort (service : DataService) (text : String) : Prop :=
  text ∈ service.registeredPorts ∨ (service.gatewayPorts.get text).isSome = true

def HasConfig (service : DataService) (text : String) : Prop :=
  text ∈ service.registeredPointConfigs ∨ (service.pointConfigs.get text).isSome = true

theorem deviceRegistered_iff {service : DataService} {gatewayId portId : String}
    {deviceId : Int} : service.deviceRegistered gatewayId portId deviceId = true ↔
      service.HasDevice (registryDeviceKey gatewayId portId deviceId) := by
  rw [deviceRegistered, Bool.or_eq_true, HasDevice]

theorem portRegistered_iff {service : DataService} {gatewayId portId : String} :
    service.portRegistered gatewayId portId = true ↔
      service.HasPort (registryPortKey gatewayId portId) := by
  rw [portRegistered, Bool.or_eq_true, decide_eq_true_eq, HasPort]

theorem pointConfigRegistered_iff {service : DataService} {gatewayId portId : String}
    {deviceId : Int} {pointKey : String} :
    service.pointConfigRegistered gatewayId portId deviceId pointKey = true ↔
      service.HasConfig (registryPointKey gatewayId portId deviceId pointKey) := by
  rw [pointConfigRegistered, Bool.or_eq_true, decide_eq_true_eq, HasConfig]

/-- The same is registered, but for texts that have been added. -/
structure Enters (service after : DataService) (devices ports configs : String -> Prop) : Prop where
  devices : forall text, after.HasDevice text ↔ devices text ∨ service.HasDevice text
  ports : forall text, after.HasPort text ↔ ports text ∨ service.HasPort text
  configs : forall text, after.HasConfig text ↔ configs text ∨ service.HasConfig text
  removed : after.removedDevices = service.removedDevices
  snapshot : after.snapshot = service.snapshot

def Nothing (_ : String) : Prop := False

theorem Enters.refl (service : DataService) : service.Enters service Nothing Nothing Nothing := by
  refine ⟨?_, ?_, ?_, rfl, rfl⟩
  · exact fun _ => (or_iff_right id).symm
  · exact fun _ => (or_iff_right id).symm
  · exact fun _ => (or_iff_right id).symm

section Lists

variable {Item : Type} {operation : DataService -> Item -> DataService}
  {devices ports configs : Item -> String -> Prop}

/-- A list adds what its members add. -/
theorem enters_foldl
    (each : forall service item,
      Enters service (operation service item) (devices item) (ports item) (configs item))
    (items : List Item) (service : DataService) :
    Enters service (items.foldl operation service)
      (fun text => exists item, item ∈ items ∧ devices item text)
      (fun text => exists item, item ∈ items ∧ ports item text)
      (fun text => exists item, item ∈ items ∧ configs item text) := by
  induction items generalizing service with
  | nil =>
      refine ⟨?_, ?_, ?_, rfl, rfl⟩
      · simp
      · simp
      · simp
  | cons item items ih =>
      have first := each service item
      have rest := ih (operation service item)
      rw [List.foldl_cons]
      refine ⟨?_, ?_, ?_, rest.removed.trans first.removed, rest.snapshot.trans first.snapshot⟩
      · intro text
        rw [rest.devices, first.devices, List.exists_mem_cons_iff, or_left_comm, or_assoc]
      · intro text
        rw [rest.ports, first.ports, List.exists_mem_cons_iff, or_left_comm, or_assoc]
      · intro text
        rw [rest.configs, first.configs, List.exists_mem_cons_iff, or_left_comm, or_assoc]

end Lists

theorem rememberDeviceRegistry_enters (service : DataService) (device : DeviceRecord) :
    service.Enters (service.rememberDeviceRegistry device)
      (fun text => exists key, device.key? = some key ∧ key.text = text)
      (fun text => exists key, device.key? = some key ∧ key.portText = text) Nothing := by
  cases named : device.key? with
  | none =>
      have refused : device.gatewayId = "" ∨ device.portId = "" ∨ device.deviceId ≤ 0 := by
        by_contra valid
        rw [not_or, not_or, not_le] at valid
        rw [DeviceRecord.key?, deviceKey?, dif_pos valid] at named
        cases named
      rw [rememberDeviceRegistry, if_pos refused]
      refine ⟨?_, ?_, ?_, rfl, rfl⟩
      · simp
      · simp
      · simp [Nothing]
  | some key =>
      have valid : ¬ (device.gatewayId = "" ∨ device.portId = "" ∨ device.deviceId ≤ 0) := by
        rcases deviceKey?_eq_some_iff.mp named with ⟨gateway, port, number⟩
        rw [← gateway, ← port, ← number, not_or, not_or, not_le]
        exact ⟨key.gatewayNamed, key.portNamed, key.positive⟩
      have here : registryDeviceKey device.gatewayId device.portId device.deviceId = key.text :=
        DeviceRecord.text_of_key named
      have port : registryPortKey device.gatewayId device.portId = key.portText := by
        rcases deviceKey?_eq_some_iff.mp named with ⟨gateway, port, -⟩
        rw [DeviceKey.portText, gateway, port]
      rw [rememberDeviceRegistry, if_neg valid]
      refine ⟨?_, ?_, ?_, rfl, rfl⟩
      · intro text
        simp only [HasDevice, Table.isSome_get_put, here, Option.some.injEq, exists_eq_left',
          eq_comm (a := text)]
        tauto
      · intro text
        simp only [HasPort, Finset.mem_insert, port, Option.some.injEq, exists_eq_left',
          eq_comm (a := text), or_assoc]
      · exact fun _ => (or_iff_right id).symm

theorem updateGatewayPort_enters (service : DataService) (port : GatewayPort) :
    service.Enters (service.updateGatewayPort port) Nothing
      (fun text => port.Named ∧ port.text = text) Nothing := by
  unfold updateGatewayPort
  by_cases refused : port.gatewayId = "" ∨ port.portId = ""
  · have unnamed : ¬ port.Named := fun named => refused.elim named.1 named.2
    rw [if_pos refused]
    refine ⟨?_, ?_, ?_, rfl, rfl⟩
    · exact fun _ => (or_iff_right id).symm
    · exact fun _ => (or_iff_right fun both => unnamed both.1).symm
    · exact fun _ => (or_iff_right id).symm
  · have named : port.Named := not_or.mp refused
    rw [if_neg refused]
    refine ⟨?_, ?_, ?_, rfl, rfl⟩
    · exact fun _ => (or_iff_right id).symm
    · intro text
      have here : registryPortKey port.gatewayId port.portId = port.text := rfl
      simp only [HasPort, Finset.mem_insert, Table.isSome_get_put, here, named, true_and,
        eq_comm (a := text)]
      tauto
    · exact fun _ => (or_iff_right id).symm

theorem updatePointConfig_enters (service : DataService) (config : PointConfig) :
    service.Enters (service.updatePointConfig config) Nothing Nothing
      (fun text => config.Named ∧ config.text = text) := by
  unfold updatePointConfig
  by_cases refused : config.gatewayId = "" ∨ config.portId = "" ∨ config.deviceId ≤ 0 ∨
      config.pointKey = ""
  · have unnamed : ¬ config.Named := by
      rintro ⟨gateway, port, device, point⟩
      exact refused.elim gateway fun rest => rest.elim port fun rest =>
        rest.elim (not_le.mpr device) point
    rw [if_pos refused]
    refine ⟨?_, ?_, ?_, rfl, rfl⟩
    · exact fun _ => (or_iff_right id).symm
    · exact fun _ => (or_iff_right id).symm
    · exact fun _ => (or_iff_right fun both => unnamed both.1).symm
  · have named : config.Named := by
      rw [not_or, not_or, not_or, not_le] at refused
      exact refused
    rw [if_neg refused]
    refine ⟨?_, ?_, ?_, rfl, rfl⟩
    · exact fun _ => (or_iff_right id).symm
    · exact fun _ => (or_iff_right id).symm
    · intro text
      have here : registryPointKey config.gatewayId config.portId config.deviceId
        config.pointKey = config.text := rfl
      simp only [HasConfig, Finset.mem_insert, Table.isSome_get_put, here, named, true_and,
        eq_comm (a := text)]
      tauto

theorem rememberGatewayRegistry_enters (service : DataService) (registry : GatewayRegistry) :
    service.Enters (service.rememberGatewayRegistry registry) Nothing Nothing Nothing := by
  unfold rememberGatewayRegistry
  split
  · exact Enters.refl service
  · have same := Enters.refl service
    exact ⟨same.devices, same.ports, same.configs, rfl, rfl⟩

theorem updateGatewayStatus_enters (service : DataService) (gateway : GatewayStatus) :
    service.Enters (service.updateGatewayStatus gateway) Nothing Nothing Nothing := by
  unfold updateGatewayStatus
  split
  · exact Enters.refl service
  · have same := Enters.refl service
    exact ⟨same.devices, same.ports, same.configs, rfl, rfl⟩

/-! ## Records stand under their texts -/

structure Sound (service : DataService) : Prop where
  devices : forall text device, service.deviceRegistry.get text = some device ->
    exists key, device.key? = some key ∧ key.text = text
  types : forall text, (service.registeredDeviceTypes.get text).isSome = true ->
    (service.deviceRegistry.get text).isSome = true
  ports : forall text port, service.gatewayPorts.get text = some port -> port.text = text
  configs : forall text config, service.pointConfigs.get text = some config -> config.text = text
  configTexts : forall text, text ∈ service.registeredPointConfigs ->
    (service.pointConfigs.get text).isSome = true
  points : forall pointId stored, service.snapshot.get pointId = some stored ->
    stored.point.pointId = pointId ∧ stored.point.Built

theorem sound_start : start.Sound where
  devices text device found := by cases found
  types text found := by cases found
  ports text port found := by cases found
  configs text config found := by cases found
  configTexts text inside := absurd inside (Finset.notMem_empty text)
  points pointId stored found := by cases found

section Sound

variable {service : DataService} (sound : service.Sound)

include sound

theorem sound_prune (nowMs : Int) : (service.pruneExpiredRemovedDevices nowMs).Sound :=
  { sound with }

theorem sound_rememberDeviceRegistry (device : DeviceRecord) :
    (service.rememberDeviceRegistry device).Sound := by
  unfold rememberDeviceRegistry
  by_cases refused : device.gatewayId = "" ∨ device.portId = "" ∨ device.deviceId ≤ 0
  · rw [if_pos refused]
    exact sound
  rw [if_neg refused]
  refine { sound with devices := ?_, types := ?_ }
  · intro text other found
    dsimp only at found
    rw [Table.get_put] at found
    split at found
    · rename_i here
      injection found with same
      rw [not_or, not_or, not_le] at refused
      refine ⟨⟨_, _, _, refused.1, refused.2.1, refused.2.2⟩, ?_, here.symm⟩
      rw [← same]
      exact deviceKey?_eq_some_iff.mpr ⟨rfl, rfl, rfl⟩
    · exact sound.devices text other found
  · intro text found
    dsimp only at found ⊢
    rw [Table.isSome_get_put] at found ⊢
    exact found.imp_right (sound.types text)

theorem sound_updateGatewayPort (port : GatewayPort) : (service.updateGatewayPort port).Sound := by
  unfold updateGatewayPort
  by_cases refused : port.gatewayId = "" ∨ port.portId = ""
  · rw [if_pos refused]
    exact sound
  rw [if_neg refused]
  refine { sound with ports := ?_ }
  intro text other found
  dsimp only at found
  rw [Table.get_put] at found
  split at found
  · rename_i here
    injection found with same
    rw [← same, here]
    rfl
  · exact sound.ports text other found

theorem sound_updatePointConfig (config : PointConfig) :
    (service.updatePointConfig config).Sound := by
  unfold updatePointConfig
  by_cases refused : config.gatewayId = "" ∨ config.portId = "" ∨ config.deviceId ≤ 0 ∨
      config.pointKey = ""
  · rw [if_pos refused]
    exact sound
  rw [if_neg refused]
  refine { sound with configs := ?_, configTexts := ?_ }
  · intro text other found
    dsimp only at found
    rw [Table.get_put] at found
    split at found
    · rename_i here
      injection found with same
      rw [← same, here]
      rfl
    · exact sound.configs text other found
  · intro text inside
    dsimp only at inside ⊢
    rw [Table.isSome_get_put]
    exact (Finset.mem_insert.mp inside).imp_right (sound.configTexts text)

end Sound

/-- What each call of a list keeps, the list keeps. -/
theorem sound_foldl {Item : Type} {operation : DataService -> Item -> DataService}
    (each : forall service, Sound service -> forall item, Sound (operation service item))
    (items : List Item) {service : DataService} (sound : service.Sound) :
    (items.foldl operation service).Sound := by
  induction items generalizing service with
  | nil => exact sound
  | cons item items ih => exact ih (each service sound item)

/-- A record stands under a text that begins with its gateway. -/
theorem Sound.device_startsWith {service : DataService} (sound : service.Sound) {text : String}
    {device : DeviceRecord} (found : service.deviceRegistry.get text = some device) :
    startsWith (device.gatewayId ++ "/") text = true := by
  rcases sound.devices text device found with ⟨key, named, rfl⟩
  rw [← (deviceKey?_eq_some_iff.mp named).1]
  exact startsWith_gateway key.gatewayId key.portId key.deviceId

theorem Sound.port_startsWith {service : DataService} (sound : service.Sound) {text : String}
    {port : GatewayPort} (found : service.gatewayPorts.get text = some port) :
    startsWith (port.gatewayId ++ "/") text = true := by
  rw [← sound.ports text port found, startsWith_iff]
  exact ⟨port.portId, rfl⟩

section Sound

variable {service : DataService} (sound : service.Sound)

include sound

theorem sound_clearGateway (gatewayId : String) : (service.clearGateway gatewayId).Sound where
  devices text device found := sound.devices text device
    ((get_clearGateway service gatewayId text device).mp found).1
  types text found := by
    rw [isSome_types_clearGateway] at found
    rcases Option.isSome_iff_exists.mp (sound.types text found.1) with ⟨device, here⟩
    have other : device.gatewayId ≠ gatewayId := by
      intro same
      have front := sound.device_startsWith here
      rw [same, found.2] at front
      cases front
    rw [(get_clearGateway service gatewayId text device).mpr ⟨here, other⟩]
    rfl
  ports text port found := by
    rw [clearGateway, Table.get_keepIf, Option.filter_eq_some_iff] at found
    exact sound.ports text port found.1
  configs text config found := by
    rw [clearGateway, Table.get_keepIf, Option.filter_eq_some_iff] at found
    exact sound.configs text config found.1
  configTexts text inside := by
    rcases Finset.mem_filter.mp inside with ⟨listed, apart⟩
    rcases Option.isSome_iff_exists.mp (sound.configTexts text listed) with ⟨config, here⟩
    have other : config.gatewayId ≠ gatewayId := by
      intro same
      have front := config.startsWith_text
      rw [sound.configs text config here, same] at front
      rw [front] at apart
      cases apart
    rw [clearGateway, Table.get_keepIf, here, Option.filter_some, if_pos (decide_eq_true other)]
    rfl
  points pointId stored found := sound.points pointId stored found

/-- Without a text that begins with the gateway, nothing is cleared. -/
theorem clearGateway_keeps {gatewayId text : String}
    (apart : startsWith (gatewayId ++ "/") text = false) :
    ((service.clearGateway gatewayId).HasDevice text ↔ service.HasDevice text) ∧
      ((service.clearGateway gatewayId).HasPort text ↔ service.HasPort text) ∧
      ((service.clearGateway gatewayId).HasConfig text ↔ service.HasConfig text) := by
  have others {owner : String} (front : startsWith (owner ++ "/") text = true) :
      owner ≠ gatewayId := by
    rintro rfl
    rw [apart] at front
    cases front
  have devices : (service.clearGateway gatewayId).deviceRegistry.get text =
      service.deviceRegistry.get text := by
    apply Table.get_keepIf_of_forall
    exact fun device found => decide_eq_true (others (sound.device_startsWith found))
  have ports : (service.clearGateway gatewayId).gatewayPorts.get text =
      service.gatewayPorts.get text := by
    apply Table.get_keepIf_of_forall
    exact fun port found => decide_eq_true (others (sound.port_startsWith found))
  have configs : (service.clearGateway gatewayId).pointConfigs.get text =
      service.pointConfigs.get text := by
    apply Table.get_keepIf_of_forall
    intro config found
    have front := config.startsWith_text
    rw [sound.configs text config found] at front
    exact decide_eq_true (others front)
  refine ⟨?_, ?_, ?_⟩
  · rw [HasDevice, devices, isSome_types_clearGateway, apart, and_iff_left rfl, HasDevice]
  · rw [HasPort, ports, clearGateway, Finset.mem_filter, apart, HasPort]
    simp
  · rw [HasConfig, configs, clearGateway, Finset.mem_filter, apart, HasConfig]
    simp

theorem sound_replaceGatewayRegistry (gatewayId : String) (snapshot : ConfigSnapshot)
    (fullSnapshot : Bool) :
    (service.replaceGatewayRegistry gatewayId snapshot fullSnapshot).Sound := by
  unfold replaceGatewayRegistry
  split
  · exact sound
  have known : Sound { service with
      registeredGateways := insert gatewayId service.registeredGateways } := { sound with }
  have cleared : (if fullSnapshot then clearGateway { service with
      registeredGateways := insert gatewayId service.registeredGateways } gatewayId
      else { service with
        registeredGateways := insert gatewayId service.registeredGateways }).Sound := by
    split
    · exact sound_clearGateway known gatewayId
    · exact known
  have ports := sound_foldl (fun _ sound port => sound_updateGatewayPort sound port)
    (snapshot.ports.filter (Database.ownPort gatewayId)) cleared
  have devices := sound_foldl (fun _ sound device => sound_rememberDeviceRegistry sound device)
    (snapshot.devices.filter (Database.ownEntry gatewayId)) ports
  exact sound_foldl (fun _ sound config => sound_updatePointConfig sound config) _ devices

theorem sound_removeDeviceData (nowMs : Int) (gatewayId portId : String) (deviceId : Int) :
    (service.removeDeviceData nowMs gatewayId portId deviceId).Sound := by
  unfold removeDeviceData
  split
  · exact sound
  refine { sound with types := ?_, configTexts := ?_, points := ?_ }
  · intro text found
    dsimp only at found
    rw [Table.get_erase] at found
    split at found
    · cases found
    · exact sound.types text found
  · exact fun text inside => sound.configTexts text (Finset.mem_filter.mp inside).1
  · intro pointId stored found
    dsimp only at found
    rw [Table.get_keepIf, Option.filter_eq_some_iff] at found
    exact sound.points pointId stored found.1

theorem sound_removeMasterData (nowMs : Int) (gatewayId portId : String) :
    (service.removeMasterData nowMs gatewayId portId).1.Sound := by
  unfold removeMasterData
  split
  · exact sound
  refine { sound with types := ?_, configTexts := ?_, points := ?_ }
  · intro text found
    dsimp only at found
    rw [Table.get_keepIf_key] at found
    split at found
    · exact sound.types text found
    · cases found
  · exact fun text inside => sound.configTexts text (Finset.mem_filter.mp inside).1
  · intro pointId stored found
    dsimp only at found
    rw [Table.get_keepIf, Option.filter_eq_some_iff] at found
    exact sound.points pointId stored found.1

theorem sound_handleTelemetryPoints (nowMs : Int) {points : List TelemetryPoint}
    (built : forall point, point ∈ points -> point.Built) :
    (service.handleTelemetryPoints nowMs points).Sound := by
  refine { sound with points := ?_ }
  intro pointId stored found
  rw [get_handleTelemetryPoints, Option.or_eq_some_iff] at found
  rcases found with entered | ⟨-, kept⟩
  · rcases Option.map_eq_some_iff.mp entered with ⟨point, inside, rfl⟩
    rw [entering, Option.filter_eq_some_iff] at inside
    rcases of_find?_last inside.1 with ⟨listed, same⟩
    exact ⟨same, built point (List.mem_filter.mp listed).1⟩
  · exact sound.points pointId stored (get_keptPoints.mp kept).1

end Sound

theorem sound_clear (service : DataService) : service.clear.Sound :=
  { sound_start with }

end DataService

/-! ## Calls -/

/-- A call of a function that changes the memory. -/
inductive ServiceCall where
  /-- The points of a pack that the worker keeps. -/
  | telemetry (nowMs : Int) (pack : TelemetryPack) (keeps : TelemetryPoint -> Bool)
  | devices (records : List DeviceRecord)
  | ports (records : List GatewayPort)
  | configs (records : List PointConfig)
  | gateway (registry : GatewayRegistry)
  | statuses (gateways : List GatewayStatus)
  | replace (gatewayId : String) (snapshot : ConfigSnapshot) (fullSnapshot : Bool)
  | removeDevice (nowMs : Int) (gatewayId portId : String) (deviceId : Int)
  | removeMaster (nowMs : Int) (gatewayId portId : String)
  | forget (nowMs : Int) (gatewayId portId : String) (deviceId : Int)
  /-- `isRemovedDevice` and `filterRemovedPoints` forget what is older. -/
  | prune (nowMs : Int)
  /-- Whatever the functions for waiting requests and commands leave. -/
  | waiting (syncPendingBySeq : Table Int SyncRequest) (pendingCommands : List PendingCommandTarget)
      (nextSyncRequestId nextSyncSeq : Int)
  | clear

namespace ServiceCall

/-- The points of the pack that come to `handleTelemetryPoints`. -/
def keptPoints (pack : TelemetryPack) (keeps : TelemetryPoint -> Bool) : List TelemetryPoint :=
  (toTelemetryPoints pack).filter keeps

def run (service : DataService) : ServiceCall -> DataService
  | .telemetry nowMs pack keeps => service.handleTelemetryPoints nowMs (keptPoints pack keeps)
  | .devices records => service.rememberDeviceRegistries records
  | .ports records => service.rememberGatewayPorts records
  | .configs records => service.rememberPointConfigs records
  | .gateway registry => service.rememberGatewayRegistry registry
  | .statuses gateways => service.updateGatewayStatuses gateways
  | .replace gatewayId snapshot fullSnapshot =>
      service.replaceGatewayRegistry gatewayId snapshot fullSnapshot
  | .removeDevice nowMs gatewayId portId deviceId =>
      service.removeDeviceData nowMs gatewayId portId deviceId
  | .removeMaster nowMs gatewayId portId => (service.removeMasterData nowMs gatewayId portId).1
  | .forget nowMs gatewayId portId deviceId =>
      service.forgetRemovedDevice nowMs gatewayId portId deviceId
  | .prune nowMs => service.pruneExpiredRemovedDevices nowMs
  | .waiting syncPendingBySeq pendingCommands nextSyncRequestId nextSyncSeq =>
      { service with
        syncPendingBySeq := syncPendingBySeq
        pendingCommands := pendingCommands
        nextSyncRequestId := nextSyncRequestId
        nextSyncSeq := nextSyncSeq }
  | .clear => service.clear

end ServiceCall

/-- The service on its own: any calls in any order. -/
def serviceSystem : TransitionSystem DataService ServiceCall where
  initial := DataService.start
  step service call := call.run service

namespace DataService

theorem sound_call {service : DataService} (sound : service.Sound) (call : ServiceCall) :
    (call.run service).Sound := by
  cases call with
  | telemetry nowMs pack keeps =>
      exact sound_handleTelemetryPoints sound nowMs fun point inside =>
        (of_mem_toTelemetryPoints (List.mem_filter.mp inside).1).2
  | devices records =>
      exact sound_foldl (fun _ sound device => sound_rememberDeviceRegistry sound device) records sound
  | ports records =>
      exact sound_foldl (fun _ sound port => sound_updateGatewayPort sound port) records sound
  | configs records =>
      exact sound_foldl (fun _ sound config => sound_updatePointConfig sound config) records sound
  | gateway registry =>
      change (service.rememberGatewayRegistry registry).Sound
      unfold rememberGatewayRegistry
      split
      · exact sound
      · exact { sound with }
  | statuses gateways =>
      refine sound_foldl ?_ gateways sound
      intro service sound gateway
      unfold updateGatewayStatus
      split
      · exact sound
      · exact { sound with }
  | replace gatewayId snapshot fullSnapshot =>
      exact sound_replaceGatewayRegistry sound gatewayId snapshot fullSnapshot
  | removeDevice nowMs gatewayId portId deviceId =>
      exact sound_removeDeviceData sound nowMs gatewayId portId deviceId
  | removeMaster nowMs gatewayId portId => exact sound_removeMasterData sound nowMs gatewayId portId
  | forget nowMs gatewayId portId deviceId =>
      change (service.forgetRemovedDevice nowMs gatewayId portId deviceId).Sound
      unfold forgetRemovedDevice
      split
      · exact sound
      · exact { sound with }
  | prune nowMs => exact sound_prune sound nowMs
  | waiting syncPendingBySeq pendingCommands nextSyncRequestId nextSyncSeq => exact { sound with }
  | clear => exact sound_clear service

theorem sound_run (calls : List ServiceCall) : (serviceSystem.run calls).Sound :=
  serviceSystem.invariant_everywhere sound_start (fun _ call sound => sound_call sound call) calls

end DataService
end Pc
end Imx6Gateway
