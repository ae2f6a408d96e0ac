import Imx6Gateway.Link.TelemetryRoundTrip
import Imx6Gateway.LocalUi.DataParser

namespace Imx6Gateway
namespace Link

open Library Board

/-!
# Telemetry on the board itself

The board sends the same text to the interface that runs on it, which reads
the legacy members of the devices.  Of a relay these have the whole mask.
-/

/-- The types that the interface knows. -/
def typeOnBoard : DeviceReading -> LocalUi.DeviceType
  | .sensorTh .. => .sensorTh
  | .relay .. => .relay
  | .sysinfo .. => .sysinfo
  | .electricMeter .. | .unknown => .unknown

def Shown (reading : DeviceReading) : Prop :=
  typeOnBoard reading ≠ .unknown

/-- The values of a reading as the interface has them. -/
def SameValues (reading : DeviceReading) (parsed : LocalUi.DeviceData) : Prop :=
  match reading with
  | .sensorTh temperature humidity =>
      parsed.temperature = temperature.1 ∧ parsed.humidity = humidity.1
  | .relay relayStates _ => parsed.relayStates = relayStates
  | .sysinfo kernel arch os screenW screenH _ _ =>
      parsed.sys = some ⟨kernel, arch, os, screenW.toInt, screenH.toInt⟩
  | .electricMeter .. | .unknown => True

def SameDevice (dev : DeviceData) (parsed : LocalUi.DeviceData) : Prop :=
  parsed.deviceId = dev.deviceId.toInt ∧ parsed.type = typeOnBoard dev.reading ∧
    parsed.valid = dev.valid ∧ (dev.valid = true -> SameValues dev.reading parsed)

section Parsing

variable (doubleOfText : String -> Rat) (nowMs : Int64) (rootTimestampMs : Int)

theorem typeText_pack (dev : DeviceData) :
    LocalUi.typeText (packDeviceJson nowMs dev) = deviceTypeToStr dev.reading := by
  have named : deviceTypeToStr dev.reading ≠ "" := by
    cases dev.reading <;> simp [deviceTypeToStr]
  rw [LocalUi.typeText, LocalUi.jsonStringAny_of_lookup _ _ (lookup_deviceType nowMs dev),
    if_neg named]

theorem typeOfText_pack (dev : DeviceData) :
    LocalUi.typeOfText (LocalUi.typeText (packDeviceJson nowMs dev)) = typeOnBoard dev.reading := by
  rw [typeText_pack]
  cases dev.reading <;> rfl

theorem jsonBoolValue_pack (dev : DeviceData) :
    LocalUi.jsonBoolValue ((packDeviceJson nowMs dev).lookup "valid") false = dev.valid := by
  rw [lookup_valid]
  rfl

/-- The values of a valid device are read from its legacy members. -/
theorem readValues_pack {dev : DeviceData} (before : LocalUi.DeviceData)
    (type : before.type = typeOnBoard dev.reading) :
    SameValues dev.reading (LocalUi.readValues doubleOfText (packDeviceJson nowMs dev) before) := by
  cases shape : dev.reading with
  | sensorTh temperature humidity =>
      have members := lookup_reading nowMs shape
      rw [shape] at type
      rw [LocalUi.readValues, type]
      constructor
      · exact LocalUi.jsonDoubleAny_of_lookup doubleOfText _ _ (members "temperature" (by decide))
      · exact LocalUi.jsonDoubleAny_of_lookup doubleOfText _ _ (members "humidity" (by decide))
  | relay relayStates channelCount =>
      have members := lookup_reading nowMs shape
      have bound := relayStates.isLt
      rw [shape] at type
      rw [LocalUi.readValues, type, SameValues]
      dsimp only [typeOnBoard]
      rw [LocalUi.jsonIntAny_of_lookup _ _ (members "relayStates" (by decide)) (by omega) (by omega)]
      rw [BitVec.ofInt_natCast, BitVec.ofNat_toNat, BitVec.setWidth_eq]
  | sysinfo kernel arch os screenW screenH cpuUsage memoryUsage =>
      have members := lookup_reading nowMs shape
      have range : forall size : Int32, Ui.intOr (some (jsonInt size)) 0 = size.toInt :=
        fun size => if_pos ⟨size.le_toInt, size.toInt_lt⟩
      rw [shape] at type
      rw [LocalUi.readValues, type, SameValues]
      dsimp only [typeOnBoard]
      rw [members "kernel" (by decide), members "arch" (by decide), members "os" (by decide),
        members "screen_w" (by decide), members "screen_h" (by decide)]
      rw [← range screenW, ← range screenH]
      rfl
  | electricMeter => trivial
  | unknown => trivial

theorem parseDevice_pack (dev : DeviceData) :
    SameDevice dev (LocalUi.parseDevice doubleOfText rootTimestampMs (packDeviceJson nowMs dev)) := by
  have identified := LocalUi.jsonIntAny_of_lookup ["slave_id", "slaveAddress", "id"] 0
    (lookup_deviceId nowMs dev) dev.deviceId.le_toInt dev.deviceId.toInt_lt
  have type := typeOfText_pack nowMs dev
  have valid := jsonBoolValue_pack nowMs dev
  rcases LocalUi.parseDevice_identity doubleOfText rootTimestampMs (packDeviceJson nowMs dev)
    with ⟨sameId, sameType, sameValid⟩
  refine ⟨sameId.trans identified, sameType.trans type, sameValid.trans valid, ?_⟩
  intro isValid
  have read : (LocalUi.parseIdentity rootTimestampMs (packDeviceJson nowMs dev)).valid = true :=
    valid.trans isValid
  rw [LocalUi.parseDevice, if_pos read]
  exact readValues_pack doubleOfText nowMs _ type

/-- Every pack that the board writes for one of its slots is read by the
interface on the board, with the slot and every device in order. -/
theorem local_telemetry_read {library : JsonC} {fromJson : String -> Option Json}
    (reads : forall json, json.Wire Json.maxDepth ->
      fromJson (library.print json ++ "\n") = some json)
    {slot : Int} (known : slot = 0 ∨ slot = 1) {pack : TelemetryPack}
    (site : pack.site = fillSlotSite slot)
    (shown : forall dev, dev ∈ pack.devices -> Shown dev.reading) {bufSize : Nat} {text : String}
    (encoded : telemetryPackToJson library nowMs bufSize pack = some text) :
    exists parsed, LocalUi.parseJson doubleOfText fromJson text = some parsed ∧
      parsed.masterSlot = slot ∧
      List.Forall₂ (fun dev read => SameDevice dev read ∧ read.type ≠ .unknown)
        pack.devices parsed.devices := by
  have line : text = library.print (telemetryPackJson nowMs pack) ++ "\n" := by
    rw [telemetryPackToJson] at encoded
    split at encoded
    · exact (Option.some.inj encoded).symm
    · cases encoded
  have tree := reads _ (wire_telemetryPackJson nowMs pack)
  rw [← line] at tree
  rcases LocalUi.parseJson_of_obj doubleOfText tree rfl rfl
    with ⟨parsed, rootTimestampMs, result, masterSlot, devices⟩
  refine ⟨parsed, result, ?_, ?_⟩
  · rw [masterSlot, site]
    rcases known with zero | one
    · rw [zero]
      rfl
    · rw [one]
      rfl
  · rw [devices]
    change List.Forall₂ _ _ (((pack.devices.map (packDeviceJson nowMs)).map _))
    rw [List.map_map, List.forall₂_map_right_iff, List.forall₂_same]
    intro dev inside
    have same := parseDevice_pack doubleOfText nowMs rootTimestampMs dev
    exact ⟨same, same.2.1.symm ▸ shown dev inside⟩

end Parsing

/-- A relay with all channels on, at the second port. -/
def fullMaskPack : TelemetryPack :=
  telemetryPackSingleForSlot 7 0 1 ⟨5, "relay", true, "", .relay 0xFFFF 16⟩

theorem fullMaskPack_fits :
    textBytes (JsonC.jsonText.print (telemetryPackJson 0 fullMaskPack)) + 2 ≤ 4096 := by
  simp [fullMaskPack, telemetryPackSingleForSlot, fillSlotSite, fillDefaultSite, defaultGatewayId,
    telemetryPackJson, siteToJson, packDeviceJson, readingMembers, devicePoints, channelCountOf,
    defaultDeviceName, deviceTypeToStr, jsonInt, Json.memberIf, JsonC.jsonText, JsonText.codec,
    JsonText.print, JsonText.valueText, Json.maxDepth, JsonText.sequenceText, JsonText.memberText,
    JsonText.stringText, JsonText.escape, JsonText.intText, JsonText.natText, JsonText.signed,
    textBytes, byteLength]
  decide +kernel

theorem fullMaskPack_encoded :
    telemetryPackToJson JsonC.jsonText 0 4096 fullMaskPack =
      some (JsonC.jsonText.print (telemetryPackJson 0 fullMaskPack) ++ "\n") := by
  rw [telemetryPackToJson]
  exact if_pos fullMaskPack_fits

theorem fullMaskPack_shown : forall dev, dev ∈ fullMaskPack.devices -> Shown dev.reading := by
  intro dev inside
  rw [List.mem_singleton.mp inside]
  intro unknown
  cases unknown

theorem fullMaskPack_read :
    exists parsed, LocalUi.parseJson (fun _ => 0) JsonText.parse
        (JsonC.jsonText.print (telemetryPackJson 0 fullMaskPack) ++ "\n") = some parsed ∧
      parsed.masterSlot = 1 ∧
      List.Forall₂ (fun dev read => SameDevice dev read ∧ read.type ≠ .unknown)
        fullMaskPack.devices parsed.devices :=
  local_telemetry_read (fun _ => 0) 0 (JsonText.parse_print_line true) (Or.inr rfl) rfl
    fullMaskPack_shown fullMaskPack_encoded

end Link
end Imx6Gateway
