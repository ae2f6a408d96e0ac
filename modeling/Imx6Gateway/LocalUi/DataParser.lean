import Imx6Gateway.Ui.DeviceModel

namespace Imx6Gateway
namespace LocalUi

open Library

/-!
# Telemetry in the interface on the board

`data_parser.cpp` reads a pack of the board.  For each value it tries several
names, and for some the object of the device's type.  The JSON reader is a
parameter, and so is Qt's reading of a number in a string.
-/

inductive DeviceType where
  | sensorTh
  | relay
  | meter
  | unknown
  | sysinfo
deriving DecidableEq, Repr

structure SysInfo where
  kernel : String
  arch : String
  os : String
  screenW : Int
  screenH : Int
deriving DecidableEq

/-- The system information has no defined value until it is read. -/
structure DeviceData where
  deviceId : Int := 0
  type : DeviceType := .sensorTh
  valid : Bool := false
  errorMessage : String := ""
  timestampMs : Int := 0
  temperature : Rat := 0
  humidity : Rat := 0
  relayStates : BitVec 16 := 0
  sys : Option SysInfo := none
deriving DecidableEq

/-- The time is in milliseconds. -/
structure DataPack where
  seq : Int
  time : Int
  masterSlot : Int
  devices : List DeviceData
deriving DecidableEq

/-- Spaces at both ends are no part of a text. -/
def trimmedText (text : String) : List Char :=
  ((text.toList.dropWhile Char.isWhitespace).reverse.dropWhile Char.isWhitespace).reverse

/-- `toInt` of a text; `none` if it is no number of the machine's range. -/
def intOfText (text : String) : Option Int :=
  let number (digits : List Char) : Option Int :=
    if digits ≠ [] ∧ digits.all Char.isDigit then some (Nat.ofDigitChars 10 digits 0) else none
  let value := match trimmedText text with
    | '-' :: digits => (number digits).map fun magnitude => -magnitude
    | '+' :: digits => number digits
    | digits => number digits
  value.filter fun found => -2 ^ 31 ≤ found ∧ found < 2 ^ 31

def jsonBoolValue (value : Option Json) (defaultValue : Bool) : Bool :=
  match value with
  | some (.bool found) => found
  | some (.int number) => Ui.intOr (some (.int number)) 0 ≠ 0
  | some (.real number) => Ui.intOr (some (.real number)) 0 ≠ 0
  | some (.str text) =>
      ["true", "1", "ok"].contains (String.ofList (trimmedText text)).toLower
  | _ => defaultValue

/-- The first member that is there and not null. -/
def jsonValueAny (object : Json) : List String -> Option Json
  | [] => none
  | key :: keys =>
      match object.lookup key with
      | none => jsonValueAny object keys
      | some .null => jsonValueAny object keys
      | some found => some found

def jsonStringAny (object : Json) (keys : List String) (defaultValue : String) : String :=
  Ui.textOr (jsonValueAny object keys) defaultValue

def jsonIntAny (object : Json) (keys : List String) (defaultValue : Int) : Int :=
  match jsonValueAny object keys with
  | some (.int number) => Ui.intOr (some (.int number)) 0
  | some (.real number) => Ui.intOr (some (.real number)) 0
  | some (.str text) => (intOfText text).getD defaultValue
  | _ => defaultValue

def jsonInt64Any (object : Json) (keys : List String) (defaultValue : Int) : Int :=
  let parsed := match jsonValueAny object keys with
    | some (.int number) => Ui.Realtime.longLongOf (some (.int number))
    | some (.real number) => Ui.Realtime.longLongOf (some (.real number))
    | some (.str text) => Ui.Realtime.longLongOfText text
    | _ => 0
  if parsed ≠ 0 then parsed else defaultValue

def slotFromPortId (portId : String) : Int :=
  if portId = "port_001" then 0 else if portId = "port_002" then 1 else -1

/-- `toObject`: what is no object counts as an empty one. -/
def toObject (value : Option Json) : Json :=
  match value with
  | some (.obj members) => .obj members
  | _ => .obj []

def toArray (value : Option Json) : List Json :=
  match value with
  | some (.arr items) => items
  | _ => []

section Parsing

variable (doubleOfText : String -> Rat)

def jsonDoubleAny (object : Json) (keys : List String) (defaultValue : Rat) : Rat :=
  match jsonValueAny object keys with
  | some (.int number) => Pc.doubleOfInt number
  | some (.real number) => number
  | some (.str text) => doubleOfText text
  | _ => defaultValue

/-- The type of a device, or else its legacy name. -/
def typeText (object : Json) : String :=
  let named := jsonStringAny object ["deviceType", "device_type"] ""
  if named = "" then Ui.textOr (object.lookup "type") "" else named

/-- The values of a valid device. -/
def readValues (object : Json) (dev : DeviceData) : DeviceData :=
  match dev.type with
  | .sensorTh =>
      let th := toObject (object.lookup "th")
      { dev with
        temperature := jsonDoubleAny doubleOfText object ["temperature", "temp"]
          (jsonDoubleAny doubleOfText th ["temperature", "temp"] 0)
        humidity := jsonDoubleAny doubleOfText object ["humidity", "humi"]
          (jsonDoubleAny doubleOfText th ["humidity", "humi"] 0) }
  | .relay =>
      let relay := toObject (object.lookup "relay")
      { dev with
        relayStates := BitVec.ofInt 16 (jsonIntAny object ["relayStates", "states"]
          (jsonIntAny relay ["relayStates", "states"] 0)) }
  | .sysinfo =>
      { dev with
        sys := some
          { kernel := Ui.textOr (object.lookup "kernel") ""
            arch := Ui.textOr (object.lookup "arch") ""
            os := Ui.textOr (object.lookup "os") ""
            screenW := Ui.intOr (object.lookup "screen_w") 0
            screenH := Ui.intOr (object.lookup "screen_h") 0 } }
  | _ => dev

def typeOfText (text : String) : DeviceType :=
  if text = "sensor_th" then .sensorTh
  else if text = "relay" then .relay
  else if text = "sysinfo" then .sysinfo
  else .unknown

/-- What is read of every device. -/
def parseIdentity (rootTimestampMs : Int) (object : Json) : DeviceData :=
  let valid := jsonBoolValue (object.lookup "valid") false
  let errorMessage := Ui.textOr (object.lookup "errorMessage") ""
  let own := jsonInt64Any object ["timestampMs", "timestamp"] 0
  { deviceId := jsonIntAny object ["deviceId", "slave_id", "slaveAddress", "id"] 0
    valid := valid
    errorMessage := if valid = false ∧ errorMessage = "" then "数据无效" else errorMessage
    timestampMs := if own ≤ 0 then rootTimestampMs else own
    type := typeOfText (typeText object) }

/-- One device of the loop in `parseJson`. -/
def parseDevice (rootTimestampMs : Int) (object : Json) : DeviceData :=
  let dev := parseIdentity rootTimestampMs object
  if dev.valid then readValues doubleOfText object dev else dev

/-- `DataParser::parseJson`; `none` if it returns false. -/
def parseJson (fromJson : String -> Option Json) (json : String) : Option DataPack :=
  match fromJson json with
  | some (.obj members) =>
      let root := Json.obj members
      let rootTimestampMs := jsonInt64Any root ["timestampMs", "timestamp"] 0
      let site := toObject (root.lookup "site")
      some
        { seq := jsonIntAny root ["seq", "sequence"] 0 % 2 ^ 32
          time := if 0 < rootTimestampMs then rootTimestampMs else jsonInt64Any root ["time"] 0 * 1000
          masterSlot := match site with
            | .obj [] => -1
            | site => slotFromPortId (Ui.textOr (site.lookup "portId") "")
          devices := (toArray (root.lookup "devices")).map fun item =>
            parseDevice doubleOfText rootTimestampMs (toObject (some item)) }
  | _ => none

end Parsing

/-! ## Members that are there -/

theorem jsonValueAny_of_lookup {object : Json} {key : String} {value : Json}
    (keys : List String) (found : object.lookup key = some value) (something : value ≠ .null) :
    jsonValueAny object (key :: keys) = some value := by
  rw [jsonValueAny, found]
  cases value with
  | null => exact absurd rfl something
  | bool | int | real | str | arr | obj => rfl

theorem jsonIntAny_of_lookup {object : Json} {key : String} {value : Int} (keys : List String)
    (defaultValue : Int) (found : object.lookup key = some (.int value))
    (low : -2 ^ 31 ≤ value) (high : value < 2 ^ 31) :
    jsonIntAny object (key :: keys) defaultValue = value := by
  rw [jsonIntAny, jsonValueAny_of_lookup keys found Json.noConfusion]
  exact if_pos ⟨low, high⟩

theorem jsonDoubleAny_of_lookup (doubleOfText : String -> Rat) {object : Json} {key : String}
    {value : Rat} (keys : List String) (defaultValue : Rat)
    (found : object.lookup key = some (.real value)) :
    jsonDoubleAny doubleOfText object (key :: keys) defaultValue = value := by
  rw [jsonDoubleAny, jsonValueAny_of_lookup keys found Json.noConfusion]

theorem jsonStringAny_of_lookup {object : Json} {key text : String} (keys : List String)
    (defaultValue : String) (found : object.lookup key = some (.str text)) :
    jsonStringAny object (key :: keys) defaultValue = text := by
  rw [jsonStringAny, jsonValueAny_of_lookup keys found Json.noConfusion]
  rfl

/-- The values of a device do not say what device it is. -/
theorem readValues_identity (doubleOfText : String -> Rat) (object : Json) (dev : DeviceData) :
    (readValues doubleOfText object dev).deviceId = dev.deviceId ∧
      (readValues doubleOfText object dev).type = dev.type ∧
      (readValues doubleOfText object dev).valid = dev.valid := by
  unfold readValues
  split <;> exact ⟨rfl, rfl, rfl⟩

theorem parseDevice_identity (doubleOfText : String -> Rat) (rootTimestampMs : Int)
    (object : Json) :
    (parseDevice doubleOfText rootTimestampMs object).deviceId =
        (parseIdentity rootTimestampMs object).deviceId ∧
      (parseDevice doubleOfText rootTimestampMs object).type =
        (parseIdentity rootTimestampMs object).type ∧
      (parseDevice doubleOfText rootTimestampMs object).valid =
        (parseIdentity rootTimestampMs object).valid := by
  rw [parseDevice]
  split
  · exact readValues_identity doubleOfText object _
  · exact ⟨rfl, rfl, rfl⟩

/-- The devices of an object, and the slot of its site. -/
theorem parseJson_of_obj (doubleOfText : String -> Rat) {fromJson : String -> Option Json}
    {json portId : String} {members : List (String × Json)} {front : String × Json}
    {others : List (String × Json)} (parsed : fromJson json = some (.obj members))
    (site : members.lookup "site" = some (.obj (front :: others)))
    (port : (front :: others).lookup "portId" = some (.str portId)) :
    exists pack rootTimestampMs, parseJson doubleOfText fromJson json = some pack ∧
      pack.masterSlot = slotFromPortId portId ∧
      pack.devices = (toArray (members.lookup "devices")).map fun item =>
        parseDevice doubleOfText rootTimestampMs (toObject (some item)) := by
  unfold parseJson
  rw [parsed]
  refine ⟨_, _, rfl, ?_, rfl⟩
  dsimp only
  rw [Json.lookup_obj, site, toObject]
  dsimp only
  rw [Json.lookup_obj, port, Ui.textOr]

end LocalUi
end Imx6Gateway
