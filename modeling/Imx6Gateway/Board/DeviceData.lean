import Imx6Gateway.Library.BinaryFloat
import Imx6Gateway.Library.Json

namespace Imx6Gateway
namespace Board

open Library

/-!
# Measured data of the board

`device_data_t` with its union, the thresholds of a sensor, and the JSON nodes
the board's code makes of C values.  A `float` or `double` is a finite value
of its format, and an `int` has 32 bits, so every node is one that the JSON
library can hold.
-/

abbrev Single : Type := FloatFormat.Value FloatFormat.binary32
abbrev Double : Type := FloatFormat.Value FloatFormat.binary64

/-- The union of `device_data_t`, with the type that selects its member. -/
inductive DeviceReading where
  | unknown
  | sensorTh (temperature humidity : Single)
  | relay (relayStates : BitVec 16) (channelCount : Int32)
  | electricMeter (voltage current power energy : Single)
  | sysinfo (kernel arch os : String) (screenW screenH : Int32) (cpuUsage memoryUsage : Double)
deriving DecidableEq

structure DeviceData where
  deviceId : Int32
  deviceName : String
  valid : Bool
  errorMessage : String
  reading : DeviceReading
deriving DecidableEq

/-- `point_threshold_config_t`; a limit that is not set is `none`. -/
structure PointThresholdConfig where
  enableAlarm : Bool
  alarmLow : Option Single
  alarmHigh : Option Single
deriving DecidableEq

structure SensorThresholdConfig where
  thresholdEnabled : Bool
  temperature : PointThresholdConfig
  humidity : PointThresholdConfig
deriving DecidableEq

/-- `json_object_new_int`. -/
def jsonInt (value : Int32) : Json :=
  .int value.toInt

/-- `json_object_new_double` for a `float` argument. -/
def jsonSingle (value : Single) : Json :=
  .real value.1

def jsonDouble (value : Double) : Json :=
  .real value.1

@[simp]
theorem wire_jsonInt (depth : Nat) (value : Int32) : (jsonInt value).Wire depth := by
  have low := value.le_toInt
  have high := value.toInt_lt
  rw [jsonInt, Json.wire_int]
  omega

@[simp]
theorem wire_jsonSingle (depth : Nat) (value : Single) : (jsonSingle value).Wire depth := by
  rw [jsonSingle, Json.wire_real]
  exact FloatFormat.binary64_of_binary32 value.2

@[simp]
theorem wire_jsonDouble (depth : Nat) (value : Double) : (jsonDouble value).Wire depth := by
  rw [jsonDouble, Json.wire_real]
  exact value.2

end Board
end Imx6Gateway
