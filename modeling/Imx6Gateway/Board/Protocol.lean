import Imx6Gateway.Library.Text

namespace Imx6Gateway
namespace Board

open Library

/-!
# Shared constants of the board

Names, buffer sizes and result codes that several of the board's C files use.
-/

/-- `data_send_code_t`. -/
inductive DataSendCode where
  | ok
  | invalidArg
  | jsonError
  | ipcNoClient
  | ipcWriteFailed
  | mqttNotReady
  | mqttQueueFull
  | partialFailed
  | offlineCacheDisabled
deriving DecidableEq, Repr

def DataSendCode.toInt : DataSendCode -> Int
  | ok => 0
  | invalidArg => -1
  | jsonError => -2
  | ipcNoClient => -3
  | ipcWriteFailed => -4
  | mqttNotReady => -5
  | mqttQueueFull => -6
  | partialFailed => -7
  | offlineCacheDisabled => -8

def defaultGatewayId : String := "gateway_001"
def defaultPortId : String := "port_001"

def maxCmdNameLen : Nat := 32
def portIdLen : Nat := 32

/-- `MQTT_GATEWAY_REGISTER_TOPIC`. -/
def mqttGatewayRegisterTopic : String := "gateway/register"

/-- `offline_publish_meta_t`; a field that its producer leaves out is zero. -/
structure PublishMeta where
  messageType : String
  gatewayId : String
  portId : String := ""
  deviceId : Int := 0
  pointKey : String := ""
  priority : Int
  hasAlarm : Bool := false
  hasInvalidData : Bool := false
  statusChanged : Bool := false
  timestampMs : Int
deriving DecidableEq

/-- `snprintf(dst, size, "%s", src)`: one byte of the buffer holds the
terminator. -/
def copyText (size : Nat) (source : String) : String :=
  clip (size - 1) source

theorem copyText_of_fits {size : Nat} {source : String} (fits : textBytes source < size) :
    copyText size source = source :=
  clip_of_fits (size - 1) source (by omega)

theorem copyText_copyText (size : Nat) (source : String) :
    copyText size (copyText size source) = copyText size source :=
  clip_clip (size - 1) source

theorem copyText_ne_empty {size : Nat} {source : String} (nonempty : source ≠ "")
    (wide : 5 ≤ size) : copyText size source ≠ "" :=
  clip_ne_empty (size - 1) source nonempty (by omega)

/-- A buffer's content that is short for the buffer is the whole source. -/
theorem eq_of_copyText_eq {size : Nat} {source short : String}
    (copied : copyText size source = short) (fits : textBytes short + 5 ≤ size) :
    source = short := by
  have uncut := clip_eq_of_short (size - 1) source (by
    rw [show clip (size - 1) source = short from copied]
    omega)
  exact uncut.symm.trans copied

end Board
end Imx6Gateway
