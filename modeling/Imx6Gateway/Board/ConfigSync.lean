import Imx6Gateway.Board.JsonC
import Imx6Gateway.Board.Protocol
import Imx6Gateway.Library.SlotTable

namespace Imx6Gateway
namespace Board

open Library

/-!
# Registration state of the board

The module keeps the registration messages (gateway, port, device and whole
configuration snapshots) that the data centre still has to confirm: one
active message that is retried, and eight queued ones.  The last confirmed
configuration version decides whether telemetry may be published.

Every function below follows `data_config_sync.c`.  The state carries one
field that the C code does not have: each stored message remembers the number
of the call that stored it (`mark`).  No function looks at a mark; it only
travels with its message, so that results can say which registration a stored
message belongs to.
-/

/-- `CONFIG_SYNC_PAYLOAD_MAX`. -/
def configSyncPayloadMax : Nat := 65536
/-- `CONFIG_SYNC_REASON_MAX`. -/
def configSyncReasonMax : Nat := 128
/-- `CONFIG_SYNC_ACK_TIMEOUT_MS`. -/
def configSyncAckTimeoutMs : Int := 5000
/-- `CONFIG_SYNC_RETRY_INTERVAL_MS`. -/
def configSyncRetryIntervalMs : Int := 8000
/-- `CONFIG_SYNC_MAX_FAST_RETRY_COUNT`. -/
def configSyncMaxFastRetryCount : Nat := 3
/-- `CONFIG_SYNC_PENDING_MAX`. -/
def configSyncPendingMax : Nat := 8

/-- `config_sync_pending_t`; an unused element of the array is an empty slot. -/
structure Pending where
  seq : UInt32
  cmd : String
  portId : String
  payload : String
  mark : Nat
deriving DecidableEq

/-- `g_sync` with the queue `g_pending_queue` and the counter `g_sync_seq`. -/
structure ConfigSync where
  configVersion : UInt32
  lastAckedConfigVersion : UInt32
  pendingSeq : UInt32
  status : String
  reason : String
  message : String
  retryCount : Nat
  retryable : Bool
  lastSendTimeMs : Int
  lastAckTimeMs : Int
  pendingCmd : String
  pendingPortId : String
  pendingSnapshot : String
  lastAckedSnapshot : Bool
  pendingMark : Nat
  queue : SlotTable Pending configSyncPendingMax
  syncSeq : UInt32
deriving DecidableEq

/-- The static initialisers. -/
def ConfigSync.initial : ConfigSync where
  configVersion := 0
  lastAckedConfigVersion := 0
  pendingSeq := 0
  status := "idle"
  reason := ""
  message := ""
  retryCount := 0
  retryable := true
  lastSendTimeMs := 0
  lastAckTimeMs := 0
  pendingCmd := ""
  pendingPortId := ""
  pendingSnapshot := ""
  lastAckedSnapshot := false
  pendingMark := 0
  queue := .empty Pending configSyncPendingMax
  syncSeq := 50000

/-- What a call observes of its surroundings: the clock, whether MQTT is
connected, and the result of `offline_publish_or_cache`. -/
structure Surroundings where
  nowMs : Int
  mqttConnected : Bool
  publishResult : Int

/-- Messages that leave the module. -/
inductive Effect where
  | ipcServerSend (json : Json)
  | offlinePublishOrCache (topic json : String) (info : PublishMeta)

/-- The result of a call: its return value, the new state, and its messages
in order. -/
structure Outcome where
  code : Int
  state : ConfigSync
  effects : List Effect

/-! ## Texts of the published state -/

def syncingMessage : String := "注册表同步中，等待 Pc_data 确认"
def offlineMessage : String := "MQTT 未连接，注册表仅保存在本地"
def snapshotAckedMessage : String := "注册表已同步"
def registrationAckedMessage : String := "注册类数据已确认"
def timeoutMessage : String := "未收到 Pc_data 确认，正在重试"
def noResponseMessage : String := "Pc_data 长时间无响应，请检查 Pc_data / MQTT / topic 配置"

namespace ConfigSync

/-- `publish_state_locked`. -/
def publishState (state : ConfigSync) : Effect :=
  .ipcServerSend (.obj [
    ("type", .str "config_sync_state"),
    ("configVersion", .int state.configVersion.toNat),
    ("lastAckedConfigVersion", .int state.lastAckedConfigVersion.toNat),
    ("pendingSeq", .int state.pendingSeq.toNat),
    ("status", .str state.status),
    ("reason", .str state.reason),
    ("message", .str state.message),
    ("retryCount", .int state.retryCount),
    ("retryable", .bool state.retryable),
    ("lastSendTimeMs", .int state.lastSendTimeMs),
    ("lastAckTimeMs", .int state.lastAckTimeMs)])

def isSnapshotCmd (cmd : String) : Bool :=
  cmd = "config_snapshot" || cmd = "device_config_snapshot"

def hasActivePending (state : ConfigSync) : Bool :=
  state.pendingSnapshot ≠ "" && state.pendingSeq ≠ 0

/-- `data_config_sync_next_seq` and `next_seq_locked`. -/
def nextSeq (state : ConfigSync) : UInt32 × ConfigSync :=
  (state.syncSeq + 1, { state with syncSeq := state.syncSeq + 1 })

def setActivePending (nowMs : Int) (entry : Pending) (state : ConfigSync) : ConfigSync :=
  { state with
    pendingSeq := entry.seq
    pendingCmd := copyText maxCmdNameLen entry.cmd
    pendingPortId := copyText portIdLen entry.portId
    pendingSnapshot := copyText configSyncPayloadMax entry.payload
    pendingMark := entry.mark
    retryCount := 0
    retryable := true
    lastSendTimeMs := nowMs }

/-- The first queued message with the same seq and cmd gives up its payload;
otherwise the first free slot is used. -/
def enqueuePending (entry : Pending) (state : ConfigSync) : DataSendCode × ConfigSync :=
  match state.queue.modifyFirst (fun queued => queued.seq = entry.seq && queued.cmd = entry.cmd)
      (fun queued => { queued with
        portId := copyText portIdLen entry.portId
        payload := copyText configSyncPayloadMax entry.payload
        mark := entry.mark }) with
  | some queue => (.ok, { state with queue := queue })
  | none =>
      match state.queue.insertFree
          { seq := entry.seq
            cmd := copyText maxCmdNameLen entry.cmd
            portId := copyText portIdLen entry.portId
            payload := copyText configSyncPayloadMax entry.payload
            mark := entry.mark } with
      | some queue => (.ok, { state with queue := queue })
      | none => (.mqttQueueFull, state)

def promoteNextPending (nowMs : Int) (state : ConfigSync) : ConfigSync :=
  if state.hasActivePending then state
  else
    match state.queue.takeFirst (fun _ => true) with
    | some (entry, queue) => setActivePending nowMs entry { state with queue := queue }
    | none => state

def removeQueuedPending (seq : UInt32) (cmd : String) (state : ConfigSync) : Bool × ConfigSync :=
  match state.queue.takeFirst
      (fun queued => queued.seq = seq && (cmd = "" || queued.cmd = cmd)) with
  | some (_, queue) => (true, { state with queue := queue })
  | none => (false, state)

/-- The active message is the one with this seq and cmd. -/
def samePending (seq : UInt32) (cmd : String) (state : ConfigSync) : Bool :=
  state.pendingSeq = seq && state.pendingCmd = cmd

/-- The branch with which both issuing functions store their message. -/
def storePending (nowMs : Int) (entry : Pending) (state : ConfigSync) :
    DataSendCode × ConfigSync :=
  if !state.hasActivePending || samePending entry.seq entry.cmd state then
    (.ok, setActivePending nowMs entry state)
  else enqueuePending entry state

/-- The status texts both issuing functions set. -/
def announceSyncing (mqttConnected : Bool) (state : ConfigSync) : ConfigSync :=
  { state with
    reason := ""
    status := if mqttConnected then "syncing" else "offline"
    message := copyText configSyncReasonMax
      (if mqttConnected then syncingMessage else offlineMessage) }

/-- A version number is never zero once a message was issued. -/
def versionAtLeastOne (version : UInt32) : UInt32 :=
  if version = 0 then 1 else version

/-- `data_config_sync_mark_sent`. -/
def markSent (env : Surroundings) (entry : Pending) (state : ConfigSync) : Outcome :=
  if entry.payload = "" then ⟨DataSendCode.invalidArg.toInt, state, []⟩
  else
    let version := versionAtLeastOne
      (if isSnapshotCmd entry.cmd then state.configVersion + 1 else state.configVersion)
    let stored := storePending env.nowMs entry { state with configVersion := version }
    let announced := announceSyncing env.mqttConnected stored.2
    ⟨stored.1.toInt, announced, [announced.publishState]⟩

/-! ## Stamping -/

def stampVersion (version : UInt32) (json : Json) : Json :=
  (json.erase "configVersion").append "configVersion" (.int version.toNat)

def stampSeq (seq : UInt32) (json : Json) : Json :=
  (json.erase "seq").append "seq" (.int seq.toNat)

/-- The tree that a retry prints. -/
def restamp (seq version : UInt32) (json : Json) : Json :=
  stampVersion version (stampSeq seq json)

section Library

variable (library : JsonC)

/-- `send_pending_locked`.  The tree functions of json-c abort on a root that
is not an object; here such a root is left as it is. -/
def sendPending (env : Surroundings) (seq : UInt32) (state : ConfigSync) : Outcome :=
  if state.pendingSnapshot = "" then ⟨DataSendCode.invalidArg.toInt, state, []⟩
  else
    match library.parse state.pendingSnapshot with
    | none => ⟨DataSendCode.jsonError.toInt, state, []⟩
    | some root =>
        let json := library.print (restamp seq state.configVersion root)
        let sent := { state with
          pendingSnapshot := copyText configSyncPayloadMax json
          pendingSeq := seq
          lastSendTimeMs := env.nowMs }
        let info : PublishMeta := {
          messageType := if sent.pendingCmd ≠ "" then sent.pendingCmd else "config_snapshot"
          gatewayId := defaultGatewayId
          portId := if sent.pendingPortId ≠ "" then sent.pendingPortId else defaultPortId
          priority := 0
          timestampMs := sent.lastSendTimeMs }
        ⟨env.publishResult, sent, [.offlinePublishOrCache mqttGatewayRegisterTopic json info]⟩

/-- `data_config_sync_publish_latest_snapshot`.  The text comes from
`port_manager_export_config_snapshot`, `none` when the export fails. -/
def publishLatestSnapshot (env : Surroundings) (seq : UInt32) (exported : Option String)
    (mark : Nat) (state : ConfigSync) : Outcome :=
  match exported.bind library.parse with
  | none => ⟨DataSendCode.jsonError.toInt, state, []⟩
  | some root =>
      let version := versionAtLeastOne (state.configVersion + 1)
      let json := library.print (stampVersion version root)
      let stored := storePending env.nowMs
        { seq := seq, cmd := "config_snapshot", portId := defaultPortId, payload := json,
          mark := mark } { state with configVersion := version }
      let announced := announceSyncing env.mqttConnected stored.2
      let info : PublishMeta := {
        messageType := "config_snapshot"
        gatewayId := defaultGatewayId
        portId := defaultPortId
        priority := 0
        timestampMs := announced.lastSendTimeMs }
      ⟨env.publishResult, announced,
        [.offlinePublishOrCache mqttGatewayRegisterTopic json info, announced.publishState]⟩

/-! ## Acknowledgements -/

/-- The fields `data_config_sync_handle_ack_json` reads, with its defaults. -/
structure Ack where
  cmd : String
  seq : UInt32
  configVersion : UInt32
  ok : Bool
  status : Option String
  reason : Option String
  message : Option String
  retryable : Bool
deriving DecidableEq

/-- `string_in_register_cmds`. -/
def isRegisterCmd (cmd : String) : Bool :=
  cmd ∈ ["gateway_register", "port_register", "port_status", "device_register",
    "config_snapshot", "device_config_snapshot"]

/-- The text of a member, `fallback` where it is absent. -/
def stringMember (root : Json) (key : String) (fallback : Option String) : Option String :=
  match root.lookup key with
  | some value => library.getString value
  | none => fallback

/-- The part of `data_config_sync_handle_ack_json` before the lock is taken:
`none` for a text that is no acknowledgement of a registration. -/
def parseAck (payload : String) : Option Ack := do
  let root ← library.parse payload
  guard (stringMember library root "type" (some "") = some "ack")
  let cmd ← stringMember library root "cmd" (some "")
  guard (isRegisterCmd cmd)
  return {
    cmd := cmd
    seq := UInt32.ofInt ((root.lookup "seq").elim 0 JsonC.getInt64)
    configVersion := UInt32.ofInt ((root.lookup "configVersion").elim 0 JsonC.getInt64)
    ok := (root.lookup "ok").elim false JsonC.getBoolean
    status := stringMember library root "status" (some "")
    reason := stringMember library root "reason" (some "")
    message := stringMember library root "message" (some "")
    retryable := (root.lookup "retryable").elim true JsonC.getBoolean }

end Library

/-- `active_match`. -/
def activeMatch (ack : Ack) (state : ConfigSync) : Bool :=
  ack.seq ≠ 0 && state.pendingSeq = ack.seq && (ack.cmd = "" || state.pendingCmd = ack.cmd)

/-- The removal of a queued match, and `queued_match`. -/
def matchQueued (ack : Ack) (state : ConfigSync) : Bool × ConfigSync :=
  if !activeMatch ack state && ack.seq ≠ 0 then removeQueuedPending ack.seq ack.cmd state
  else (false, state)

/-- The guard against snapshot acknowledgements of another seq. -/
def staleSnapshotAck (ack : Ack) (state : ConfigSync) : Bool :=
  isSnapshotCmd ack.cmd && ack.seq ≠ 0 && state.pendingSeq ≠ 0 && ack.seq ≠ state.pendingSeq &&
    !(matchQueued ack state).1

def clearActive (state : ConfigSync) : ConfigSync :=
  { state with pendingSeq := 0, pendingSnapshot := "", pendingCmd := "", pendingPortId := "" }

/-- The two status texts after a positive acknowledgement. -/
def announceAcked (done : String) (state : ConfigSync) : ConfigSync :=
  if state.pendingSnapshot ≠ "" then
    { state with status := "syncing", message := copyText configSyncReasonMax syncingMessage }
  else
    { state with status := "success", message := copyText configSyncReasonMax done }

/-- The branch for `ok`; `matched` is `active_match`. -/
def applyPositive (nowMs : Int) (ack : Ack) (matched : Bool) (state : ConfigSync) : ConfigSync :=
  let state := { state with retryCount := 0, reason := "" }
  if isSnapshotCmd ack.cmd then
    let state := { state with
      lastAckedConfigVersion :=
        if ack.configVersion > 0 then ack.configVersion else state.configVersion
      lastAckedSnapshot := true }
    let state := if matched then clearActive state else state
    announceAcked snapshotAckedMessage (promoteNextPending nowMs state)
  else if matched then
    announceAcked registrationAckedMessage (promoteNextPending nowMs (clearActive state))
  else announceAcked registrationAckedMessage state

/-- The branch for a refusal. -/
def applyNegative (ack : Ack) (state : ConfigSync) : ConfigSync :=
  { state with
    status := if ack.status = some "partial_failed" then "partial_failed" else "failed"
    message :=
      if ack.message.getD "" = "" then copyText configSyncReasonMax (ack.reason.getD "")
      else state.message }

/-- The part of `data_config_sync_handle_ack_json` under the lock. -/
def handleAck (nowMs : Int) (ack : Ack) (state : ConfigSync) : Outcome :=
  let matched := activeMatch ack state
  let removed := (matchQueued ack state).2
  if staleSnapshotAck ack state then ⟨0, removed, []⟩
  else
    let noted := { removed with
      lastAckTimeMs := nowMs
      retryable := ack.retryable
      reason := copyText configSyncReasonMax (ack.reason.getD "")
      message := copyText configSyncReasonMax (ack.message.getD "") }
    let answered :=
      if ack.ok then applyPositive nowMs ack matched noted else applyNegative ack noted
    ⟨0, answered, [answered.publishState]⟩

/-- `data_config_sync_handle_ack_json`. -/
def handleAckJson (library : JsonC) (nowMs : Int) (payload : String) (state : ConfigSync) :
    Outcome :=
  match parseAck library payload with
  | none => ⟨0, state, []⟩
  | some ack => handleAck nowMs ack state

/-! ## Retries and the telemetry gate -/

/-- The status texts of a retry. -/
def announceRetry (state : ConfigSync) : ConfigSync :=
  if state.retryCount > configSyncMaxFastRetryCount then
    { state with
      status := "retrying", message := copyText configSyncReasonMax noResponseMessage }
  else
    { state with status := "timeout", message := copyText configSyncReasonMax timeoutMessage }

/-- `data_config_sync_tick`. -/
def tick (library : JsonC) (env : Surroundings) (state : ConfigSync) : Outcome :=
  let state := promoteNextPending env.nowMs state
  if !state.hasActivePending then ⟨0, state, []⟩
  else if !env.mqttConnected then
    if state.status ≠ "offline" then
      let state := { state with
        status := "offline", message := copyText configSyncReasonMax offlineMessage }
      ⟨0, state, [state.publishState]⟩
    else ⟨0, state, []⟩
  else if !state.retryable then ⟨0, state, []⟩
  else if env.nowMs - state.lastSendTimeMs < configSyncAckTimeoutMs then ⟨0, state, []⟩
  else if env.nowMs - state.lastSendTimeMs < configSyncRetryIntervalMs then
    if state.status ≠ "timeout" then
      let state := { state with
        status := "timeout", message := copyText configSyncReasonMax timeoutMessage }
      ⟨0, state, [state.publishState]⟩
    else ⟨0, state, []⟩
  else
    let numbered := nextSeq { state with retryCount := state.retryCount + 1 }
    let sent := sendPending library env numbered.1 (announceRetry numbered.2)
    ⟨0, sent.state, sent.effects ++ [sent.state.publishState]⟩

/-- `data_config_sync_telemetry_allowed` for a device that is present. -/
def telemetryAllowed (state : ConfigSync) : Bool :=
  state.lastAckedConfigVersion > 0 && state.lastAckedConfigVersion = state.configVersion &&
    state.lastAckedSnapshot

end ConfigSync
end Board
end Imx6Gateway
