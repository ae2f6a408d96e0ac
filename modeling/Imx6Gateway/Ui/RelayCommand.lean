import Imx6Gateway.Library.PlaceMarker
import Imx6Gateway.Library.SortedMap
import Imx6Gateway.Pc.TelemetryPack
import Mathlib.Data.List.TakeWhile

namespace Imx6Gateway
namespace Ui

open Library

/-!
# Relay commands of the user interface

`DataManager` collects the relay channels of a device from its latest points,
`RelayDetailCardUi` shows them, and `CommandManager::sendRelayCommand` sends
the states of all channels when one of them is switched.  The message with
the points carries the fields of a point unchanged, so the points of Pc_data
are taken over as they are.  The status of a device only decides which buttons
are enabled and is left out.
-/

/-- The states of channels by their keys, a `QMap`. -/
abbrev Channels : Type := List (String × Bool)

structure DeviceNode where
  factoryId : String
  areaId : String
  gatewayId : String
  port : String
  masterSlot : Int
  slaveAddr : Int
  deviceId : Int
  deviceType : String
deriving DecidableEq

structure RealtimeDeviceData where
  node : DeviceNode
  channels : Channels
  points : List Pc.TelemetryPoint
deriving DecidableEq

/-- `toInt` of a text of digits, zero if it does not fit. -/
def digitsToInt (digits : List Char) : Int :=
  let value := Nat.ofDigitChars 10 digits 0
  if value < 2 ^ 31 then value else 0

/-- The digits that `(\d+)$` captures; a final line end is allowed. -/
def capturedDigits (text : List Char) : Option (List Char) :=
  let digits := text.takeWhile Char.isDigit
  let rest := text.dropWhile Char.isDigit
  if digits ≠ [] ∧ (rest = [] ∨ rest = ['\n']) then some digits else none

def normalizeDeviceType (deviceType : String) : String :=
  if deviceType = "electric_meter" then "meter" else deviceType

/-- The number behind one of the three prefixes, or behind none. -/
def portDigits (portId : String) : Option (List Char) :=
  ["port_", "rs485-", "RS485-", ""].findSome? fun front =>
    (afterFront front.toList portId.toList).bind capturedDigits

def masterSlotFromPortId (portId : String) : Int :=
  let portNumber := ((portDigits portId).map digitsToInt).getD 0
  if portNumber ≤ 0 then 0 else portNumber - 1

def isRelayPoint (pointKey : String) : Bool :=
  (afterFront "relay_".toList pointKey.toList).isSome ||
    (afterFront "relay.ch".toList pointKey.toList).isSome

/-! ## The channels of a device -/

def deviceKey (point : Pc.TelemetryPoint) : String :=
  point.site.factoryId ++ "/" ++ point.site.areaId ++ "/" ++ point.site.gatewayId ++ "/" ++
    point.site.portId ++ "/" ++ toString point.deviceId

def isIdentified (point : Pc.TelemetryPoint) : Bool :=
  point.site.factoryId ≠ "" && point.site.areaId ≠ "" && point.site.gatewayId ≠ "" &&
    point.site.portId ≠ "" && decide (0 < point.deviceId)

/-- The group of one device in `groupPointsByDevice`. -/
def groupOf (key : String) (points : List Pc.TelemetryPoint) : List Pc.TelemetryPoint :=
  points.filter fun point => isIdentified point && deviceKey point = key

/-- The relay branch of `applyPointToTypedFields`. -/
def applyPoint (deviceType : String) (channels : Channels) (point : Pc.TelemetryPoint) : Channels :=
  if point.valid && deviceType = "relay" && isRelayPoint point.pointKey then
    SortedMap.insert point.pointKey (point.numberValue ≠ some 0) channels
  else channels

def nodeOf (point : Pc.TelemetryPoint) : DeviceNode where
  factoryId := point.site.factoryId
  areaId := point.site.areaId
  gatewayId := point.site.gatewayId
  port := point.site.portId
  masterSlot := masterSlotFromPortId point.site.portId
  slaveAddr := point.deviceId
  deviceId := point.deviceId
  deviceType := normalizeDeviceType point.deviceType

/-- Without points there is no device. -/
def buildRealtimeDeviceData (points : List Pc.TelemetryPoint) : Option RealtimeDeviceData :=
  points.head?.map fun first =>
    { node := nodeOf first
      channels := points.foldl (applyPoint (nodeOf first).deviceType) []
      points := points }

def commandChannelKey (channel : String) : String :=
  match (afterFront "relay.ch".toList channel.toList).bind capturedDigits with
  | some digits => "relay_" ++ String.ofList digits
  | none => channel

/-- The channels `RelayDetailCardUi::setDeviceData` shows and hands over. -/
def shownChannels (data : RealtimeDeviceData) : Channels :=
  if data.channels = [] then
    SortedMap.insertAll [] ((data.points.filter fun point =>
      isRelayPoint point.pointKey && point.valid).map fun point =>
        (commandChannelKey point.pointKey, decide (point.numberValue ≠ some 0)))
  else SortedMap.insertAll [] (data.channels.map fun channel =>
    (commandChannelKey channel.1, channel.2))

/-! ## The command -/

def normalizeRelayChannel (channel : String) : String :=
  if channel = "led" then "relay_1"
  else if channel = "fan" then "relay_2"
  else if channel = "buzzer" then "relay_3"
  else commandChannelKey channel

def relayChannelNumber (channel : String) : Int :=
  let suffix := match afterFront "relay_".toList channel.toList with
    | some rest => some rest
    | none => afterFront "relay.ch".toList channel.toList
  ((suffix.bind capturedDigits).map digitsToInt).getD 0

def relaySlaveId (device : DeviceNode) : Int :=
  if 0 < device.slaveAddr then device.slaveAddr else device.deviceId

/-- The number goes to the lowest place marker, which the first two texts may
have brought in. -/
def relayDeviceKey (device : DeviceNode) : String :=
  PlaceMarker.arg (device.gatewayId ++ "|" ++ device.port ++ "|%3")
    (toString (relaySlaveId device))

def relayCommandKey (device : DeviceNode) (channel : String) : String :=
  relayDeviceKey device ++ "|" ++ normalizeRelayChannel channel

/-- The relay commands that wait for an answer. -/
structure PendingRelays where
  commandKeys : List String
  desiredByDevice : List (String × Channels)

def PendingRelays.none : PendingRelays :=
  ⟨[], []⟩

def normalizedStates (currentStates : Channels) : Channels :=
  SortedMap.insertAll [] ((currentStates.map fun channel =>
    (normalizeRelayChannel channel.1, channel.2)).filter fun channel => channel.1 ≠ "")

/-- The wanted states: the shown ones, those already asked for, the new one. -/
def desiredStates (pending : PendingRelays) (device : DeviceNode) (channel : String) (value : Bool)
    (currentStates : Channels) : Channels :=
  SortedMap.insert channel value (SortedMap.insertAll (normalizedStates currentStates)
    ((pending.desiredByDevice.lookup (relayDeviceKey device)).getD []))

def channelCount (channel : String) (desired : Channels) : Int :=
  desired.foldl (fun count state => max count (relayChannelNumber state.1))
    (relayChannelNumber channel)

/-- The states that are sent, one for each channel up to the last one known. -/
def stateList (channel : String) (desired : Channels) : List Bool :=
  (List.range (channelCount channel desired).toNat).map fun index =>
    (desired.lookup (Pc.relayKey (index + 1))).getD false

def relayParams (channel : String) (value : Bool) (states : List Bool) : List (String × Json) :=
  [("channel", .str channel), ("value", .bool value), ("states", .arr (states.map .bool))]

def relayCommandJson (cmdId : String) (timestamp : Int) (device : DeviceNode) (channel : String)
    (value : Bool) (states : List Bool) : Json :=
  .obj [("type", .str "command"), ("msg_type", .str "command"), ("version", .int 1),
    ("cmd_id", .str cmdId), ("timestamp", .int timestamp), ("timestampMs", .int timestamp),
    ("seq", .int timestamp), ("cmd", .str "set_relay"), ("cmdType", .str "set_relay"),
    ("commandType", .str "set_relay"), ("factory_id", .str device.factoryId),
    ("area_id", .str device.areaId),
    ("target", .obj [("gatewayId", .str device.gatewayId), ("portId", .str device.port)]),
    ("gatewayId", .str device.gatewayId), ("portId", .str device.port),
    ("gateway_id", .str device.gatewayId), ("port_id", .str device.port),
    ("slot", .int device.masterSlot), ("deviceId", .int device.deviceId),
    ("deviceType", .str device.deviceType), ("slave_id", .int (relaySlaveId device)),
    ("master_slot", .int device.masterSlot), ("slave_addr", .int device.slaveAddr),
    ("device_id", .int device.deviceId), ("device_type", .str device.deviceType),
    ("states", .arr (states.map .bool)), ("command", .str "set_relay"),
    ("params", .obj (relayParams channel value states)),
    ("payload", .obj (relayParams channel value states ++
      [("slot", .int device.masterSlot), ("master_slot", .int device.masterSlot),
        ("slave_id", .int (relaySlaveId device)), ("deviceId", .int (relaySlaveId device)),
        ("device_id", .int (relaySlaveId device)), ("slave_addr", .int (relaySlaveId device))]))]

/-- The message to Pc_data; `none` when nothing is sent. -/
def sendRelayCommand (pending : PendingRelays) (cmdId : String) (timestamp : Int)
    (device : DeviceNode) (channel : String) (value : Bool) (currentStates : Channels) :
    Option Json :=
  let relayChannel := normalizeRelayChannel channel
  if relayChannel = "" ∨ relayChannelNumber relayChannel ≤ 0 then none
  else if pending.commandKeys.contains (relayCommandKey device relayChannel) then none
  else if ((normalizedStates currentStates).lookup relayChannel).isNone then none
  else
    some (relayCommandJson cmdId timestamp device relayChannel value
      (stateList relayChannel (desiredStates pending device relayChannel value currentStates)))

/-! ## The keys of channels -/

theorem toList_relayKey (channel : Nat) :
    (Pc.relayKey channel).toList = "relay_".toList ++ Nat.toDigits 10 channel := by
  simp [Pc.relayKey]

theorem capturedDigits_toDigits (number : Nat) :
    capturedDigits (Nat.toDigits 10 number) = some (Nat.toDigits 10 number) := by
  have digits : forall digit, digit ∈ Nat.toDigits 10 number -> digit.isDigit = true :=
    fun _ member => Nat.isDigit_of_mem_toDigits (by decide) (by decide) member
  have whole : (Nat.toDigits 10 number).takeWhile Char.isDigit = Nat.toDigits 10 number :=
    List.takeWhile_eq_self_iff.mpr digits
  have rest : (Nat.toDigits 10 number).dropWhile Char.isDigit = [] :=
    List.dropWhile_eq_nil_iff.mpr digits
  rw [capturedDigits, whole, rest]
  exact if_pos ⟨Nat.toDigits_ne_nil, Or.inl rfl⟩

theorem digitsToInt_toDigits {number : Nat} (small : number < 2 ^ 31) :
    digitsToInt (Nat.toDigits 10 number) = number := by
  rw [digitsToInt, Nat.ofDigitChars_ten_toDigits]
  exact if_pos small

theorem relayChannelNumber_relayKey {channel : Nat} (small : channel < 2 ^ 31) :
    relayChannelNumber (Pc.relayKey channel) = channel := by
  rw [relayChannelNumber, toList_relayKey, afterFront_append]
  simp only [Option.bind_some, capturedDigits_toDigits, Option.map_some, Option.getD_some]
  exact digitsToInt_toDigits small

theorem commandChannelKey_relayKey (channel : Nat) :
    commandChannelKey (Pc.relayKey channel) = Pc.relayKey channel := by
  rw [commandChannelKey, toList_relayKey]
  rfl

theorem relayKey_ne {channel : Nat} {other : String}
    (different : other.toList.head? ≠ some 'r') : Pc.relayKey channel ≠ other := by
  rintro rfl
  rw [toList_relayKey] at different
  exact different rfl

theorem normalizeRelayChannel_relayKey (channel : Nat) :
    normalizeRelayChannel (Pc.relayKey channel) = Pc.relayKey channel := by
  rw [normalizeRelayChannel, if_neg (relayKey_ne (by decide)), if_neg (relayKey_ne (by decide)),
    if_neg (relayKey_ne (by decide)), commandChannelKey_relayKey]

theorem isRelayPoint_relayKey (channel : Nat) : isRelayPoint (Pc.relayKey channel) = true := by
  rw [isRelayPoint, toList_relayKey, afterFront_append]
  rfl

/-! ## Tables of channels -/

/-- The first channels, with their states counted from zero. -/
def channelTable (count : Nat) (on : Nat -> Bool) : Channels :=
  (List.range count).map fun index => (Pc.relayKey (index + 1), on index)

/-- The map has exactly these channels in these states. -/
def Shows (channels : Channels) (count : Nat) (on : Nat -> Bool) : Prop :=
  SortedMap.Tabulates channels fun key => (channelTable count on).lookup key

theorem lookup_channelTable (count : Nat) (on : Nat -> Bool) (index : Nat) :
    (channelTable count on).lookup (Pc.relayKey (index + 1)) =
      if index < count then some (on index) else none := by
  induction count with
  | zero => rfl
  | succ count ih =>
      rw [channelTable, List.range_succ, List.map_append, ← channelTable, List.lookup_append, ih,
        List.map_singleton, SortedMap.lookup_cons]
      by_cases last : index = count
      · subst last
        simp
      · have other : Pc.relayKey (index + 1) ≠ Pc.relayKey (count + 1) :=
          fun same => last (Nat.succ.inj (Pc.relayKey_injective same))
        have bound : index < count + 1 ↔ index < count := by omega
        simp only [if_neg other, List.lookup_nil, Option.or_none, bound]

theorem mem_channelTable {count : Nat} {on : Nat -> Bool} {key : String} {value : Bool} :
    (key, value) ∈ channelTable count on ↔
      exists index, index < count ∧ key = Pc.relayKey (index + 1) ∧ value = on index := by
  simp only [channelTable, List.mem_map, List.mem_range, Prod.mk.injEq]
  constructor
  · rintro ⟨index, bound, sameKey, sameValue⟩
    exact ⟨index, bound, sameKey.symm, sameValue.symm⟩
  · rintro ⟨index, bound, sameKey, sameValue⟩
    exact ⟨index, bound, sameKey.symm, sameValue.symm⟩

theorem shows_channelTable (count : Nat) (on : Nat -> Bool) :
    Shows (channelTable count on) count on := by
  intro key value
  constructor
  · exact SortedMap.mem_of_lookup
  · intro inside
    rcases mem_channelTable.mp inside with ⟨index, bound, rfl, rfl⟩
    exact (lookup_channelTable count on index).trans (if_pos bound)

section Shows

variable {channels : Channels} {count : Nat} {on : Nat -> Bool}
  (shows : Shows channels count on)
include shows

theorem lookup_of_shows (index : Nat) :
    channels.lookup (Pc.relayKey (index + 1)) = if index < count then some (on index) else none :=
  (SortedMap.lookup_of_tabulates shows _).trans (lookup_channelTable count on index)

theorem key_of_shows {entry : String × Bool} (inside : entry ∈ channels) :
    exists index, index < count ∧ entry.1 = Pc.relayKey (index + 1) := by
  have found := (shows entry.1 entry.2).mpr inside
  rcases mem_channelTable.mp (SortedMap.mem_of_lookup found) with ⟨index, bound, key, -⟩
  exact ⟨index, bound, key⟩

/-- Renaming the keys of channels changes nothing. -/
theorem map_rename {rename : String -> String}
    (fixed : forall channel, rename (Pc.relayKey channel) = Pc.relayKey channel) :
    (channels.map fun channel => (rename channel.1, channel.2)) = channels := by
  refine (List.map_congr_left ?_).trans (List.map_id channels)
  intro entry inside
  rcases key_of_shows shows inside with ⟨index, -, key⟩
  rw [key, fixed, ← key]
  rfl

theorem shows_normalizedStates : Shows (normalizedStates channels) count on := by
  have kept : (channels.filter fun channel => channel.1 ≠ "") = channels := by
    apply List.filter_eq_self.mpr
    intro entry inside
    rcases key_of_shows shows inside with ⟨index, -, key⟩
    simp [key, relayKey_ne]
  rw [normalizedStates, map_rename shows normalizeRelayChannel_relayKey, kept]
  exact SortedMap.tabulates_insertAll shows

/-- The wanted state of a channel: the new one, one already asked for, or the
shown one. -/
theorem lookup_desiredStates_of_tabulates {pending : PendingRelays} {device : DeviceNode}
    {graph : String -> Option Bool}
    (asked : SortedMap.Tabulates
      ((pending.desiredByDevice.lookup (relayDeviceKey device)).getD []) graph)
    (channel : String) (value : Bool) (index : Nat) :
    (desiredStates pending device channel value channels).lookup (Pc.relayKey (index + 1)) =
      if Pc.relayKey (index + 1) = channel then some value
      else (graph (Pc.relayKey (index + 1))).or (if index < count then some (on index) else none) := by
  rw [desiredStates, SortedMap.lookup_insert, SortedMap.lookup_insertAll_of_tabulates asked,
    lookup_of_shows (shows_normalizedStates shows) index]

/-- The state that is sent for a channel. -/
theorem lookup_desiredStates (device : DeviceNode) (channel : Nat) (value : Bool) (index : Nat) :
    (desiredStates PendingRelays.none device (Pc.relayKey channel) value channels).lookup
        (Pc.relayKey (index + 1)) =
      if index + 1 = channel then some value
      else if index < count then some (on index) else none := by
  have nothing : SortedMap.Tabulates ((PendingRelays.none.desiredByDevice.lookup
      (relayDeviceKey device)).getD []) fun _ => none :=
    fun key value => iff_of_false (Option.some_ne_none value).symm List.not_mem_nil
  rw [lookup_desiredStates_of_tabulates shows nothing]
  by_cases same : index + 1 = channel
  · rw [if_pos same, if_pos (congrArg Pc.relayKey same)]
  · rw [if_neg same, if_neg (fun key => same (Pc.relayKey_injective key))]
    rfl

/-- What is sent for a channel that is shown. -/
theorem sendRelayCommand_some {pending : PendingRelays} {cmdId : String} {timestamp : Int}
    {device : DeviceNode} {channel : String} {value : Bool} {command : Json}
    (sent : sendRelayCommand pending cmdId timestamp device channel value channels =
      some command) :
    exists index, index < count ∧ normalizeRelayChannel channel = Pc.relayKey (index + 1) ∧
      command = relayCommandJson cmdId timestamp device (Pc.relayKey (index + 1)) value
        (stateList (Pc.relayKey (index + 1))
          (desiredStates pending device (Pc.relayKey (index + 1)) value channels)) := by
  simp only [sendRelayCommand] at sent
  split at sent
  · cases sent
  · split at sent
    · cases sent
    · split at sent
      · cases sent
      · rename_i known
        rcases Option.ne_none_iff_exists'.mp (mt Option.isNone_iff_eq_none.mpr known) with
          ⟨state, found⟩
        rcases key_of_shows (shows_normalizedStates shows) (SortedMap.mem_of_lookup found) with
          ⟨index, bound, key⟩
        exact ⟨index, bound, key, key ▸ (Option.some.inj sent).symm⟩

end Shows

theorem le_foldl_max (states : Channels) (first : Int) :
    first ≤ states.foldl (fun count state => max count (relayChannelNumber state.1)) first ∧
      forall state, state ∈ states -> relayChannelNumber state.1 ≤
        states.foldl (fun count state => max count (relayChannelNumber state.1)) first := by
  induction states generalizing first with
  | nil => exact ⟨le_refl first, fun state none => by cases none⟩
  | cons state states ih =>
      rcases ih (max first (relayChannelNumber state.1)) with ⟨bound, others⟩
      rw [List.foldl_cons]
      refine ⟨(le_max_left _ _).trans bound, ?_⟩
      intro other inside
      rcases List.mem_cons.mp inside with rfl | later
      · exact (le_max_right _ _).trans bound
      · exact others other later

/-- The list holds the wanted state of every channel. -/
theorem getD_stateList (channel : String) (desired : Channels) {index : Nat}
    (small : index + 1 < 2 ^ 31) :
    (stateList channel desired).getD index false =
      (desired.lookup (Pc.relayKey (index + 1))).getD false := by
  by_cases bound : index < (channelCount channel desired).toNat
  · simp [stateList, bound]
  · have outside : (stateList channel desired).getD index false = false := by
      simp [stateList, bound]
    rw [outside]
    cases found : desired.lookup (Pc.relayKey (index + 1)) with
    | none => rfl
    | some value =>
        have counted := (le_foldl_max desired (relayChannelNumber channel)).2 _
          (SortedMap.mem_of_lookup found)
        rw [relayChannelNumber_relayKey small, ← channelCount] at counted
        omega

/-- What is sent when one channel of a device is switched and no other command
waits. -/
theorem sendRelayCommand_states {channels : Channels} {count : Nat} {on : Nat -> Bool}
    (shows : Shows channels count on) {cmdId : String} {timestamp : Int} {device : DeviceNode}
    {channel : Nat} {value : Bool} {command : Json}
    (sent : sendRelayCommand PendingRelays.none cmdId timestamp device (Pc.relayKey channel) value
      channels = some command) :
    0 < count ∧ exists states, command =
        relayCommandJson cmdId timestamp device (Pc.relayKey channel) value states ∧
      forall index, index + 1 < 2 ^ 31 -> states.getD index false =
        if index + 1 = channel then value else decide (index < count) && on index := by
  rcases sendRelayCommand_some shows sent with ⟨position, bound, key, same⟩
  rw [normalizeRelayChannel_relayKey] at key
  rw [← key] at same
  refine ⟨Nat.zero_lt_of_lt bound, _, same, ?_⟩
  intro index small
  rw [getD_stateList _ _ small, lookup_desiredStates shows]
  by_cases same : index + 1 = channel
  · rw [if_pos same, if_pos same]
    rfl
  · rw [if_neg same, if_neg same]
    by_cases bound : index < count <;> simp [bound]

/-! ## The channels of a relay -/

/-- The state of a channel in the parsed telemetry. -/
def channelOn (device : Pc.DeviceData) (index : Nat) : Bool :=
  decide (index < 16) && device.relayStates.getLsbD index

section RelayPoints

variable (pack : Pc.TelemetryPack) (device : Pc.DeviceData)

/-- The points of a device belong to one group. -/
theorem groupOf_relayPoints (key : String) :
    groupOf key (Pc.relayPoints pack device) = [] ∨
      groupOf key (Pc.relayPoints pack device) = Pc.relayPoints pack device := by
  cases all : isIdentified (Pc.relayPoint pack device 0) &&
      decide (deviceKey (Pc.relayPoint pack device 0) = key) with
  | false =>
      left
      apply List.filter_eq_nil_iff.mpr
      intro point inside
      rcases List.mem_map.mp inside with ⟨index, -, rfl⟩
      exact Bool.eq_false_iff.mp all
  | true =>
      right
      apply List.filter_eq_self.mpr
      intro point inside
      rcases List.mem_map.mp inside with ⟨index, -, rfl⟩
      exact all

theorem relayPoint_on (index : Nat) :
    decide ((Pc.relayPoint pack device index).numberValue ≠ some 0) = channelOn device index := by
  change decide (some (if channelOn device index = true then (1 : Rat) else 0) ≠ some 0) = _
  cases channelOn device index <;> simp

/-- The points of valid relay channels, as entries of a map. -/
theorem foldl_applyPoint {points : List Pc.TelemetryPoint}
    (usable : forall point, point ∈ points ->
      point.valid = true ∧ isRelayPoint point.pointKey = true) (channels : Channels) :
    points.foldl (applyPoint "relay") channels = SortedMap.insertAll channels
      (points.map fun point => (point.pointKey, decide (point.numberValue ≠ some 0))) := by
  induction points generalizing channels with
  | nil => rfl
  | cons point points ih =>
      have first := usable point List.mem_cons_self
      have applied : applyPoint "relay" channels point =
          SortedMap.insert point.pointKey (decide (point.numberValue ≠ some 0)) channels := by
        rw [applyPoint, first.1, first.2]
        rfl
      rw [List.foldl_cons, applied, ih fun other inside => usable other (List.mem_cons_of_mem _ inside)]
      rfl

theorem foldl_applyPoint_invalid (deviceType : String) {points : List Pc.TelemetryPoint}
    (invalid : forall point, point ∈ points -> point.valid = false) (channels : Channels) :
    points.foldl (applyPoint deviceType) channels = channels := by
  induction points generalizing channels with
  | nil => rfl
  | cons point points ih =>
      have first : applyPoint deviceType channels point = channels := by
        rw [applyPoint, invalid point List.mem_cons_self]
        rfl
      rw [List.foldl_cons, first]
      exact ih (fun other inside => invalid other (List.mem_cons_of_mem _ inside)) channels

theorem relayPoints_eq : exists count, Pc.relayPoints pack device =
    (List.range count).map (Pc.relayPoint pack device) :=
  ⟨_, rfl⟩

theorem map_relayPoint (count : Nat) :
    (((List.range count).map (Pc.relayPoint pack device)).map fun point =>
      (point.pointKey, decide (point.numberValue ≠ some 0))) =
        channelTable count (channelOn device) := by
  rw [List.map_map, channelTable]
  apply List.map_congr_left
  intro index inside
  exact congrArg (Prod.mk _) (relayPoint_on pack device index)

theorem map_relayPoint_command (count : Nat) :
    (((List.range count).map (Pc.relayPoint pack device)).map fun point =>
      (commandChannelKey point.pointKey, decide (point.numberValue ≠ some 0))) =
        channelTable count (channelOn device) := by
  rw [← map_relayPoint pack device, List.map_map, List.map_map]
  apply List.map_congr_left
  intro index inside
  exact congrArg (fun key => (key, _)) (commandChannelKey_relayKey (index + 1))

/-- The shown channels of a relay are those of its parsed telemetry. -/
theorem shows_shownChannels (type : device.type = .relay) {key : String}
    {data : RealtimeDeviceData}
    (built : buildRealtimeDeviceData (groupOf key (Pc.relayPoints pack device)) = some data) :
    exists count, Shows (shownChannels data) count (channelOn device) := by
  rcases groupOf_relayPoints pack device key with none | all
  · rw [none] at built
    cases built
  · rcases relayPoints_eq pack device with ⟨count, points⟩
    rw [all, points] at built
    rcases Option.map_eq_some_iff.mp built with ⟨first, isFirst, rfl⟩
    have relay : (nodeOf first).deviceType = "relay" := by
      rcases List.mem_map.mp (List.mem_of_mem_head? isFirst) with ⟨index, -, rfl⟩
      change normalizeDeviceType (Pc.deviceTypeToString device.type) = "relay"
      rw [type]
      rfl
    have keys : forall point, point ∈ (List.range count).map (Pc.relayPoint pack device) ->
        point.valid = device.valid ∧ isRelayPoint point.pointKey = true := by
      intro point inside
      rcases List.mem_map.mp inside with ⟨index, -, rfl⟩
      exact ⟨rfl, isRelayPoint_relayKey (index + 1)⟩
    cases valid : device.valid with
    | false =>
        rw [valid] at keys
        refine ⟨0, ?_⟩
        have noPoints : (((List.range count).map (Pc.relayPoint pack device)).filter fun point =>
            isRelayPoint point.pointKey && point.valid) = [] := by
          apply List.filter_eq_nil_iff.mpr
          intro point inside
          simp [(keys point inside).1]
        rw [shownChannels, foldl_applyPoint_invalid _ fun point inside => (keys point inside).1,
          if_pos rfl, noPoints]
        exact shows_channelTable 0 (channelOn device)
    | true =>
        rw [valid] at keys
        refine ⟨count, ?_⟩
        have table := SortedMap.tabulates_insertAll (shows_channelTable count (channelOn device))
        have allPoints : (((List.range count).map (Pc.relayPoint pack device)).filter fun point =>
            isRelayPoint point.pointKey && point.valid) =
              (List.range count).map (Pc.relayPoint pack device) := by
          apply List.filter_eq_self.mpr
          intro point inside
          simp [keys point inside]
        rw [shownChannels, relay, foldl_applyPoint keys, map_relayPoint]
        split
        · rw [allPoints, map_relayPoint_command]
          exact table
        · rw [map_rename table commandChannelKey_relayKey]
          exact SortedMap.tabulates_insertAll table

end RelayPoints

end Ui
end Imx6Gateway
