import Imx6Gateway.Pc.CheckedJson
import Imx6Gateway.Pc.CommandAdmission

namespace Imx6Gateway
namespace Pc

open Library

/-!
# The command branch with its checks

Each part of the branch reads its integers first and goes on as in
`CommandForward`.  The reads stand in the order of the source; the slot of an
`add_device` and the states of a `set_relay` are reached only behind the checks
of the port.  A read that never fails may stand earlier here.
-/

/-- A branch that is aborted does not return. -/
def Forward.completed? : Forward -> Option Forward
  | .aborted => none
  | forward => some forward

def sequenceFrom? (root : Json) : Option Int :=
  getJsonInt64Any? root ["seq", "sequence"] 0

def deviceIdFrom? (root : Json) : Option Int :=
  getJsonIntAny? root ["deviceId", "slave_id", "slaveAddress", "device_id", "slave_addr"] 0

/-- The default of a reader is an argument, so it is always read. -/
def rootSlot? (root : Json) : Option Int := do
  let masterSlot ← getJsonInt? root "master_slot" (-1)
  getJsonInt? root "slot" masterSlot

def requestSlot? (requestPayload root : Json) : Option Int := do
  let slot ← rootSlot? root
  getJsonInt? requestPayload "slot" slot

def payloadObjectOrRoot? (root : Json) : Option Json := do
  let payload ← memberObject? root "payload"
  some (payload.getD root)

def thresholdEnabled? (object : Json) : Option Bool :=
  getJsonBoolAny? object ["threshold_enabled", "thresholdEnabled"] true

def forwardSetRelay? (context : CommandContext) (root : Json) (cmdId gatewayId portId : String) :
    Option Forward := do
  let _ ← sequenceFrom? root
  let requestPayload ← payloadObjectOrRoot? root
  let _ ← requestSlot? requestPayload root
  let _ ← deviceIdFrom? requestPayload
  (forwardSetRelay context root cmdId gatewayId portId).completed?

def thresholdDeviceId? (requestPayload root : Json) : Option Int := do
  let named ← deviceIdFrom? requestPayload
  let device ← memberObject? root "device"
  if named ≤ 0 then
    match device with
    | some device => deviceIdFrom? device
    | none => some named
  else some named

def forwardThreshold? (context : CommandContext) (root : Json)
    (cmdId gatewayId portId commandType : String) : Option Forward := do
  let _ ← sequenceFrom? root
  let requestPayload ← payloadObjectOrRoot? root
  let fallback ← requestSlot? requestPayload root
  let _ ← slotFromPortId portId fallback
  let _ ← thresholdDeviceId? requestPayload root
  let _ ← thresholdEnabled? requestPayload
  (forwardThreshold context root cmdId gatewayId portId commandType).completed?

/-- The identifier in the member `device`. -/
def namedDeviceId? (root : Json) : Option Int := do
  let device ← memberObject? root "device"
  match device with
  | some device => deviceIdFrom? device
  | none => some 0

def deviceCommandId? (root : Json) : Option Int := do
  let named ← namedDeviceId? root
  let requestPayload ← payloadObjectOrRoot? root
  if named ≤ 0 then deviceIdFrom? requestPayload else some named

/-- Only an `add_device` reads the interval. -/
def pollIntervalMs? (root : Json) (commandType : String) : Option Int :=
  if commandType = "add_device" then do
    let device ← memberObject? root "device"
    match device with
    | some device => getJsonIntAny? device ["pollIntervalMs", "poll_interval_ms"] 1000
    | none => some 1000
  else some 1000

/-- The slot behind the check of the port. -/
def deviceSlot? (context : CommandContext) (root : Json) (portId : String) : Option Int :=
  if (portRefusal context).isSome then some 0
  else do
    let fallback ← rootSlot? root
    slotFromPortId portId fallback

/-- What is read behind the check of the two numbers. -/
def deviceOptions? (context : CommandContext) (root : Json) (portId commandType : String)
    (uiSeq deviceId : Int) : Option Int :=
  if uiSeq ≤ 0 ∨ deviceId ≤ 0 then some 0
  else do
    let _ ← pollIntervalMs? root commandType
    deviceSlot? context root portId

def forwardDevice? (context : CommandContext) (root : Json)
    (cmdId gatewayId portId commandType : String) : Option Forward := do
  let uiSeq ← sequenceFrom? root
  let deviceId ← deviceCommandId? root
  let _ ← deviceOptions? context root portId commandType uiSeq deviceId
  let _ ← thresholdEnabled? root
  (forwardDevice context root cmdId gatewayId portId commandType).completed?

def forwardGateway? (context : CommandContext) (root : Json)
    (cmdId gatewayId portId commandType : String) : Option Forward := do
  let _ ← sequenceFrom? root
  (forwardGateway context root cmdId gatewayId portId commandType).completed?

/-- `handleCommand` with its checks; the number is read for the answer first. -/
def handleCommand? (context : CommandContext) (root : Json) (cmdId : String) : Option Forward :=
  let commandType := commandNameFrom root
  let gatewayId := requestGatewayId root
  let portId := requestPortId root
  do
    let _ ← sequenceFrom? root
    if !isRemoteCommandAllowed commandType then
      some (.refused "unsupported_command" "unsupported command")
    else if cmdId = "" ∨ gatewayId = "" ∨ (!isGatewayCommand commandType ∧ portId = "") then
      some (.refused "invalid_request"
        "gatewayId, seq, cmd_id and portId for port commands are required")
    else if commandType = "set_relay" then
      forwardSetRelay? context root cmdId gatewayId portId
    else if commandType = "set_device_threshold" ∨ commandType = "set_threshold" then
      forwardThreshold? context root cmdId gatewayId portId commandType
    else if commandType = "add_device" ∨ commandType = "remove_device" then
      forwardDevice? context root cmdId gatewayId portId commandType
    else forwardGateway? context root cmdId gatewayId portId commandType

/-! ## When the reads succeed -/

def SequenceFits (root : Json) : Prop :=
  Int64AnyFits root ["seq", "sequence"]

def DeviceIdFits (root : Json) : Prop :=
  IntAnyFits root ["deviceId", "slave_id", "slaveAddress", "device_id", "slave_addr"]

def RootSlotFits (root : Json) : Prop :=
  IntFits root "master_slot" ∧ IntFits root "slot"

def SlotFits (requestPayload root : Json) : Prop :=
  RootSlotFits root ∧ IntFits requestPayload "slot"

/-- `std::stoi` is not called, or reads the digits of the port. -/
def PortSlotFits (portId : String) (fallback : Int) : Prop :=
  fallback < 0 -> Nat.ofDigitChars 10 (portId.toList.filter Char.isDigit) 0 < 2 ^ 31

/-- The port is connected, or there is no database to ask. -/
def PortUsable (context : CommandContext) : Prop :=
  context.databaseOpen = true -> context.portConnected = true

/-- The states are streamed behind all checks. -/
def RelayFits (context : CommandContext) (root : Json) (gatewayId portId : String) : Prop :=
  SlotFits (payloadObjectOrRoot root) root ∧ DeviceIdFits (payloadObjectOrRoot root) ∧
    (0 < sequenceFrom root -> gatewayId ≠ "" -> portId ≠ "" ->
      0 ≤ requestSlot (payloadObjectOrRoot root) root ->
      0 < deviceIdFrom (payloadObjectOrRoot root) -> PortUsable context ->
      forall states, memberArray (payloadObjectOrRoot root) "states" = some states ->
        forall state, state ∈ states -> IsRelayState state)

def ThresholdFits (root : Json) (portId : String) : Prop :=
  SlotFits (payloadObjectOrRoot root) root ∧
    PortSlotFits portId (requestSlot (payloadObjectOrRoot root) root) ∧
    DeviceIdFits (payloadObjectOrRoot root) ∧
    (deviceIdFrom (payloadObjectOrRoot root) ≤ 0 ->
      forall device, memberObject root "device" = some device -> DeviceIdFits device)

def rootSlot (root : Json) : Int :=
  getJsonInt root "slot" (getJsonInt root "master_slot" (-1))

def DeviceCommandFits (context : CommandContext) (root : Json) (portId commandType : String) :
    Prop :=
  (forall device, memberObject root "device" = some device -> DeviceIdFits device) ∧
    (((memberObject root "device").map deviceIdFrom).getD 0 ≤ 0 ->
      DeviceIdFits (payloadObjectOrRoot root)) ∧
    (0 < sequenceFrom root -> 0 < deviceCommandId root ->
      (commandType = "add_device" ->
        forall device, memberObject root "device" = some device ->
          IntAnyFits device ["pollIntervalMs", "poll_interval_ms"]) ∧
      (PortUsable context -> RootSlotFits root ∧ PortSlotFits portId (rootSlot root)))

/-- The part of the branch for the command type. -/
def ForwardFits (context : CommandContext) (root : Json)
    (gatewayId portId commandType : String) : Prop :=
  (commandType = "set_relay" -> RelayFits context root gatewayId portId) ∧
    (commandType = "set_device_threshold" ∨ commandType = "set_threshold" ->
      ThresholdFits root portId) ∧
    (commandType = "add_device" ∨ commandType = "remove_device" ->
      DeviceCommandFits context root portId commandType)

def CommandFits (context : CommandContext) (root : Json) (cmdId : String) : Prop :=
  SequenceFits root ∧
    (isRemoteCommandAllowed (commandNameFrom root) = true -> cmdId ≠ "" ->
      requestGatewayId root ≠ "" ->
      (isGatewayCommand (commandNameFrom root) = false -> requestPortId root ≠ "") ->
      ForwardFits context root (requestGatewayId root) (requestPortId root) (commandNameFrom root))

/-! ## The reads -/

theorem completed?_runs (forward : Forward) :
    RunsTo forward.completed? (forward ≠ .aborted) forward := by
  cases forward with
  | aborted => exact RunsTo.of_none (not_not.mpr rfl) Forward.aborted
  | refused reason message =>
      exact (RunsTo.of_some _).congr (iff_of_true trivial fun same => by cases same) fun _ => rfl
  | publish topic payload pending =>
      exact (RunsTo.of_some _).congr (iff_of_true trivial fun same => by cases same) fun _ => rfl

theorem sequenceFrom?_runs (root : Json) :
    RunsTo (sequenceFrom? root) (SequenceFits root) (sequenceFrom root) :=
  getJsonInt64Any?_runs root _ 0

theorem deviceIdFrom?_runs (root : Json) :
    RunsTo (deviceIdFrom? root) (DeviceIdFits root) (deviceIdFrom root) :=
  getJsonIntAny?_runs root _ 0

theorem rootSlot?_runs (root : Json) :
    RunsTo (rootSlot? root) (RootSlotFits root) (rootSlot root) :=
  (getJsonInt?_runs root "master_slot" (-1)).bind (getJsonInt?_runs root "slot" _)

theorem requestSlot?_runs (requestPayload root : Json) :
    RunsTo (requestSlot? requestPayload root) (SlotFits requestPayload root)
      (requestSlot requestPayload root) :=
  (rootSlot?_runs root).bind (getJsonInt?_runs requestPayload "slot" _)

@[simp]
theorem payloadObjectOrRoot?_eq (root : Json) :
    payloadObjectOrRoot? root = some (payloadObjectOrRoot root) := by
  unfold payloadObjectOrRoot?
  rw [memberObject?_eq]
  rfl

theorem slotFromPortId_runs (portId : String) (fallback : Int) :
    RunsTo (slotFromPortId portId fallback) (PortSlotFits portId fallback)
      ((slotFromPortId portId fallback).getD 0) where
  run_eq fits := by
    have ended : (slotFromPortId portId fallback).isSome = true := by
      by_cases given : 0 ≤ fallback
      · rw [slotFromPortId, if_pos given]
        rfl
      · exact Option.isSome_iff_ne_none.mpr (slotFromPortId_ne_none fallback (fits (by omega)))
    rcases Option.isSome_iff_exists.mp ended with ⟨slot, same⟩
    rw [same]
    rfl
  domain_of_isSome ended := by
    intro negative
    unfold slotFromPortId at ended
    rw [if_neg (by omega)] at ended
    by_cases blank : portId.toList.filter Char.isDigit = []
    · rw [blank]
      decide
    · rw [if_neg blank] at ended
      by_contra large
      rw [if_neg large] at ended
      cases ended

theorem thresholdDeviceId?_runs (root : Json) :
    RunsTo (thresholdDeviceId? (payloadObjectOrRoot root) root)
      (DeviceIdFits (payloadObjectOrRoot root) ∧
        (deviceIdFrom (payloadObjectOrRoot root) ≤ 0 ->
          forall device, memberObject root "device" = some device -> DeviceIdFits device))
      (thresholdDeviceId root) := by
  apply (deviceIdFrom?_runs (payloadObjectOrRoot root)).bind
  rw [memberObject?_eq, RunsTo.some_bind]
  unfold thresholdDeviceId
  by_cases unnamed : deviceIdFrom (payloadObjectOrRoot root) ≤ 0
  · simp only [unnamed, if_true, true_imp_iff]
    cases memberObject root "device" with
    | none =>
        exact (RunsTo.of_some _).congr (by simp) fun _ => rfl
    | some device =>
        exact (deviceIdFrom?_runs device).congr (by simp) fun _ => rfl
  · simp only [unnamed, if_false, false_imp_iff]
    exact RunsTo.of_some _

theorem deviceCommandId?_runs (root : Json) :
    RunsTo (deviceCommandId? root)
      ((forall device, memberObject root "device" = some device -> DeviceIdFits device) ∧
        (((memberObject root "device").map deviceIdFrom).getD 0 ≤ 0 ->
          DeviceIdFits (payloadObjectOrRoot root)))
      (deviceCommandId root) := by
  have named : RunsTo (namedDeviceId? root)
      (forall device, memberObject root "device" = some device -> DeviceIdFits device)
      (((memberObject root "device").map deviceIdFrom).getD 0) := by
    unfold namedDeviceId?
    rw [memberObject?_eq, RunsTo.some_bind]
    cases memberObject root "device" with
    | none => exact (RunsTo.of_some 0).congr (by simp) fun _ => rfl
    | some device => exact (deviceIdFrom?_runs device).congr (by simp) fun _ => rfl
  apply named.bind
  rw [payloadObjectOrRoot?_eq, RunsTo.some_bind]
  unfold deviceCommandId
  by_cases unnamed : ((memberObject root "device").map deviceIdFrom).getD 0 ≤ 0
  · simp only [unnamed, if_true, true_imp_iff]
    exact deviceIdFrom?_runs (payloadObjectOrRoot root)
  · simp only [unnamed, if_false, false_imp_iff]
    exact RunsTo.of_some _

theorem pollIntervalMs?_runs (root : Json) (commandType : String) :
    RunsTo (pollIntervalMs? root commandType)
      (commandType = "add_device" ->
        forall device, memberObject root "device" = some device ->
          IntAnyFits device ["pollIntervalMs", "poll_interval_ms"])
      (if commandType = "add_device" then
        ((memberObject root "device").map fun device =>
          getJsonIntAny device ["pollIntervalMs", "poll_interval_ms"] 1000).getD 1000
      else 1000) := by
  unfold pollIntervalMs?
  by_cases adds : commandType = "add_device"
  · rw [if_pos adds, if_pos adds, memberObject?_eq, RunsTo.some_bind]
    cases memberObject root "device" with
    | none => exact (RunsTo.of_some 1000).congr (by simp) fun _ => rfl
    | some device => exact (getJsonIntAny?_runs device _ 1000).congr (by simp [adds]) fun _ => rfl
  · rw [if_neg adds, if_neg adds]
    exact (RunsTo.of_some 1000).congr (by simp [adds]) fun _ => rfl

theorem portRefusal_eq_none_iff (context : CommandContext) :
    portRefusal context = none ↔ PortUsable context := by
  unfold portRefusal PortUsable
  cases context.databaseOpen <;> cases context.portConnected <;> simp

theorem deviceSlot?_runs (context : CommandContext) (root : Json) (portId : String) :
    RunsTo (deviceSlot? context root portId)
      (PortUsable context -> RootSlotFits root ∧ PortSlotFits portId (rootSlot root))
      ((deviceSlot? context root portId).getD 0) := by
  unfold deviceSlot?
  cases refused : portRefusal context with
  | some refusal =>
      have unusable : ¬PortUsable context := by
        rw [← portRefusal_eq_none_iff, refused]
        exact Option.some_ne_none refusal
      exact (RunsTo.of_some 0).congr (by simp [unusable]) fun _ => rfl
  | none =>
      have usable := (portRefusal_eq_none_iff context).mp refused
      apply ((rootSlot?_runs root).bind (slotFromPortId_runs portId _)).congr
      · simp only [usable, true_imp_iff]
      · intro fits
        have ended := ((rootSlot?_runs root).bind (slotFromPortId_runs portId _)).run_eq
          (fits usable)
        exact (congrArg (fun found => found.getD 0) ended).symm

theorem deviceOptions?_runs (context : CommandContext) (root : Json) (portId commandType : String)
    (uiSeq deviceId : Int) :
    RunsTo (deviceOptions? context root portId commandType uiSeq deviceId)
      (0 < uiSeq -> 0 < deviceId ->
        (commandType = "add_device" ->
          forall device, memberObject root "device" = some device ->
            IntAnyFits device ["pollIntervalMs", "poll_interval_ms"]) ∧
        (PortUsable context -> RootSlotFits root ∧ PortSlotFits portId (rootSlot root)))
      ((deviceOptions? context root portId commandType uiSeq deviceId).getD 0) := by
  unfold deviceOptions?
  by_cases refused : uiSeq ≤ 0 ∨ deviceId ≤ 0
  · rw [if_pos refused]
    apply (RunsTo.of_some 0).congr
    · refine iff_of_true trivial ?_
      intro positive named
      omega
    · exact fun _ => rfl
  · rw [if_neg refused]
    have reads := (pollIntervalMs?_runs root commandType).andThen
      (deviceSlot?_runs context root portId)
    have positive : 0 < uiSeq ∧ 0 < deviceId := by omega
    apply reads.congr
    · simp only [positive, true_imp_iff]
    · intro fits
      exact (congrArg (fun found => found.getD 0) (reads.run_eq (fits positive.1 positive.2))).symm

/-! ## The parts of the branch -/

theorem relayStateFlag_isSome_iff (state : Json) :
    (relayStateFlag state).isSome = true ↔ IsRelayState state := by
  constructor
  · intro read
    cases state with
    | bool value => trivial
    | int value =>
        simp only [relayStateFlag] at read
        split at read
        · assumption
        · cases read
    | null => cases read
    | real value => cases read
    | str text => cases read
    | arr items => cases read
    | obj members => cases read
  · exact relayStateFlag_isSome

theorem relayStates_runs (states : List Json) :
    RunsTo (states.mapM relayStateFlag) (forall state, state ∈ states -> IsRelayState state)
      (states.map fun state => (relayStateFlag state).getD false) := by
  apply RunsTo.mapM
  intro state _
  constructor
  · intro read
    rcases Option.isSome_iff_exists.mp ((relayStateFlag_isSome_iff state).mpr read)
      with ⟨flag, found⟩
    rw [found]
    rfl
  · exact (relayStateFlag_isSome_iff state).mp

/-- A port that cannot be used is refused before the rest of the branch. -/
theorem portRefusal_ne_aborted_iff (context : CommandContext) (rest : Forward) :
    (portRefusal context).getD rest ≠ .aborted ↔ (PortUsable context -> rest ≠ .aborted) := by
  cases refused : portRefusal context with
  | none =>
      have usable := (portRefusal_eq_none_iff context).mp refused
      exact ⟨fun runs _ => runs, fun runs => runs usable⟩
  | some refusal =>
      refine iff_of_true ?_ fun usable => ?_
      · unfold portRefusal at refused
        split at refused
        · cases refused
          exact fun same => by cases same
        · cases refused
      · have none := (portRefusal_eq_none_iff context).mpr usable
        rw [refused] at none
        cases none

/-- The states are the only thing that ends the branch of a `set_relay`. -/
theorem forwardSetRelay_ne_aborted_iff (context : CommandContext) (root : Json)
    (cmdId gatewayId portId : String) :
    forwardSetRelay context root cmdId gatewayId portId ≠ .aborted ↔
      (0 < sequenceFrom root -> gatewayId ≠ "" -> portId ≠ "" ->
        0 ≤ requestSlot (payloadObjectOrRoot root) root ->
        0 < deviceIdFrom (payloadObjectOrRoot root) -> PortUsable context ->
        forall states, memberArray (payloadObjectOrRoot root) "states" = some states ->
          forall state, state ∈ states -> IsRelayState state) := by
  unfold forwardSetRelay
  dsimp only
  have goesOn : forall reason message, Forward.refused reason message ≠ .aborted :=
    fun _ _ same => by cases same
  cases listed : memberArray (payloadObjectOrRoot root) "states" with
  | none => exact iff_of_true (goesOn _ _) (by simp)
  | some states =>
      cases states with
      | nil =>
          refine iff_of_true (goesOn _ _) ?_
          intro _ _ _ _ _ _ states same state inside
          cases same
          cases inside
      | cons first others =>
          dsimp only
          split
          · rename_i refused
            refine iff_of_true (goesOn _ _) ?_
            intro positive gateway port slot device
            exfalso
            rcases refused with none | none | none | none | none
            · omega
            · exact gateway none
            · exact port none
            · omega
            · omega
          · rename_i accepted
            simp only [not_or, not_le, not_lt] at accepted
            rcases accepted with ⟨positive, gateway, port, slot, device⟩
            have streams := relayStates_runs (first :: others)
            rw [portRefusal_ne_aborted_iff]
            cases flags : (first :: others).mapM relayStateFlag with
            | none =>
                rw [flags] at streams
                have unread : ¬forall state, state ∈ first :: others -> IsRelayState state :=
                  fun all => by cases streams.run_eq all
                constructor
                · exact fun aborts _ _ _ _ _ usable => absurd rfl (aborts usable)
                · intro all usable
                  exact absurd (all positive gateway port slot device usable _ rfl) unread
            | some read =>
                rw [flags] at streams
                refine iff_of_true (fun _ same => by cases same) ?_
                intro _ _ _ _ _ _ states same
                cases same
                exact streams.domain_of_isSome rfl

theorem forwardSetRelay?_runs (context : CommandContext) (root : Json)
    (cmdId gatewayId portId : String) :
    RunsTo (forwardSetRelay? context root cmdId gatewayId portId)
      (SequenceFits root ∧ RelayFits context root gatewayId portId)
      (forwardSetRelay context root cmdId gatewayId portId) := by
  apply (sequenceFrom?_runs root).bind
  rw [payloadObjectOrRoot?_eq, RunsTo.some_bind]
  apply (requestSlot?_runs (payloadObjectOrRoot root) root).bind
  apply (deviceIdFrom?_runs (payloadObjectOrRoot root)).bind
  exact (completed?_runs _).congr
    (forwardSetRelay_ne_aborted_iff context root cmdId gatewayId portId) fun _ => rfl

theorem forwardThreshold_ne_aborted {context : CommandContext} {root : Json}
    {cmdId gatewayId portId commandType : String}
    (slot : PortSlotFits portId (requestSlot (payloadObjectOrRoot root) root)) :
    forwardThreshold context root cmdId gatewayId portId commandType ≠ .aborted := by
  have read := (slotFromPortId_runs portId _).run_eq slot
  unfold forwardThreshold
  dsimp only
  rw [read]
  dsimp only
  split
  · exact fun same => by cases same
  · split
    · exact fun same => by cases same
    · exact portRefusal_ne_aborted fun same => by cases same

theorem forwardThreshold?_runs (context : CommandContext) (root : Json)
    (cmdId gatewayId portId commandType : String) :
    RunsTo (forwardThreshold? context root cmdId gatewayId portId commandType)
      (SequenceFits root ∧ ThresholdFits root portId)
      (forwardThreshold context root cmdId gatewayId portId commandType) := by
  unfold forwardThreshold? thresholdEnabled?
  simp only [payloadObjectOrRoot?_eq, getJsonBoolAny?_eq, RunsTo.some_bind]
  apply ((sequenceFrom?_runs root).bind
    ((requestSlot?_runs (payloadObjectOrRoot root) root).bind
      ((slotFromPortId_runs portId _).bind ((thresholdDeviceId?_runs root).bind
        (completed?_runs _))))).congr
  · constructor
    · rintro ⟨number, slot, digits, device, -⟩
      exact ⟨number, slot, digits, device⟩
    · rintro ⟨number, slot, digits, device⟩
      exact ⟨number, slot, digits, device, forwardThreshold_ne_aborted digits⟩
  · exact fun _ => rfl

theorem forwardDevice_ne_aborted {context : CommandContext} {root : Json}
    {cmdId gatewayId portId commandType : String}
    (slot : 0 < sequenceFrom root -> 0 < deviceCommandId root -> PortUsable context ->
      PortSlotFits portId (rootSlot root)) :
    forwardDevice context root cmdId gatewayId portId commandType ≠ .aborted := by
  unfold forwardDevice
  dsimp only
  split
  · exact fun same => by cases same
  · rename_i accepted
    have positive : 0 < sequenceFrom root ∧ 0 < deviceCommandId root := by omega
    cases refused : portRefusal context with
    | some refusal =>
        have other : (portRefusal context).getD (.refused "" "") ≠ .aborted :=
          portRefusal_ne_aborted fun same => by cases same
        rw [refused] at other
        exact other
    | none =>
        have usable := (portRefusal_eq_none_iff context).mp refused
        have read := (slotFromPortId_runs portId (rootSlot root)).run_eq
          (slot positive.1 positive.2 usable)
        unfold rootSlot at read
        rw [read]
        exact fun same => by cases same

theorem forwardDevice?_runs (context : CommandContext) (root : Json)
    (cmdId gatewayId portId commandType : String) :
    RunsTo (forwardDevice? context root cmdId gatewayId portId commandType)
      (SequenceFits root ∧ DeviceCommandFits context root portId commandType)
      (forwardDevice context root cmdId gatewayId portId commandType) := by
  unfold forwardDevice? thresholdEnabled?
  simp only [getJsonBoolAny?_eq, RunsTo.some_bind]
  apply ((sequenceFrom?_runs root).bind ((deviceCommandId?_runs root).bind
    ((deviceOptions?_runs context root portId commandType _ _).bind (completed?_runs _)))).congr
  · constructor
    · rintro ⟨number, device, options, -⟩
      exact ⟨number, device.1, device.2, options⟩
    · rintro ⟨number, named, payload, options⟩
      refine ⟨number, ⟨named, payload⟩, options, forwardDevice_ne_aborted ?_⟩
      intro positive known usable
      exact ((options positive known).2 usable).2
  · exact fun _ => rfl

theorem forwardGateway?_runs (context : CommandContext) (root : Json)
    (cmdId gatewayId portId commandType : String) :
    RunsTo (forwardGateway? context root cmdId gatewayId portId commandType) (SequenceFits root)
      (forwardGateway context root cmdId gatewayId portId commandType) := by
  apply ((sequenceFrom?_runs root).bind (completed?_runs _)).congr
  · apply and_iff_left
    unfold forwardGateway
    dsimp only
    split <;> exact fun same => by cases same
  · exact fun _ => rfl

/-- The part of the branch for a command type that is allowed. -/
theorem forward?_runs (context : CommandContext) (root : Json)
    (cmdId gatewayId portId commandType : String) :
    RunsTo
      (if commandType = "set_relay" then forwardSetRelay? context root cmdId gatewayId portId
      else if commandType = "set_device_threshold" ∨ commandType = "set_threshold" then
        forwardThreshold? context root cmdId gatewayId portId commandType
      else if commandType = "add_device" ∨ commandType = "remove_device" then
        forwardDevice? context root cmdId gatewayId portId commandType
      else forwardGateway? context root cmdId gatewayId portId commandType)
      (SequenceFits root ∧ ForwardFits context root gatewayId portId commandType)
      (if commandType = "set_relay" then forwardSetRelay context root cmdId gatewayId portId
      else if commandType = "set_device_threshold" ∨ commandType = "set_threshold" then
        forwardThreshold context root cmdId gatewayId portId commandType
      else if commandType = "add_device" ∨ commandType = "remove_device" then
        forwardDevice context root cmdId gatewayId portId commandType
      else forwardGateway context root cmdId gatewayId portId commandType) := by
  by_cases relay : commandType = "set_relay"
  · rw [if_pos relay, if_pos relay]
    apply (forwardSetRelay?_runs context root cmdId gatewayId portId).congr
    · simp [ForwardFits, relay]
    · exact fun _ => rfl
  · rw [if_neg relay, if_neg relay]
    by_cases threshold : commandType = "set_device_threshold" ∨ commandType = "set_threshold"
    · rw [if_pos threshold, if_pos threshold]
      apply (forwardThreshold?_runs context root cmdId gatewayId portId commandType).congr
      · rcases threshold with rfl | rfl <;> simp [ForwardFits]
      · exact fun _ => rfl
    · rw [if_neg threshold, if_neg threshold]
      by_cases device : commandType = "add_device" ∨ commandType = "remove_device"
      · rw [if_pos device, if_pos device]
        apply (forwardDevice?_runs context root cmdId gatewayId portId commandType).congr
        · rcases device with rfl | rfl <;> simp [ForwardFits]
        · exact fun _ => rfl
      · rw [if_neg device, if_neg device]
        apply (forwardGateway?_runs context root cmdId gatewayId portId commandType).congr
        · simp [ForwardFits, relay, threshold, device]
        · exact fun _ => rfl

/-- The branch returns exactly if the integers and the states it reaches can be read. -/
theorem handleCommand?_runs (context : CommandContext) (root : Json) (cmdId : String) :
    RunsTo (handleCommand? context root cmdId) (CommandFits context root cmdId)
      (handleCommand context root cmdId) := by
  have refused : forall (forward : Forward) (fits : Prop), fits ->
      RunsTo (some forward) fits forward :=
    fun forward _ fits => (RunsTo.of_some forward).congr (iff_of_true trivial fits) fun _ => rfl
  have checked : RunsTo (handleCommand? context root cmdId)
      (SequenceFits root ∧
        (isRemoteCommandAllowed (commandNameFrom root) = true ->
          ¬(cmdId = "" ∨ requestGatewayId root = "" ∨
            (!isGatewayCommand (commandNameFrom root) ∧ requestPortId root = "")) ->
          SequenceFits root ∧ ForwardFits context root (requestGatewayId root) (requestPortId root)
            (commandNameFrom root)))
      (handleCommand context root cmdId) := by
    apply (sequenceFrom?_runs root).andThen
    unfold handleCommand
    dsimp only
    cases isRemoteCommandAllowed (commandNameFrom root) with
    | true =>
      simp only [Bool.not_true, Bool.false_eq_true, if_false, true_imp_iff]
      by_cases unnamed : cmdId = "" ∨ requestGatewayId root = "" ∨
          (!isGatewayCommand (commandNameFrom root) ∧ requestPortId root = "")
      · rw [if_pos unnamed, if_pos unnamed]
        exact refused _ _ fun named => absurd unnamed named
      · rw [if_neg unnamed, if_neg unnamed]
        exact (forward?_runs context root cmdId _ _ _).congr
          ⟨fun fits _ => fits, fun fits => fits unnamed⟩ fun _ => rfl
    | false =>
      simp only [Bool.not_false, if_true]
      exact refused _ _ fun permitted => absurd permitted Bool.false_ne_true
  apply checked.congr
  · unfold CommandFits
    apply and_congr_right
    intro number
    simp only [number, true_and, not_or, not_and, and_imp, Bool.not_eq_true', ne_eq]
  · exact fun _ => rfl

end Pc
end Imx6Gateway
