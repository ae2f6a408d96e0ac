import Imx6Gateway.Link.CommandRouting

namespace Imx6Gateway
namespace Link

open Library Board

/-!
# Thresholds from the request to the board

A request gives thresholds under one of three spellings.  Under `thresholds`
the points stand in the object itself; under `threshold_config` and
`thresholdConfig` they may also stand in its own `thresholds`.  Pc_data passes
the object on as it is, with a flag of its own next to it for
`set_device_threshold` and without one for `add_device`.  The theorem says
exactly when the board ends up with the flag and the points of the request.

A limit is compared as the `float` the board keeps.
-/

section Request

variable (getFloat : Json -> Limit)

/-- A point object; a null is none. -/
def directPoint (source : Json) (name : String) : Option RequestedPoint :=
  match source.lookup name with
  | none | some .null => none
  | some point => some (parsePointThreshold getFloat point noThreshold)

/-- The short form of a point: an upper limit that is watched. -/
def shortPoint (source : Json) (shortKeys : List String) : Option RequestedPoint :=
  (jsonGetDoubleAny getFloat source shortKeys).map fun high => ⟨true, none, some high⟩

def pointAt (source : Json) (name : String) (shortKeys : List String) : Option RequestedPoint :=
  (directPoint getFloat source name).or (shortPoint getFloat source shortKeys)

/-- The object inside a configuration in which the board looks for points. -/
def innerThresholds (config : Json) : Json :=
  (config.lookup "thresholds").getD .null

/-- What the request asks for one point. -/
def requestedPoint (thresholds : String × Json) (name : String) (shortKeys : List String) :
    RequestedPoint :=
  if thresholds.1 = "thresholds" then
    (pointAt getFloat thresholds.2 name shortKeys).getD noThreshold
  else ((pointAt getFloat (innerThresholds thresholds.2) name shortKeys).or
    (pointAt getFloat thresholds.2 name shortKeys)).getD noThreshold

/-- What the request asks for: its flag, which is on unless it says so, and
the two points. -/
def requestedConfig (source : Json) (thresholds : String × Json) : RequestedThresholds where
  thresholdEnabled := Pc.thresholdEnabled source
  temperature := requestedPoint getFloat thresholds "temperature" tempHighKeys
  humidity := requestedPoint getFloat thresholds "humidity" humiHighKeys

/-- Where Pc_data looks for the thresholds of a request. -/
def thresholdSource (root : Json) : Json :=
  if Pc.commandNameFrom root = "add_device" then root else Pc.payloadObjectOrRoot root

/-- The flag inside a configuration, which the board prefers. -/
def configFlag (thresholds : String × Json) : Option Bool :=
  if thresholds.1 = "thresholds" then none
  else
    match thresholds.2.lookup "enable" with
    | none | some .null => none
    | some value => some (JsonC.getBoolean value)

/-- The board's flag is the one of the request. -/
def FlagPassed (root : Json) (thresholds : String × Json) : Prop :=
  match configFlag thresholds with
  | some flag => flag = Pc.thresholdEnabled (thresholdSource root)
  | none => Pc.commandNameFrom root = "add_device" ->
      Pc.thresholdEnabled (thresholdSource root) = false

/-- The point does not stand where the board does not look, or says there what
the short form says. -/
def PointPassed (thresholds : String × Json) (name : String) (shortKeys : List String) : Prop :=
  thresholds.1 = "thresholds" ∨
    (pointAt getFloat (innerThresholds thresholds.2) name shortKeys).isSome ∨
    forall point, directPoint getFloat thresholds.2 name = some point ->
      point = (shortPoint getFloat thresholds.2 shortKeys).getD noThreshold

def ThresholdsPassed (root : Json) (thresholds : String × Json) : Prop :=
  FlagPassed root thresholds ∧ PointPassed getFloat thresholds "temperature" tempHighKeys ∧
    PointPassed getFloat thresholds "humidity" humiHighKeys

end Request

/-! ## What the board reads -/

section Board

variable (getFloat : Json -> Limit)

/-- The members of a message from which the board reads thresholds. -/
structure ThresholdFields (root : Json) (written : Option Bool) (thresholds : String × Json) :
    Prop where
  flag : root.lookup "threshold_enabled" = written.map .bool
  camelFlag : root.lookup "thresholdEnabled" = none
  noShort : forall key, key ∈ tempHighKeys ++ humiHighKeys -> root.lookup key = none
  given : forall key, key ∈ Pc.thresholdSpellings ->
    root.lookup key = if key = thresholds.1 then some thresholds.2 else none

theorem withHigh_noThreshold (source : Json) (shortKeys : List String) :
    withHigh noThreshold (jsonGetDoubleAny getFloat source shortKeys) =
      (shortPoint getFloat source shortKeys).getD noThreshold := by
  unfold shortPoint
  cases jsonGetDoubleAny getFloat source shortKeys <;> rfl

theorem withHigh_eq (source : Json) (shortKeys : List String) {point : RequestedPoint}
    (noLow : point.alarmLow = none) :
    withHigh point (jsonGetDoubleAny getFloat source shortKeys) =
      (shortPoint getFloat source shortKeys).getD point := by
  unfold shortPoint
  cases jsonGetDoubleAny getFloat source shortKeys with
  | none => rfl
  | some high => rw [withHigh, noLow]; rfl

/-- The object of a point counts alone, then its short form, then what was
read before. -/
theorem parseThresholdsPoint_eq (source : Json) (shortKeys : List String) (name : String)
    {point : RequestedPoint} (noLow : point.alarmLow = none) :
    parseThresholdsPoint getFloat source shortKeys name point =
      (pointAt getFloat source name shortKeys).getD point := by
  have short := withHigh_eq getFloat source shortKeys noLow
  unfold parseThresholdsPoint pointAt directPoint
  cases source.lookup name with
  | none => exact short
  | some value =>
      cases value with
      | null => exact short
      | _ => rfl

theorem jsonGetDoubleAny_absent {object : Json} {keys : List String}
    (absent : forall key, key ∈ keys -> object.lookup key = none) :
    jsonGetDoubleAny getFloat object keys = none := by
  have nothing : getObjectAny object keys = none := by
    rw [getObjectAny, List.findSome?_eq_none_iff]
    exact absent
  rw [jsonGetDoubleAny, nothing]

/-- No point stands in what is no object. -/
theorem pointAt_leaf {source : Json} (leaf : source.isObj = false) (name : String)
    (shortKeys : List String) : pointAt getFloat source name shortKeys = none := by
  have absent : forall key, source.lookup key = none := by
    intro key
    cases source with
    | obj members => cases leaf
    | _ => rfl
  rw [pointAt, directPoint, absent, shortPoint,
    jsonGetDoubleAny_absent getFloat (fun key _ => absent key)]
  rfl

theorem shortPoint_noLow (source : Json) (shortKeys : List String) :
    ((shortPoint getFloat source shortKeys).getD noThreshold).alarmLow = none := by
  unfold shortPoint
  cases jsonGetDoubleAny getFloat source shortKeys <;> rfl

namespace ThresholdFields

variable {root : Json} {written : Option Bool} {thresholds : String × Json}

theorem getFlag (fields : ThresholdFields root written thresholds) :
    getObjectAny root ["threshold_enabled", "thresholdEnabled"] = written.map Json.bool := by
  rw [getObjectAny, List.findSome?_cons, fields.flag]
  cases written with
  | some flag => rfl
  | none =>
      rw [Option.map_none, List.findSome?_cons, fields.camelFlag]
      rfl

theorem getShort (fields : ThresholdFields root written thresholds) (keys : List String)
    (listed : forall key, key ∈ keys -> key ∈ tempHighKeys ++ humiHighKeys) :
    jsonGetDoubleAny getFloat root keys = none := by
  apply jsonGetDoubleAny_absent
  intro key member
  exact fields.noShort key (listed key member)

theorem getConfig (fields : ThresholdFields root written thresholds)
    (spelled : thresholds.1 = "threshold_config" ∨ thresholds.1 = "thresholdConfig") :
    getObjectAny root ["threshold_config", "thresholdConfig"] = some thresholds.2 := by
  have snake := fields.given "threshold_config" (by decide)
  have camel := fields.given "thresholdConfig" (by decide)
  rw [getObjectAny, List.findSome?_cons, snake]
  rcases spelled with here | here
  · rw [here, if_pos rfl]
  · rw [here, if_neg (by decide), List.findSome?_cons, camel, here, if_pos rfl]

end ThresholdFields

/-- Under `thresholds` the board reads the points of the object, and the flag
that was written. -/
theorem parseSensorThresholdConfig_plain {root thresholds : Json} {written : Option Bool}
    (fields : ThresholdFields root written ("thresholds", thresholds))
    (isObj : thresholds.isObj = true) :
    parseSensorThresholdConfig getFloat root = some ⟨written.getD false,
      (pointAt getFloat thresholds "temperature" tempHighKeys).getD noThreshold,
      (pointAt getFloat thresholds "humidity" humiHighKeys).getD noThreshold⟩ := by
  rcases Json.isObj_iff.mp isObj with ⟨members, rfl⟩
  have plain : root.lookup "thresholds" = some (.obj members) := fields.given _ (by decide)
  have snake : root.lookup "threshold_config" = none := fields.given _ (by decide)
  have camel : root.lookup "thresholdConfig" = none := fields.given _ (by decide)
  have noConfig : getObjectAny root ["threshold_config", "thresholdConfig"] = none := by
    rw [getObjectAny, List.findSome?_cons, snake, List.findSome?_cons, camel]
    rfl
  have temp := fields.getShort getFloat tempHighKeys (by simp +contextual)
  have humi := fields.getShort getFloat humiHighKeys (by simp +contextual)
  have noShort : forall keys, jsonGetDoubleAny getFloat .null keys = none :=
    fun keys => jsonGetDoubleAny_absent getFloat fun _ _ => rfl
  have flag : ((written.map Json.bool).map JsonC.getBoolean).getD false = written.getD false := by
    cases written <;> rfl
  unfold parseSensorThresholdConfig
  simp only [plain, noConfig, fields.getFlag, temp, humi, flag, Option.getD_none, noShort,
    Option.or_none, Option.some_or, withHigh]
  rw [parseThresholdsPoint_eq getFloat _ _ _ rfl, parseThresholdsPoint_eq getFloat _ _ _ rfl]
  rfl

theorem parseSensorThresholdConfig_config {root : Json} {thresholds : String × Json}
    {written : Option Bool} (fields : ThresholdFields root written thresholds)
    (spelled : thresholds.1 = "threshold_config" ∨ thresholds.1 = "thresholdConfig")
    (isObj : thresholds.2.isObj = true) :
    parseSensorThresholdConfig getFloat root = some ⟨(configFlag thresholds).getD (written.getD false),
      (pointAt getFloat (innerThresholds thresholds.2) "temperature" tempHighKeys).getD
        ((shortPoint getFloat thresholds.2 tempHighKeys).getD noThreshold),
      (pointAt getFloat (innerThresholds thresholds.2) "humidity" humiHighKeys).getD
        ((shortPoint getFloat thresholds.2 humiHighKeys).getD noThreshold)⟩ := by
  have plain : root.lookup "thresholds" = none := by
    rw [fields.given _ (by decide)]
    rcases spelled with here | here <;> rw [here] <;> rfl
  have notPlain : thresholds.1 ≠ "thresholds" := by
    rcases spelled with here | here <;> rw [here] <;> decide
  have temp := fields.getShort getFloat tempHighKeys (by simp +contextual)
  have humi := fields.getShort getFloat humiHighKeys (by simp +contextual)
  have flag : ((written.map Json.bool).map JsonC.getBoolean).getD false = written.getD false := by
    cases written <;> rfl
  have enabled : jsonGetBoolAny thresholds.2 ["enable"] (written.getD false) =
      (configFlag thresholds).getD (written.getD false) := by
    rw [configFlag, if_neg notPlain, jsonGetBoolAny, getObjectAny, List.findSome?_cons]
    cases thresholds.2.lookup "enable" with
    | none => rfl
    | some value => cases value <;> rfl
  unfold parseSensorThresholdConfig
  simp only [plain, fields.getConfig spelled, fields.getFlag, temp, humi, flag, Option.getD_some,
    Option.none_or, isObj, if_true, enabled, withHigh_noThreshold, Bool.or_true, Bool.true_or]
  unfold innerThresholds
  cases inner : thresholds.2.lookup "thresholds" with
  | none => rw [Option.getD_none, pointAt_leaf, pointAt_leaf] <;> rfl
  | some value =>
      rw [Option.getD_some]
      cases value with
      | obj members =>
          rw [← parseThresholdsPoint_eq getFloat _ _ _ (shortPoint_noLow getFloat _ _),
            ← parseThresholdsPoint_eq getFloat _ _ _ (shortPoint_noLow getFloat _ _)]
      | _ => rw [pointAt_leaf, pointAt_leaf] <;> rfl

end Board

/-! ## What Pc_data forwards -/

/-- The commands that carry thresholds. -/
def thresholdCommands : List String :=
  ["add_device", "set_device_threshold", "set_threshold"]

theorem mem_thresholdCommands {cmd : String} :
    cmd ∈ thresholdCommands ↔
      cmd = "add_device" ∨ cmd = "set_device_threshold" ∨ cmd = "set_threshold" := by
  simp [thresholdCommands]

/-- The flag that is written next to the thresholds. -/
def writtenFlag (root : Json) : Option Bool :=
  if Pc.commandNameFrom root = "add_device" then none
  else some (Pc.thresholdEnabled (thresholdSource root))

/-- The fields of a body reach the handler. -/
theorem thresholdFields_effective {payload : Json} {cmd : String} {slot : Int}
    {body : List (String × Json)} {written : Option Bool} {thresholds : String × Json}
    (command : Pc.PortCommand payload cmd slot body)
    (fields : ThresholdFields (.obj body) written thresholds) :
    ThresholdFields (commandEffectiveRoot payload) written thresholds := by
  constructor
  · rw [lookup_portCommand command (by decide)]
    exact fields.flag
  · rw [lookup_portCommand command (by decide)]
    exact fields.camelFlag
  · intro key short
    have notCopied : key ∉ copyKeys := by
      simp only [tempHighKeys, humiHighKeys, List.cons_append, List.nil_append, List.mem_cons,
        List.not_mem_nil, or_false] at short
      rcases short with rfl | rfl | rfl | rfl <;> decide
    rw [lookup_portCommand command notCopied]
    exact fields.noShort key short
  · intro key spelling
    have notCopied : key ∉ copyKeys := by
      simp only [Pc.thresholdSpellings, List.mem_cons, List.not_mem_nil, or_false] at spelling
      rcases spelling with rfl | rfl | rfl <;> decide
    rw [lookup_portCommand command notCopied]
    exact fields.given key spelling

theorem thresholdFields_thresholdBody (slot slaveId : Int) (enabled : Bool)
    {thresholds : String × Json} (spelled : thresholds.1 ∈ Pc.thresholdSpellings) :
    ThresholdFields (.obj (Pc.thresholdBody slot slaveId enabled thresholds)) (some enabled)
      thresholds := by
  rcases thresholds with ⟨key, value⟩
  simp only [Pc.thresholdSpellings, List.mem_cons, List.not_mem_nil, or_false] at spelled
  rcases spelled with rfl | rfl | rfl <;> constructor <;>
    simp [Pc.thresholdBody, Pc.thresholdSpellings, tempHighKeys, humiHighKeys, List.lookup_cons]

theorem thresholdFields_addDeviceBody (slot deviceId pollIntervalMs : Int) (deviceType : String)
    {thresholds : String × Json} (spelled : thresholds.1 ∈ Pc.thresholdSpellings) :
    ThresholdFields (.obj (Pc.deviceBody slot deviceId
      (Pc.addDeviceBody deviceType pollIntervalMs (some thresholds)))) none thresholds := by
  rcases thresholds with ⟨key, value⟩
  simp only [Pc.thresholdSpellings, List.mem_cons, List.not_mem_nil, or_false] at spelled
  rcases spelled with rfl | rfl | rfl <;> constructor <;>
    simp [Pc.deviceBody, Pc.addDeviceBody, Pc.thresholdSpellings, tempHighKeys, humiHighKeys,
      List.lookup_cons]

theorem thresholdFields_forwarded {context : Pc.CommandContext} {root payload : Json}
    {cmdId topic : String} {pending : Pc.PendingCommandTarget} {thresholds : String × Json}
    (published : Pc.handleCommand context root cmdId = .publish topic payload pending)
    (named : Pc.commandNameFrom root ∈ thresholdCommands)
    (given : Pc.thresholdMember (thresholdSource root) = some thresholds) :
    ThresholdFields (commandEffectiveRoot payload) (writtenFlag root) thresholds := by
  have accepted := Pc.handleCommand_accepted published
  have spelled := (Pc.thresholdMember_spelling given).1
  unfold writtenFlag
  rcases mem_thresholdCommands.mp named with add | threshold | short
  · simp only [thresholdSource, add, if_true] at accepted given ⊢
    rcases Pc.forwardDevice_portCommand accepted with ⟨slot, -, command⟩
    rw [given] at command
    apply thresholdFields_effective command
    exact thresholdFields_addDeviceBody _ _ _ _ spelled
  · simp only [thresholdSource, threshold] at accepted given ⊢
    rcases Pc.forwardThreshold_portCommand accepted with ⟨slot, found, -, here, command⟩
    cases given.symm.trans here
    apply thresholdFields_effective command
    exact thresholdFields_thresholdBody _ _ _ spelled
  · simp only [thresholdSource, short] at accepted given ⊢
    rcases Pc.forwardThreshold_portCommand accepted with ⟨slot, found, -, here, command⟩
    cases given.symm.trans here
    apply thresholdFields_effective command
    exact thresholdFields_thresholdBody _ _ _ spelled

/-- The port manager is handed what `parse_sensor_threshold_config` reads. -/
theorem messageCall_thresholds (getFloat : Json -> Limit) (library : JsonC)
    {context : Pc.CommandContext} {root payload : Json} {cmdId topic : String}
    {pending : Pc.PendingCommandTarget} {call : PortCall}
    (published : Pc.handleCommand context root cmdId = .publish topic payload pending)
    (named : Pc.commandNameFrom root ∈ thresholdCommands)
    (called : messageCall getFloat library payload = some call) :
    call.thresholds = parseSensorThresholdConfig getFloat (commandEffectiveRoot payload) := by
  have accepted := Pc.handleCommand_accepted published
  have frame : exists cmd slot body, Pc.PortCommand payload cmd slot body ∧
      (cmd = "add_device" ∨ cmd = "set_device_threshold" ∨ cmd = "set_threshold") ∧
      body.lookup "device" = none := by
    rcases mem_thresholdCommands.mp named with add | threshold | short
    · simp only [add] at accepted
      rcases Pc.forwardDevice_portCommand accepted with ⟨slot, -, command⟩
      refine ⟨_, slot, _, command, .inl rfl, ?_⟩
      rw [if_pos rfl, Pc.deviceBody, List.lookup_append, Pc.lookup_addDeviceBody (by decide),
        Pc.lookup_thresholdMember _ (by decide)]
      rfl
    · simp only [threshold] at accepted
      rcases Pc.forwardThreshold_portCommand accepted with ⟨slot, thresholds, -, here, command⟩
      refine ⟨_, slot, _, command, .inr (.inl rfl), ?_⟩
      exact Pc.lookup_thresholdBody here (by decide)
    · simp only [short] at accepted
      rcases Pc.forwardThreshold_portCommand accepted with ⟨slot, thresholds, -, here, command⟩
      refine ⟨_, slot, _, command, .inr (.inl rfl), ?_⟩
      exact Pc.lookup_thresholdBody here (by decide)
  rcases frame with ⟨cmd, slot, body, command, cmdNamed, noDevice⟩
  rw [messageCall, messageCommand_portCommand library command, Option.bind_some] at called
  apply commandCall_thresholds getFloat library _ cmdNamed _ called
  rw [lookup_portCommand command (by decide)]
  exact noDevice

/-! ## When they agree -/

variable (getFloat : Json -> Limit)

theorem flagPassed_iff (root : Json) (thresholds : String × Json) :
    (configFlag thresholds).getD ((writtenFlag root).getD false) =
      Pc.thresholdEnabled (thresholdSource root) ↔ FlagPassed root thresholds := by
  unfold FlagPassed writtenFlag
  cases configFlag thresholds with
  | some flag => rfl
  | none =>
      by_cases add : Pc.commandNameFrom root = "add_device"
      · rw [if_pos add]
        exact ⟨fun same _ => same.symm, fun off => (off add).symm⟩
      · simp [add]

theorem pointPassed_iff {thresholds : String × Json} (notPlain : thresholds.1 ≠ "thresholds")
    (name : String) (shortKeys : List String) :
    (pointAt getFloat (innerThresholds thresholds.2) name shortKeys).getD
        ((shortPoint getFloat thresholds.2 shortKeys).getD noThreshold) =
      requestedPoint getFloat thresholds name shortKeys ↔
        PointPassed getFloat thresholds name shortKeys := by
  unfold requestedPoint PointPassed
  rw [if_neg notPlain]
  cases pointAt getFloat (innerThresholds thresholds.2) name shortKeys with
  | some point => simp
  | none =>
      rw [pointAt]
      cases directPoint getFloat thresholds.2 name with
      | none => simp
      | some point => simp [notPlain, eq_comm]

/-- The board reads exactly the thresholds of the request when no flag inside
the configuration says otherwise, `add_device` does not ask for an enabled
flag that only Pc_data knows, and the points stand where the board looks. -/
theorem threshold_passed_iff {context : Pc.CommandContext} {root payload : Json}
    {cmdId topic : String} {pending : Pc.PendingCommandTarget} {thresholds : String × Json}
    (published : Pc.handleCommand context root cmdId = .publish topic payload pending)
    (named : Pc.commandNameFrom root ∈ thresholdCommands)
    (given : Pc.thresholdMember (thresholdSource root) = some thresholds) :
    parseSensorThresholdConfig getFloat (commandEffectiveRoot payload) =
        some (requestedConfig getFloat (thresholdSource root) thresholds) ↔
      ThresholdsPassed getFloat root thresholds := by
  have fields := thresholdFields_forwarded published named given
  have isObj : thresholds.2.isObj = true := by
    have member := (Pc.thresholdMember_spelling given).2
    unfold Pc.memberObject at member
    split at member
    · rw [← Option.some.inj member]
      rfl
    · cases member
  have spelled := (Pc.thresholdMember_spelling given).1
  unfold ThresholdsPassed requestedConfig
  by_cases plain : thresholds.1 = "thresholds"
  · rcases thresholds with ⟨key, value⟩
    subst plain
    rw [parseSensorThresholdConfig_plain getFloat fields isObj, Option.some.injEq,
      RequestedThresholds.mk.injEq, ← flagPassed_iff]
    simp [requestedPoint, PointPassed, configFlag]
  · have config : thresholds.1 = "threshold_config" ∨ thresholds.1 = "thresholdConfig" := by
      simpa [Pc.thresholdSpellings, plain] using spelled
    rw [parseSensorThresholdConfig_config getFloat fields config isObj, Option.some.injEq,
      RequestedThresholds.mk.injEq, flagPassed_iff, pointPassed_iff getFloat plain,
      pointPassed_iff getFloat plain]

/-- Conversion of a number to the board's `float`. -/
def singleOf : Json -> Limit
  | .int value => FloatFormat.binary32.round value
  | .real value => FloatFormat.binary32.round value
  | _ => FloatFormat.binary32.round 0

/-- A high temperature to watch for. -/
def hotThresholds : String × Json :=
  ("thresholds", .obj [("temperature", .obj [("enable_alarm", .bool true),
    ("alarm_high", .int 35)])])

def thresholdRequest (cmd : String) : Json :=
  .obj [("type", .str "command"), ("cmdType", .str cmd), ("cmd_id", .str "c1"), ("seq", .int 7),
    ("gatewayId", .str defaultGatewayId), ("portId", .str "port_001"), ("deviceId", .int 3),
    hotThresholds]

theorem setThreshold_passed : exists topic payload pending,
    Pc.handleCommand ⟨false, false, 0⟩ (thresholdRequest "set_device_threshold") "c1" =
        .publish topic payload pending ∧
      parseSensorThresholdConfig singleOf (commandEffectiveRoot payload) =
        some (requestedConfig singleOf (thresholdRequest "set_device_threshold") hotThresholds) := by
  have forwarded : exists topic payload pending,
      Pc.handleCommand ⟨false, false, 0⟩ (thresholdRequest "set_device_threshold") "c1" =
        .publish topic payload pending := ⟨_, _, _, rfl⟩
  rcases forwarded with ⟨topic, payload, pending, published⟩
  refine ⟨topic, payload, pending, published, ?_⟩
  apply (threshold_passed_iff singleOf published (by decide) rfl).mpr
  refine ⟨?_, .inl rfl, .inl rfl⟩
  intro add
  exact absurd add (by decide)

/-- `add_device` asks for a watched temperature, and the board reads the
thresholds as switched off. -/
theorem addDevice_switchedOff : exists topic payload pending config,
    Pc.handleCommand ⟨false, false, 0⟩ (thresholdRequest "add_device") "c1" =
        .publish topic payload pending ∧
      parseSensorThresholdConfig singleOf (commandEffectiveRoot payload) = some config ∧
      config.thresholdEnabled = false ∧
      (requestedConfig singleOf (thresholdRequest "add_device") hotThresholds).thresholdEnabled =
        true := by
  have forwarded : exists topic payload pending,
      Pc.handleCommand ⟨false, false, 0⟩ (thresholdRequest "add_device") "c1" =
        .publish topic payload pending := ⟨_, _, _, rfl⟩
  rcases forwarded with ⟨topic, payload, pending, published⟩
  have fields := thresholdFields_forwarded published (by decide)
    (show Pc.thresholdMember _ = some hotThresholds from rfl)
  exact ⟨topic, payload, pending, _, published, parseSensorThresholdConfig_plain singleOf fields rfl,
    rfl, rfl⟩

end Link
end Imx6Gateway
