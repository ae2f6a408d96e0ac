import Imx6Gateway.Library.StreamNumber
import Imx6Gateway.Link.RestartFreshness

namespace Imx6Gateway
namespace Link

open Library JsonDocument Pc Ui Realtime

/-!
# The text of the latest points

`buildLatestPointsJson` writes its message member by member into a stream.
This file reads that text as the user interface does and compares the points
before and after.  Strings go through `jsonEscape`, which leaves most control
characters as they are, and numbers keep the six digits of the stream.
-/

/-! ## The text -/

def escape (character : Char) : List Char :=
  if character = '"' then ['\\', '"']
  else if character = '\\' then ['\\', '\\']
  else if character = '\n' then ['\\', 'n']
  else if character = '\r' then ['\\', 'r']
  else if character = '\t' then ['\\', 't']
  else [character]

def jsonEscape (text : String) : List Char :=
  text.toList.flatMap escape

/-- What a stream makes of a `double` that is not finite. -/
inductive NotFinite where
  | nan
  | minusNan
  | infinity
  | minusInfinity

def NotFinite.text : NotFinite -> List Char
  | .nan => ['n', 'a', 'n']
  | .minusNan => ['-', 'n', 'a', 'n']
  | .infinity => ['i', 'n', 'f']
  | .minusInfinity => ['-', 'i', 'n', 'f']

/-- A value that is put into the stream behind its key. -/
inductive Streamed where
  | text (value : String)
  | integer (value : Int)
  | number (value : Option Rat)
  | boolean (value : Bool)

def Streamed.shown (special : NotFinite) : Streamed -> List Char
  | .text value => '"' :: (jsonEscape value ++ ['"'])
  | .integer value => JsonText.intText value
  | .number (some value) => (StreamNumber.numeral value).text
  | .number none => special.text
  | .boolean value => boolText value

def streamedValue (point : TelemetryPoint) : List (String × Streamed) :=
  if point.valueType = .text then
    [("value", .text point.textValue), ("numberValue", .integer 0),
      ("textValue", .text point.textValue)]
  else
    [("value", .number point.numberValue), ("numberValue", .number point.numberValue),
      ("textValue", .text "")]

def streamedPoint (stored : SnapshotPoint) : List (String × Streamed) :=
  [("pointId", .text stored.point.pointId), ("timestampMs", .integer stored.point.timestampMs),
    ("receiveTimeMs", .integer stored.shownTimeMs),
    ("factoryId", .text stored.point.site.factoryId),
    ("factoryName", .text stored.point.site.factoryName),
    ("areaId", .text stored.point.site.areaId), ("areaName", .text stored.point.site.areaName),
    ("gatewayId", .text stored.point.site.gatewayId),
    ("gatewayName", .text stored.point.site.gatewayName),
    ("portId", .text stored.point.site.portId), ("portName", .text stored.point.site.portName),
    ("deviceId", .integer stored.point.deviceId), ("deviceName", .text stored.point.deviceName),
    ("deviceType", .text stored.point.deviceType), ("pointKey", .text stored.point.pointKey),
    ("pointName", .text stored.point.pointName), ("unit", .text stored.point.unit),
    ("valueType", .text (valueTypeToString stored.point.valueType))] ++
  streamedValue stored.point ++
  [("valid", .boolean stored.point.valid), ("errorMessage", .text stored.point.errorMessage)]

def pointText (special : NotFinite) (stored : SnapshotPoint) : List Char :=
  objectText ((streamedPoint stored).map fun member => (member.1, member.2.shown special))

/-- The text that `buildLatestPointsJson` returns. -/
def latestPointsText (special : SnapshotPoint -> NotFinite) (points : List SnapshotPoint) : String :=
  String.ofList (objectText [("type", quoted "latest_points"),
    ("count", JsonText.intText points.length),
    ("points", arrayText (points.map fun stored => pointText (special stored) stored))])

/-! ## Reading it -/

/-- No control character but those that `jsonEscape` knows. -/
def Clean (text : List Char) : Prop :=
  forall character, character ∈ text ->
    32 ≤ character.toNat ∨ character = '\n' ∨ character = '\r' ∨ character = '\t'

instance cleanDecidable (text : List Char) : Decidable (Clean text) :=
  List.decidableBAll (fun character : Char => 32 ≤ character.toNat ∨ character = '\n' ∨
    character = '\r' ∨ character = '\t') text

/-- The number that is read back from the stream. -/
def streamJson (value : Option Rat) : Option Json :=
  value.bind fun finite => (StreamNumber.numeral finite).json

def Streamed.json : Streamed -> Option Json
  | .text value => if Clean value.toList then some (.str value) else none
  | .integer value => some (.int value)
  | .number value => streamJson value
  | .boolean value => some (.bool value)

theorem readText_control {head : Char} (tail : List Char) (control : head.toNat < 32) :
    readText (head :: tail) = none := by
  rw [readText.eq_def]
  split
  · rfl
  · rename_i same
    cases same
    exact absurd control (by decide)
  · rename_i same
    cases same
    exact absurd control (by decide)
  · rename_i same
    cases same
    exact absurd control (by decide)
  · rename_i same
    cases same
    rw [if_pos control]

theorem readText_escape {character : Char} (clean : 32 ≤ character.toNat ∨ character = '\n' ∨
    character = '\r' ∨ character = '\t') (rest : List Char) :
    readText (escape character ++ rest) = (readText rest).map (JsonText.prependTo character) := by
  by_cases quote : character = '"'
  · subst quote
    rfl
  by_cases backslash : character = '\\'
  · subst backslash
    rfl
  rcases clean with printable | rfl | rfl | rfl
  · have bare : forall other : Char, other.toNat < 32 -> character ≠ other := by
      rintro other control rfl
      omega
    rw [escape, if_neg quote, if_neg backslash, if_neg (bare '\n' (by decide)),
      if_neg (bare '\r' (by decide)), if_neg (bare '\t' (by decide))]
    exact readText_visible rest quote backslash printable
  · rfl
  · rfl
  · rfl

theorem escape_control {character : Char} (unclean : ¬(32 ≤ character.toNat ∨ character = '\n' ∨
    character = '\r' ∨ character = '\t')) : escape character = [character] := by
  rw [not_or, not_or, not_or] at unclean
  have bare : forall other : Char, 32 ≤ other.toNat -> character ≠ other := by
    rintro other printable rfl
    exact unclean.1 printable
  rw [escape, if_neg (bare '"' (by decide)), if_neg (bare '\\' (by decide)), if_neg unclean.2.1,
    if_neg unclean.2.2.1, if_neg unclean.2.2.2]

/-- A string is read back if it is clean, and refused otherwise. -/
theorem readText_jsonEscape (text : List Char) (rest : List Char) :
    readText (text.flatMap escape ++ '"' :: rest) =
      (if Clean text then some text else none).map fun content => (content, rest) := by
  induction text with
  | nil => rfl
  | cons head tail ih =>
      rw [List.flatMap_cons, List.append_assoc]
      by_cases here : 32 ≤ head.toNat ∨ head = '\n' ∨ head = '\r' ∨ head = '\t'
      · rw [readText_escape here, ih]
        by_cases later : Clean tail
        · have both : Clean (head :: tail) := List.forall_mem_cons.mpr ⟨here, later⟩
          rw [if_pos later, if_pos both]
          rfl
        · have unclean : ¬Clean (head :: tail) := fun both =>
            later (List.forall_mem_cons.mp both).2
          rw [if_neg later, if_neg unclean]
          rfl
      · have unclean : ¬Clean (head :: tail) := fun both =>
          here (List.forall_mem_cons.mp both).1
        rw [escape_control here, if_neg unclean, List.singleton_append]
        exact readText_control _ (not_le.mp fun printable => here (.inl printable))

theorem shows_special (special : NotFinite) (depth : Nat) : Shows depth special.text none := by
  cases special with
  | nan => exact ⟨⟨'n', _, rfl, rfl, by decide⟩, fun rest _ => by cases depth <;> rfl⟩
  | minusNan => exact ⟨⟨'-', _, rfl, rfl, by decide⟩, fun rest _ => by cases depth <;> rfl⟩
  | infinity => exact ⟨⟨'i', _, rfl, rfl, by decide⟩, fun rest _ => by cases depth <;> rfl⟩
  | minusInfinity => exact ⟨⟨'-', _, rfl, rfl, by decide⟩, fun rest _ => by cases depth <;> rfl⟩

theorem shows_streamed (special : NotFinite) (depth : Nat) (piece : Streamed) :
    Shows depth (piece.shown special) piece.json := by
  cases piece with
  | text value =>
      have shows := shows_string depth (readText_jsonEscape value.toList)
      rw [apply_ite (Option.map _), Option.map_some, Option.map_none, String.ofList_toList] at shows
      exact shows
  | integer value => exact shows_int depth value
  | number value =>
      cases value with
      | none => exact shows_special special depth
      | some finite => exact shows_numeral depth (StreamNumber.numeral finite)
  | boolean value => exact shows_bool depth value

theorem plain_streamedPoint (stored : SnapshotPoint) :
    forall member, member ∈ streamedPoint stored -> Plain member.1 := by
  have keys : (streamedPoint stored).map Prod.fst =
      ["pointId", "timestampMs", "receiveTimeMs", "factoryId", "factoryName", "areaId", "areaName",
        "gatewayId", "gatewayName", "portId", "portName", "deviceId", "deviceName", "deviceType",
        "pointKey", "pointName", "unit", "valueType", "value", "numberValue", "textValue", "valid",
        "errorMessage"] := by
    unfold streamedPoint streamedValue
    split <;> rfl
  have plain : forall key, key ∈ (streamedPoint stored).map Prod.fst -> Plain key := by
    rw [keys]
    decide
  exact fun member inside => plain member.1 (List.mem_map_of_mem inside)

def pointJson (stored : SnapshotPoint) : Option Json :=
  ((streamedPoint stored).mapM fun (member : String × Streamed) =>
    member.2.json.map fun json => (member.1, json)).map Json.obj

theorem shows_point (special : NotFinite) (depth : Nat) (stored : SnapshotPoint) :
    Shows (depth + 1) (pointText special stored) (pointJson stored) :=
  @shows_object (String × Streamed) depth (fun member => member.2.shown special)
    (fun member => member.2.json) (streamedPoint stored) Prod.fst (plain_streamedPoint stored)
    fun member _ => shows_streamed special depth member.2

def latestPointsJson (points : List SnapshotPoint) : Option Json :=
  (points.mapM pointJson).map fun items =>
    .obj [("type", .str "latest_points"), ("count", .int points.length), ("points", .arr items)]

/-- What the text is read as, for any list of points. -/
theorem parse_latestPointsText (special : SnapshotPoint -> NotFinite) (points : List SnapshotPoint) :
    parse (latestPointsText special points) = latestPointsJson points := by
  have shows : forall depth,
      Shows (depth + 3) (latestPointsText special points).toList (latestPointsJson points) := by
    intro depth
    have typed : Shows (depth + 2) (quoted "latest_points") (some (.str "latest_points")) :=
      @shows_string (depth + 2) _ (some _) (@readText_plain "latest_points" (by decide))
    have counted := shows_int (depth + 2) points.length
    have listed := @shows_array _ (depth + 1) _ _ points fun stored _ =>
      shows_point (special stored) depth stored
    have object := @shows_object (String × List Char × Option Json) (depth + 2)
      (fun member => member.2.1) (fun member => member.2.2)
      [("type", quoted "latest_points", some (.str "latest_points")),
        ("count", JsonText.intText points.length, some (.int points.length)),
        ("points", arrayText (points.map fun stored => pointText (special stored) stored),
          (points.mapM pointJson).map Json.arr)] Prod.fst
      (List.forall_mem_cons.mpr ⟨show Plain "type" by decide, List.forall_mem_cons.mpr
        ⟨show Plain "count" by decide, List.forall_mem_singleton.mpr
          (show Plain "points" by decide)⟩⟩)
      (List.forall_mem_cons.mpr ⟨typed, List.forall_mem_cons.mpr ⟨counted,
        List.forall_mem_singleton.mpr listed⟩⟩)
    rw [latestPointsText, String.toList_ofList]
    convert object using 1
    · rfl
    · unfold latestPointsJson
      cases points.mapM pointJson <;> rfl
  have long : exists rest, (latestPointsText special points).toList = '\x7b' :: '"' :: 't' :: rest := by
    rw [latestPointsText, String.toList_ofList]
    exact ⟨_, rfl⟩
  rcases long with ⟨rest, text⟩
  apply parse_shows
  rw [show (latestPointsText special points).toList.length = rest.length + 3 by rw [text]; rfl]
  exact shows rest.length

/-- Written in a way that JSON has. -/
def Streamed.Legible : Streamed -> Prop
  | .text value => Clean value.toList
  | .number value => (streamJson value).isSome = true
  | _ => True

def Legible (stored : SnapshotPoint) : Prop :=
  forall member, member ∈ streamedPoint stored -> member.2.Legible

theorem isSome_json_iff (piece : Streamed) : piece.json.isSome = true ↔ piece.Legible := by
  cases piece with
  | text value =>
      rw [Streamed.json, Streamed.Legible]
      split
      · rename_i clean
        exact iff_of_true rfl clean
      · rename_i unclean
        exact iff_of_false Bool.false_ne_true unclean
  | integer value => exact iff_of_true rfl trivial
  | number value => exact Iff.rfl
  | boolean value => exact iff_of_true rfl trivial

/-- The text is JSON exactly if every member is written in a way that JSON has. -/
theorem isSome_parse_iff (special : SnapshotPoint -> NotFinite) (points : List SnapshotPoint) :
    (parse (latestPointsText special points)).isSome = true ↔
      forall stored, stored ∈ points -> Legible stored := by
  rw [parse_latestPointsText, latestPointsJson, Option.isSome_map, isSome_mapM_iff]
  apply forall_congr'
  intro stored
  apply imp_congr_right
  intro _
  rw [pointJson, Option.isSome_map, isSome_mapM_iff]
  apply forall_congr'
  intro member
  rw [Option.isSome_map, isSome_json_iff]

/-- The number of a legible point in the tree. -/
def streamNumber (value : Option Rat) : Json :=
  (streamJson value).getD .null

def Streamed.tree : Streamed -> Json
  | .text value => .str value
  | .integer value => .int value
  | .number value => streamNumber value
  | .boolean value => .bool value

theorem json_legible {piece : Streamed} (legible : piece.Legible) :
    piece.json = some piece.tree := by
  cases piece with
  | text value => exact if_pos legible
  | integer value => rfl
  | number value =>
      rcases Option.isSome_iff_exists.mp legible with ⟨json, read⟩
      rw [Streamed.json, Streamed.tree, streamNumber, read, Option.getD_some]
  | boolean value => rfl

/-- The tree of a legible point is the one that was written. -/
theorem pointJson_legible {stored : SnapshotPoint} (legible : Legible stored) :
    pointJson stored = some (.obj (latestPointMembers streamNumber stored)) := by
  have tree : ((streamedPoint stored).map fun member => (member.1, member.2.tree)) =
      latestPointMembers streamNumber stored := by
    unfold streamedPoint streamedValue latestPointMembers valueMembers
    split <;> rfl
  have members : ((streamedPoint stored).mapM fun (member : String × Streamed) =>
      member.2.json.map fun json => (member.1, json)) =
      some ((streamedPoint stored).map fun member => (member.1, member.2.tree)) := by
    apply mapM_eq_some
    intro member inside
    rw [json_legible (legible member inside), Option.map_some]
  rw [pointJson, members, tree, Option.map_some]

theorem parse_legible (special : SnapshotPoint -> NotFinite) {points : List SnapshotPoint}
    (legible : forall stored, stored ∈ points -> Legible stored) :
    parse (latestPointsText special points) = some (buildLatestPointsJson streamNumber points) := by
  rw [parse_latestPointsText, latestPointsJson,
    mapM_eq_some fun stored inside => pointJson_legible (legible stored inside)]
  rfl

/-! ## The points before and after -/

/-- The point that is read is the stored one. -/
structure Recovered (stored : SnapshotPoint) (read : TelemetryPointData) : Prop where
  pointId : read.pointId = stored.point.pointId
  factoryId : read.factoryId = stored.point.site.factoryId
  factoryName : read.factoryName = stored.point.site.factoryName
  areaId : read.areaId = stored.point.site.areaId
  areaName : read.areaName = stored.point.site.areaName
  gatewayId : read.gatewayId = stored.point.site.gatewayId
  gatewayName : read.gatewayName = stored.point.site.gatewayName
  portId : read.portId = stored.point.site.portId
  portName : read.portName = stored.point.site.portName
  deviceId : read.deviceId = stored.point.deviceId
  deviceName : read.deviceName = stored.point.deviceName
  pointKey : read.pointKey = stored.point.pointKey
  valueType : read.valueType = valueTypeToString stored.point.valueType
  numberValue : some read.numberValue = stored.point.numberValue
  textValue : read.textValue = stored.point.textValue
  valid : read.valid = stored.point.valid
  timestampMs : read.timestampMs = stored.point.timestampMs
  receiveTimeMs : read.receiveTimeMs = stored.receiveTimeMs

/-- The text is a JSON text with the points, each as `shown` of a stored one. -/
def ReadAs (shown : SnapshotPoint -> SnapshotPoint) (special : SnapshotPoint -> NotFinite)
    (points : List SnapshotPoint) : Prop :=
  exists message, parse (latestPointsText special points) = some message ∧
    List.Forall₂ (fun stored read => Recovered (shown stored) read) points
      ((entries message).map parseTelemetryPoint)

/-- What the message says of a point: a text has no number, a number no text,
and a point that was not received has the time at which it was measured. -/
def shownPoint (stored : SnapshotPoint) : SnapshotPoint where
  point :=
    if stored.point.valueType = .text then { stored.point with numberValue := some 0 }
    else { stored.point with textValue := "" }
  receiveTimeMs := stored.shownTimeMs

/-- The double nearest to the six digits that are left of a number. -/
def reread (value : Rat) : Option Rat :=
  (FloatFormat.binary64.round (StreamNumber.sixDigits value)).map Subtype.val

theorem streamNumber_read {finite read : Rat} (round : reread finite = some read) :
    (streamJson (some finite)).isSome = true ∧
      forall other, doubleOr (some (streamNumber (some finite))) other = read := by
  rcases Option.map_eq_some_iff.mp round with ⟨rounded, nearest, rfl⟩
  rw [← StreamNumber.numeral_value] at nearest
  rcases exists_json nearest with ⟨json, written, shape⟩
  have same : streamJson (some finite) = some json := written
  rw [streamNumber, same, Option.getD_some]
  refine ⟨rfl, ?_⟩
  intro other
  rcases shape with rfl | ⟨integer, rfl, value⟩
  · rfl
  · rw [doubleOr, doubleOfInt, value, nearest]
    rfl

/-- The members of the point survive the stream. -/
structure Survives (stored : SnapshotPoint) : Prop where
  legible : Legible stored
  digits : stored.point.valueType ≠ .text ->
    stored.point.numberValue.bind reread = stored.point.numberValue

/-- A number that is shortened to an integer of the precision of a `double`. -/
theorem reread_integer {value : Rat} {short : Int} (digits : StreamNumber.sixDigits value = short)
    (few : short.natAbs < 2 ^ 53) : reread value = some (short : Rat) := by
  have exact : FloatFormat.binary64.Representable (short : Rat) :=
    FloatFormat.representable_intCast FloatFormat.binary64 short few (by decide) (by decide)
  have kept := FloatFormat.round_value (⟨(short : Rat), exact⟩ : FloatFormat.Value FloatFormat.binary64)
  rw [reread, digits, kept]
  rfl

theorem doubleOr_zero (other : Rat) : doubleOr (some (.int 0)) other = 0 := by
  have exact : FloatFormat.binary64.Representable ((0 : Int) : Rat) :=
    FloatFormat.representable_intCast FloatFormat.binary64 0 (by decide) (by decide) (by decide)
  have kept := FloatFormat.round_value (⟨((0 : Int) : Rat), exact⟩ : FloatFormat.Value FloatFormat.binary64)
  rw [doubleOr, doubleOfInt, kept]
  rfl

theorem numberValue_parse {object value : Json} (found : object.lookup "numberValue" = some value) :
    (parseTelemetryPoint object).numberValue = doubleOr (some value) 0 := by
  rw [← found]
  rfl

/-- The number of a point that survives, as it is read back. -/
theorem number_survives {stored : SnapshotPoint} (survives : Survives stored)
    (number : stored.point.valueType ≠ .text) :
    some (doubleOr (some (streamNumber stored.point.numberValue)) 0) = stored.point.numberValue := by
  have inside : ("numberValue", Streamed.number stored.point.numberValue) ∈ streamedPoint stored := by
    simp [streamedPoint, streamedValue, number]
  have legible := survives.legible _ inside
  have kept := survives.digits number
  cases value : stored.point.numberValue with
  | none =>
      rw [value] at legible
      cases legible
  | some finite =>
      rw [value, Option.bind_some] at kept
      rw [(streamNumber_read kept).2 0]

theorem recovered_shownPoint {stored : SnapshotPoint} (typed : IsInt stored.point.deviceId)
    (survives : Survives stored) :
    Recovered (shownPoint stored)
      (parseTelemetryPoint (.obj (latestPointMembers streamNumber stored))) := by
  have device : intOr (some (.int stored.point.deviceId)) 0 = stored.point.deviceId := if_pos typed
  have received := receiveTimeMs_members streamNumber stored
  unfold latestPointMembers valueMembers at received ⊢
  unfold shownPoint
  by_cases text : stored.point.valueType = .text
  · rw [if_pos text] at received ⊢
    rw [if_pos text]
    exact ⟨rfl, rfl, rfl, rfl, rfl, rfl, rfl, rfl, rfl, device, rfl, rfl, rfl,
      congrArg some ((numberValue_parse rfl).trans (doubleOr_zero 0)), rfl, rfl, rfl, received⟩
  · have number := number_survives survives text
    rw [if_neg text] at received ⊢
    rw [if_neg text]
    exact ⟨rfl, rfl, rfl, rfl, rfl, rfl, rfl, rfl, rfl, device, rfl, rfl, rfl,
      (congrArg some (numberValue_parse rfl)).trans number, rfl, rfl, rfl, received⟩

/-- Every list of points that survive the stream is read back as the message
shows it. -/
theorem latest_points_read_back (special : SnapshotPoint -> NotFinite)
    (points : List SnapshotPoint)
    (typed : forall stored, stored ∈ points -> IsInt stored.point.deviceId)
    (survive : forall stored, stored ∈ points -> Survives stored) :
    ReadAs shownPoint special points := by
  refine ⟨_, parse_legible special fun stored inside => (survive stored inside).legible, ?_⟩
  change List.Forall₂ _ points ((points.map fun stored =>
    Json.obj (latestPointMembers streamNumber stored)).map parseTelemetryPoint)
  rw [List.map_map, List.forall₂_map_right_iff, List.forall₂_same]
  exact fun stored inside => recovered_shownPoint (typed stored inside) (survive stored inside)

/-- The texts of a member are clean. -/
def Streamed.CleanText : Streamed -> Prop
  | .text value => Clean value.toList
  | _ => True

instance cleanTextDecidable : forall piece : Streamed, Decidable piece.CleanText
  | .text value => inferInstanceAs (Decidable (Clean value.toList))
  | .integer _ => isTrue trivial
  | .number _ => isTrue trivial
  | .boolean _ => isTrue trivial

theorem legible_of_clean {stored : SnapshotPoint}
    (clean : forall member, member ∈ streamedPoint stored -> member.2.CleanText)
    (number : (streamJson stored.point.numberValue).isSome = true) : Legible stored := by
  rintro ⟨key, piece⟩ inside
  have text := clean (key, piece) inside
  cases piece with
  | text value => exact text
  | integer value => trivial
  | number value =>
      have same : value = stored.point.numberValue := by
        unfold streamedPoint streamedValue at inside
        split at inside <;> simp at inside
        rcases inside with ⟨-, same⟩ | ⟨-, same⟩ <;> exact same
      rw [← same] at number
      exact number
  | boolean value => trivial

/-- Integers of up to six digits keep all of them. -/
theorem survives_integer {stored : SnapshotPoint} (value : Int)
    (number : stored.point.numberValue = some (value : Rat)) (few : value.natAbs < 10 ^ 6)
    (clean : forall member, member ∈ streamedPoint stored -> member.2.CleanText) :
    Survives stored := by
  have digits := StreamNumber.sixDigits_short value 0 few
  rw [zpow_zero, mul_one] at digits
  have kept := reread_integer digits (few.trans (by decide))
  constructor
  · apply legible_of_clean clean
    rw [number]
    exact (streamNumber_read kept).1
  · intro _
    rw [number, Option.bind_some, kept]

def sampleSite : SiteContext where
  factoryId := "factory_001"
  factoryName := "Plant 1"
  areaId := "area_001"
  areaName := "Hall \"A\""
  gatewayId := "gateway_001"
  gatewayName := "i.MX6ULL"
  portId := "port_001"
  portName := "RS485-1"

def samplePoint (pointKey : String) (valueType : PointValueType) (numberValue : Option Rat)
    (textValue : String) : SnapshotPoint where
  point :=
    { timestampMs := 1000
      site := sampleSite
      deviceId := 3
      deviceName := "sensor"
      deviceType := "sensor_th"
      pointId := "factory_001.area_001.gateway_001.port_001.3." ++ pointKey
      pointKey := pointKey
      pointName := pointKey
      unit := ""
      valueType := valueType
      numberValue := numberValue
      textValue := textValue
      valid := true
      errorMessage := "" }
  receiveTimeMs := 1200

theorem samples_read_back : ReadAs shownPoint (fun _ => .nan)
    [samplePoint "temperature" .number (some (20 : Int)) "",
      samplePoint "os" .text (some (0 : Int)) "Linux\n"] := by
  apply latest_points_read_back
  · exact List.forall_mem_cons.mpr ⟨⟨by decide, by decide⟩,
      List.forall_mem_singleton.mpr ⟨by decide, by decide⟩⟩
  · exact List.forall_mem_cons.mpr ⟨survives_integer 20 rfl (by decide) (by decide),
      List.forall_mem_singleton.mpr (survives_integer 0 rfl (by decide) (by decide))⟩

/-- The text of a relay is not sent, a seventh digit is lost, and a control
character leaves no message at all. -/
theorem points_not_recovered :
    ¬ReadAs id (fun _ => .nan) [samplePoint "relay_1" .boolean (some (1 : Int)) "on"] ∧
      ¬ReadAs id (fun _ => .nan) [samplePoint "energy" .number (some (1234567 : Int)) ""] ∧
      ¬ReadAs id (fun _ => .nan) [samplePoint "os" .text (some (0 : Int)) "\x01"] := by
  refine ⟨?_, ?_, ?_⟩
  · rintro ⟨message, parsed, recovered⟩
    have survives : Survives (samplePoint "relay_1" .boolean (some (1 : Int)) "on") :=
      survives_integer 1 rfl (by decide) (by decide)
    rw [parse_legible _ (List.forall_mem_singleton.mpr survives.legible)] at parsed
    cases parsed
    cases recovered with
    | cons first rest =>
        have text := first.textValue
        revert text
        decide
  · rintro ⟨message, parsed, recovered⟩
    have digits : StreamNumber.sixDigits ((1234567 : Int) : Rat) = (1234570 : Int) := by
      decide +kernel
    have kept := reread_integer digits (by decide)
    have legible : Legible (samplePoint "energy" .number (some (1234567 : Int)) "") :=
      legible_of_clean (by decide) (streamNumber_read kept).1
    rw [parse_legible _ (List.forall_mem_singleton.mpr legible)] at parsed
    cases parsed
    cases recovered with
    | cons first rest =>
        have number := first.numberValue
        rw [numberValue_parse rfl] at number
        have shown := congrArg some ((streamNumber_read kept).2 0)
        have same : some ((1234570 : Int) : Rat) = some ((1234567 : Int) : Rat) :=
          shown.symm.trans number
        revert same
        decide
  · rintro ⟨message, parsed, recovered⟩
    have valid := (isSome_parse_iff (fun _ => .nan) _).mp (Option.isSome_iff_exists.mpr ⟨_, parsed⟩)
    have member : ("value", Streamed.text "\x01") ∈
        streamedPoint (samplePoint "os" .text (some (0 : Int)) "\x01") := by
      simp [streamedPoint, streamedValue, samplePoint]
    have clean : Clean "\x01".toList := valid _ List.mem_cons_self _ member
    revert clean
    decide

end Link
end Imx6Gateway
