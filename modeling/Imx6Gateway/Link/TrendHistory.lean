import Imx6Gateway.Library.JsonText
import Imx6Gateway.Library.Transition
import Imx6Gateway.Link.AssembledReading
import Imx6Gateway.Pc.CheckedHandler
import Imx6Gateway.Pc.HistoryQuery
import Imx6Gateway.Pc.TelemetryHistory
import Imx6Gateway.Ui.TrendPage

namespace Imx6Gateway
namespace Link

open Library Pc Ui
open Link.Assembled (PcMessage Fragment StreamDouble StreamedPoint)

/-!
# The page with the history and Pc_data

The page emits its requests; the window sends them while the pipe is connected
and drops them otherwise.  Pc_data answers each query from its database, and the
window gives an answer that it can parse to the page.
-/

/-- The database is that of Pc_data at this moment. -/
structure TrendWorld where
  page : TrendPage
  connected : Bool
  queries : List String
  answers : List String
  database : Database

/-- The user selects a point, wants its chart, or the last device goes; Pc_data
handles the next query, or the window the next answer; the pipe comes or goes;
and other handlers change the database. -/
inductive TrendEvent where
  | selected (pointId : String)
  | asked (nowMs rangeMs : Int64)
  | cleared
  | handled (works : Bool)
  | answered
  | connected
  | disconnected
  | stored (database : Database)

def historyQueryJson (request : HistoryRequest) : Json :=
  .obj [("endMs", .int request.endMs.toInt), ("limit", .int request.limit.toInt),
    ("pointId", .str request.pointId), ("startMs", .int request.startMs.toInt),
    ("type", .str "query_history")]

/-- What Pc_data reads in it. -/
def historyQuery (request : HistoryRequest) : HistoryQuery where
  pointId := request.pointId
  startMs := request.startMs.toInt
  endMs := request.endMs.toInt
  limit := request.limit.toInt

section Answer

variable (pc : JsonCodec) (column : TelemetryPoint -> StreamDouble)

/-- A row with the number that its column gives back. -/
def streamedRow (point : TelemetryPoint) : StreamedPoint :=
  ⟨⟨point, 0⟩, column point⟩

def historyMessage (pointId : String) (found : HistoryAnswer) : PcMessage :=
  .historyPoints pointId (found.points.map (streamedRow column)) found.ok found.reason
    (if found.ok then "" else "history query failed")

/-- The answers to a query and to one without a point. -/
def answerHistoryQuery (database : Database) (works : Bool) (msg : String) : Option PcMessage :=
  match parsedAction ((parseObject pc msg).getD .null) with
  | some (.queryHistory query) =>
      some (historyMessage column query.pointId (database.queryHistoryPoints works query))
  | some (.refuseHistory pointId) =>
      some (.historyPoints pointId [] false "invalid_point_id" "pointId is required")
  | _ => none

end Answer

/-- An answer holds no value that RapidJSON prints. -/
def answerText (message : PcMessage) : String :=
  message.text fun _ => []

namespace TrendWorld

section Steps

variable (ui pc : JsonCodec) (column : TelemetryPoint -> StreamDouble)

/-- The page has changed and may have emitted a request. -/
def sendHistoryQuery (world : TrendWorld) (moved : TrendPage × Option HistoryRequest) :
    TrendWorld :=
  { world with
    page := moved.1
    queries := match moved.2 with
      | some request =>
          if world.connected then world.queries ++ [ui.print (historyQueryJson request)]
          else world.queries
      | none => world.queries }

def handleIpcMessage (world : TrendWorld) (frame : String) : TrendWorld :=
  match JsonDocument.parse frame with
  | none => world
  | some root =>
      if root.isObj && textOr (root.lookup "type") "" = "history_points" then
        world.sendHistoryQuery ui (world.page.onHistoryPointsMessage root)
      else world

def step (world : TrendWorld) : TrendEvent -> TrendWorld
  | .selected pointId => world.sendHistoryQuery ui (world.page.onPointSelected pointId)
  | .asked nowMs rangeMs => world.sendHistoryQuery ui (world.page.queryHistory nowMs rangeMs)
  | .cleared => { world with page := world.page.clearCurrentSelection }
  | .handled works =>
      match world.queries with
      | [] => world
      | msg :: rest =>
          let answer := answerHistoryQuery pc column world.database works msg
          { world with
            queries := rest
            answers := world.answers ++ (answer.map answerText).toList }
  | .answered =>
      match world.answers with
      | [] => world
      | frame :: rest => ({ world with answers := rest } : TrendWorld).handleIpcMessage ui frame
  | .connected => { world with connected := true }
  | .disconnected => { world with connected := false, queries := [], answers := [] }
  | .stored database => { world with database := database }

end Steps
end TrendWorld

def trendSystem (ui pc : JsonCodec) (column : TelemetryPoint -> StreamDouble)
    (database : Database) : TransitionSystem TrendWorld TrendEvent where
  initial := ⟨.constructed, false, [], [], database⟩
  step := TrendWorld.step ui pc column

/-! ## A query is read as it was meant -/

section Query

variable {ui pc : JsonCodec}

theorem wire_historyQueryJson (request : HistoryRequest) :
    (historyQueryJson request).Wire Json.maxDepth := by
  have long (value : Int64) : -2 ^ 63 ≤ value.toInt ∧ value.toInt < 2 ^ 64 := by
    have low := value.le_toInt
    have high := value.toInt_lt
    omega
  have short (value : Int32) : -2 ^ 63 ≤ value.toInt ∧ value.toInt < 2 ^ 64 := by
    have low := value.le_toInt
    have high := value.toInt_lt
    omega
  change Json.Wire (30 + 1) (.obj _)
  rw [Json.wire_obj_succ]
  refine ⟨?_, ?_⟩
  · have keys : ["endMs", "limit", "pointId", "startMs", "type"].Nodup := by decide
    exact keys
  intro member inside
  simp only [List.mem_cons, List.not_mem_nil, or_false] at inside
  rcases inside with rfl | rfl | rfl | rfl | rfl
  · exact (Json.wire_int _ _).mpr (long _)
  · exact (Json.wire_int _ _).mpr (short _)
  · exact Json.wire_str _ _
  · exact (Json.wire_int _ _).mpr (long _)
  · exact Json.wire_str _ _

theorem parseHistoryQuery_json (request : HistoryRequest) :
    parseHistoryQuery (historyQueryJson request) = some (historyQuery request) := by
  have typed : hasType (historyQueryJson request) "query_history" = true := rfl
  have pointId : getJsonString (historyQueryJson request) "pointId" = request.pointId := rfl
  have startMs : forall other,
      getJsonInt64 (historyQueryJson request) "startMs" other = request.startMs.toInt :=
    fun _ => toInt64_of_range request.startMs.le_toInt request.startMs.toInt_lt
  have endMs : forall other,
      getJsonInt64 (historyQueryJson request) "endMs" other = request.endMs.toInt :=
    fun _ => toInt64_of_range request.endMs.le_toInt request.endMs.toInt_lt
  have limit : getJsonInt (historyQueryJson request) "limit" 1000 = request.limit.toInt :=
    toInt_of_range request.limit.le_toInt request.limit.toInt_lt
  rw [parseHistoryQuery, typed, pointId, startMs, endMs, limit, if_neg (by simp [request.named])]
  rfl

theorem parsedAction_json (request : HistoryRequest) :
    parsedAction (historyQueryJson request) = some (.queryHistory (historyQuery request)) := by
  have typed : hasType (historyQueryJson request) "query_history" = true := rfl
  have noTargets : selectedTargets (historyQueryJson request) = none := by
    rw [← Option.not_isSome_iff_eq_none]
    intro targets
    exact absurd (hasType_unique typed (typed_selectedTargets _ targets)) (by decide)
  have noSync : hasType (historyQueryJson request) "sync_config_request" = false := rfl
  unfold parsedAction readers
  rw [List.findSome?_cons, List.findSome?_cons, List.findSome?_cons]
  simp [Reader.ofParser, Reader.ofType, noTargets, noSync, parseHistoryQuery_json]

theorem answerHistoryQuery_print
    (reads : forall json, json.Wire Json.maxDepth -> pc.parse (ui.print json) = some json)
    (column : TelemetryPoint -> StreamDouble) (database : Database) (works : Bool)
    (request : HistoryRequest) :
    answerHistoryQuery pc column database works (ui.print (historyQueryJson request)) =
      some (historyMessage column request.pointId
        (database.queryHistoryPoints works (historyQuery request))) := by
  have object : parseObject pc (ui.print (historyQueryJson request)) =
      some (historyQueryJson request) :=
    parseObject_of_parse (reads _ (wire_historyQueryJson request))
  rw [answerHistoryQuery, object, Option.getD_some, parsedAction_json]
  rfl

end Query

/-! ## An answer is shown as it was found -/

section Shown

variable (column : TelemetryPoint -> StreamDouble)

/-- What the stream leaves of a number. -/
def shownNumber (point : TelemetryPoint) : Rat :=
  doubleOr (some (Fragment.tree (.double (column point)))) 0

def chartOf (points : List TelemetryPoint) : List (Rat × Rat) :=
  (points.filter TelemetryPoint.valid).map fun point =>
    (doubleOfInt point.timestampMs, shownNumber column point)

def tableOf (points : List TelemetryPoint) : List HistoryRow :=
  points.map fun point =>
    ⟨point.timestampMs, shownNumber column point, point.textValue, point.valid⟩

/-- What the request was for shows these points. -/
def Displays (kind : HistoryKind) (points : List TelemetryPoint) (page : TrendPage) : Prop :=
  match kind with
  | .chartRange => page.series = chartOf column points
  | .tableAllHistory => page.historyTable = tableOf column points

def rowTree (point : TelemetryPoint) : Json :=
  .obj [("timestampMs", .int point.timestampMs),
    ("numberValue", Fragment.tree (.double (column point))), ("textValue", .str point.textValue),
    ("valid", .bool point.valid)]

theorem filterMap_valid {Shown : Type} (shown : TelemetryPoint -> Shown)
    (points : List TelemetryPoint) :
    (points.filterMap fun point => if point.valid then some (shown point) else none) =
      (points.filter TelemetryPoint.valid).map shown := by
  induction points with
  | nil => rfl
  | cons point points ih =>
      rw [List.filterMap_cons, List.filter_cons, ih]
      cases point.valid <;> rfl

theorem chart_rowTree (points : List TelemetryPoint) :
    TrendPage.handleChartHistoryResponse (points.map (rowTree column)) =
      chartOf column points := by
  unfold TrendPage.handleChartHistoryResponse
  rw [List.filterMap_map]
  exact filterMap_valid _ points

theorem table_rowTree (points : List TelemetryPoint) :
    TrendPage.handleTableHistoryResponse (points.map (rowTree column)) =
      tableOf column points := by
  unfold TrendPage.handleTableHistoryResponse tableOf
  rw [List.filterMap_map, ← List.filterMap_eq_map]
  rfl

/-- The members that the page reads of an answer. -/
theorem tree_historyMessage (pointId : String) (found : HistoryAnswer) :
    let root := (historyMessage column pointId found).assembly.tree Fragment.tree
    root.isObj = true ∧ root.lookup "type" = some (.str "history_points") ∧
      root.lookup "ok" = some (.bool found.ok) ∧ root.lookup "pointId" = some (.str pointId) ∧
      root.lookup "count" = some (.int found.points.length) ∧
      root.lookup "points" = some (.arr (found.points.map (rowTree column))) := by
  have rows : (Assembly.array ((found.points.map (streamedRow column)).map fun point => .object
      [Assembled.key "timestampMs" (Assembled.int point.stored.point.timestampMs),
        Assembled.key "numberValue" (Assembled.number point.numberValue),
        Assembled.key "textValue" (Assembled.string point.stored.point.textValue),
        Assembled.key "valid" (Assembled.bool point.stored.point.valid)])).tree Fragment.tree =
      .arr (found.points.map (rowTree column)) := by
    rw [Assembly.tree_array, List.map_map, List.map_map]
    rfl
  have count : (found.points.map (streamedRow column)).length = found.points.length :=
    List.length_map _
  unfold historyMessage PcMessage.assembly Assembled.buildHistoryPointsJson
  dsimp only
  rw [Assembly.tree_object, List.map_flatten, count]
  cases found.ok with
  | true => exact ⟨rfl, rfl, rfl, rfl, rfl, congrArg some rows⟩
  | false => exact ⟨rfl, rfl, rfl, rfl, rfl, congrArg some rows⟩

/-- The pieces of an answer. -/
theorem forall_pieces_historyPoints {property : Fragment -> Prop} (pointId : String)
    (points : List StreamedPoint) (ok : Bool) (reason message : String) :
    (forall fragment,
      fragment ∈ (PcMessage.historyPoints pointId points ok reason message).assembly.pieces ->
        property fragment) ↔
      property (.text "history_points") ∧ property (.boolean ok) ∧
        property (.text (if reason = "" ∧ ok ∧ points = [] then "no_data" else reason)) ∧
        (message ≠ "" -> property (.text message)) ∧ property (.text pointId) ∧
        property (.integer points.length) ∧
        forall point, point ∈ points -> property (.integer point.stored.point.timestampMs) ∧
          property (.double point.numberValue) ∧ property (.text point.stored.point.textValue) ∧
          property (.boolean point.stored.point.valid) := by
  have optional : (forall member,
      member ∈ (if message ≠ "" then [Assembled.key "message" (Assembled.string message)]
        else []) -> forall piece, piece ∈ member.2.pieces -> property piece) ↔
      (message ≠ "" -> property (.text message)) := by
    by_cases written : message ≠ ""
    · rw [if_pos written, List.forall_mem_singleton]
      exact Assembly.forall_pieces_leaf.trans ⟨fun holds _ => holds, fun holds => holds written⟩
    · rw [if_neg written]
      exact iff_of_true (List.forall_mem_nil _) fun other => absurd other written
  unfold PcMessage.assembly Assembled.buildHistoryPointsJson
  dsimp only
  rw [Assembly.forall_pieces_object]
  simp only [List.flatten_cons, List.flatten_nil, List.append_nil, List.forall_mem_append,
    List.forall_mem_cons, optional]
  simp only [Assembled.string, Assembled.bool, Assembled.int, Assembled.number, Assembled.key,
    Assembly.forall_pieces_array, Assembly.forall_pieces_object, Assembly.forall_pieces_leaf,
    List.forall_mem_map, List.forall_mem_cons, List.not_mem_nil, false_implies, implies_true,
    and_true, and_assoc]

end Shown

/-! ## One request is under way -/

section InStep

variable (ui : JsonCodec) (column : TelemetryPoint -> StreamDouble)

/-- What is found for a request. -/
def foundFor (request : HistoryRequest) (database : Database) (works : Bool) : HistoryAnswer :=
  database.queryHistoryPoints works (historyQuery request)

/-- The name of the point and its texts have no other control character than
newline, return and tab, and its numbers are finite. -/
def LegibleAnswer (request : HistoryRequest) (found : HistoryAnswer) : Prop :=
  Clean request.pointId.toList ∧ forall point, point ∈ found.points ->
    Clean point.textValue.toList ∧ (Fragment.double (column point)).Valid

/-- No request is under way, or its query, or its answer, which can be read. -/
inductive InStep (world : TrendWorld) : Prop where
  | idle (active : world.page.active = none) (inFlight : world.page.inFlight = false)
      (pending : world.page.pending = none) (queries : world.queries = [])
      (answers : world.answers = [])
  | asked (request : HistoryRequest) (active : world.page.active = some request)
      (inFlight : world.page.inFlight = true) (connected : world.connected = true)
      (queries : world.queries = [ui.print (historyQueryJson request)])
      (answers : world.answers = [])
  | answered (request : HistoryRequest) (database : Database) (works : Bool)
      (active : world.page.active = some request) (inFlight : world.page.inFlight = true)
      (connected : world.connected = true) (queries : world.queries = [])
      (legible : LegibleAnswer column request (foundFor request database works))
      (answers : world.answers =
        [answerText (historyMessage column request.pointId (foundFor request database works))])

/-- The user asks only while the pipe is connected, neither the pipe nor the
selection goes while a request is under way, and what is found is legible. -/
def Orderly (world : TrendWorld) : TrendEvent -> Prop
  | .selected pointId => pointId ≠ "" -> world.connected = true
  | .asked _ _ => world.page.currentPointId ≠ "" -> world.connected = true
  | .cleared | .disconnected => world.page.active = none
  | .handled works => world.queries ≠ [] -> forall request, world.page.active = some request ->
      LegibleAnswer column request (foundFor request world.database works)
  | _ => True

end InStep

section Kept

variable {ui pc : JsonCodec} {column : TelemetryPoint -> StreamDouble} {world : TrendWorld}

theorem printable_historyMessage (pointId : String) (found : HistoryAnswer) :
    (historyMessage column pointId found).Printable fun _ => [] := by
  intro value among
  have never := (@forall_pieces_historyPoints (fun fragment => fragment ≠ .printed value)
    pointId (found.points.map (streamedRow column)) found.ok found.reason
    (if found.ok then "" else "history query failed")).mpr (by simp)
  exact absurd rfl (never _ among)

/-- The reasons are texts of the program. -/
theorem clean_reason (database : Database) (works : Bool) (query : HistoryQuery) :
    Clean (database.queryHistoryPoints works query).reason.toList := by
  unfold Database.queryHistoryPoints
  split_ifs
  · decide
  · decide
  · decide
  · decide
  · dsimp only
    split
    · decide
    · decide

theorem valid_iff_legible (request : HistoryRequest) (database : Database) (works : Bool) :
    (historyMessage column request.pointId (foundFor request database works)).Valid ↔
      LegibleAnswer column request (foundFor request database works) := by
  have reason := clean_reason database works (historyQuery request)
  have fixed : Clean "history_points".toList ∧ Clean "no_data".toList ∧
      Clean "history query failed".toList := by decide
  unfold PcMessage.Valid historyMessage LegibleAnswer
  rw [forall_pieces_historyPoints]
  have given : (Fragment.text (if (foundFor request database works).reason = "" ∧
      (foundFor request database works).ok ∧
      (foundFor request database works).points.map (streamedRow column) = [] then "no_data"
      else (foundFor request database works).reason)).Valid := by
    split
    · exact fixed.2.1
    · exact reason
  have explained : (if (foundFor request database works).ok then ""
      else "history query failed") ≠ "" ->
      (Fragment.text (if (foundFor request database works).ok then ""
        else "history query failed")).Valid := by
    split
    · exact fun other => absurd rfl other
    · exact fun _ => fixed.2.2
  constructor
  · rintro ⟨-, -, -, -, pointId, -, rows⟩
    refine ⟨pointId, ?_⟩
    intro point inside
    have row := rows (streamedRow column point) (List.mem_map_of_mem inside)
    exact ⟨row.2.2.1, row.2.1⟩
  · rintro ⟨pointId, rows⟩
    refine ⟨fixed.1, trivial, given, explained, pointId, trivial, ?_⟩
    intro streamed among
    rcases List.mem_map.mp among with ⟨point, inside, rfl⟩
    exact ⟨trivial, (rows point inside).2, (rows point inside).1, trivial⟩

/-- Another page with the same request under way. -/
structure SameRequest (page other : TrendPage) : Prop where
  active : other.active = page.active
  inFlight : other.inFlight = page.inFlight
  pending : page.active = none -> other.pending = page.pending

/-- Nothing is emitted. -/
theorem InStep.silent (inStep : InStep ui column world) {page : TrendPage}
    (same : SameRequest world.page page) :
    InStep ui column (world.sendHistoryQuery ui (page, none)) := by
  cases inStep with
  | idle active inFlight pending queries answers =>
      exact .idle (same.active.trans active) (same.inFlight.trans inFlight)
        ((same.pending active).trans pending) queries answers
  | asked request active inFlight connected queries answers =>
      exact .asked request (same.active.trans active) (same.inFlight.trans inFlight) connected
        queries answers
  | answered request database works active inFlight connected queries legible answers =>
      exact .answered request database works (same.active.trans active)
        (same.inFlight.trans inFlight) connected queries legible answers

/-- A request that is emitted now is under way if the pipe is connected. -/
theorem inStep_sent (queries : world.queries = []) (answers : world.answers = [])
    (page : TrendPage) (request : HistoryRequest) :
    InStep ui column (world.sendHistoryQuery ui (page.sendHistoryRequest request)) ↔
      world.connected = true := by
  unfold TrendWorld.sendHistoryQuery TrendPage.sendHistoryRequest
  dsimp only
  constructor
  · rintro (⟨active, -⟩ | ⟨-, -, -, connected, -⟩ | ⟨-, -, -, -, -, connected, -⟩)
    · cases active
    · exact connected
    · exact connected
  · intro connected
    refine .asked request rfl rfl connected ?_ answers
    rw [if_pos connected, queries]
    rfl

/-- A request that comes while another is under way waits. -/
theorem inStep_enqueued (inStep : InStep ui column world) {page : TrendPage}
    (same : SameRequest world.page page) (request : HistoryRequest) :
    InStep ui column (world.sendHistoryQuery ui (page.enqueueHistoryRequest request)) ↔
      world.connected = true := by
  have waits {other : HistoryRequest} (active : world.page.active = some other)
      (inFlight : world.page.inFlight = true) :
      InStep ui column (world.sendHistoryQuery ui (page.enqueueHistoryRequest request)) := by
    rw [TrendPage.enqueueHistoryRequest, if_pos (same.inFlight.trans inFlight)]
    refine inStep.silent ⟨same.active, same.inFlight, ?_⟩
    intro idle
    cases active.symm.trans idle
  cases inStep with
  | idle active inFlight pending queries answers =>
      rw [TrendPage.enqueueHistoryRequest, same.inFlight, inFlight, if_neg Bool.false_ne_true]
      exact inStep_sent queries answers page request
  | asked other active inFlight connected =>
      exact iff_of_true (waits active inFlight) connected
  | answered other database works active inFlight connected =>
      exact iff_of_true (waits active inFlight) connected

theorem inStep_selected (inStep : InStep ui column world) (pointId : String) :
    InStep ui column (world.step ui pc column (.selected pointId)) ↔
      (pointId ≠ "" -> world.connected = true) := by
  change InStep ui column (world.sendHistoryQuery ui (world.page.onPointSelected pointId)) ↔ _
  unfold TrendPage.onPointSelected TrendPage.requestTableHistory TrendPage.tableRequest
  dsimp only
  by_cases named : pointId = ""
  · rw [dif_pos named]
    exact iff_of_true (inStep.silent ⟨rfl, rfl, fun _ => rfl⟩) fun other => absurd named other
  · rw [dif_neg named]
    have same : SameRequest world.page { world.page with currentPointId := pointId } :=
      ⟨rfl, rfl, fun _ => rfl⟩
    refine (inStep_enqueued inStep same _).trans ?_
    exact ⟨fun connected _ => connected, fun connected => connected named⟩

theorem inStep_asked (inStep : InStep ui column world) (nowMs rangeMs : Int64) :
    InStep ui column (world.step ui pc column (.asked nowMs rangeMs)) ↔
      (world.page.currentPointId ≠ "" -> world.connected = true) := by
  change InStep ui column (world.sendHistoryQuery ui (world.page.queryHistory nowMs rangeMs)) ↔ _
  unfold TrendPage.queryHistory TrendPage.chartRequest
  by_cases named : world.page.currentPointId = ""
  · rw [dif_pos named]
    exact iff_of_true (inStep.silent ⟨rfl, rfl, fun _ => rfl⟩) fun other => absurd named other
  · rw [dif_neg named]
    have same : SameRequest world.page { world.page with series := [] } :=
      ⟨rfl, rfl, fun _ => rfl⟩
    have whenNamed : world.connected = true ↔
        (world.page.currentPointId ≠ "" -> world.connected = true) :=
      ⟨fun connected _ => connected, fun connected => connected named⟩
    split_ifs
    · exact (inStep_enqueued inStep same _).trans whenNamed
    · exact (inStep_enqueued inStep same _).trans whenNamed

/-- Whether an answer can be read shows in its text. -/
theorem legible_of_text {request other : HistoryRequest} {database current : Database}
    {works worked : Bool}
    (same : answerText (historyMessage column request.pointId (foundFor request database works)) =
      answerText (historyMessage column other.pointId (foundFor other current worked)))
    (legible : LegibleAnswer column other (foundFor other current worked)) :
    LegibleAnswer column request (foundFor request database works) := by
  rw [← valid_iff_legible] at legible ⊢
  rw [← Assembled.isSome_parse_message_iff (printable_historyMessage _ _)] at legible ⊢
  unfold answerText at same
  rw [same]
  exact legible

theorem inStep_handled
    (reads : forall json, json.Wire Json.maxDepth -> pc.parse (ui.print json) = some json)
    (inStep : InStep ui column world) (works : Bool) :
    InStep ui column (world.step ui pc column (.handled works)) ↔
      (world.queries ≠ [] -> forall request, world.page.active = some request ->
        LegibleAnswer column request (foundFor request world.database works)) := by
  have resting (queries : world.queries = []) :
      world.step ui pc column (.handled works) = world := by
    rw [TrendWorld.step, queries]
  have kept := inStep
  cases inStep with
  | idle _ _ _ queries =>
      rw [resting queries]
      exact iff_of_true kept fun other => absurd queries other
  | answered _ _ _ _ _ _ queries =>
      rw [resting queries]
      exact iff_of_true kept fun other => absurd queries other
  | asked request active inFlight connected queries answers =>
      have next : world.step ui pc column (.handled works) =
          { world with
            queries := []
            answers := [answerText (historyMessage column request.pointId
              (foundFor request world.database works))] } := by
        rw [TrendWorld.step, queries]
        dsimp only
        rw [answerHistoryQuery_print reads, answers]
        rfl
      rw [next]
      constructor
      · intro after _ other own
        rw [Option.some.inj (own.symm.trans active)]
        cases after with
        | idle none => cases active.symm.trans none
        | asked _ _ _ _ none => cases none
        | answered _ _ _ _ _ _ _ legible sent =>
            exact legible_of_text (List.head_eq_of_cons_eq sent) legible
      · intro legible
        refine .answered request world.database works active inFlight connected rfl ?_ rfl
        exact legible (by rw [queries]; exact List.cons_ne_nil _ _) request active

/-- What the page reads of an answer that is on its way. -/
theorem step_answered {request : HistoryRequest} {database : Database} {works : Bool}
    (legible : LegibleAnswer column request (foundFor request database works))
    (answers : world.answers =
      [answerText (historyMessage column request.pointId (foundFor request database works))]) :
    world.step ui pc column .answered =
      ({ world with answers := [] } : TrendWorld).sendHistoryQuery ui
        (world.page.onHistoryPointsMessage ((historyMessage column request.pointId
          (foundFor request database works)).assembly.tree Fragment.tree)) := by
  have parsed := Assembled.parse_valid (printable_historyMessage request.pointId _)
    ((valid_iff_legible request database works).mpr legible)
  have members := tree_historyMessage column request.pointId (foundFor request database works)
  rw [TrendWorld.step, answers]
  dsimp only
  unfold TrendWorld.handleIpcMessage answerText
  rw [parsed]
  dsimp only
  rw [members.1, members.2.1]
  rfl

theorem inStep_answered (inStep : InStep ui column world) :
    InStep ui column (world.step ui pc column .answered) := by
  have resting (answers : world.answers = []) : world.step ui pc column .answered = world := by
    rw [TrendWorld.step, answers]
  have kept := inStep
  cases inStep with
  | idle _ _ _ _ answers =>
      rw [resting answers]
      exact kept
  | asked _ _ _ _ _ answers =>
      rw [resting answers]
      exact kept
  | answered request database works active inFlight connected queries legible answers =>
      rw [step_answered legible answers]
      generalize (historyMessage column request.pointId
        (foundFor request database works)).assembly.tree Fragment.tree = root
      unfold TrendPage.onHistoryPointsMessage TrendPage.flushPendingHistoryRequest
      dsimp only
      cases pending : world.page.pending with
      | none =>
          rw [TrendPage.pending_taken, pending]
          exact .idle rfl rfl rfl queries rfl
      | some next =>
          rw [TrendPage.pending_taken, pending]
          let read : TrendWorld := { world with answers := [] }
          have none : read.queries = [] ∧ read.answers = [] := ⟨queries, rfl⟩
          exact (inStep_sent none.1 none.2 _ next).mpr connected

/-- Other changes leave the page and the pipe in step. -/
theorem InStep.congr (inStep : InStep ui column world) {after : TrendWorld}
    (page : after.page = world.page)
    (connected : world.connected = true -> after.connected = true)
    (queries : after.queries = world.queries) (answers : after.answers = world.answers) :
    InStep ui column after := by
  cases inStep with
  | idle active inFlight pending noQueries noAnswers =>
      exact .idle (page ▸ active) (page ▸ inFlight) (page ▸ pending) (queries.trans noQueries)
        (answers.trans noAnswers)
  | asked request active inFlight there query noAnswers =>
      exact .asked request (page ▸ active) (page ▸ inFlight) (connected there)
        (queries.trans query) (answers.trans noAnswers)
  | answered request database works active inFlight there noQueries legible answer =>
      exact .answered request database works (page ▸ active) (page ▸ inFlight) (connected there)
        (queries.trans noQueries) legible (answers.trans answer)

theorem inStep_cleared (inStep : InStep ui column world) :
    InStep ui column (world.step ui pc column .cleared) ↔ world.page.active = none := by
  have lost {request : HistoryRequest} (active : world.page.active = some request)
      (underway : ¬(world.queries = [] ∧ world.answers = [])) :
      InStep ui column (world.step ui pc column .cleared) ↔ world.page.active = none := by
    refine iff_of_false ?_ fun idle => nomatch active.symm.trans idle
    have forgotten : (world.step ui pc column .cleared).page.active = none := rfl
    rintro (⟨-, -, -, queries, answers⟩ | ⟨_, asking, -⟩ | ⟨_, _, _, asking, -⟩)
    · exact underway ⟨queries, answers⟩
    · cases forgotten.symm.trans asking
    · cases forgotten.symm.trans asking
  cases inStep with
  | idle active _ _ queries answers =>
      exact iff_of_true (.idle rfl rfl rfl queries answers) active
  | asked _ active _ _ queries =>
      exact lost active fun none => nomatch queries.symm.trans none.1
  | answered _ _ _ active _ _ _ _ answers =>
      exact lost active fun none => nomatch answers.symm.trans none.2

theorem inStep_disconnected (inStep : InStep ui column world) :
    InStep ui column (world.step ui pc column .disconnected) ↔ world.page.active = none := by
  have lost {request : HistoryRequest} (active : world.page.active = some request) :
      InStep ui column (world.step ui pc column .disconnected) ↔ world.page.active = none := by
    refine iff_of_false ?_ fun idle => nomatch active.symm.trans idle
    rintro (⟨idle, -⟩ | ⟨-, -, -, connected, -⟩ | ⟨-, -, -, -, -, connected, -⟩)
    · cases active.symm.trans idle
    · cases connected
    · cases connected
  cases inStep with
  | idle active inFlight pending =>
      exact iff_of_true (.idle active inFlight pending rfl rfl) active
  | asked _ active => exact lost active
  | answered _ _ _ active => exact lost active

/-- A step keeps the page and the pipe in step exactly if it is orderly. -/
theorem inStep_step_iff
    (reads : forall json, json.Wire Json.maxDepth -> pc.parse (ui.print json) = some json)
    (inStep : InStep ui column world) (event : TrendEvent) :
    InStep ui column (world.step ui pc column event) ↔ Orderly column world event := by
  cases event with
  | selected pointId => exact inStep_selected inStep pointId
  | asked nowMs rangeMs => exact inStep_asked inStep nowMs rangeMs
  | cleared => exact inStep_cleared inStep
  | handled works => exact inStep_handled reads inStep works
  | answered => exact iff_of_true (inStep_answered inStep) trivial
  | connected => exact iff_of_true (inStep.congr rfl (fun _ => rfl) rfl rfl) trivial
  | disconnected => exact inStep_disconnected inStep
  | stored database => exact iff_of_true (inStep.congr rfl id rfl rfl) trivial

end Kept

section Runs

variable (ui pc : JsonCodec) (column : TelemetryPoint -> StreamDouble) (database : Database)

/-- In every state of a run nothing is under way but the one request that the
page waits for, exactly if all of its steps are orderly. -/
theorem trend_in_step_iff
    (reads : forall json, json.Wire Json.maxDepth -> pc.parse (ui.print json) = some json)
    (events : List TrendEvent) :
    (forall before after, events = before ++ after ->
      InStep ui column ((trendSystem ui pc column database).run before)) ↔
      (trendSystem ui pc column database).Admissible (Orderly column) events := by
  let system := trendSystem ui pc column database
  have start : InStep ui column system.initial := .idle rfl rfl rfl rfl rfl
  let always (_ : TrendWorld) : Prop := True
  have kept : forall world event, always world -> always (system.step world event) :=
    fun _ _ _ => trivial
  exact system.everywhere_iff_of_forall trivial start kept
    (fun _ event _ inStep => inStep_step_iff reads inStep event) events

end Runs

/-- A point that is selected before the pipe is there: the page waits for an
answer to a query that was not sent. -/
theorem trend_in_step_unsent :
    ¬forall before after, [TrendEvent.selected "1.a", .connected] = before ++ after ->
      InStep (JsonText.codec false) (fun _ => .other .nan)
        ((trendSystem (JsonText.codec false) (JsonText.codec false) (fun _ => .other .nan)
          sensorDatabase).run before) := by
  intro everywhere
  have orderly := (trend_in_step_iff _ _ _ sensorDatabase (JsonText.codec false).parse_print
    _).mp everywhere
  cases orderly.1 (by decide)

end Link
end Imx6Gateway
