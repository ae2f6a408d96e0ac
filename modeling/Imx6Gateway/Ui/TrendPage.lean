import Imx6Gateway.Ui.DeviceModel

namespace Imx6Gateway
namespace Ui

open Library

/-!
# The page with the history of a point

The page asks for the history of the selected point, for the table when the
point is selected and for the chart when the user wants it.  It has one request
under way at most and remembers one more, the last.  An answer carries no number:
it is taken for the answer to the request that is under way.
-/

inductive HistoryKind where
  | chartRange
  | tableAllHistory
deriving DecidableEq

/-- A request is for a point with a name. -/
structure HistoryRequest where
  kind : HistoryKind
  pointId : String
  startMs : Int64
  endMs : Int64
  limit : Int32
  named : pointId ≠ ""

/-- What a row of the table shows. -/
structure HistoryRow where
  timestampMs : Int
  numberValue : Rat
  textValue : String
  valid : Bool

structure TrendPage where
  currentPointId : String
  series : List (Rat × Rat)
  historyTable : List HistoryRow
  active : Option HistoryRequest
  pending : Option HistoryRequest
  inFlight : Bool

namespace TrendPage

def constructed : TrendPage where
  currentPointId := ""
  series := []
  historyTable := []
  active := none
  pending := none
  inFlight := false

/-! ## Asking

Each function also returns the request that it emits, if any.
-/

def sendHistoryRequest (request : HistoryRequest) (page : TrendPage) :
    TrendPage × Option HistoryRequest :=
  ({ page with active := some request, inFlight := true }, some request)

def enqueueHistoryRequest (request : HistoryRequest) (page : TrendPage) :
    TrendPage × Option HistoryRequest :=
  if page.inFlight then ({ page with pending := some request }, none)
  else page.sendHistoryRequest request

def flushPendingHistoryRequest (page : TrendPage) : TrendPage × Option HistoryRequest :=
  match page.pending with
  | none => (page, none)
  | some request =>
      if page.inFlight then (page, none)
      else ({ page with pending := none } : TrendPage).sendHistoryRequest request

/-- The request for the table of a point. -/
def tableRequest (pointId : String) : Option HistoryRequest :=
  if named : pointId = "" then none else some ⟨.tableAllHistory, pointId, 0, 0, 5000, named⟩

/-- The request for the chart of a point; without a range it is for all of it. -/
def chartRequest (nowMs rangeMs : Int64) (pointId : String) : Option HistoryRequest :=
  if named : pointId = "" then none
  else if 0 < rangeMs then some ⟨.chartRange, pointId, nowMs - rangeMs, nowMs, 1000, named⟩
  else some ⟨.chartRange, pointId, 0, 0, 1000, named⟩

def requestTableHistory (page : TrendPage) : TrendPage × Option HistoryRequest :=
  match tableRequest page.currentPointId with
  | none => ({ page with historyTable := [] }, none)
  | some request => page.enqueueHistoryRequest request

def onPointSelected (pointId : String) (page : TrendPage) : TrendPage × Option HistoryRequest :=
  ({ page with currentPointId := pointId } : TrendPage).requestTableHistory

def queryHistory (nowMs rangeMs : Int64) (page : TrendPage) : TrendPage × Option HistoryRequest :=
  match chartRequest nowMs rangeMs page.currentPointId with
  | none => ({ page with series := [] }, none)
  | some request => ({ page with series := [] } : TrendPage).enqueueHistoryRequest request

/-- When no device is left, the page forgets what is under way. -/
def clearCurrentSelection (_ : TrendPage) : TrendPage :=
  constructed

/-! ## Taking an answer -/

/-- The valid points of an answer; a time becomes a coordinate. -/
def handleChartHistoryResponse (points : List Json) : List (Rat × Rat) :=
  points.filterMap fun point =>
    if point.isObj && boolOr (point.lookup "valid") true then
      some (Pc.doubleOfInt (Realtime.longLongOf (point.lookup "timestampMs")),
        doubleOr (point.lookup "numberValue") 0)
    else none

def handleTableHistoryResponse (points : List Json) : List HistoryRow :=
  points.filterMap fun point =>
    if point.isObj then
      some
        { timestampMs := Realtime.longLongOf (point.lookup "timestampMs")
          numberValue := doubleOr (point.lookup "numberValue") 0
          textValue := textOr (point.lookup "textValue") ""
          valid := boolOr (point.lookup "valid") true }
    else none

/-- The points of an answer that has succeeded. -/
def shownPoints (answer : Json) : List Json :=
  match answer.lookup "points" with
  | some (.arr points) =>
      if boolOr (answer.lookup "ok") true && intOr (answer.lookup "count") (-1) ≠ 0 then points
      else []
  | _ => []

/-- An answer without points clears what its request was for. -/
def display (kind : HistoryKind) (answer : Json) (page : TrendPage) : TrendPage :=
  match kind with
  | .chartRange => { page with series := handleChartHistoryResponse (shownPoints answer) }
  | .tableAllHistory =>
      { page with historyTable := handleTableHistoryResponse (shownPoints answer) }

/-- Whether an answer is taken for the answer to a request: it names its point
or none, and the point is still selected. -/
def accepts (request : HistoryRequest) (answer : Json) (page : TrendPage) : Bool :=
  let responsePointId := textOr (answer.lookup "pointId") ""
  (responsePointId = "" || responsePointId = request.pointId) &&
    request.pointId = page.currentPointId

/-- The answer to the request that is under way is shown. -/
def taken (answer : Json) (page : TrendPage) : TrendPage :=
  match page.active with
  | some request => if page.accepts request answer then page.display request.kind answer else page
  | none => page

/-- Every answer ends what is under way. -/
def onHistoryPointsMessage (answer : Json) (page : TrendPage) :
    TrendPage × Option HistoryRequest :=
  let settled : TrendPage := { page.taken answer with inFlight := false, active := none }
  settled.flushPendingHistoryRequest

/-! ## What an operation leaves as it is -/

@[simp]
theorem pending_taken (answer : Json) (page : TrendPage) :
    (page.taken answer).pending = page.pending := by
  unfold taken display
  split
  · split
    · split <;> rfl
    · rfl
  · rfl

@[simp]
theorem currentPointId_taken (answer : Json) (page : TrendPage) :
    (page.taken answer).currentPointId = page.currentPointId := by
  unfold taken display
  split
  · split
    · split <;> rfl
    · rfl
  · rfl

@[simp]
theorem currentPointId_enqueueHistoryRequest (request : HistoryRequest) (page : TrendPage) :
    (page.enqueueHistoryRequest request).1.currentPointId = page.currentPointId := by
  unfold enqueueHistoryRequest
  split <;> rfl

@[simp]
theorem currentPointId_onPointSelected (pointId : String) (page : TrendPage) :
    (page.onPointSelected pointId).1.currentPointId = pointId := by
  unfold onPointSelected requestTableHistory
  split
  · rfl
  · exact currentPointId_enqueueHistoryRequest _ _

@[simp]
theorem currentPointId_queryHistory (nowMs rangeMs : Int64) (page : TrendPage) :
    (page.queryHistory nowMs rangeMs).1.currentPointId = page.currentPointId := by
  unfold queryHistory
  split
  · rfl
  · exact currentPointId_enqueueHistoryRequest _ _

@[simp]
theorem currentPointId_onHistoryPointsMessage (answer : Json) (page : TrendPage) :
    (page.onHistoryPointsMessage answer).1.currentPointId = page.currentPointId := by
  unfold onHistoryPointsMessage flushPendingHistoryRequest
  dsimp only
  split
  · exact currentPointId_taken answer page
  · split
    · exact currentPointId_taken answer page
    · exact currentPointId_taken answer page

end TrendPage

end Ui
end Imx6Gateway
