import Imx6Gateway.Link.TrendHistory
import Imx6Gateway.Pc.ReportedPoints

namespace Imx6Gateway
namespace Link

open Library Pc Ui
open Link.Assembled (Fragment StreamDouble)

/-!
# What the page with the history shows

While another request is under way the page remembers one more, so a request may
be replaced by a later one.  The last one is not: as long as all goes in order,
the page shows at rest what the user has asked for last, as Pc_data has found it.
-/

/-- The point that is selected, and what was asked for it last. -/
structure Wish where
  pointId : String
  request : Option HistoryRequest

def Wish.follow (wish : Wish) : TrendEvent -> Wish
  | .selected pointId => ⟨pointId, TrendPage.tableRequest pointId⟩
  | .asked nowMs rangeMs =>
      ⟨wish.pointId, TrendPage.chartRequest nowMs rangeMs wish.pointId⟩
  | .cleared => ⟨"", none⟩
  | _ => wish

def lastWish (events : List TrendEvent) : Wish :=
  events.foldl Wish.follow ⟨"", none⟩

theorem lastWish_concat (events : List TrendEvent) (event : TrendEvent) :
    lastWish (events ++ [event]) = (lastWish events).follow event :=
  List.foldl_append

theorem pointId_of_tableRequest {pointId : String} {request : HistoryRequest}
    (asked : TrendPage.tableRequest pointId = some request) : request.pointId = pointId := by
  unfold TrendPage.tableRequest at asked
  split at asked
  · cases asked
  · exact (congrArg HistoryRequest.pointId (Option.some.inj asked)).symm

theorem pointId_of_chartRequest {nowMs rangeMs : Int64} {pointId : String}
    {request : HistoryRequest}
    (asked : TrendPage.chartRequest nowMs rangeMs pointId = some request) :
    request.pointId = pointId := by
  unfold TrendPage.chartRequest at asked
  split_ifs at asked
  · exact (congrArg HistoryRequest.pointId (Option.some.inj asked)).symm
  · exact (congrArg HistoryRequest.pointId (Option.some.inj asked)).symm

/-- What is wished is about the point that is selected. -/
theorem pointId_lastWish {events : List TrendEvent} {request : HistoryRequest}
    (wished : (lastWish events).request = some request) :
    request.pointId = (lastWish events).pointId := by
  induction events using List.reverseRecOn with
  | nil => cases wished
  | append_singleton events event ih =>
      rw [lastWish_concat] at wished ⊢
      cases event with
      | selected pointId => exact pointId_of_tableRequest wished
      | asked nowMs rangeMs => exact pointId_of_chartRequest wished
      | cleared => cases wished
      | handled _ | answered | connected | disconnected | stored _ => exact ih wished

/-! ## The display of an answer -/

section Display

variable {column : TelemetryPoint -> StreamDouble}

theorem shownPoints_historyMessage (request : HistoryRequest) (database : Database)
    (works : Bool) :
    TrendPage.shownPoints ((historyMessage column request.pointId
      (foundFor request database works)).assembly.tree Fragment.tree) =
      (foundFor request database works).points.map (rowTree column) := by
  have members := tree_historyMessage column request.pointId (foundFor request database works)
  have few : (foundFor request database works).points.length ≤ 5000 :=
    length_queryHistoryPoints database works (historyQuery request)
  have counted : intOr (some (.int (foundFor request database works).points.length)) (-1) =
      (foundFor request database works).points.length := by
    rw [intOr, if_pos]
    omega
  unfold TrendPage.shownPoints
  rw [members.2.2.1, members.2.2.2.2.1, members.2.2.2.2.2]
  dsimp only
  rw [counted]
  cases ok : (foundFor request database works).ok with
  | false =>
      have none : (foundFor request database works).points = [] :=
        (queryHistoryPoints_failed ok).1
      rw [none]
      rfl
  | true =>
      cases (foundFor request database works).points with
      | nil => rfl
      | cons point points => rfl

/-- An answer to the request for the selected point is shown. -/
theorem displays_taken {page : TrendPage} {request : HistoryRequest}
    (active : page.active = some request) (selected : request.pointId = page.currentPointId)
    (database : Database) (works : Bool) :
    Displays column request.kind (foundFor request database works).points
      (page.taken ((historyMessage column request.pointId
        (foundFor request database works)).assembly.tree Fragment.tree)) := by
  have members := tree_historyMessage column request.pointId (foundFor request database works)
  have points := @shownPoints_historyMessage column request database works
  generalize (historyMessage column request.pointId
    (foundFor request database works)).assembly.tree Fragment.tree = root at members points
  have accepted : page.accepts request root = true := by
    unfold TrendPage.accepts
    rw [members.2.2.2.1]
    simp [textOr, selected]
  unfold TrendPage.taken TrendPage.display Displays
  rw [active]
  dsimp only
  rw [if_pos accepted, points]
  cases request.kind with
  | chartRange => exact chart_rowTree column _
  | tableAllHistory => exact table_rowTree column _

end Display

/-! ## The last wish is followed -/

section Followed

variable (ui pc : JsonCodec) (column : TelemetryPoint -> StreamDouble) (database : Database)

/-- Pc_data has found it for the last wish, after it was made. -/
def FoundIn (events : List TrendEvent) (request : HistoryRequest) (found : HistoryAnswer) : Prop :=
  exists before works after, events = before ++ .handled works :: after ∧
    (lastWish before).request = some request ∧
    found = foundFor request ((trendSystem ui pc column database).run before).database works

theorem FoundIn.concat {events : List TrendEvent} {request : HistoryRequest}
    {found : HistoryAnswer} (foundIn : FoundIn ui pc column database events request found)
    (event : TrendEvent) : FoundIn ui pc column database (events ++ [event]) request found := by
  rcases foundIn with ⟨before, works, after, split, wished, same⟩
  refine ⟨before, works, after ++ [event], ?_, wished, same⟩
  rw [split, List.append_assoc, List.cons_append]

/-- The wish waits, or is under way, or is shown. -/
inductive Fulfilment (events : List TrendEvent) (world : TrendWorld) (request : HistoryRequest) :
    Prop where
  | waits (pending : world.page.pending = some request)
  | underway (pending : world.page.pending = none) (active : world.page.active = some request)
      (answer : world.answers ≠ [] -> exists found,
        FoundIn ui pc column database events request found ∧
          world.answers = [answerText (historyMessage column request.pointId found)])
  | shown (pending : world.page.pending = none) (active : world.page.active = none)
      (found : HistoryAnswer) (foundIn : FoundIn ui pc column database events request found)
      (displays : Displays column request.kind found.points world.page)

/-- The page has the selected point, and the wish is on its way or fulfilled. -/
structure Followed (events : List TrendEvent) (world : TrendWorld) : Prop where
  pointId : world.page.currentPointId = (lastWish events).pointId
  wish : forall request, (lastWish events).request = some request ->
    Fulfilment ui pc column database events world request

end Followed

section Steps

variable {ui pc : JsonCodec} {column : TelemetryPoint -> StreamDouble} {database : Database}
  {events : List TrendEvent} {world : TrendWorld} {request : HistoryRequest}

/-- A step that leaves the page and the answers alone. -/
theorem Fulfilment.concat (fulfilment : Fulfilment ui pc column database events world request)
    {after : TrendWorld} (page : after.page = world.page)
    (answers : after.answers ≠ [] -> after.answers = world.answers) (event : TrendEvent) :
    Fulfilment ui pc column database (events ++ [event]) after request := by
  cases fulfilment with
  | waits pending => exact .waits (page ▸ pending)
  | underway pending active answer =>
      refine .underway (page ▸ pending) (page ▸ active) ?_
      intro some
      rcases answer (answers some ▸ some) with ⟨found, foundIn, text⟩
      exact ⟨found, foundIn.concat _ _ _ _ event, (answers some).trans text⟩
  | shown pending active found foundIn displays =>
      exact .shown (page ▸ pending) (page ▸ active) found (foundIn.concat _ _ _ _ event)
        (page ▸ displays)

/-- A request that is made now waits or is sent. -/
theorem fulfilment_enqueued (inStep : InStep ui column world) {page : TrendPage}
    (same : SameRequest world.page page) (request : HistoryRequest) :
    Fulfilment ui pc column database events
      (world.sendHistoryQuery ui (page.enqueueHistoryRequest request)) request := by
  have waits (inFlight : world.page.inFlight = true) :
      Fulfilment ui pc column database events
        (world.sendHistoryQuery ui (page.enqueueHistoryRequest request)) request := by
    rw [TrendPage.enqueueHistoryRequest, if_pos (same.inFlight.trans inFlight)]
    exact .waits rfl
  cases inStep with
  | idle active inFlight pending queries answers =>
      rw [TrendPage.enqueueHistoryRequest, same.inFlight, inFlight, if_neg Bool.false_ne_true]
      exact .underway ((same.pending active).trans pending) rfl fun some => absurd answers some
  | asked _ _ inFlight => exact waits inFlight
  | answered _ _ _ _ inFlight => exact waits inFlight

theorem fulfilment_selected (inStep : InStep ui column world) {pointId : String}
    (wished : TrendPage.tableRequest pointId = some request) :
    Fulfilment ui pc column database events (world.step ui pc column (.selected pointId))
      request := by
  change Fulfilment ui pc column database events
    (world.sendHistoryQuery ui (world.page.onPointSelected pointId)) request
  unfold TrendPage.onPointSelected TrendPage.requestTableHistory
  dsimp only
  rw [wished]
  have same : SameRequest world.page { world.page with currentPointId := pointId } :=
    ⟨rfl, rfl, fun _ => rfl⟩
  exact fulfilment_enqueued inStep same request

theorem fulfilment_asked (inStep : InStep ui column world) {nowMs rangeMs : Int64}
    (wished : TrendPage.chartRequest nowMs rangeMs world.page.currentPointId = some request) :
    Fulfilment ui pc column database events (world.step ui pc column (.asked nowMs rangeMs))
      request := by
  change Fulfilment ui pc column database events
    (world.sendHistoryQuery ui (world.page.queryHistory nowMs rangeMs)) request
  unfold TrendPage.queryHistory
  rw [wished]
  have same : SameRequest world.page { world.page with series := [] } :=
    ⟨rfl, rfl, fun _ => rfl⟩
  exact fulfilment_enqueued inStep same request

/-- Pc_data answers the query of the wish from its database of now. -/
theorem fulfilment_handled
    (reads : forall json, json.Wire Json.maxDepth -> pc.parse (ui.print json) = some json)
    (inStep : InStep ui column ((trendSystem ui pc column database).run events))
    (wished : (lastWish events).request = some request)
    (fulfilment : Fulfilment ui pc column database events
      ((trendSystem ui pc column database).run events) request) (works : Bool) :
    Fulfilment ui pc column database (events ++ [.handled works])
      (((trendSystem ui pc column database).run events).step ui pc column (.handled works))
      request := by
  have found : FoundIn ui pc column database (events ++ [.handled works]) request
      (foundFor request ((trendSystem ui pc column database).run events).database works) :=
    ⟨events, works, [], rfl, wished, rfl⟩
  generalize (trendSystem ui pc column database).run events = world at inStep fulfilment found ⊢
  have resting (queries : world.queries = []) :
      Fulfilment ui pc column database (events ++ [.handled works])
        (world.step ui pc column (.handled works)) request := by
    rw [TrendWorld.step, queries]
    exact fulfilment.concat rfl (fun _ => rfl) _
  cases inStep with
  | idle _ _ _ queries => exact resting queries
  | answered _ _ _ _ _ _ queries => exact resting queries
  | asked asker asking _ _ queries answers =>
      have next : (world.step ui pc column (.handled works)).page = world.page ∧
          (world.step ui pc column (.handled works)).answers =
            [answerText (historyMessage column asker.pointId
              (foundFor asker world.database works))] := by
        rw [TrendWorld.step, queries]
        dsimp only
        rw [answerHistoryQuery_print reads, answers]
        exact ⟨rfl, rfl⟩
      cases fulfilment with
      | waits pending => exact .waits (next.1 ▸ pending)
      | underway pending active =>
          refine .underway (next.1 ▸ pending) (next.1 ▸ active) fun _ => ⟨_, found, ?_⟩
          rw [next.2, Option.some.inj (asking.symm.trans active)]
      | shown _ active => cases asking.symm.trans active

/-- The page shows the answer, or sends the wish that waits. -/
theorem fulfilment_answered (inStep : InStep ui column world)
    (selected : request.pointId = world.page.currentPointId)
    (fulfilment : Fulfilment ui pc column database events world request) :
    Fulfilment ui pc column database (events ++ [.answered])
      (world.step ui pc column .answered) request := by
  have resting (answers : world.answers = []) :
      Fulfilment ui pc column database (events ++ [.answered])
        (world.step ui pc column .answered) request := by
    rw [TrendWorld.step, answers]
    exact fulfilment.concat rfl (fun _ => rfl) _
  cases inStep with
  | idle _ _ _ _ answers => exact resting answers
  | asked _ _ _ _ _ answers => exact resting answers
  | answered asker stored worked asking inFlight connected queries legible answers =>
      cases fulfilment with
      | waits pending =>
          rw [step_answered legible answers]
          unfold TrendPage.onHistoryPointsMessage TrendPage.flushPendingHistoryRequest
          dsimp only
          rw [TrendPage.pending_taken, pending]
          exact .underway rfl rfl fun some => absurd rfl some
      | underway pending active answer =>
          rcases answer (by rw [answers]; exact List.cons_ne_nil _ _) with
            ⟨found, ⟨before, works, after, split, wished, rfl⟩, text⟩
          have readable := legible_of_text (List.head_eq_of_cons_eq (text.symm.trans answers))
            legible
          have displays := @displays_taken column _ _ active selected
            ((trendSystem ui pc column database).run before).database works
          rw [step_answered readable text]
          unfold TrendPage.onHistoryPointsMessage TrendPage.flushPendingHistoryRequest
          dsimp only
          rw [TrendPage.pending_taken, pending]
          have foundIn : FoundIn ui pc column database events request _ :=
            ⟨before, works, after, split, wished, rfl⟩
          refine .shown rfl rfl _ (foundIn.concat _ _ _ _ .answered) ?_
          unfold Displays at displays ⊢
          exact displays
      | shown _ active => cases asking.symm.trans active

theorem currentPointId_answered (world : TrendWorld) :
    (world.step ui pc column .answered).page.currentPointId = world.page.currentPointId := by
  rw [TrendWorld.step]
  split
  · rfl
  · unfold TrendWorld.handleIpcMessage
    split
    · rfl
    · split
      · exact TrendPage.currentPointId_onHistoryPointsMessage _ world.page
      · rfl

/-- A step that goes in order follows the last wish. -/
theorem followed_step
    (reads : forall json, json.Wire Json.maxDepth -> pc.parse (ui.print json) = some json)
    (inStep : InStep ui column ((trendSystem ui pc column database).run events))
    (followed : Followed ui pc column database events
      ((trendSystem ui pc column database).run events)) {event : TrendEvent}
    (orderly : Orderly column ((trendSystem ui pc column database).run events) event) :
    Followed ui pc column database (events ++ [event])
      (((trendSystem ui pc column database).run events).step ui pc column event) := by
  have handled (works : Bool) (request : HistoryRequest)
      (wished : (lastWish events).request = some request) :=
    fulfilment_handled reads inStep wished (followed.wish request wished) works
  generalize (trendSystem ui pc column database).run events = world
    at inStep followed orderly handled ⊢
  refine ⟨?_, ?_⟩
  · rw [lastWish_concat]
    cases event with
    | selected pointId => exact TrendPage.currentPointId_onPointSelected pointId world.page
    | asked nowMs rangeMs =>
        exact (TrendPage.currentPointId_queryHistory nowMs rangeMs world.page).trans
          followed.pointId
    | cleared => rfl
    | handled works =>
        rw [TrendWorld.step]
        split <;> exact followed.pointId
    | answered => exact (currentPointId_answered world).trans followed.pointId
    | connected => exact followed.pointId
    | disconnected => exact followed.pointId
    | stored database => exact followed.pointId
  · intro request wished
    rw [lastWish_concat] at wished
    cases event with
    | selected pointId => exact fulfilment_selected inStep wished
    | asked nowMs rangeMs =>
        apply fulfilment_asked inStep
        rw [followed.pointId]
        exact wished
    | cleared => cases wished
    | handled works => exact handled works request wished
    | answered =>
        have selected : request.pointId = world.page.currentPointId :=
          (pointId_lastWish wished).trans followed.pointId.symm
        exact fulfilment_answered inStep selected (followed.wish request wished)
    | connected =>
        apply Fulfilment.concat (followed.wish request wished)
        · rfl
        · exact fun _ => rfl
    | disconnected =>
        apply Fulfilment.concat (followed.wish request wished)
        · rfl
        · exact fun some => absurd rfl some
    | stored database =>
        apply Fulfilment.concat (followed.wish request wished)
        · rfl
        · exact fun _ => rfl

end Steps

section Rest

variable (ui pc : JsonCodec) (column : TelemetryPoint -> StreamDouble) (database : Database)

theorem followed_run
    (reads : forall json, json.Wire Json.maxDepth -> pc.parse (ui.print json) = some json)
    {events : List TrendEvent}
    (orderly : (trendSystem ui pc column database).Admissible (Orderly column) events) :
    Followed ui pc column database events ((trendSystem ui pc column database).run events) := by
  induction events using List.reverseRecOn with
  | nil =>
      refine ⟨rfl, ?_⟩
      intro request wished
      cases wished
  | append_singleton events event ih =>
      have before := TransitionSystem.admissible_initial _ orderly
      have inStep := (trend_in_step_iff ui pc column database reads events).mpr before events []
        (List.append_nil events).symm
      have next := followed_step reads inStep (ih before)
        (TransitionSystem.admissible_step _ orderly)
      rw [TransitionSystem.run, TransitionSystem.runFrom_append, ← TransitionSystem.run]
      exact next

/-- In an orderly run the page shows at rest what the user has asked for last:
what Pc_data has found for it after it was asked, which is the oldest rows of the
point in the range if the query has succeeded, and nothing otherwise. -/
theorem last_wish_shown
    (reads : forall json, json.Wire Json.maxDepth -> pc.parse (ui.print json) = some json)
    {events : List TrendEvent}
    (orderly : (trendSystem ui pc column database).Admissible (Orderly column) events)
    (rest : ((trendSystem ui pc column database).run events).page.inFlight = false)
    {request : HistoryRequest} (wished : (lastWish events).request = some request) :
    exists before works after, events = before ++ .handled works :: after ∧
      (lastWish before).request = some request ∧
      let current := ((trendSystem ui pc column database).run before).database
      let found := current.queryHistoryPoints works (historyQuery request)
      Displays column request.kind found.points
          ((trendSystem ui pc column database).run events).page ∧
        (found.ok = true ->
          (historyQuery request).Oldest current.telemetryHistory found.points) ∧
        (found.ok = false -> found.points = []) := by
  have inStep := (trend_in_step_iff ui pc column database reads events).mpr orderly events []
    (List.append_nil events).symm
  have idle : ((trendSystem ui pc column database).run events).page.active = none ∧
      ((trendSystem ui pc column database).run events).page.pending = none := by
    cases inStep with
    | idle active _ pending => exact ⟨active, pending⟩
    | asked _ _ inFlight => cases rest.symm.trans inFlight
    | answered _ _ _ _ inFlight => cases rest.symm.trans inFlight
  cases (followed_run ui pc column database reads orderly).wish request wished with
  | waits pending => cases idle.2.symm.trans pending
  | underway _ active => cases idle.1.symm.trans active
  | shown _ _ found foundIn displays =>
      rcases foundIn with ⟨before, works, after, split, same, rfl⟩
      refine ⟨before, works, after, split, same, displays, queryHistoryPoints_ok, ?_⟩
      exact fun failed => (queryHistoryPoints_failed failed).1

/-- When Pc_data has handled the query and the window the answer, nothing is
under way unless another request has waited. -/
theorem inFlight_round {world : TrendWorld}
    (reads : forall json, json.Wire Json.maxDepth -> pc.parse (ui.print json) = some json)
    (inStep : InStep ui column world) {works : Bool}
    (orderly : Orderly column world (.handled works)) :
    ((world.step ui pc column (.handled works)).step ui pc column .answered).page.inFlight =
      world.page.pending.isSome := by
  have next := (inStep_handled reads inStep works).mpr orderly
  have handled : (world.step ui pc column (.handled works)).page = world.page ∧
      (world.step ui pc column (.handled works)).queries = world.queries.tail := by
    rw [TrendWorld.step]
    split
    · rename_i none
      exact ⟨rfl, none.trans (congrArg List.tail none).symm⟩
    · rename_i msg rest first
      exact ⟨rfl, (congrArg List.tail first).symm⟩
  have queries : world.queries.tail = [] := by
    cases inStep with
    | idle _ _ _ none => rw [none, List.tail_nil]
    | asked _ _ _ _ one => rw [one, List.tail_cons]
    | answered _ _ _ _ _ _ none => rw [none, List.tail_nil]
  generalize world.step ui pc column (.handled works) = after at next handled
  rw [← handled.1]
  cases next with
  | idle _ inFlight pending _ answers =>
      rw [TrendWorld.step, answers, pending]
      exact inFlight
  | asked _ _ _ _ one => cases one.symm.trans (handled.2.trans queries)
  | answered _ _ _ _ _ _ _ legible answers =>
      rw [step_answered legible answers]
      unfold TrendPage.onHistoryPointsMessage TrendPage.flushPendingHistoryRequest
      dsimp only
      rw [TrendPage.pending_taken]
      cases after.page.pending <;> rfl

/-- A database whose texts and numbers can be written answers legibly. -/
theorem legibleAnswer_of_rows {column : TelemetryPoint -> StreamDouble} {request : HistoryRequest}
    {database : Database} (named : Clean request.pointId.toList)
    (rows : forall point, point ∈ database.telemetryHistory ->
      Clean point.textValue.toList ∧ (Fragment.double (column point)).Valid) (works : Bool) :
    LegibleAnswer column request (foundFor request database works) := by
  refine ⟨named, ?_⟩
  intro point inside
  cases ok : (foundFor request database works).ok with
  | false =>
      have none : (foundFor request database works).points = [] := (queryHistoryPoints_failed ok).1
      rw [none] at inside
      exact absurd inside List.not_mem_nil
  | true =>
      rcases (queryHistoryPoints_ok ok).rest with ⟨rest, same, -⟩
      have among := same.subset (List.mem_append_left rest inside)
      exact rows point (List.mem_of_mem_filter among)

end Rest

/-! ## A sensor with two rows -/

def zeroValue : StreamDouble :=
  .finite ⟨((0 : Int) : Rat), FloatFormat.representable_intCast FloatFormat.binary64 0 (by decide)
    (by decide) (by decide)⟩

/-- The later row was stored first. -/
def sensorHistory : Database :=
  { sensorDatabase with
    telemetryHistory := [{ labPoint 1 "1.a" 0 with timestampMs := 2 }, labPoint 1 "1.a" 0] }

def firstSelection : List TrendEvent :=
  [.connected, .selected "1.a", .handled true, .answered]

def sensorRequest : HistoryRequest :=
  ⟨.tableAllHistory, "1.a", 0, 0, 5000, by decide⟩

theorem legible_sensorHistory {request : HistoryRequest} (named : request.pointId = "1.a") :
    LegibleAnswer (fun _ => zeroValue) request (foundFor request sensorHistory true) := by
  apply legibleAnswer_of_rows
  · rw [named]
    decide
  · intro point inside
    simp only [sensorHistory, List.mem_cons, List.not_mem_nil, or_false] at inside
    rcases inside with rfl | rfl
    · exact ⟨by decide, trivial⟩
    · exact ⟨by decide, trivial⟩

theorem orderly_firstSelection :
    (trendSystem (JsonText.codec false) (JsonText.codec false) (fun _ => zeroValue)
      sensorHistory).Admissible (Orderly fun _ => zeroValue) firstSelection := by
  refine ⟨trivial, fun _ => rfl, ?_, trivial, trivial⟩
  intro _ request active
  exact legible_sensorHistory (congrArg HistoryRequest.pointId (Option.some.inj active)).symm

theorem last_wish_shown_first :
    let system := trendSystem (JsonText.codec false) (JsonText.codec false) (fun _ => zeroValue)
      sensorHistory
    exists before works after, firstSelection = before ++ .handled works :: after ∧
      (lastWish before).request = some sensorRequest ∧
      let current := (system.run before).database
      let found := current.queryHistoryPoints works (historyQuery sensorRequest)
      Displays (fun _ => zeroValue) .tableAllHistory found.points
          (system.run firstSelection).page ∧
        (found.ok = true ->
          (historyQuery sensorRequest).Oldest current.telemetryHistory found.points) ∧
        (found.ok = false -> found.points = []) := by
  have reads := (JsonText.codec false).parse_print
  have orderly := orderly_firstSelection
  have inStep := (trend_in_step_iff _ _ _ _ reads firstSelection).mpr orderly
    [.connected, .selected "1.a"] [.handled true, .answered] rfl
  have rest := inFlight_round _ _ _ reads inStep orderly.2.2.1
  exact last_wish_shown _ _ _ sensorHistory reads orderly rest rfl

end Link
end Imx6Gateway
