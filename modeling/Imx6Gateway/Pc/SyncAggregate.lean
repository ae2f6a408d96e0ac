import Imx6Gateway.Library.Transition
import Imx6Gateway.Pc.DataService

namespace Imx6Gateway
namespace Pc

open Library

/-!
# Results of a configuration sync

A request for the configuration of several gateways is one request id and one
seq for each gateway.  `PcDataService` keeps three maps about it: what waits
under each seq, what waits under each request id, and the result as far as it
is known.  The scan for timeouts collects the seqs first and completes them one
by one, and answers may arrive between these steps.
-/

structure SyncConfigResult where
  ready : Bool
  success : Bool
  message : String
  portCount : Int
  deviceCount : Int
deriving DecidableEq

/-- What is said about one gateway, by its answer or by the scan. -/
structure SyncReport where
  success : Bool
  message : String
  portCount : Int
  deviceCount : Int
deriving DecidableEq

def syncOfflineMessage : String := "gateway offline or sync timeout"

def syncSuccessMessage : String := "config sync success"

/-- The scan's report on a seq. -/
def syncTimeoutReport : SyncReport where
  success := false
  message := syncOfflineMessage
  portCount := 0
  deviceCount := 0

namespace SyncConfigResult

/-- What `operator[]` makes of a missing entry. -/
def absent : SyncConfigResult where
  ready := false
  success := false
  message := ""
  portCount := 0
  deviceCount := 0

def begun : SyncConfigResult where
  ready := false
  success := true
  message := syncSuccessMessage
  portCount := 0
  deviceCount := 0

def add (aggregate : SyncConfigResult) (report : SyncReport) : SyncConfigResult where
  ready := aggregate.ready
  success := aggregate.success && report.success
  message := if report.success then aggregate.message
    else if report.message = "" then syncOfflineMessage else report.message
  portCount := aggregate.portCount + report.portCount
  deviceCount := aggregate.deviceCount + report.deviceCount

def finished (aggregate : SyncConfigResult) : SyncConfigResult :=
  { aggregate with
    ready := true
    message := if aggregate.success && aggregate.message = "" then syncSuccessMessage
      else aggregate.message }

end SyncConfigResult

/-- The maps of `PcDataService` about configuration syncs. -/
structure SyncMaps where
  pendingBySeq : Table Int SyncRequest
  requests : Table Int (List SyncRequest)
  results : Table Int SyncConfigResult
  nextRequestId : Int
  nextSeq : Int

namespace SyncMaps

def start : SyncMaps where
  pendingBySeq := ∅
  requests := ∅
  results := ∅
  nextRequestId := 1
  nextSeq := 1

/-- A target without a gateway or without devices is passed over. -/
def validTarget (target : SyncGatewaySelection) : Bool :=
  target.gatewayId ≠ "" && !target.devices.isEmpty

def beginTarget (nowMs requestId : Int) (state : SyncMaps × List SyncRequest)
    (target : SyncGatewaySelection) : SyncMaps × List SyncRequest :=
  if target.gatewayId = "" ∨ target.devices.isEmpty then state
  else
    let pending : SyncRequest :=
      ⟨requestId, ⟨state.1.nextSeq, target.gatewayId, target.devices⟩, nowMs⟩
    ({ state.1 with
      pendingBySeq := state.1.pendingBySeq.put state.1.nextSeq pending
      requests := state.1.requests.put requestId
        ((state.1.requests.get requestId).getD [] ++ [pending])
      nextSeq := state.1.nextSeq + 1 }, state.2 ++ [pending])

def beginSyncConfigRequest (maps : SyncMaps) (nowMs : Int) (targets : List SyncGatewaySelection) :
    SyncMaps × List SyncRequest :=
  let begun := targets.foldl (beginTarget nowMs maps.nextRequestId)
    ({ maps with nextRequestId := maps.nextRequestId + 1 }, [])
  if begun.2 = [] then begun
  else ({ begun.1 with
    results := begun.1.results.put maps.nextRequestId SyncConfigResult.begun }, begun.2)

/-- `completeSyncConfig`, with the result if this was the last seq of its
request. -/
def completeSyncConfig (maps : SyncMaps) (seq : Int) (report : SyncReport) :
    SyncMaps × Option SyncConfigResult :=
  match maps.pendingBySeq.get seq with
  | none => (maps, none)
  | some waiting =>
      let aggregate :=
        ((maps.results.get waiting.requestId).getD SyncConfigResult.absent).add report
      let taken : SyncMaps :=
        { maps with
          pendingBySeq := AList.erase seq maps.pendingBySeq
          results := maps.results.put waiting.requestId aggregate }
      let pendingList := ((maps.requests.get waiting.requestId).getD []).eraseP
        fun other => other.pending.seq = seq
      if pendingList = [] then
        ({ taken with
          requests := AList.erase waiting.requestId taken.requests
          results := AList.erase waiting.requestId taken.results }, some aggregate.finished)
      else ({ taken with requests := taken.requests.put waiting.requestId pendingList }, none)

/-- The first step of `collectSyncConfigTimeouts`. -/
def timedOutSeqs (maps : SyncMaps) (nowMs timeoutMs : Int) : List Int :=
  (maps.pendingBySeq.keepIf fun _ waiting => timeoutMs ≤ nowMs - waiting.requestTimeMs).keys

/-! ### The memory of Pc_data

`DataService` only keeps what the handlers look at, which is what waits under
each seq. -/

structure Follows (maps : SyncMaps) (service : DataService) : Prop where
  pending : forall seq, service.syncPendingBySeq.get seq = maps.pendingBySeq.get seq
  nextRequestId : service.nextSyncRequestId = maps.nextRequestId
  nextSeq : service.nextSyncSeq = maps.nextSeq

theorem beginTarget_follows {requestId : Int} {state : SyncMaps × List SyncRequest}
    {memory : DataService × List SyncGatewayPending} (follows : Follows state.1 memory.1)
    (same : memory.2 = state.2.map SyncRequest.pending) (nowMs : Int)
    (target : SyncGatewaySelection) :
    Follows (beginTarget nowMs requestId state target).1
        (DataService.beginSync nowMs requestId memory target).1 ∧
      (DataService.beginSync nowMs requestId memory target).2 =
        (beginTarget nowMs requestId state target).2.map SyncRequest.pending := by
  unfold beginTarget DataService.beginSync
  split
  · exact ⟨follows, same⟩
  · refine ⟨⟨?_, follows.nextRequestId, by rw [follows.nextSeq]⟩, ?_⟩
    · intro seq
      rw [Table.get_put, Table.get_put, follows.nextSeq, follows.pending]
    · rw [same, List.map_append, follows.nextSeq]
      rfl

theorem beginSyncConfigRequest_follows {maps : SyncMaps} {service : DataService}
    (follows : Follows maps service) (nowMs : Int) (targets : List SyncGatewaySelection) :
    Follows (maps.beginSyncConfigRequest nowMs targets).1
        (service.beginSyncConfigRequest nowMs targets).1 ∧
      (service.beginSyncConfigRequest nowMs targets).2 =
        (maps.beginSyncConfigRequest nowMs targets).2.map SyncRequest.pending := by
  have folds : forall (targets : List SyncGatewaySelection) (state : SyncMaps × List SyncRequest)
      (memory : DataService × List SyncGatewayPending), Follows state.1 memory.1 ->
      memory.2 = state.2.map SyncRequest.pending ->
      Follows (targets.foldl (beginTarget nowMs maps.nextRequestId) state).1
          (targets.foldl (DataService.beginSync nowMs maps.nextRequestId) memory).1 ∧
        (targets.foldl (DataService.beginSync nowMs maps.nextRequestId) memory).2 =
          (targets.foldl (beginTarget nowMs maps.nextRequestId) state).2.map
            SyncRequest.pending := by
    intro targets
    induction targets with
    | nil => exact fun state memory follows same => ⟨follows, same⟩
    | cons target targets ih =>
        intro state memory follows same
        rcases beginTarget_follows follows same nowMs target with ⟨next, listed⟩
        exact ih _ _ next listed
  have fold := folds targets ({ maps with nextRequestId := maps.nextRequestId + 1 }, [])
    ({ service with nextSyncRequestId := service.nextSyncRequestId + 1 }, [])
    ⟨follows.pending, congrArg (· + 1) follows.nextRequestId, follows.nextSeq⟩ rfl
  unfold beginSyncConfigRequest DataService.beginSyncConfigRequest
  rw [follows.nextRequestId] at fold ⊢
  dsimp only
  split
  · exact fold
  · exact ⟨⟨fold.1.pending, fold.1.nextRequestId, fold.1.nextSeq⟩, fold.2⟩

theorem completeSyncConfig_follows {maps : SyncMaps} {service : DataService}
    (follows : Follows maps service) (seq : Int) (report : SyncReport) :
    Follows (maps.completeSyncConfig seq report).1 (service.completeSyncConfig seq) := by
  unfold completeSyncConfig DataService.completeSyncConfig
  cases found : maps.pendingBySeq.get seq with
  | none =>
      refine ⟨?_, follows.nextRequestId, follows.nextSeq⟩
      intro other
      rw [Table.get_erase, follows.pending]
      split
      · rename_i same
        rw [same]
        exact found.symm
      · rfl
  | some waiting =>
      have erased : forall other, Table.get (AList.erase seq service.syncPendingBySeq) other =
          Table.get (AList.erase seq maps.pendingBySeq) other := by
        intro other
        rw [Table.get_erase, Table.get_erase, follows.pending]
      dsimp only
      split
      · exact ⟨erased, follows.nextRequestId, follows.nextSeq⟩
      · exact ⟨erased, follows.nextRequestId, follows.nextSeq⟩

end SyncMaps

/-! ## Runs -/

/-- The maps, the seqs the scan still has to complete, and what has happened:
the requests as they were made, the seqs given out, the first report on each
of them, and the results that were returned. -/
structure SyncRun where
  maps : SyncMaps
  timedOut : List Int
  requested : List (Int × List SyncGatewaySelection)
  given : List SyncRequest
  reports : Table Int SyncReport
  delivered : List (Int × SyncConfigResult)

inductive SyncEvent where
  | begin (nowMs : Int) (targets : List SyncGatewaySelection)
  | complete (seq : Int) (report : SyncReport)
  | collectTimeouts (nowMs timeoutMs : Int)
  | timeOut (seq : Int)

namespace SyncRun

def start : SyncRun where
  maps := SyncMaps.start
  timedOut := []
  requested := []
  given := []
  reports := ∅
  delivered := []

/-- A report counts if its seq was given out and nothing was said about it before. -/
def report (run : SyncRun) (seq : Int) (report : SyncReport) : Table Int SyncReport :=
  if (run.given.any fun waiting => waiting.pending.seq = seq) ∧ run.reports.get seq = none then
    run.reports.put seq report
  else run.reports

def complete (run : SyncRun) (seq : Int) (report : SyncReport) : SyncRun :=
  let completed := run.maps.completeSyncConfig seq report
  { run with
    maps := completed.1
    reports := run.report seq report
    delivered := run.delivered ++
      ((run.maps.pendingBySeq.get seq).bind fun waiting =>
        completed.2.map fun result => (waiting.requestId, result)).toList }

def step (run : SyncRun) : SyncEvent -> SyncRun
  | .begin nowMs targets =>
      let begun := run.maps.beginSyncConfigRequest nowMs targets
      { run with
        maps := begun.1
        requested := run.requested ++ [(run.maps.nextRequestId, targets)]
        given := run.given ++ begun.2 }
  | .complete seq report => run.complete seq report
  | .collectTimeouts nowMs timeoutMs =>
      { run with timedOut := run.timedOut ++ run.maps.timedOutSeqs nowMs timeoutMs }
  | .timeOut seq =>
      if seq ∈ run.timedOut then
        { run.complete seq syncTimeoutReport with timedOut := run.timedOut.erase seq }
      else run

/-- The seqs of a request. -/
def targetsOf (run : SyncRun) (requestId : Int) : List SyncRequest :=
  run.given.filter fun waiting => waiting.requestId = requestId

/-- Those nothing has been said about yet. -/
def openOf (run : SyncRun) (requestId : Int) : List SyncRequest :=
  (run.targetsOf requestId).filter fun waiting => run.reports.get waiting.pending.seq = none

/-- Every report on the request was a success. -/
def succeeded (run : SyncRun) (requestId : Int) : Bool :=
  (run.targetsOf requestId).all fun waiting =>
    (run.reports.get waiting.pending.seq).elim true SyncReport.success

def total (count : SyncReport -> Int) (run : SyncRun) (requestId : Int) : Int :=
  ((run.targetsOf requestId).map fun waiting =>
    (run.reports.get waiting.pending.seq).elim 0 count).sum

def resultsOf (run : SyncRun) (requestId : Int) : List SyncConfigResult :=
  (run.delivered.filter fun entry => entry.1 = requestId).map Prod.snd

/-- A result that says what the reports on the request say. -/
structure Sums (run : SyncRun) (requestId : Int) (result : SyncConfigResult) : Prop where
  success : result.success = run.succeeded requestId
  portCount : result.portCount = run.total SyncReport.portCount requestId
  deviceCount : result.deviceCount = run.total SyncReport.deviceCount requestId

end SyncRun

/-! ## What a request adds to the maps -/

def selection (waiting : SyncRequest) : SyncGatewaySelection where
  gatewayId := waiting.pending.gatewayId
  devices := waiting.pending.devices

namespace SyncMaps

/-- Where the fold over the targets stands after some of them.  The maps it
started from have nothing under the request id and only smaller seqs. -/
structure Begun (maps : SyncMaps) (requestId : Int) (passed : List SyncGatewaySelection)
    (state : SyncMaps × List SyncRequest) : Prop where
  selections : state.2.map selection = passed.filter validTarget
  seqs : (state.2.map fun waiting => waiting.pending.seq).Nodup
  later : maps.nextSeq ≤ state.1.nextSeq
  fresh : forall waiting, waiting ∈ state.2 -> waiting.requestId = requestId ∧
    maps.nextSeq ≤ waiting.pending.seq ∧ waiting.pending.seq < state.1.nextSeq
  pending : forall seq waiting, state.1.pendingBySeq.get seq = some waiting ↔
    waiting ∈ state.2 ∧ waiting.pending.seq = seq ∨
      seq < maps.nextSeq ∧ maps.pendingBySeq.get seq = some waiting
  requests : forall other, state.1.requests.get other =
    if other = requestId ∧ state.2 ≠ [] then some state.2 else maps.requests.get other
  nextRequestId : state.1.nextRequestId = maps.nextRequestId + 1

theorem beginTarget_begun {maps : SyncMaps} {requestId : Int} {passed : List SyncGatewaySelection}
    {state : SyncMaps × List SyncRequest} (unused : maps.requests.get requestId = none)
    (begun : Begun maps requestId passed state) (nowMs : Int) (target : SyncGatewaySelection) :
    Begun maps requestId (passed ++ [target]) (beginTarget nowMs requestId state target) := by
  unfold beginTarget
  by_cases skipped : target.gatewayId = "" ∨ target.devices.isEmpty = true
  · rw [if_pos skipped]
    have invalid : validTarget target = false := by
      rcases skipped with noGateway | noDevices
      · simp [validTarget, noGateway]
      · simp [validTarget, noDevices]
    refine { begun with selections := ?_ }
    rw [begun.selections, List.filter_append, List.filter_cons_of_neg (by simp [invalid]),
      List.filter_nil, List.append_nil]
  · rw [if_neg skipped]
    rw [not_or, Bool.not_eq_true] at skipped
    have valid : validTarget target = true := by
      simp [validTarget, skipped.1, skipped.2]
    refine ⟨?_, ?_, ?_, ?_, ?_, ?_, begun.nextRequestId⟩
    · rw [List.map_append, begun.selections, List.filter_append,
        List.filter_cons_of_pos valid, List.filter_nil]
      rfl
    · rw [List.map_append, List.nodup_append]
      refine ⟨begun.seqs, List.nodup_singleton _, ?_⟩
      rintro seq old new here rfl
      rcases List.mem_map.mp old with ⟨waiting, inside, rfl⟩
      have smaller := (begun.fresh waiting inside).2.2
      rw [List.mem_singleton.mp here] at smaller
      exact lt_irrefl _ smaller
    · exact le_trans begun.later (Int.le_add_one le_rfl)
    · intro waiting inside
      rcases List.mem_append.mp inside with old | new
      · rcases begun.fresh waiting old with ⟨same, least, most⟩
        exact ⟨same, least, Int.lt_add_one_of_le most.le⟩
      · rw [List.mem_singleton.mp new]
        exact ⟨rfl, begun.later, Int.lt_succ _⟩
    · intro seq waiting
      rw [Table.get_put]
      by_cases here : seq = state.1.nextSeq
      · rw [if_pos here, here]
        constructor
        · intro stored
          injection stored with same
          exact Or.inl ⟨List.mem_append_right _ (by rw [same]; exact List.mem_cons_self),
            by rw [← same]⟩
        · rintro (⟨inside, same⟩ | ⟨small, -⟩)
          · rcases List.mem_append.mp inside with old | new
            · have smaller := (begun.fresh waiting old).2.2
              rw [same] at smaller
              exact absurd smaller (lt_irrefl _)
            · rw [List.mem_singleton.mp new]
          · exact absurd (lt_of_lt_of_le small begun.later) (lt_irrefl _)
      · rw [if_neg here, begun.pending, List.mem_append, List.mem_singleton]
        constructor
        · rintro (⟨inside, same⟩ | old)
          · exact Or.inl ⟨Or.inl inside, same⟩
          · exact Or.inr old
        · rintro (⟨inside | new, same⟩ | old)
          · exact Or.inl ⟨inside, same⟩
          · rw [new] at same
            exact absurd same.symm here
          · exact Or.inr old
    · intro other
      rw [Table.get_put]
      by_cases same : other = requestId
      · subst same
        have before : (state.1.requests.get other).getD [] = state.2 := by
          rw [begun.requests other]
          by_cases empty : state.2 = []
          · rw [if_neg (by simp [empty]), unused, empty]
            rfl
          · rw [if_pos ⟨rfl, empty⟩]
            rfl
        rw [if_pos rfl, before, if_pos ⟨rfl, List.concat_ne_nil _ _⟩]
      · rw [if_neg same, begun.requests other, if_neg (by simp [same]), if_neg (by simp [same])]

theorem foldl_begun {maps : SyncMaps} {requestId : Int} (unused : maps.requests.get requestId = none)
    (nowMs : Int) (targets passed : List SyncGatewaySelection)
    (state : SyncMaps × List SyncRequest) (begun : Begun maps requestId passed state) :
    Begun maps requestId (passed ++ targets)
      (targets.foldl (beginTarget nowMs requestId) state) := by
  induction targets generalizing passed state with
  | nil => rwa [List.append_nil]
  | cons target targets ih =>
      rw [List.append_cons]
      exact ih _ _ (beginTarget_begun unused begun nowMs target)

theorem foldl_results (nowMs requestId : Int) (targets : List SyncGatewaySelection)
    (state : SyncMaps × List SyncRequest) :
    (targets.foldl (beginTarget nowMs requestId) state).1.results = state.1.results := by
  induction targets generalizing state with
  | nil => rfl
  | cons target targets ih =>
      rw [List.foldl_cons, ih]
      unfold beginTarget
      split
      · rfl
      · rfl

variable {maps : SyncMaps} (nowMs : Int) (targets : List SyncGatewaySelection)

/-- What a request leaves behind, the aggregate apart. -/
theorem beginSyncConfigRequest_begun (unused : maps.requests.get maps.nextRequestId = none)
    (small : forall seq waiting, maps.pendingBySeq.get seq = some waiting -> seq < maps.nextSeq) :
    Begun maps maps.nextRequestId targets (maps.beginSyncConfigRequest nowMs targets) := by
  have first : Begun maps maps.nextRequestId []
      ({ maps with nextRequestId := maps.nextRequestId + 1 }, []) := by
    refine ⟨rfl, List.nodup_nil, le_rfl, ?_, ?_, ?_, rfl⟩
    · intro waiting inside
      exact absurd inside List.not_mem_nil
    · intro seq waiting
      simp only [List.not_mem_nil, false_and, false_or]
      exact ⟨fun found => ⟨small seq waiting found, found⟩, And.right⟩
    · intro other
      rw [if_neg (by simp)]
  have fold := foldl_begun unused nowMs targets [] _ first
  unfold beginSyncConfigRequest
  dsimp only
  split
  · exact fold
  · exact { fold with }

theorem beginSyncConfigRequest_results :
    (maps.beginSyncConfigRequest nowMs targets).1.results =
      if (maps.beginSyncConfigRequest nowMs targets).2 = [] then maps.results
      else maps.results.put maps.nextRequestId SyncConfigResult.begun := by
  have kept := foldl_results nowMs maps.nextRequestId targets
    ({ maps with nextRequestId := maps.nextRequestId + 1 }, [])
  by_cases empty : (targets.foldl (beginTarget nowMs maps.nextRequestId)
      ({ maps with nextRequestId := maps.nextRequestId + 1 }, [])).2 = []
  · simp only [beginSyncConfigRequest, if_pos empty, kept]
  · simp only [beginSyncConfigRequest, if_neg empty, kept]

end SyncMaps

/-! ## The invariant of the runs -/

namespace SyncRun

/-- The maps are what the seqs given out and the reports on them make of them. -/
structure Booked (run : SyncRun) : Prop where
  seqs : (run.given.map fun waiting => waiting.pending.seq).Nodup
  given : forall waiting, waiting ∈ run.given ->
    waiting.requestId < run.maps.nextRequestId ∧ waiting.pending.seq < run.maps.nextSeq
  reported : forall seq, (run.reports.get seq).isSome = true -> seq < run.maps.nextSeq
  requested : forall requestId targets, (requestId, targets) ∈ run.requested ->
    requestId < run.maps.nextRequestId ∧
      (run.targetsOf requestId).map selection = targets.filter SyncMaps.validTarget
  once : (run.requested.map Prod.fst).Nodup
  pending : forall seq waiting, run.maps.pendingBySeq.get seq = some waiting ↔
    waiting ∈ run.given ∧ waiting.pending.seq = seq ∧ run.reports.get seq = none
  requests : forall requestId, run.maps.requests.get requestId =
    if run.openOf requestId = [] then none else some (run.openOf requestId)
  closed : forall requestId, run.openOf requestId = [] -> run.maps.results.get requestId = none
  aggregate : forall requestId, run.openOf requestId ≠ [] ->
    exists result, run.maps.results.get requestId = some result ∧ run.Sums requestId result
  silent : forall requestId, run.targetsOf requestId = [] ∨ run.openOf requestId ≠ [] ->
    run.resultsOf requestId = []
  answered : forall requestId, run.targetsOf requestId ≠ [] -> run.openOf requestId = [] ->
    exists result, run.resultsOf requestId = [result] ∧ run.Sums requestId result

theorem start_booked : start.Booked where
  seqs := List.nodup_nil
  given := by simp [start]
  reported := by simp [start]
  requested := by simp [start]
  once := List.nodup_nil
  pending := by simp [start, SyncMaps.start]
  requests := by simp [start, SyncMaps.start, openOf, targetsOf]
  closed := by simp [start, SyncMaps.start]
  aggregate := by simp [start, openOf, targetsOf]
  silent := by simp [start, resultsOf]
  answered := by simp [start, targetsOf]

variable {run : SyncRun}

/-- The sums only depend on the seqs of the request and on the reports on them. -/
theorem Sums.of_same {after : SyncRun} {requestId : Int} {result : SyncConfigResult}
    (sums : run.Sums requestId result)
    (targets : after.targetsOf requestId = run.targetsOf requestId)
    (reports : forall waiting, waiting ∈ run.targetsOf requestId ->
      after.reports.get waiting.pending.seq = run.reports.get waiting.pending.seq) :
    after.Sums requestId result := by
  have totals : forall count : SyncReport -> Int,
      after.total count requestId = run.total count requestId := by
    intro count
    unfold total
    rw [targets]
    apply congrArg
    apply List.map_congr_left
    intro waiting inside
    rw [reports waiting inside]
  refine ⟨?_, sums.portCount.trans (totals _).symm, sums.deviceCount.trans (totals _).symm⟩
  rw [sums.success, Bool.eq_iff_iff, succeeded, succeeded, targets, List.all_eq_true,
    List.all_eq_true]
  apply forall₂_congr
  intro waiting inside
  rw [reports waiting inside]

/-- Nothing has been reported yet. -/
theorem Sums.of_silent {requestId : Int}
    (silent : forall waiting, waiting ∈ run.targetsOf requestId ->
      run.reports.get waiting.pending.seq = none) :
    run.Sums requestId SyncConfigResult.begun := by
  have nothing : forall count : SyncReport -> Int, run.total count requestId = 0 := by
    intro count
    apply List.sum_eq_zero
    intro value inside
    rcases List.mem_map.mp inside with ⟨waiting, among, rfl⟩
    rw [silent waiting among]
    rfl
  refine ⟨?_, (nothing _).symm, (nothing _).symm⟩
  apply Eq.symm
  apply List.all_eq_true.mpr
  intro waiting inside
  rw [silent waiting inside]
  rfl

/-! ### A new request -/

theorem targetsOf_next (booked : run.Booked) : run.targetsOf run.maps.nextRequestId = [] := by
  rw [targetsOf, List.filter_eq_nil_iff]
  intro waiting inside
  rw [decide_eq_true_eq]
  exact (booked.given waiting inside).1.ne

theorem begun_maps (booked : run.Booked) (nowMs : Int) (targets : List SyncGatewaySelection) :
    SyncMaps.Begun run.maps run.maps.nextRequestId targets
      (run.maps.beginSyncConfigRequest nowMs targets) := by
  apply SyncMaps.beginSyncConfigRequest_begun
  · rw [booked.requests, openOf, targetsOf_next booked]
    rfl
  · intro seq waiting found
    rcases (booked.pending seq waiting).mp found with ⟨inside, rfl, -⟩
    exact (booked.given waiting inside).2

section Begin

variable (booked : run.Booked) (nowMs : Int) (targets : List SyncGatewaySelection)
include booked

theorem targetsOf_begin (requestId : Int) :
    (run.step (.begin nowMs targets)).targetsOf requestId = run.targetsOf requestId ++
      if requestId = run.maps.nextRequestId then
        (run.maps.beginSyncConfigRequest nowMs targets).2 else [] := by
  have begun := begun_maps booked nowMs targets
  rw [targetsOf, step, List.filter_append]
  apply congrArg
  split
  · rename_i same
    rw [List.filter_eq_self]
    intro waiting inside
    rw [decide_eq_true_eq, same]
    exact (begun.fresh waiting inside).1
  · rename_i other
    rw [List.filter_eq_nil_iff]
    intro waiting inside
    rw [decide_eq_true_eq, (begun.fresh waiting inside).1]
    exact Ne.symm other

theorem openOf_begin (requestId : Int) :
    (run.step (.begin nowMs targets)).openOf requestId = run.openOf requestId ++
      if requestId = run.maps.nextRequestId then
        (run.maps.beginSyncConfigRequest nowMs targets).2 else [] := by
  have begun := begun_maps booked nowMs targets
  rw [openOf, targetsOf_begin booked, List.filter_append]
  apply congrArg
  split
  · rw [List.filter_eq_self]
    intro waiting inside
    rw [decide_eq_true_eq]
    apply Option.not_isSome_iff_eq_none.mp
    intro reported
    exact absurd (booked.reported _ reported) (not_lt.mpr (begun.fresh waiting inside).2.1)
  · rfl

/-- A request gives out its seqs and leaves the other requests as they are. -/
theorem booked_begin : (run.step (.begin nowMs targets)).Booked := by
  have begun := begun_maps booked nowMs targets
  have opened := openOf_begin booked nowMs targets
  have all := targetsOf_begin booked nowMs targets
  have noTargets := targetsOf_next booked
  have noOpen : run.openOf run.maps.nextRequestId = [] := by
    rw [openOf, noTargets]
    rfl
  have sameOpen : forall requestId, requestId ≠ run.maps.nextRequestId ->
      (run.step (.begin nowMs targets)).openOf requestId = run.openOf requestId := by
    intro requestId other
    rw [opened, if_neg other, List.append_nil]
  have sameTargets : forall requestId, requestId ≠ run.maps.nextRequestId ->
      (run.step (.begin nowMs targets)).targetsOf requestId = run.targetsOf requestId := by
    intro requestId other
    rw [all, if_neg other, List.append_nil]
  have newOpen : (run.step (.begin nowMs targets)).openOf run.maps.nextRequestId =
      (run.maps.beginSyncConfigRequest nowMs targets).2 := by
    rw [opened, if_pos rfl, noOpen, List.nil_append]
  have newTargets : (run.step (.begin nowMs targets)).targetsOf run.maps.nextRequestId =
      (run.maps.beginSyncConfigRequest nowMs targets).2 := by
    rw [all, if_pos rfl, noTargets, List.nil_append]
  refine ⟨?_, ?_, ?_, ?_, ?_, ?_, ?_, ?_, ?_, ?_, ?_⟩
  · rw [step, List.map_append, List.nodup_append]
    refine ⟨booked.seqs, begun.seqs, ?_⟩
    rintro seq old new here rfl
    rcases List.mem_map.mp old with ⟨first, before, rfl⟩
    rcases List.mem_map.mp here with ⟨second, after, same⟩
    have smaller := (booked.given first before).2
    have greater := (begun.fresh second after).2.1
    rw [same] at greater
    exact absurd smaller (not_lt.mpr greater)
  · intro waiting inside
    rcases List.mem_append.mp inside with old | new
    · rcases booked.given waiting old with ⟨id, seq⟩
      exact ⟨lt_of_lt_of_le id (by rw [step, begun.nextRequestId]; exact Int.le_add_one le_rfl),
        lt_of_lt_of_le seq begun.later⟩
    · rcases begun.fresh waiting new with ⟨id, -, seq⟩
      refine ⟨?_, seq⟩
      rw [id, step, begun.nextRequestId]
      exact Int.lt_succ _
  · intro seq reported
    exact lt_of_lt_of_le (booked.reported seq reported) begun.later
  · intro requestId wanted inside
    rw [step, begun.nextRequestId]
    rcases List.mem_append.mp inside with old | new
    · rcases booked.requested requestId wanted old with ⟨id, selections⟩
      refine ⟨Int.lt_add_one_of_le id.le, ?_⟩
      rw [← selections]
      exact congrArg _ (sameTargets requestId id.ne)
    · injection List.mem_singleton.mp new with here same
      subst same
      subst here
      refine ⟨Int.lt_succ _, ?_⟩
      rw [← begun.selections]
      exact congrArg _ newTargets
  · rw [step, List.map_append, List.nodup_append]
    refine ⟨booked.once, List.nodup_singleton _, ?_⟩
    rintro requestId old new here rfl
    rcases List.mem_map.mp old with ⟨⟨_, wanted⟩, inside, rfl⟩
    have smaller := (booked.requested _ wanted inside).1
    exact smaller.ne (List.mem_singleton.mp here)
  · intro seq waiting
    refine (begun.pending seq waiting).trans ?_
    rw [step, List.mem_append, booked.pending]
    constructor
    · rintro (⟨inside, same⟩ | ⟨-, inside, same, silent⟩)
      · refine ⟨Or.inr inside, same, ?_⟩
        apply Option.not_isSome_iff_eq_none.mp
        intro reported
        have least := (begun.fresh waiting inside).2.1
        rw [same] at least
        exact absurd (booked.reported seq reported) (not_lt.mpr least)
      · exact ⟨Or.inl inside, same, silent⟩
    · rintro ⟨old | new, same, silent⟩
      · refine Or.inr ⟨?_, old, same, silent⟩
        rw [← same]
        exact (booked.given waiting old).2
      · exact Or.inl ⟨new, same⟩
  · intro requestId
    refine (begun.requests requestId).trans ?_
    by_cases here : requestId = run.maps.nextRequestId
    · rw [here, newOpen, booked.requests, noOpen]
      by_cases empty : (run.maps.beginSyncConfigRequest nowMs targets).2 = []
      · rw [if_neg (by simp [empty]), if_pos rfl, if_pos empty]
      · rw [if_pos ⟨rfl, empty⟩, if_neg empty]
    · rw [if_neg (by simp [here]), sameOpen requestId here, booked.requests]
  · intro requestId closed
    change (run.maps.beginSyncConfigRequest nowMs targets).1.results.get requestId = none
    rw [SyncMaps.beginSyncConfigRequest_results]
    by_cases here : requestId = run.maps.nextRequestId
    · rw [here, newOpen] at closed
      rw [if_pos closed, here]
      exact booked.closed _ noOpen
    · rw [sameOpen requestId here] at closed
      split
      · exact booked.closed requestId closed
      · rw [Table.get_put, if_neg here]
        exact booked.closed requestId closed
  · intro requestId waits
    change exists result,
      (run.maps.beginSyncConfigRequest nowMs targets).1.results.get requestId = some result ∧ _
    rw [SyncMaps.beginSyncConfigRequest_results]
    by_cases here : requestId = run.maps.nextRequestId
    · subst here
      rw [newOpen] at waits
      rw [if_neg waits, Table.get_put, if_pos rfl]
      refine ⟨SyncConfigResult.begun, rfl, Sums.of_silent ?_⟩
      intro waiting inside
      rw [newTargets] at inside
      apply Option.not_isSome_iff_eq_none.mp
      intro reported
      exact absurd (booked.reported _ reported) (not_lt.mpr (begun.fresh waiting inside).2.1)
    · rw [sameOpen requestId here] at waits
      rcases booked.aggregate requestId waits with ⟨result, found, sums⟩
      refine ⟨result, ?_, sums.of_same (sameTargets requestId here) fun _ _ => rfl⟩
      split
      · exact found
      · rw [Table.get_put, if_neg here, found]
  · intro requestId unanswered
    change run.resultsOf requestId = []
    by_cases here : requestId = run.maps.nextRequestId
    · rw [here]
      exact booked.silent _ (Or.inl noTargets)
    · rw [sameOpen requestId here, sameTargets requestId here] at unanswered
      exact booked.silent requestId unanswered
  · intro requestId asked closed
    by_cases here : requestId = run.maps.nextRequestId
    · rw [here, newTargets] at asked
      rw [here, newOpen] at closed
      exact absurd closed asked
    · rw [sameTargets requestId here] at asked
      rw [sameOpen requestId here] at closed
      rcases booked.answered requestId asked closed with ⟨result, found, sums⟩
      exact ⟨result, found, sums.of_same (sameTargets requestId here) fun _ _ => rfl⟩

end Begin

/-! ### A report -/

section Complete

/-- With distinct keys, one report changes one entry of a sum. -/
theorem sum_put {reports : Table Int SyncReport} {list : List SyncRequest} {entry : SyncRequest}
    (nodup : (list.map fun waiting => waiting.pending.seq).Nodup) (inside : entry ∈ list)
    (silent : reports.get entry.pending.seq = none) (report : SyncReport)
    (count : SyncReport -> Int) :
    (list.map fun waiting =>
        ((reports.put entry.pending.seq report).get waiting.pending.seq).elim 0 count).sum =
      (list.map fun waiting => (reports.get waiting.pending.seq).elim 0 count).sum +
        count report := by
  induction list with
  | nil => exact absurd inside List.not_mem_nil
  | cons first rest ih =>
      rw [List.map_cons, List.nodup_cons] at nodup
      rw [List.map_cons, List.sum_cons, List.map_cons, List.sum_cons]
      by_cases same : first.pending.seq = entry.pending.seq
      · have others : (rest.map fun waiting =>
            ((reports.put entry.pending.seq report).get waiting.pending.seq).elim 0 count) =
              rest.map fun waiting => (reports.get waiting.pending.seq).elim 0 count := by
          apply List.map_congr_left
          intro waiting among
          rw [Table.get_put, if_neg]
          intro again
          apply nodup.1
          rw [same, ← again]
          exact List.mem_map_of_mem among
        rw [others, same, Table.get_put, if_pos rfl, silent]
        simp only [Option.elim]
        ring
      · have among : entry ∈ rest := by
          rcases List.mem_cons.mp inside with first | later
          · exact absurd (congrArg (fun waiting => waiting.pending.seq) first).symm same
          · exact later
        rw [Table.get_put, if_neg same, ih nodup.2 among]
        ring

theorem all_put {reports : Table Int SyncReport} {list : List SyncRequest} {entry : SyncRequest}
    (inside : entry ∈ list) (silent : reports.get entry.pending.seq = none) (report : SyncReport) :
    (list.all fun waiting => ((reports.put entry.pending.seq report).get
        waiting.pending.seq).elim true SyncReport.success) =
      ((list.all fun waiting =>
        (reports.get waiting.pending.seq).elim true SyncReport.success) && report.success) := by
  rw [Bool.eq_iff_iff, Bool.and_eq_true, List.all_eq_true, List.all_eq_true]
  constructor
  · intro holds
    have here := holds entry inside
    rw [Table.get_put, if_pos rfl] at here
    refine ⟨?_, here⟩
    intro waiting among
    by_cases same : waiting.pending.seq = entry.pending.seq
    · rw [same, silent]
      rfl
    · have there := holds waiting among
      rwa [Table.get_put, if_neg same] at there
  · rintro ⟨holds, here⟩ waiting among
    rw [Table.get_put]
    split
    · exact here
    · exact holds waiting among

theorem eraseP_seq {list : List SyncRequest} (seq : Int)
    (nodup : (list.map fun waiting => waiting.pending.seq).Nodup) :
    (list.eraseP fun waiting => waiting.pending.seq = seq) =
      list.filter fun waiting => waiting.pending.seq ≠ seq := by
  induction list with
  | nil => rfl
  | cons first rest ih =>
      rw [List.map_cons, List.nodup_cons] at nodup
      by_cases same : first.pending.seq = seq
      · rw [List.eraseP_cons_of_pos (by simp [same]), List.filter_cons_of_neg (by simp [same])]
        apply Eq.symm
        rw [List.filter_eq_self]
        intro waiting among
        rw [decide_eq_true_eq]
        intro again
        apply nodup.1
        rw [same, ← again]
        exact List.mem_map_of_mem among
      · rw [List.eraseP_cons_of_neg (by simp [same]), List.filter_cons_of_pos (by simp [same]),
          ih nodup.2]

/-- A seq that does not wait, or does not wait any more, changes nothing. -/
theorem complete_unknown (booked : run.Booked) {seq : Int} (report : SyncReport)
    (unknown : run.maps.pendingBySeq.get seq = none) : run.complete seq report = run := by
  have nothing : run.report seq report = run.reports := by
    unfold SyncRun.report
    apply if_neg
    rintro ⟨given, silent⟩
    rcases List.any_eq_true.mp given with ⟨waiting, inside, same⟩
    have found := (booked.pending seq waiting).mpr ⟨inside, of_decide_eq_true same, silent⟩
    rw [unknown] at found
    exact absurd found (Option.some_ne_none waiting).symm
  unfold complete SyncMaps.completeSyncConfig
  simp only [unknown, nothing, Option.bind_none, Option.toList_none, List.append_nil]

/-- What a report on a seq that waits makes of the run. -/
structure Reported (run after : SyncRun) (waiting : SyncRequest) (report : SyncReport) : Prop where
  given : after.given = run.given
  requested : after.requested = run.requested
  reports : after.reports = run.reports.put waiting.pending.seq report
  pending : after.maps.pendingBySeq = AList.erase waiting.pending.seq run.maps.pendingBySeq
  nextRequestId : after.maps.nextRequestId = run.maps.nextRequestId
  nextSeq : after.maps.nextSeq = run.maps.nextSeq
  left : exists result, run.Sums waiting.requestId result ∧
    ((run.openOf waiting.requestId).filter
        (fun other => other.pending.seq ≠ waiting.pending.seq) = [] ∧
      after.maps.requests = AList.erase waiting.requestId run.maps.requests ∧
      after.maps.results = AList.erase waiting.requestId
        (run.maps.results.put waiting.requestId (result.add report)) ∧
      after.delivered = run.delivered ++ [(waiting.requestId, (result.add report).finished)] ∨
    (run.openOf waiting.requestId).filter
        (fun other => other.pending.seq ≠ waiting.pending.seq) ≠ [] ∧
      after.maps.requests = run.maps.requests.put waiting.requestId
        ((run.openOf waiting.requestId).filter
          fun other => other.pending.seq ≠ waiting.pending.seq) ∧
      after.maps.results = run.maps.results.put waiting.requestId (result.add report) ∧
      after.delivered = run.delivered)

theorem complete_reported (booked : run.Booked) {seq : Int} {waiting : SyncRequest}
    (report : SyncReport) (found : run.maps.pendingBySeq.get seq = some waiting) :
    Reported run (run.complete seq report) waiting report := by
  rcases (booked.pending seq waiting).mp found with ⟨inside, same, silent⟩
  subst same
  have counted : run.report waiting.pending.seq report =
      run.reports.put waiting.pending.seq report := by
    unfold SyncRun.report
    apply if_pos
    exact ⟨List.any_eq_true.mpr ⟨waiting, inside, decide_eq_true rfl⟩, silent⟩
  have waits : waiting ∈ run.openOf waiting.requestId := by
    rw [openOf, targetsOf, List.mem_filter, List.mem_filter]
    exact ⟨⟨inside, decide_eq_true rfl⟩, decide_eq_true silent⟩
  have listed : run.maps.requests.get waiting.requestId =
      some (run.openOf waiting.requestId) := by
    rw [booked.requests, if_neg (List.ne_nil_of_mem waits)]
  rcases booked.aggregate _ (List.ne_nil_of_mem waits) with ⟨result, stored, sums⟩
  have nodup : ((run.openOf waiting.requestId).map
      fun waiting => waiting.pending.seq).Nodup :=
    booked.seqs.sublist ((List.filter_sublist.trans List.filter_sublist).map _)
  have rest := eraseP_seq waiting.pending.seq nodup
  unfold complete SyncMaps.completeSyncConfig
  simp only [found, counted, listed, stored, Option.getD_some, rest, Option.bind_some]
  split
  · rename_i none
    refine ⟨rfl, rfl, rfl, rfl, rfl, rfl, result, sums, Or.inl ⟨none, rfl, rfl, rfl⟩⟩
  · rename_i some
    refine ⟨rfl, rfl, rfl, rfl, rfl, rfl, result, sums, Or.inr ⟨some, rfl, rfl, ?_⟩⟩
    exact List.append_nil _

section Reported

variable {after : SyncRun} {waiting : SyncRequest} {report : SyncReport}

theorem same_of_seq (booked : run.Booked) {first second : SyncRequest} (left : first ∈ run.given)
    (right : second ∈ run.given) (same : first.pending.seq = second.pending.seq) :
    first = second :=
  List.inj_on_of_nodup_map booked.seqs left right same

theorem Reported.targetsOf (reported : Reported run after waiting report) (requestId : Int) :
    after.targetsOf requestId = run.targetsOf requestId := by
  rw [SyncRun.targetsOf, reported.given]
  rfl

theorem Reported.openOf (reported : Reported run after waiting report) (requestId : Int) :
    after.openOf requestId = (run.openOf requestId).filter
      fun other => other.pending.seq ≠ waiting.pending.seq := by
  rw [SyncRun.openOf, reported.targetsOf, SyncRun.openOf, List.filter_filter]
  apply List.filter_congr
  intro other _
  rw [reported.reports, Table.get_put]
  by_cases same : other.pending.seq = waiting.pending.seq
  · simp [same]
  · simp [same]

/-- The seqs of another request are not concerned. -/
theorem other_seq (booked : run.Booked) (given : waiting ∈ run.given) {requestId : Int}
    (different : requestId ≠ waiting.requestId) {other : SyncRequest}
    (inside : other ∈ run.targetsOf requestId) : other.pending.seq ≠ waiting.pending.seq := by
  rcases List.mem_filter.mp inside with ⟨among, here⟩
  intro same
  rw [same_of_seq booked among given same] at here
  exact different (of_decide_eq_true here).symm

theorem Reported.openOf_other (booked : run.Booked) (given : waiting ∈ run.given)
    (reported : Reported run after waiting report) {requestId : Int}
    (different : requestId ≠ waiting.requestId) :
    after.openOf requestId = run.openOf requestId := by
  rw [reported.openOf, List.filter_eq_self]
  intro other inside
  rw [decide_eq_true_eq]
  exact other_seq booked given different (List.mem_filter.mp inside).1

theorem Reported.sums_other (booked : run.Booked) (given : waiting ∈ run.given)
    (reported : Reported run after waiting report) {requestId : Int}
    (different : requestId ≠ waiting.requestId) {result : SyncConfigResult}
    (sums : run.Sums requestId result) : after.Sums requestId result := by
  apply sums.of_same (reported.targetsOf requestId)
  intro other inside
  rw [reported.reports, Table.get_put, if_neg (other_seq booked given different inside)]

theorem Reported.sums_here (booked : run.Booked) (given : waiting ∈ run.given)
    (silent : run.reports.get waiting.pending.seq = none)
    (reported : Reported run after waiting report) {result : SyncConfigResult}
    (sums : run.Sums waiting.requestId result) :
    after.Sums waiting.requestId (result.add report) := by
  have inside : waiting ∈ run.targetsOf waiting.requestId :=
    List.mem_filter.mpr ⟨given, decide_eq_true rfl⟩
  have nodup : ((run.targetsOf waiting.requestId).map fun other => other.pending.seq).Nodup :=
    booked.seqs.sublist (List.filter_sublist.map _)
  have totals : forall count : SyncReport -> Int, after.total count waiting.requestId =
      run.total count waiting.requestId + count report := by
    intro count
    rw [total, reported.targetsOf, reported.reports]
    exact sum_put nodup inside silent report count
  refine ⟨?_, ?_, ?_⟩
  · rw [succeeded, reported.targetsOf, reported.reports, all_put inside silent report]
    exact congrArg (· && report.success) sums.success
  · rw [totals, ← sums.portCount]
    rfl
  · rw [totals, ← sums.deviceCount]
    rfl

theorem Reported.resultsOf_other (reported : Reported run after waiting report) {requestId : Int}
    (different : requestId ≠ waiting.requestId) :
    after.resultsOf requestId = run.resultsOf requestId := by
  rcases reported.left with ⟨result, -, ⟨-, -, -, delivered⟩ | ⟨-, -, -, delivered⟩⟩
  · rw [resultsOf, delivered, List.filter_append,
      List.filter_cons_of_neg (by simpa using Ne.symm different), List.filter_nil, List.append_nil]
    rfl
  · rw [resultsOf, delivered]
    rfl

/-- A report on a seq that waits closes the seq, and the request with its last one. -/
theorem Reported.booked (before : run.Booked)
    (found : run.maps.pendingBySeq.get waiting.pending.seq = some waiting)
    (reported : Reported run after waiting report) : after.Booked := by
  rcases (before.pending _ waiting).mp found with ⟨given, -, silent⟩
  rcases reported.left with ⟨result, sums, left⟩
  have here := reported.sums_here before given silent sums
  have asked : run.targetsOf waiting.requestId ≠ [] :=
    List.ne_nil_of_mem (List.mem_filter.mpr ⟨given, decide_eq_true rfl⟩)
  have waits : run.openOf waiting.requestId ≠ [] :=
    List.ne_nil_of_mem (List.mem_filter.mpr
      ⟨List.mem_filter.mpr ⟨given, decide_eq_true rfl⟩, decide_eq_true silent⟩)
  refine ⟨?_, ?_, ?_, ?_, ?_, ?_, ?_, ?_, ?_, ?_, ?_⟩
  · rw [reported.given]
    exact before.seqs
  · rw [reported.given, reported.nextRequestId, reported.nextSeq]
    exact before.given
  · intro seq
    rw [reported.reports, reported.nextSeq, Table.get_put]
    split
    · rename_i same
      intro _
      rw [same]
      exact (before.given waiting given).2
    · exact before.reported seq
  · intro requestId targets
    rw [reported.requested, reported.nextRequestId, reported.targetsOf]
    exact before.requested requestId targets
  · rw [reported.requested]
    exact before.once
  · intro seq other
    rw [reported.pending, reported.given, reported.reports, Table.get_erase, Table.get_put]
    by_cases same : seq = waiting.pending.seq
    · rw [if_pos same, if_pos same]
      simp
    · rw [if_neg same, if_neg same]
      exact before.pending seq other
  · intro requestId
    by_cases different : requestId = waiting.requestId
    · subst different
      rw [reported.openOf]
      rcases left with ⟨last, requests, -⟩ | ⟨more, requests, -⟩
      · rw [requests, last, Table.get_erase, if_pos rfl, if_pos rfl]
      · rw [requests, Table.get_put, if_pos rfl, if_neg more]
    · rw [reported.openOf_other before given different, ← before.requests]
      rcases left with ⟨-, requests, -⟩ | ⟨-, requests, -⟩
      · rw [requests, Table.get_erase, if_neg different]
      · rw [requests, Table.get_put, if_neg different]
  · intro requestId closed
    by_cases different : requestId = waiting.requestId
    · subst different
      rw [reported.openOf] at closed
      rcases left with ⟨-, -, results, -⟩ | ⟨more, -⟩
      · rw [results, Table.get_erase, if_pos rfl]
      · exact absurd closed more
    · rw [reported.openOf_other before given different] at closed
      have absent := before.closed requestId closed
      rcases left with ⟨-, -, results, -⟩ | ⟨-, -, results, -⟩
      · rw [results, Table.get_erase, if_neg different, Table.get_put, if_neg different, absent]
      · rw [results, Table.get_put, if_neg different, absent]
  · intro requestId opened
    by_cases different : requestId = waiting.requestId
    · subst different
      rw [reported.openOf] at opened
      rcases left with ⟨last, -⟩ | ⟨-, -, results, -⟩
      · exact absurd last opened
      · exact ⟨result.add report, by rw [results, Table.get_put, if_pos rfl], here⟩
    · rw [reported.openOf_other before given different] at opened
      rcases before.aggregate requestId opened with ⟨other, stored, others⟩
      refine ⟨other, ?_, reported.sums_other before given different others⟩
      rcases left with ⟨-, -, results, -⟩ | ⟨-, -, results, -⟩
      · rw [results, Table.get_erase, if_neg different, Table.get_put, if_neg different, stored]
      · rw [results, Table.get_put, if_neg different, stored]
  · intro requestId unanswered
    by_cases different : requestId = waiting.requestId
    · subst different
      rw [reported.targetsOf, reported.openOf] at unanswered
      rcases left with ⟨last, -⟩ | ⟨-, -, -, delivered⟩
      · rcases unanswered with nothing | open_
        · exact absurd nothing asked
        · exact absurd last open_
      · rw [resultsOf, delivered]
        exact before.silent _ (Or.inr waits)
    · rw [reported.targetsOf, reported.openOf_other before given different] at unanswered
      rw [reported.resultsOf_other different]
      exact before.silent requestId unanswered
  · intro requestId wanted closed
    rw [reported.targetsOf] at wanted
    by_cases different : requestId = waiting.requestId
    · subst different
      rw [reported.openOf] at closed
      rcases left with ⟨-, -, -, delivered⟩ | ⟨more, -⟩
      · refine ⟨(result.add report).finished, ?_, here.success, here.portCount, here.deviceCount⟩
        have nothing := before.silent _ (Or.inr waits)
        rw [resultsOf] at nothing ⊢
        rw [delivered, List.filter_append, List.map_append, nothing, List.nil_append,
          List.filter_cons_of_pos (by simp)]
        rfl
      · exact absurd closed more
    · rw [reported.openOf_other before given different] at closed
      rcases before.answered requestId wanted closed with ⟨other, stored, others⟩
      refine ⟨other, ?_, reported.sums_other before given different others⟩
      rw [reported.resultsOf_other different, stored]

end Reported

theorem booked_complete (booked : run.Booked) (seq : Int) (report : SyncReport) :
    (run.complete seq report).Booked := by
  cases found : run.maps.pendingBySeq.get seq with
  | none =>
      rw [complete_unknown booked report found]
      exact booked
  | some waiting =>
      have same := ((booked.pending seq waiting).mp found).2.1
      subst same
      exact (complete_reported booked report found).booked booked found

end Complete

/-- What the scan has collected does not matter to the maps. -/
theorem Booked.timedOut (booked : run.Booked) (seqs : List Int) :
    Booked { run with timedOut := seqs } where
  seqs := booked.seqs
  given := booked.given
  reported := booked.reported
  requested := booked.requested
  once := booked.once
  pending := booked.pending
  requests := booked.requests
  closed := booked.closed
  aggregate := by
    intro requestId opened
    rcases booked.aggregate requestId opened with ⟨result, stored, sums⟩
    exact ⟨result, stored, sums.of_same rfl fun _ _ => rfl⟩
  silent := booked.silent
  answered := by
    intro requestId asked closed
    rcases booked.answered requestId asked closed with ⟨result, stored, sums⟩
    exact ⟨result, stored, sums.of_same rfl fun _ _ => rfl⟩

theorem booked_step (booked : run.Booked) (event : SyncEvent) : (run.step event).Booked := by
  cases event with
  | begin nowMs targets => exact booked_begin booked nowMs targets
  | complete seq report => exact booked_complete booked seq report
  | collectTimeouts nowMs timeoutMs => exact booked.timedOut _
  | timeOut seq =>
      change (if seq ∈ run.timedOut then
        { run.complete seq syncTimeoutReport with timedOut := run.timedOut.erase seq }
        else run).Booked
      split
      · exact (booked_complete booked seq syncTimeoutReport).timedOut _
      · exact booked

end SyncRun

def syncSystem : TransitionSystem SyncRun SyncEvent where
  initial := SyncRun.start
  step := SyncRun.step

theorem sync_booked (events : List SyncEvent) : (syncSystem.run events).Booked :=
  syncSystem.invariant_everywhere SyncRun.start_booked (fun _ event booked =>
    SyncRun.booked_step booked event) events

namespace SyncRun

/-- The three maps speak of the same requests and of the same seqs. -/
structure MapsAgree (maps : SyncMaps) : Prop where
  seqs : forall seq, (maps.pendingBySeq.get seq).isSome = true ↔
    exists requestId pendingList waiting, maps.requests.get requestId = some pendingList ∧
      waiting ∈ pendingList ∧ waiting.pending.seq = seq
  aggregates : forall requestId, (maps.results.get requestId).isSome = true ↔
    (maps.requests.get requestId).isSome = true

/-- The request was answered with one result if something was reported on each
of its seqs, and with none before. -/
def AnsweredOnce (run : SyncRun) (requestId : Int) : Prop :=
  (run.openOf requestId = [] ->
    exists result, run.resultsOf requestId = [result] ∧ run.Sums requestId result) ∧
  (run.openOf requestId ≠ [] -> run.resultsOf requestId = [])

theorem Booked.mapsAgree {run : SyncRun} (booked : run.Booked) : MapsAgree run.maps where
  seqs := by
    intro seq
    rw [Option.isSome_iff_exists]
    constructor
    · rintro ⟨waiting, found⟩
      rcases (booked.pending seq waiting).mp found with ⟨inside, same, silent⟩
      have waits : waiting ∈ run.openOf waiting.requestId := by
        rw [openOf, targetsOf, List.mem_filter, List.mem_filter, same]
        exact ⟨⟨inside, decide_eq_true rfl⟩, decide_eq_true silent⟩
      refine ⟨waiting.requestId, run.openOf waiting.requestId, waiting, ?_, waits, same⟩
      rw [booked.requests, if_neg (List.ne_nil_of_mem waits)]
    · rintro ⟨requestId, pendingList, waiting, listed, among, rfl⟩
      rw [booked.requests] at listed
      split at listed
      · exact absurd listed (Option.some_ne_none _).symm
      · injection listed with same
        rw [← same] at among
        rcases List.mem_filter.mp among with ⟨given, silent⟩
        exact ⟨waiting, (booked.pending _ waiting).mpr
          ⟨(List.mem_filter.mp given).1, rfl, of_decide_eq_true silent⟩⟩
  aggregates := by
    intro requestId
    rw [booked.requests]
    by_cases closed : run.openOf requestId = []
    · simp [closed, booked.closed requestId closed]
    · rcases booked.aggregate requestId closed with ⟨result, stored, -⟩
      rw [if_neg closed, stored]
      simp

end SyncRun

end Pc
end Imx6Gateway
