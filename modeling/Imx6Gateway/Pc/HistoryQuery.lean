import Imx6Gateway.Library.LeastRows
import Imx6Gateway.Pc.IpcMessageHandler

namespace Imx6Gateway
namespace Pc

open Library

/-!
# Reading the history of a point

`queryHistoryPoints` corrects the bounds of a query and reads the rows of the
point between them, the oldest first.
-/

/-- The rows that are found, and whether and why not the query has succeeded. -/
structure HistoryAnswer where
  points : List TelemetryPoint
  ok : Bool
  reason : String

namespace HistoryQuery

def firstMs (query : HistoryQuery) : Int :=
  if query.startMs < 0 then 0 else query.startMs

/-- A query without an end has no upper bound. -/
def lastMs (query : HistoryQuery) : Int :=
  if query.endMs ≤ 0 then 9223372036854775807 else query.endMs

def rowLimit (query : HistoryQuery) : Nat :=
  if query.limit ≤ 0 then 1000 else if 5000 < query.limit then 5000 else query.limit.toNat

def selects (query : HistoryQuery) (point : TelemetryPoint) : Bool :=
  point.pointId = query.pointId && query.firstMs ≤ point.timestampMs &&
    point.timestampMs ≤ query.lastMs

theorem rowLimit_le (query : HistoryQuery) : query.rowLimit ≤ 5000 := by
  unfold rowLimit
  split
  · omega
  · split <;> omega

/-- The oldest rows that the query selects, in order, and all of them if there
are not too many. -/
structure Oldest (query : HistoryQuery) (rows points : List TelemetryPoint) : Prop where
  ascending : points.Pairwise fun first second => first.timestampMs ≤ second.timestampMs
  rest : exists rest, (points ++ rest).Perm (rows.filter query.selects) ∧
    (rest ≠ [] -> points.length = query.rowLimit) ∧
    forall point, point ∈ points -> forall other, other ∈ rest ->
      point.timestampMs ≤ other.timestampMs

end HistoryQuery

/-- The database may fail to run the query. -/
def Database.queryHistoryPoints (database : Database) (works : Bool) (query : HistoryQuery) :
    HistoryAnswer :=
  if query.pointId = "" then ⟨[], false, "invalid_point_id"⟩
  else if !database.isOpen then ⟨[], false, "db_not_open"⟩
  else if query.lastMs < query.firstMs then ⟨[], false, "invalid_time_range"⟩
  else if !works then ⟨[], false, "db_query_failed"⟩
  else
    let points := leastRows TelemetryPoint.timestampMs query.rowLimit
      (database.telemetryHistory.filter query.selects)
    ⟨points, true, if points.isEmpty then "no_data" else ""⟩

theorem queryHistoryPoints_ok {database : Database} {works : Bool} {query : HistoryQuery}
    (ok : (database.queryHistoryPoints works query).ok = true) :
    query.Oldest database.telemetryHistory (database.queryHistoryPoints works query).points := by
  have least : (database.queryHistoryPoints works query).points =
      leastRows TelemetryPoint.timestampMs query.rowLimit
        (database.telemetryHistory.filter query.selects) := by
    unfold Database.queryHistoryPoints at ok ⊢
    split_ifs at ok ⊢
    rfl
  rw [least]
  exact ⟨pairwise_leastRows _ _ _, leastRows_rest _ _ _⟩

/-- A failed query finds nothing and says why. -/
theorem queryHistoryPoints_failed {database : Database} {works : Bool} {query : HistoryQuery}
    (failed : (database.queryHistoryPoints works query).ok = false) :
    (database.queryHistoryPoints works query).points = [] ∧
      (database.queryHistoryPoints works query).reason ≠ "" := by
  unfold Database.queryHistoryPoints at failed ⊢
  split_ifs at failed ⊢
  · exact ⟨rfl, by decide⟩
  · exact ⟨rfl, by decide⟩
  · exact ⟨rfl, by decide⟩
  · exact ⟨rfl, by decide⟩

theorem length_queryHistoryPoints (database : Database) (works : Bool) (query : HistoryQuery) :
    (database.queryHistoryPoints works query).points.length ≤ 5000 := by
  unfold Database.queryHistoryPoints
  split_ifs
  · exact Nat.zero_le _
  · exact Nat.zero_le _
  · exact Nat.zero_le _
  · exact Nat.zero_le _
  · dsimp only
    rw [length_leastRows]
    exact (min_le_left _ _).trans query.rowLimit_le

end Pc
end Imx6Gateway
