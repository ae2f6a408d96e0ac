import Imx6Gateway.Library.LeastRows
import Imx6Gateway.Library.Transition
import Imx6Gateway.Ui.AlarmManager

namespace Imx6Gateway
namespace Ui

open Library

/-!
# The page with the alarms

The page lists the alarms that pass its filter, the newest first.  It makes the
list anew when the alarms change and when the user asks for it, but not when the
filter is changed.  Its button acknowledges what passes the filter at that
moment, which need not be what is listed.
-/

inductive AlarmLevel where
  | all
  | critical
  | high
  | medium
  | low
deriving DecidableEq

def AlarmLevel.currentData : AlarmLevel -> String
  | .all => ""
  | .critical => "critical"
  | .high => "high"
  | .medium => "medium"
  | .low => "low"

def AlarmLevel.currentText : AlarmLevel -> String
  | .all => "全部"
  | .critical => "严重"
  | .high => "高"
  | .medium => "中"
  | .low => "低"

inductive AlarmStateChoice where
  | all
  | active
  | acknowledged
  | recovered
deriving DecidableEq

def AlarmStateChoice.currentData : AlarmStateChoice -> String
  | .all => ""
  | .active => "active"
  | .acknowledged => "acknowledged"
  | .recovered => "recovered"

inductive AlarmRange where
  | today
  | last24h
  | all
deriving DecidableEq

/-- What is chosen in the three boxes of the page. -/
structure AlarmFilter where
  level : AlarmLevel
  state : AlarmStateChoice
  range : AlarmRange

/-- The time, and when the day began. -/
structure AlarmClock where
  nowMs : Int
  todayStart : Int

def normalizedMs (timestamp : Int) : Int :=
  if timestamp ≤ 0 then 0
  else if 100000000000 < timestamp then timestamp
  else timestamp * 1000

namespace AlarmFilter

variable (filter : AlarmFilter) (clock : AlarmClock) (alarm : AlarmRecord)

def matchesLevel : Bool :=
  filter.level.currentData = "" || alarm.level = filter.level.currentData ||
    alarm.level = filter.level.currentText

def matchesState : Bool :=
  filter.state.currentData = "" || alarm.state = filter.state.currentData

def matchesTimeRange : Bool :=
  match filter.range with
  | .all => true
  | .last24h =>
      0 < normalizedMs alarm.startTime &&
        clock.nowMs - 24 * 60 * 60 * 1000 ≤ normalizedMs alarm.startTime &&
        normalizedMs alarm.startTime ≤ clock.nowMs
  | .today =>
      0 < normalizedMs alarm.startTime && clock.todayStart ≤ normalizedMs alarm.startTime &&
        normalizedMs alarm.startTime ≤ clock.nowMs

def passes : Bool :=
  filter.matchesLevel alarm && filter.matchesState alarm && filter.matchesTimeRange clock alarm

/-- The first of two alarms in the list does not begin before the second. -/
def notOlder (left right : AlarmRecord) : Prop :=
  normalizedMs right.startTime ≤ normalizedMs left.startTime

instance : DecidableRel notOlder :=
  fun left right => Int.decLe (normalizedMs right.startTime) (normalizedMs left.startTime)

def filteredAlarms (alarms : Alarms) : List AlarmRecord :=
  (alarms.values.filter (filter.passes clock)).mergeSort fun left right => notOlder left right

theorem filteredAlarms_perm (alarms : Alarms) :
    (filter.filteredAlarms clock alarms).Perm (alarms.values.filter (filter.passes clock)) :=
  List.mergeSort_perm _ _

theorem pairwise_filteredAlarms (alarms : Alarms) :
    (filter.filteredAlarms clock alarms).Pairwise notOlder :=
  pairwise_mergeSort_key
    (fun alarm : AlarmRecord => OrderDual.toDual (normalizedMs alarm.startTime)) _

theorem filteredAlarms_empty : filter.filteredAlarms clock ∅ = [] := by
  apply List.Perm.eq_nil
  exact filter.filteredAlarms_perm clock ∅

variable {alarms : Alarms} (keyed : KeyedAlarms alarms)
include keyed

theorem mem_filteredAlarms : alarm ∈ filter.filteredAlarms clock alarms ↔
    alarms.get alarm.alarmId = some alarm ∧ filter.passes clock alarm = true := by
  rw [(filter.filteredAlarms_perm clock alarms).mem_iff, List.mem_filter, keyed.mem_values]

theorem nodup_filteredAlarms :
    ((filter.filteredAlarms clock alarms).map AlarmRecord.alarmId).Nodup := by
  have same := (filter.filteredAlarms_perm clock alarms).map AlarmRecord.alarmId
  exact same.nodup_iff.mpr (keyed.nodup_values.sublist (List.filter_sublist.map _))

end AlarmFilter

/-- The page, with the alarms of the manager beside it. -/
structure AlarmLogPage where
  alarms : Alarms
  filter : AlarmFilter
  table : List AlarmRecord

inductive AlarmLogEvent where
  | received (clock : AlarmClock) (frame : String)
  | operated (clock : AlarmClock) (operation : AlarmOperation)
  | filtered (filter : AlarmFilter)
  | queried (clock : AlarmClock)

/-- When the list is made, and for what. -/
structure AlarmRefresh where
  filter : AlarmFilter
  clock : AlarmClock

namespace AlarmLogPage

def constructed : AlarmLogPage where
  alarms := ∅
  filter := ⟨.all, .all, .today⟩
  table := []

def refreshTable (clock : AlarmClock) (page : AlarmLogPage) : AlarmLogPage :=
  { page with table := page.filter.filteredAlarms clock page.alarms }

/-- The manager does something, and the page hears of it if the alarms change. -/
def operated (clock : AlarmClock) (operation : AlarmOperation) (page : AlarmLogPage) :
    AlarmLogPage :=
  let after : AlarmLogPage := { page with alarms := (operation.apply page.alarms).1 }
  if (operation.apply page.alarms).2 then after.refreshTable clock else after

def step (page : AlarmLogPage) : AlarmLogEvent -> AlarmLogPage
  | .received clock frame =>
      match alarmOperation clock.nowMs frame with
      | none => page
      | some operation => page.operated clock operation
  | .operated clock operation => page.operated clock operation
  | .filtered filter => { page with filter := filter }
  | .queried clock => page.refreshTable clock

def system : TransitionSystem AlarmLogPage AlarmLogEvent where
  initial := constructed
  step := step

/-- What the button asks for, alarm by alarm. -/
def acknowledgeVisibleActiveAlarms (clock : AlarmClock) (page : AlarmLogPage) : List String :=
  ((page.filter.filteredAlarms clock page.alarms).filter
    fun alarm => alarm.state = "active").map AlarmRecord.alarmId

/-! ## The list over a whole run -/

def refreshedBy (clock : AlarmClock) (operation : AlarmOperation) (page : AlarmLogPage) :
    Option AlarmRefresh :=
  if (operation.apply page.alarms).2 then some ⟨page.filter, clock⟩ else none

/-- Whether an event makes the list anew. -/
def refreshed (page : AlarmLogPage) : AlarmLogEvent -> Option AlarmRefresh
  | .received clock frame =>
      match alarmOperation clock.nowMs frame with
      | none => none
      | some operation => page.refreshedBy clock operation
  | .operated clock operation => page.refreshedBy clock operation
  | .filtered _ => none
  | .queried clock => some ⟨page.filter, clock⟩

/-- When the list was made last, from a page on whose list was made at `made`. -/
def lastRefresh : AlarmLogPage -> AlarmRefresh -> List AlarmLogEvent -> AlarmRefresh
  | _, made, [] => made
  | page, made, event :: events =>
      lastRefresh (page.step event) ((page.refreshed event).getD made) events

/-- The list is of the alarms as they are now, filtered as they were then. -/
structure Lists (page : AlarmLogPage) (made : AlarmRefresh) : Prop where
  keyed : KeyedAlarms page.alarms
  table : page.table = made.filter.filteredAlarms made.clock page.alarms

theorem lists_constructed (clock : AlarmClock) :
    Lists constructed ⟨constructed.filter, clock⟩ where
  keyed := keyedAlarms_empty
  table := (AlarmFilter.filteredAlarms_empty _ _).symm

theorem Lists.operated {page : AlarmLogPage} {made : AlarmRefresh} (lists : Lists page made)
    (clock : AlarmClock) (operation : AlarmOperation) :
    Lists (page.operated clock operation) ((page.refreshedBy clock operation).getD made) := by
  have keyed := lists.keyed.apply operation
  unfold AlarmLogPage.operated refreshedBy
  by_cases told : (operation.apply page.alarms).2 = true
  · rw [if_pos told, if_pos told]
    exact ⟨keyed, rfl⟩
  · have same := operation.silent (Bool.eq_false_iff.mpr told)
    rw [if_neg told, if_neg told, same]
    exact lists

/-- The list is made anew whenever the alarms change. -/
theorem Lists.step {page : AlarmLogPage} {made : AlarmRefresh} (lists : Lists page made)
    (event : AlarmLogEvent) : Lists (page.step event) ((page.refreshed event).getD made) := by
  cases event with
  | received clock frame =>
      rw [AlarmLogPage.step, refreshed]
      cases alarmOperation clock.nowMs frame with
      | none => exact lists
      | some operation => exact lists.operated clock operation
  | operated clock operation => exact lists.operated clock operation
  | filtered filter => exact ⟨lists.keyed, lists.table⟩
  | queried clock => exact ⟨lists.keyed, rfl⟩

theorem Lists.runFrom {page : AlarmLogPage} {made : AlarmRefresh} (lists : Lists page made)
    (events : List AlarmLogEvent) :
    Lists (system.runFrom page events) (lastRefresh page made events) := by
  induction events generalizing page made with
  | nil => exact lists
  | cons event events ih => exact ih (lists.step event)

/-- When the list was made last in a run of the page; it is made at `opened` first. -/
def refreshOfRun (opened : AlarmClock) (events : List AlarmLogEvent) : AlarmRefresh :=
  lastRefresh constructed ⟨constructed.filter, opened⟩ events

theorem lists_run (opened : AlarmClock) (events : List AlarmLogEvent) :
    Lists (system.run events) (refreshOfRun opened events) :=
  (lists_constructed opened).runFrom events

/-- In every run the page lists the alarms that are held now, each once and the
newest first, and of these the ones that passed the filter when it last made its list. -/
theorem alarms_listed_run (opened : AlarmClock) (events : List AlarmLogEvent) :
    ((system.run events).table.map AlarmRecord.alarmId).Nodup ∧
    (system.run events).table.Pairwise AlarmFilter.notOlder ∧
    forall alarm, alarm ∈ (system.run events).table ↔
      (system.run events).alarms.get alarm.alarmId = some alarm ∧
        (refreshOfRun opened events).filter.passes (refreshOfRun opened events).clock alarm =
          true := by
  have lists := lists_run opened events
  rw [lists.table]
  refine ⟨?_, ?_, ?_⟩
  · exact AlarmFilter.nodup_filteredAlarms _ _ lists.keyed
  · exact AlarmFilter.pairwise_filteredAlarms _ _ _
  · intro alarm
    exact AlarmFilter.mem_filteredAlarms _ _ alarm lists.keyed

theorem mem_acknowledgeVisibleActiveAlarms {page : AlarmLogPage} (keyed : KeyedAlarms page.alarms)
    {clock : AlarmClock} {alarmId : String} :
    alarmId ∈ page.acknowledgeVisibleActiveAlarms clock ↔
      exists alarm, page.alarms.get alarmId = some alarm ∧
        page.filter.passes clock alarm = true ∧ alarm.state = "active" := by
  unfold acknowledgeVisibleActiveAlarms
  rw [List.mem_map]
  constructor
  · rintro ⟨alarm, inside, rfl⟩
    rcases List.mem_filter.mp inside with ⟨among, active⟩
    rcases (AlarmFilter.mem_filteredAlarms _ _ alarm keyed).mp among with ⟨held, passes⟩
    exact ⟨alarm, held, passes, of_decide_eq_true active⟩
  · rintro ⟨alarm, held, passes, active⟩
    have here := keyed alarmId alarm held
    refine ⟨alarm, List.mem_filter.mpr ⟨?_, decide_eq_true active⟩, here⟩
    apply (AlarmFilter.mem_filteredAlarms _ _ alarm keyed).mpr
    rw [here]
    exact ⟨held, passes⟩

/-- The button asks for no alarm twice, and only for alarms that are active.  It
asks for listed ones alone exactly if each active alarm that passes the filter
now has also passed it when the list was made. -/
theorem listed_acknowledged_iff (opened clock : AlarmClock) (events : List AlarmLogEvent) :
    ((system.run events).acknowledgeVisibleActiveAlarms clock).Nodup ∧
    (forall alarmId, alarmId ∈ (system.run events).acknowledgeVisibleActiveAlarms clock ->
      alarmId ∈ activeAlarms (system.run events).alarms) ∧
    ((forall alarmId, alarmId ∈ (system.run events).acknowledgeVisibleActiveAlarms clock ->
        alarmId ∈ (system.run events).table.map AlarmRecord.alarmId) ↔
      forall alarm, alarm ∈ (system.run events).alarms.values -> alarm.state = "active" ->
        (system.run events).filter.passes clock alarm = true ->
        (refreshOfRun opened events).filter.passes (refreshOfRun opened events).clock alarm =
          true) := by
  have lists := lists_run opened events
  generalize system.run events = page at lists
  generalize refreshOfRun opened events = made at lists
  refine ⟨?_, ?_, ?_⟩
  · exact (AlarmFilter.nodup_filteredAlarms _ _ lists.keyed).sublist (List.filter_sublist.map _)
  · intro alarmId asked
    rcases (mem_acknowledgeVisibleActiveAlarms lists.keyed).mp asked with
      ⟨alarm, held, _, active⟩
    exact mem_activeAlarms.mpr ⟨alarm, held, active⟩
  · rw [lists.table]
    constructor
    · intro listed alarm inside active passes
      have held := lists.keyed.mem_values.mp inside
      have asked := (mem_acknowledgeVisibleActiveAlarms lists.keyed).mpr
        ⟨alarm, held, passes, active⟩
      rcases List.mem_map.mp (listed alarm.alarmId asked) with ⟨other, among, same⟩
      have found := (AlarmFilter.mem_filteredAlarms _ _ other lists.keyed).mp among
      rw [same, held] at found
      rw [Option.some.inj found.1]
      exact found.2
    · intro passed alarmId asked
      rcases (mem_acknowledgeVisibleActiveAlarms lists.keyed).mp asked with
        ⟨alarm, held, passes, active⟩
      have here := lists.keyed alarmId alarm held
      have found : page.alarms.get alarm.alarmId = some alarm := by
        rw [here]
        exact held
      have inside := lists.keyed.mem_values.mpr found
      refine List.mem_map.mpr ⟨alarm, ?_, here⟩
      exact (AlarmFilter.mem_filteredAlarms _ _ alarm lists.keyed).mpr
        ⟨found, passed alarm inside active passes⟩

end AlarmLogPage

end Ui
end Imx6Gateway
