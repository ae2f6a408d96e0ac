import Imx6Gateway.Board.Publications

namespace Imx6Gateway
namespace Board

open Library

/-!
# Which changes of a device's state are noticed

`check_device_status_changed` remembers the validity of the devices in a table
of 64 entries.  An entry is taken when a device reports for the first time and
is never given back, so the table knows the first 64 devices that have ever
reported, whatever has become of them.
-/

/-- A published state of a device.  Its `statusChanged` flag is the result of
`check_device_status_changed`. -/
structure StatusReport where
  slot : Int
  deviceId : Int
  valid : Bool
deriving DecidableEq

namespace StatusReport

def device (report : StatusReport) : Int × Int :=
  (report.slot, report.deviceId)

def check (cache : StatusCache) (report : StatusReport) : Bool × StatusCache :=
  checkDeviceStatusChanged cache report.slot report.deviceId report.valid

def system : TransitionSystem StatusCache StatusReport where
  initial := .empty DeviceStatus statusCacheSize
  step := fun cache report => (report.check cache).2

/-! ## What the reports say -/

/-- The last reported validity of a device. -/
def lastValid (reports : List StatusReport) (device : Int × Int) : Option Bool :=
  (reports.reverse.find? fun report => report.device = device).map StatusReport.valid

/-- The devices in the order of their first reports. -/
def devices (reports : List StatusReport) : List (Int × Int) :=
  reports.foldl (fun known report =>
    if report.device ∈ known then known else known ++ [report.device]) []

/-- The report differs from the last one of its device. -/
def Changes (before : List StatusReport) (report : StatusReport) : Prop :=
  lastValid before report.device = some (!report.valid)

theorem lastValid_append (reports : List StatusReport) (report : StatusReport)
    (device : Int × Int) :
    lastValid (reports ++ [report]) device =
      if report.device = device then some report.valid else lastValid reports device := by
  rw [lastValid, List.reverse_append, List.reverse_singleton, List.singleton_append,
    List.find?_cons]
  by_cases same : report.device = device
  · rw [decide_eq_true same, if_pos same]
    rfl
  · rw [decide_eq_false same, if_neg same]
    rfl

theorem devices_append (reports : List StatusReport) (report : StatusReport) :
    devices (reports ++ [report]) =
      if report.device ∈ devices reports then devices reports
      else devices reports ++ [report.device] := by
  rw [devices, List.foldl_append]
  rfl

theorem lastValid_isSome_iff (reports : List StatusReport) (device : Int × Int) :
    (lastValid reports device).isSome = true ↔ device ∈ devices reports := by
  induction reports using List.reverseRecOn with
  | nil => simp [lastValid, devices]
  | append_singleton reports report ih =>
      rw [lastValid_append, devices_append]
      by_cases same : report.device = device
      · rw [if_pos same, same]
        constructor
        · intro _
          split
          · assumption
          · exact List.mem_append_right _ List.mem_cons_self
        · exact fun _ => rfl
      · rw [if_neg same, ih]
        split
        · exact Iff.rfl
        · rw [List.mem_append, List.mem_singleton]
          exact ⟨Or.inl, fun known => known.resolve_right (Ne.symm same)⟩

/-! ## What the table knows -/

/-- The devices that have found room. -/
def kept (reports : List StatusReport) : List (Int × Int) :=
  (devices reports).take statusCacheSize

/-- The table after the reports. -/
structure Remembers (reports : List StatusReport) (cache : StatusCache) : Prop where
  entries : forall device : Int × Int,
    (cache.first (DeviceStatus.isFor device.1 device.2)).map DeviceStatus.valid =
      if device ∈ kept reports then lastValid reports device else none
  room : cache.room + (kept reports).length = statusCacheSize

theorem remembers_empty : Remembers [] (.empty DeviceStatus statusCacheSize) where
  entries := by
    intro device
    have absent : (SlotTable.empty DeviceStatus statusCacheSize).first
        (DeviceStatus.isFor device.1 device.2) = none :=
      SlotTable.first_eq_none.mpr fun entry member =>
        absurd member (SlotTable.not_mem_empty entry)
    rw [absent, if_neg (by exact List.not_mem_nil)]
    rfl
  room := SlotTable.room_empty

theorem isFor_own (report : StatusReport) :
    DeviceStatus.isFor report.slot report.deviceId ⟨report.slot, report.deviceId, report.valid⟩ =
      true := by
  simp [DeviceStatus.isFor]

/-- The entry of one device is of no other device. -/
theorem isFor_other {report : StatusReport} {device : Int × Int} (other : report.device ≠ device)
    {entry : DeviceStatus} (isFor : entry.isFor report.slot report.deviceId = true) :
    entry.isFor device.1 device.2 = false := by
  apply StatusLog.isFor_of_ne _ isFor
  rintro ⟨slot, id⟩
  exact other (Prod.ext slot.symm id.symm)

theorem kept_append_known {reports : List StatusReport} {report : StatusReport}
    (known : report.device ∈ devices reports) : kept (reports ++ [report]) = kept reports := by
  rw [kept, devices_append, if_pos known, kept]

theorem kept_append_full {reports : List StatusReport} (report : StatusReport)
    (full : statusCacheSize ≤ (devices reports).length) :
    kept (reports ++ [report]) = kept reports := by
  rw [kept, devices_append]
  split
  · rfl
  · rw [List.take_append_of_le_length full, kept]

theorem kept_append_new {reports : List StatusReport} {report : StatusReport}
    (new : report.device ∉ devices reports) (space : (devices reports).length < statusCacheSize) :
    kept (reports ++ [report]) = kept reports ++ [report.device] := by
  rw [kept, devices_append, if_neg new, kept, List.take_of_length_le (le_of_lt space),
    List.take_of_length_le]
  rw [List.length_append, List.length_singleton]
  exact space

/-- A device of the table: its entry is changed. -/
theorem Remembers.known {reports : List StatusReport} {cache : StatusCache}
    (remembers : Remembers reports cache) {report : StatusReport}
    (known : report.device ∈ kept reports) :
    Remembers (reports ++ [report]) (report.check cache).2 ∧
      ((report.check cache).1 = true ↔ Changes reports report) := by
  have listed : report.device ∈ devices reports := List.mem_of_mem_take known
  have entry : (cache.first (DeviceStatus.isFor report.slot report.deviceId)).map
      DeviceStatus.valid = lastValid reports report.device :=
    (remembers.entries report.device).trans (if_pos known)
  cases found : cache.first (DeviceStatus.isFor report.slot report.deviceId) with
  | none =>
      have reported := (lastValid_isSome_iff reports report.device).mpr listed
      rw [← entry, found] at reported
      cases reported
  | some old =>
      have last : some old.valid = lastValid reports report.device := by
        rw [← entry, found]
        rfl
      cases modified : cache.modifyFirst (DeviceStatus.isFor report.slot report.deviceId)
          (fun entry => { entry with valid := report.valid }) with
      | none => cases found.symm.trans (SlotTable.modifyFirst_eq_none_iff_first.mp modified)
      | some changed =>
          have result : report.check cache = (old.valid != report.valid, changed) := by
            rw [check, checkDeviceStatusChanged, found]
            dsimp only
            rw [modified, Option.getD_some]
          rw [result]
          refine ⟨⟨?_, ?_⟩, ?_⟩
          · intro device
            rw [kept_append_known listed, lastValid_append]
            by_cases same : report.device = device
            · subst same
              have own : changed.first (DeviceStatus.isFor report.device.1 report.device.2) =
                  some { old with valid := report.valid } := by
                refine (SlotTable.first_modifyFirst_self modified fun entry isFor => isFor).trans ?_
                rw [found]
                rfl
              rw [own, if_pos known, if_pos rfl]
              rfl
            · have others : changed.first (DeviceStatus.isFor device.1 device.2) =
                  cache.first (DeviceStatus.isFor device.1 device.2) := by
                apply SlotTable.first_modifyFirst_of_ne modified
                intro entry isFor
                exact ⟨isFor_other same isFor, isFor_other same isFor⟩
              rw [others, remembers.entries, if_neg same]
          · rw [kept_append_known listed, SlotTable.room_modifyFirst modified]
            exact remembers.room
          · rw [Changes, ← last, bne_iff_ne, Option.some.injEq]
            cases old.valid <;> cases report.valid <;> decide

/-- A device without an entry: it takes one if there is room. -/
theorem Remembers.unknown {reports : List StatusReport} {cache : StatusCache}
    (remembers : Remembers reports cache) {report : StatusReport}
    (unknown : report.device ∉ kept reports) :
    Remembers (reports ++ [report]) (report.check cache).2 ∧ (report.check cache).1 = false := by
  have entry := remembers.entries report.device
  rw [if_neg unknown, Option.map_eq_none_iff] at entry
  have absent : cache.first (DeviceStatus.isFor report.slot report.deviceId) = none := entry
  have room := remembers.room
  cases inserted : cache.insertFree ⟨report.slot, report.deviceId, report.valid⟩ with
  | none =>
      have result : report.check cache = (false, cache) := by
        rw [check, checkDeviceStatusChanged, absent]
        dsimp only
        rw [inserted, Option.getD_none]
      have full : statusCacheSize ≤ (devices reports).length := by
        have noRoom := SlotTable.insertFree_eq_none_iff_room.mp inserted
        have length := List.length_take_le statusCacheSize (devices reports)
        have short := List.length_take_le' statusCacheSize (devices reports)
        rw [kept] at room
        omega
      rw [result]
      refine ⟨⟨?_, ?_⟩, rfl⟩
      · intro device
        rw [kept_append_full report full, remembers.entries, lastValid_append]
        by_cases same : report.device = device
        · subst same
          rw [if_neg unknown, if_neg unknown]
        · rw [if_neg same]
      · rw [kept_append_full report full]
        exact room
  | some larger =>
      have result : report.check cache = (false, larger) := by
        rw [check, checkDeviceStatusChanged, absent]
        dsimp only
        rw [inserted, Option.getD_some]
      have left := SlotTable.room_insertFree inserted
      have space : (devices reports).length < statusCacheSize := by
        by_contra full
        rw [kept, List.length_take, min_eq_left (not_lt.mp full)] at room
        omega
      have all : kept reports = devices reports := List.take_of_length_le (le_of_lt space)
      have new : report.device ∉ devices reports := all ▸ unknown
      rw [result]
      refine ⟨⟨?_, ?_⟩, rfl⟩
      · intro device
        rw [kept_append_new new space, lastValid_append]
        by_cases same : report.device = device
        · subst same
          rw [if_pos (List.mem_append_right _ List.mem_cons_self), if_pos rfl]
          cases there : larger.first (DeviceStatus.isFor report.device.1 report.device.2) with
          | none =>
              have mem := (SlotTable.mem_of_insertFree inserted).1
              have misses := SlotTable.first_eq_none.mp there _ mem
              exact absurd (isFor_own report) (Bool.eq_false_iff.mp misses)
          | some stored =>
              rw [SlotTable.first_insertFree_self inserted absent there]
              rfl
        · rw [SlotTable.first_insertFree_of_ne inserted (isFor_other same (isFor_own report)),
            remembers.entries, if_neg same]
          apply if_congr _ rfl rfl
          rw [List.mem_append, List.mem_singleton]
          exact ⟨Or.inl, fun known => known.resolve_right (Ne.symm same)⟩
      · rw [kept_append_new new space, List.length_append, List.length_singleton]
        dsimp only
        omega

theorem remembers_run (reports : List StatusReport) : Remembers reports (system.run reports) := by
  induction reports using List.reverseRecOn with
  | nil => exact remembers_empty
  | append_singleton reports report ih =>
      rw [TransitionSystem.run, TransitionSystem.runFrom_append]
      by_cases known : report.device ∈ kept reports
      · exact (ih.known known).1
      · exact (ih.unknown known).1

/-- A change of a device with an entry is noticed, and nothing else is. -/
theorem check_iff (reports : List StatusReport) (report : StatusReport) :
    (report.check (system.run reports)).1 = true ↔
      Changes reports report ∧ report.device ∈ kept reports := by
  by_cases known : report.device ∈ kept reports
  · rw [((remembers_run reports).known known).2]
    exact ⟨fun changes => ⟨changes, known⟩, fun both => both.1⟩
  · rw [((remembers_run reports).unknown known).2]
    exact ⟨fun impossible => absurd impossible Bool.false_ne_true, fun both => absurd both.2 known⟩

/-- Every change is noticed, and only changes are, exactly if no device changes
that 64 others have preceded. -/
theorem changes_noticed_iff (reports : List StatusReport) :
    (forall before report after, reports = before ++ report :: after ->
        ((report.check (system.run before)).1 = true ↔ Changes before report)) ↔
      forall before report after, reports = before ++ report :: after ->
        Changes before report -> report.device ∈ (devices before).take 64 := by
  constructor
  · intro noticed before report after split changes
    exact ((check_iff before report).mp ((noticed before report after split).mpr changes)).2
  · intro early before report after split
    rw [check_iff]
    exact ⟨fun both => both.1, fun changes => ⟨changes, early before report after split changes⟩⟩

/-- The 65th device goes offline unnoticed. -/
theorem late_device_unnoticed :
    ¬forall reports before report after, reports = before ++ report :: after ->
      ((report.check (system.run before)).1 = true ↔ Changes before report) := by
  intro noticed
  have last := noticed _ ((List.range 65).map fun id => ⟨0, id, true⟩) ⟨0, 64, false⟩ [] rfl
  rw [check_iff] at last
  have late : (((0, 64) : Int × Int) ∉ kept ((List.range 65).map fun id => ⟨0, id, true⟩)) := by
    decide +kernel
  have changes : Changes ((List.range 65).map fun id => ⟨0, id, true⟩) ⟨0, 64, false⟩ := by
    unfold Changes
    decide +kernel
  exact late (last.mpr changes).2

end StatusReport
end Board
end Imx6Gateway
