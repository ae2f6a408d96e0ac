import Imx6Gateway.Board.ConfigRoundTrip
import Imx6Gateway.Library.Projection

namespace Imx6Gateway
namespace Board

open Library

/-!
# The settings of the offline cache

The config file of the board has two owners.  The port manager writes the
ports and the devices, and copies the two settings of the offline cache from
the file before; the commands of the local interface set the two settings and
leave the rest of the file.  The publish queue has a copy of the settings.

What one owner sees of the file does not depend on the other.  A file whose
root is no object stops json-c where a member is added; such a file is
excluded.
-/

/-- The two flags in the publish queue, and `OfflineCacheSavedConfig`. -/
structure CacheSettings where
  cacheEnabled : Bool
  flushEnabled : Bool
deriving DecidableEq

def cacheEnabledKeys : List String := ["offline_cache_enabled", "offlineCacheEnabled"]
def flushEnabledKeys : List String := ["offline_cache_flush_enabled", "offlineCacheFlushEnabled"]

def loadSavedOfflineCacheConfig (file : Option Json) : CacheSettings :=
  ⟨savedFlag file cacheEnabledKeys, savedFlag file flushEnabledKeys⟩

/-- The tree that `saveOfflineCacheConfig` makes of the file.  A member that is
there is replaced, and a list of devices that is missing is added. -/
def cacheConfigRoot (file : Option Json) (settings : CacheSettings) (nowMs : Int64) : Json :=
  let root := ((((file.getD (.obj [])).put "version" (.int 1)).put
      "updated_ms" (.int nowMs.toInt)).put
      "offline_cache_enabled" (.bool settings.cacheEnabled)).put
      "offline_cache_flush_enabled" (.bool settings.flushEnabled)
  if (savedItems (some root) "devices").isSome then root else root.put "devices" (.arr [])

/-- `saveOfflineCacheConfig`, with whether the result is zero. -/
def PortManager.saveOfflineCacheConfig (state : PortManager) (settings : CacheSettings) :
    WriteOutcome -> Bool × PortManager
  | .written nowMs => (true, { state with file := some (cacheConfigRoot state.file settings nowMs) })
  | .failed left => (false, { state with file := left })

/-- What `set_offline_cache_config` asks for: a flag that the request does not
name stays as it is, and without a cache there is nothing to flush. -/
def requestedSettings (root : Json) (present : CacheSettings) : CacheSettings :=
  let cacheEnabled := jsonGetBoolAny root ["cache_enabled", "cacheEnabled"] present.cacheEnabled
  let flushEnabled := jsonGetBoolAny root ["flush_enabled", "flushEnabled"] present.flushEnabled
  ⟨cacheEnabled, cacheEnabled && flushEnabled⟩

/-- The port manager, with the settings that the publish queue works with. -/
structure CacheBoard where
  ports : PortManager
  settings : CacheSettings

namespace CacheBoard

/-- A new process: `mqtt_init` takes the settings from the file. -/
def started (file : Option Json) : CacheBoard := ⟨.constructed file, loadSavedOfflineCacheConfig file⟩

/-- The settings are used only if they could be saved. -/
def handleSetOfflineCacheConfig (board : CacheBoard) (root : Json) (outcome : WriteOutcome) :
    Bool × CacheBoard :=
  let requested := requestedSettings root board.settings
  match board.ports.saveOfflineCacheConfig requested outcome with
  | (true, saved) => (true, ⟨saved, requested⟩)
  | (false, failed) => (false, { board with ports := failed })

def handleGetOfflineCacheConfig (board : CacheBoard) : CacheBoard :=
  { board with settings := loadSavedOfflineCacheConfig board.ports.file }

end CacheBoard

inductive CacheEvent where
  | ports (event : PortEvent)
  | setOfflineCacheConfig (root : Json) (outcome : WriteOutcome)
  | getOfflineCacheConfig

section Runs

variable (getFloat : Json -> Limit) (library : JsonC)

def CacheBoard.step (board : CacheBoard) : CacheEvent -> CacheBoard
  | .ports .restarted => .started board.ports.file
  | .ports event => { board with ports := board.ports.step getFloat library event }
  | .setOfflineCacheConfig root outcome => (board.handleSetOfflineCacheConfig root outcome).2
  | .getOfflineCacheConfig => board.handleGetOfflineCacheConfig

def cacheSystem (file : Option Json) : TransitionSystem CacheBoard CacheEvent where
  initial := .started file
  step := CacheBoard.step getFloat library

end Runs

/-! ## Reading what was written -/

/-- There is no file, or it has members. -/
def HasMembers (file : Option Json) : Prop :=
  forall root, root ∈ file -> root.isObj = true

theorem isObj_put (json : Json) (key : String) (value : Json) :
    (json.put key value).isObj = json.isObj := by
  cases json <;> rfl

theorem lookup_put {json : Json} (object : json.isObj = true) (key other : String) (value : Json) :
    (json.put key value).lookup other = if other = key then some value else json.lookup other := by
  rcases Json.isObj_iff.mp object with ⟨members, rfl⟩
  exact Json.lookup_putMember key other value members

theorem isObj_getD {file : Option Json} (members : HasMembers file) :
    (file.getD (.obj [])).isObj = true := by
  cases file with
  | none => rfl
  | some root => exact members root rfl

theorem lookup_getD (file : Option Json) (key : String) :
    (file.getD (.obj [])).lookup key = file.bind fun root => root.lookup key := by
  cases file <;> rfl

/-- What the tree has under a key: the settings under their names, an empty
list where the devices were missing, and the rest of the file. -/
theorem lookup_cacheConfigRoot {file : Option Json} (members : HasMembers file)
    (settings : CacheSettings) (nowMs : Int64) (key : String) :
    (cacheConfigRoot file settings nowMs).lookup key =
      if key = "offline_cache_flush_enabled" then some (.bool settings.flushEnabled)
      else if key = "offline_cache_enabled" then some (.bool settings.cacheEnabled)
      else if key = "updated_ms" then some (.int nowMs.toInt)
      else if key = "version" then some (.int 1)
      else if key = "devices" ∧ (savedItems file "devices").isSome = false then some (.arr [])
      else file.bind fun root => root.lookup key := by
  have object := isObj_getD members
  unfold cacheConfigRoot
  dsimp only
  generalize made : ((((file.getD (.obj [])).put "version" (.int 1)).put
      "updated_ms" (.int nowMs.toInt)).put
      "offline_cache_enabled" (.bool settings.cacheEnabled)).put
      "offline_cache_flush_enabled" (.bool settings.flushEnabled) = root
  have whole : root.isObj = true := by
    rw [← made, isObj_put, isObj_put, isObj_put, isObj_put]
    exact object
  have found (key : String) : root.lookup key =
      if key = "offline_cache_flush_enabled" then some (.bool settings.flushEnabled)
      else if key = "offline_cache_enabled" then some (.bool settings.cacheEnabled)
      else if key = "updated_ms" then some (.int nowMs.toInt)
      else if key = "version" then some (.int 1)
      else file.bind fun root => root.lookup key := by
    rw [← made, lookup_put, lookup_put, lookup_put, lookup_put object, lookup_getD]
    all_goals simp only [isObj_put, object]
  have items : savedItems (some root) "devices" = savedItems file "devices" := by
    unfold savedItems
    rw [Option.bind_some, found]
    rfl
  rw [items]
  by_cases listed : (savedItems file "devices").isSome = true
  · rw [if_pos listed, found, listed]
    simp
  · rw [if_neg listed, lookup_put whole, found]
    by_cases devices : key = "devices"
    · subst devices
      simp [Bool.eq_false_iff.mpr listed]
    · simp [devices]

@[simp]
theorem loadSaved_cacheConfigRoot {file : Option Json} (members : HasMembers file)
    (settings : CacheSettings) (nowMs : Int64) :
    loadSavedOfflineCacheConfig (some (cacheConfigRoot file settings nowMs)) = settings := by
  have enabled : (cacheConfigRoot file settings nowMs).lookup "offline_cache_enabled" =
      some (.bool settings.cacheEnabled) := lookup_cacheConfigRoot members settings nowMs _
  have flushed : (cacheConfigRoot file settings nowMs).lookup "offline_cache_flush_enabled" =
      some (.bool settings.flushEnabled) := lookup_cacheConfigRoot members settings nowMs _
  unfold loadSavedOfflineCacheConfig savedFlag cacheEnabledKeys flushEnabledKeys getObjectAny
  simp only [Option.bind_some, List.findSome?_cons, enabled, flushed]
  rfl

theorem savedPorts_cacheConfigRoot {file : Option Json} (members : HasMembers file)
    (settings : CacheSettings) (nowMs : Int64) :
    savedItems (some (cacheConfigRoot file settings nowMs)) "ports" = savedItems file "ports" := by
  have kept : (cacheConfigRoot file settings nowMs).lookup "ports" =
      file.bind fun root => root.lookup "ports" := lookup_cacheConfigRoot members settings nowMs _
  unfold savedItems
  rw [Option.bind_some, kept]

theorem savedDevices_cacheConfigRoot {file : Option Json} (members : HasMembers file)
    (settings : CacheSettings) (nowMs : Int64) :
    (savedItems (some (cacheConfigRoot file settings nowMs)) "devices").getD [] =
      (savedItems file "devices").getD [] := by
  have kept : (cacheConfigRoot file settings nowMs).lookup "devices" =
      if (savedItems file "devices").isSome = false then some (.arr [])
      else file.bind fun root => root.lookup "devices" := by
    rw [lookup_cacheConfigRoot members]
    simp
  cases listed : savedItems file "devices" with
  | none =>
      rw [listed] at kept
      unfold savedItems
      rw [Option.bind_some, kept]
      rfl
  | some items =>
      rw [listed] at kept
      have same : savedItems (some (cacheConfigRoot file settings nowMs)) "devices" =
          savedItems file "devices" := by
        unfold savedItems
        rw [Option.bind_some, kept]
        rfl
      rw [same, listed]

theorem hasMembers_cacheConfigRoot {file : Option Json} (members : HasMembers file)
    (settings : CacheSettings) (nowMs : Int64) :
    HasMembers (some (cacheConfigRoot file settings nowMs)) := by
  rintro root ⟨⟩
  unfold cacheConfigRoot
  dsimp only
  split <;> simp only [isObj_put, isObj_getD members]

theorem hasMembers_configRoot (state : PortManager) (nowMs : Int64) :
    HasMembers (some (state.configRoot nowMs)) := by
  rintro root ⟨⟩
  rfl

/-- The port manager copies the settings. -/
@[simp]
theorem loadSaved_configRoot (state : PortManager) (nowMs : Int64) :
    loadSavedOfflineCacheConfig (some (state.configRoot nowMs)) =
      loadSavedOfflineCacheConfig state.file := rfl

/-! ## What the port manager leaves as the file -/

/-- A write that fails leaves a good file. -/
def WriteOutcome.Leaves (good : Option Json -> Prop) : WriteOutcome -> Prop
  | .written _ => True
  | .failed left => good left

/-- What others than a successful write make of the file is good. -/
def PortEvent.Leaves (good : Option Json -> Prop) : PortEvent -> Prop
  | .connectPort _ _ _ outcome => outcome.write.Leaves good
  | .addDevice _ _ outcome | .setDeviceThreshold _ _ _ outcome | .removeDevice _ _ outcome =>
      outcome.Leaves good
  | .restoreSavedConnections _ outcomes => forall slot, (outcomes slot).write.Leaves good
  | .fileReplaced content => good content
  | .disconnectPort _ | .restarted => True

theorem PortEvent.FileWorks.leaves {event : PortEvent} (works : event.FileWorks)
    (good : Option Json -> Prop) : event.Leaves good := by
  cases event with
  | connectPort slot port baud outcome =>
      rcases works with ⟨nowMs, works⟩
      change outcome.write.Leaves good
      rw [works]
      exact trivial
  | restoreSavedConnections availablePorts outcomes =>
      intro slot
      rcases works slot with ⟨nowMs, works⟩
      rw [works]
      exact trivial
  | fileReplaced content => exact works.elim
  | addDevice slot request outcome | setDeviceThreshold slot slaveId config outcome
  | removeDevice slot slaveId outcome =>
      rcases works with ⟨nowMs, rfl⟩
      exact trivial
  | disconnectPort slot => exact trivial
  | restarted => exact trivial

section FileKept

variable {getFloat : Json -> Limit} {library : JsonC} {good : Option Json -> Prop}
  {state : PortManager}
  (copies : forall (state : PortManager) nowMs, good state.file -> good (some (state.configRoot nowMs)))
include copies

theorem file_write (holds : good state.file) {outcome : WriteOutcome}
    (leaves : outcome.Leaves good) : good (state.writeConfigLocked outcome).2.file := by
  cases outcome with
  | written nowMs => exact copies state nowMs holds
  | failed left => exact leaves

theorem file_commitDevices (holds : good state.file) (slot : Slot)
    (changed restored : List ManagedDevice) (success : String) {outcome : WriteOutcome}
    (leaves : outcome.Leaves good) :
    good (commitDevices state slot changed restored success outcome).2.file := by
  cases outcome with
  | written nowMs => exact copies (state.setChannel slot _) nowMs holds
  | failed left => exact leaves

theorem file_connectPort (holds : good state.file) (slot : Int32) (port : Option String)
    (baud : Int32) {outcome : ConnectOutcome} (leaves : outcome.write.Leaves good) :
    good (connectPort getFloat library state slot port baud outcome).2.file := by
  rcases connectPort_cases getFloat library state slot port baud outcome with
    same | ⟨index, name, -, -, -, same | same⟩
  · rw [same]
    exact holds
  · rw [same]
    exact holds
  · rw [same]
    exact @file_write good (openedPort getFloat library state index name baud) copies holds _ leaves

theorem file_restoreSlot (holds : good state.file) (configs : Slot -> Option SavedPortConfig)
    (availablePorts : List String) {outcomes : Slot -> ConnectOutcome} (slot : Slot)
    (leaves : (outcomes slot).write.Leaves good) :
    good (restoreSlot getFloat library configs availablePorts outcomes state slot).file := by
  unfold restoreSlot
  split
  · split
    · exact file_connectPort copies holds _ _ _ leaves
    · exact holds
  · exact holds

/-- A property of the file that every write copies stays, whatever the ports do. -/
theorem file_step (holds : good state.file) {event : PortEvent} (leaves : event.Leaves good) :
    good (state.step getFloat library event).file := by
  cases event with
  | connectPort slot port baud outcome => exact file_connectPort copies holds slot port baud leaves
  | disconnectPort slot =>
      change good (disconnectPort state slot).2.file
      rcases disconnectPort_cases state slot with same | ⟨index, same⟩
      · rw [same]
        exact holds
      · rw [same]
        exact holds
  | addDevice slot request outcome =>
      change good (addDevice state slot request outcome).2.file
      rcases addDevice_cases state slot request outcome with
        ⟨reason, same⟩ | ⟨index, type, -, -, -, -, -, -, same⟩
      · rw [same]
        exact holds
      · rw [same]
        exact file_commitDevices copies holds _ _ _ _ leaves
  | setDeviceThreshold slot slaveId config outcome =>
      change good (setDeviceThreshold state slot slaveId config outcome).2.file
      rcases setDeviceThreshold_cases state slot slaveId config outcome with
        ⟨reason, same⟩ | ⟨index, new, old, -, -, same⟩
      · rw [same]
        exact holds
      · rw [same]
        exact file_commitDevices copies holds _ _ _ _ leaves
  | removeDevice slot slaveId outcome =>
      change good (removeDevice state slot slaveId outcome).2.file
      rcases removeDevice_cases state slot slaveId outcome with
        ⟨reason, same⟩ | ⟨index, removed, -, -, -, same⟩
      · rw [same]
        exact holds
      · rw [same]
        exact file_commitDevices copies holds _ _ _ _ leaves
  | restoreSavedConnections availablePorts outcomes =>
      have first := @file_restoreSlot getFloat library good state copies holds
        (loadSavedPortConfigs library state.file) availablePorts outcomes 0 (leaves 0)
      exact file_restoreSlot copies first _ availablePorts 1 (leaves 1)
  | fileReplaced content => exact leaves
  | restarted => exact holds

end FileKept

/-! ## The settings follow the commands -/

/-- The file has members, and these settings. -/
def FileHas (settings : CacheSettings) (file : Option Json) : Prop :=
  HasMembers file ∧ loadSavedOfflineCacheConfig file = settings

theorem fileHas_configRoot {settings : CacheSettings} (state : PortManager) (nowMs : Int64)
    (has : FileHas settings state.file) : FileHas settings (some (state.configRoot nowMs)) :=
  ⟨hasMembers_configRoot state nowMs, (loadSaved_configRoot state nowMs).trans has.2⟩

/-- Every write of the file goes through, and nobody else replaces it. -/
def CacheEvent.FileWorks : CacheEvent -> Prop
  | .ports event => event.FileWorks
  | .setOfflineCacheConfig _ outcome => exists nowMs, outcome = .written nowMs
  | .getOfflineCacheConfig => True

/-- The settings on their own: each request changes them as it says. -/
def settingsSystem (settings : CacheSettings) : TransitionSystem CacheSettings Json where
  initial := settings
  step := fun present root => requestedSettings root present

/-- The request for other settings that an event is. -/
def CacheEvent.request : CacheEvent -> Option Json
  | .setOfflineCacheConfig root _ => some root
  | _ => none

/-- The publish queue works with the settings of the file, and these are the
given ones. -/
structure CacheBoard.HasSettings (board : CacheBoard) (settings : CacheSettings) : Prop where
  saved : FileHas settings board.ports.file
  used : board.settings = settings

/-- A flush needs a cache. -/
def CacheSettings.Sound (settings : CacheSettings) : Prop :=
  settings.flushEnabled = true -> settings.cacheEnabled = true

theorem sound_requestedSettings (root : Json) (present : CacheSettings) :
    (requestedSettings root present).Sound :=
  fun flushed => (Bool.and_eq_true_iff.mp flushed).1

section SettingsRun

variable (getFloat : Json -> Limit) (library : JsonC)

theorem settings_projects {file : Option Json} (members : HasMembers file) :
    Projects (cacheSystem getFloat library file) (settingsSystem (loadSavedOfflineCacheConfig file))
      CacheEvent.FileWorks CacheEvent.request CacheBoard.HasSettings where
  initially := ⟨⟨members, rfl⟩, rfl⟩
  hidden := by
    intro board settings event has works none
    cases event with
    | ports event =>
        have saved := @file_step getFloat library (FileHas settings) board.ports fileHas_configRoot
          has.saved event (works.leaves (FileHas settings))
        cases event with
        | restarted => exact ⟨saved, has.saved.2⟩
        | _ => exact ⟨saved, has.used⟩
    | setOfflineCacheConfig root outcome => cases none
    | getOfflineCacheConfig => exact ⟨has.saved, has.saved.2⟩
  seen := by
    intro board settings event root has works request
    cases event with
    | setOfflineCacheConfig asked outcome =>
        cases request
        rcases works with ⟨nowMs, rfl⟩
        have requested : requestedSettings root board.settings = requestedSettings root settings := by
          rw [has.used]
        exact {
          saved := ⟨hasMembers_cacheConfigRoot has.saved.1 _ nowMs,
            (loadSaved_cacheConfigRoot has.saved.1 _ nowMs).trans requested⟩
          used := requested }
    | ports event => cases request
    | getOfflineCacheConfig => cases request

theorem sound_settings {settings : CacheSettings} (sound : settings.Sound) (roots : List Json) :
    ((settingsSystem settings).run roots).Sound :=
  (settingsSystem settings).invariant_everywhere sound
    (fun present root _ => sound_requestedSettings root present) roots

/-- In every run, restarts and all operations on the ports included, the file
and the publish queue have the settings that the commands asked for, and a
flush is enabled only with the cache. -/
theorem cache_settings_run {file : Option Json} (members : HasMembers file)
    {events : List CacheEvent} (works : forall event, event ∈ events -> event.FileWorks) :
    ((cacheSystem getFloat library file).run events).HasSettings
        ((settingsSystem (loadSavedOfflineCacheConfig file)).run
          (events.filterMap CacheEvent.request)) ∧
      ((loadSavedOfflineCacheConfig file).Sound ->
        ((cacheSystem getFloat library file).run events).settings.Sound) := by
  have has := (settings_projects getFloat library members).run works
  refine ⟨has, ?_⟩
  intro sound
  rw [has.used]
  exact sound_settings sound _

/-- The settings are changed, a port is opened, and the board restarts. -/
def cachedRun : List CacheEvent :=
  [.setOfflineCacheConfig (.obj [("cache_enabled", .bool true), ("flush_enabled", .bool true)])
      (.written 0),
    .ports (.connectPort 0 (some "/dev/ttymxc1") 9600 ⟨true, .written 1⟩), .ports .restarted]

theorem cachedRun_works : forall event, event ∈ cachedRun -> event.FileWorks := by
  intro event inside
  rcases List.mem_cons.mp inside with rfl | inside
  · exact ⟨0, rfl⟩
  · rcases List.mem_cons.mp inside with rfl | inside
    · exact ⟨1, rfl⟩
    · rw [List.mem_singleton.mp inside]
      exact trivial

theorem hasMembers_none : HasMembers none := by
  intro root impossible
  cases impossible

theorem cache_settings_run_restarted :
    ((cacheSystem exactFloat JsonC.jsonText none).run cachedRun).HasSettings ⟨true, true⟩ :=
  (cache_settings_run exactFloat JsonC.jsonText hasMembers_none cachedRun_works).1

end SettingsRun

/-! ## The ports do not notice -/

/-- Two port managers with the same channels, whose files have the same ports
and the same devices. -/
structure PortManager.Alike (first second : PortManager) : Prop where
  channels : first.channels = second.channels
  ports : savedItems first.file "ports" = savedItems second.file "ports"
  devices : (savedItems first.file "devices").getD [] = (savedItems second.file "devices").getD []

namespace PortManager.Alike

variable {getFloat : Json -> Limit} {library : JsonC} {first second : PortManager}

theorem refl (state : PortManager) : state.Alike state := ⟨rfl, rfl, rfl⟩

theorem setChannel (alike : first.Alike second) (slot : Slot) (channel : PortChannel) :
    (first.setChannel slot channel).Alike (second.setChannel slot channel) where
  channels := by
    unfold PortManager.setChannel
    rw [alike.channels]
  ports := alike.ports
  devices := alike.devices

theorem configItems (alike : first.Alike second) (items : Slot -> PortChannel -> List Json) :
    first.configItems items = second.configItems items := by
  unfold PortManager.configItems
  rw [alike.channels]

/-- A file that is written has the ports and the devices of the channels. -/
theorem write (alike : first.Alike second) (outcome : WriteOutcome) :
    (first.writeConfigLocked outcome).1 = (second.writeConfigLocked outcome).1 ∧
      (first.writeConfigLocked outcome).2.Alike (second.writeConfigLocked outcome).2 := by
  cases outcome with
  | failed left => exact ⟨rfl, alike.channels, rfl, rfl⟩
  | written nowMs =>
      have ports : savedItems (some (first.configRoot nowMs)) "ports" =
          savedItems (some (second.configRoot nowMs)) "ports" := by
        have member (state : PortManager) : (state.configRoot nowMs).lookup "ports" =
            some (state.configItems portItem) := rfl
        unfold savedItems
        rw [Option.bind_some, Option.bind_some, member, member, alike.configItems]
      have devices : savedItems (some (first.configRoot nowMs)) "devices" =
          savedItems (some (second.configRoot nowMs)) "devices" := by
        have member (state : PortManager) : (state.configRoot nowMs).lookup "devices" =
            some (state.configItems fun slot channel => channel.devices.map (deviceItem slot)) :=
          rfl
        unfold savedItems
        rw [Option.bind_some, Option.bind_some, member, member, alike.configItems]
      exact ⟨rfl, alike.channels, ports, congrArg (Option.getD · []) devices⟩

theorem opened (alike : first.Alike second) (slot : Slot) (port : String) (baud : Int32) :
    (openedPort getFloat library first slot port baud).Alike
      (openedPort getFloat library second slot port baud) := by
  unfold openedPort loadDevicesForSlotLocked
  dsimp only
  rw [PortManager.setChannel_self, PortManager.setChannel_self, PortManager.setChannel_file,
    PortManager.setChannel_file, alike.devices]
  exact (alike.setChannel slot _).setChannel slot _

theorem commit (alike : first.Alike second) (slot : Slot) (changed restored : List ManagedDevice)
    (success : String) (outcome : WriteOutcome) :
    (commitDevices first slot changed restored success outcome).2.Alike
      (commitDevices second slot changed restored success outcome).2 := by
  have same := alike.setChannel slot { second.channels slot with devices := changed }
  unfold commitDevices
  dsimp only
  rw [alike.channels]
  cases outcome with
  | written nowMs => exact (same.write (.written nowMs)).2
  | failed left => exact (same.write (.failed left)).2.setChannel slot _

theorem used (alike : first.Alike second) (slot : Slot) (port : String) :
    isPortUsedByOtherSlot first slot port = isPortUsedByOtherSlot second slot port := by
  unfold isPortUsedByOtherSlot
  rw [alike.channels]

theorem connect (alike : first.Alike second) (slot : Int32) (port : Option String)
    (baud : Int32) (outcome : ConnectOutcome) :
    (connectPort getFloat library first slot port baud outcome).2.Alike
      (connectPort getFloat library second slot port baud outcome).2 := by
  unfold connectPort
  split
  · rename_i index name _
    rw [alike.used]
    split
    · exact alike
    · split
      · exact alike
      · split
        · exact alike.setChannel index .cleared
        · have written := (@opened getFloat library first second alike index name baud).write
            outcome.write
          cases ended : outcome.write with
          | written nowMs =>
              rw [ended] at written
              exact written.2
          | failed left =>
              rw [ended] at written
              exact written.2
  · exact alike

theorem disconnect (alike : first.Alike second) (slot : Int32) :
    (disconnectPort first slot).2.Alike (disconnectPort second slot).2 := by
  unfold disconnectPort
  split
  · exact alike
  · rename_i index _
    dsimp only
    rw [alike.channels]
    split
    · exact alike
    · exact alike.setChannel index _

theorem add (alike : first.Alike second) (slot : Int32) (request : AddRequest)
    (outcome : WriteOutcome) :
    (addDevice first slot request outcome).2.Alike (addDevice second slot request outcome).2 := by
  unfold addDevice
  split
  · exact alike
  · rename_i index _
    dsimp only
    rw [alike.channels]
    split
    · exact alike
    · split
      · exact alike
      · split
        · exact alike
        · split
          · exact alike
          · split
            · exact alike
            · split
              · exact alike
              · exact alike.commit index _ _ _ outcome

theorem setThreshold (alike : first.Alike second) (slot slaveId : Int32)
    (config : Option RequestedThresholds) (outcome : WriteOutcome) :
    (setDeviceThreshold first slot slaveId config outcome).2.Alike
      (setDeviceThreshold second slot slaveId config outcome).2 := by
  unfold setDeviceThreshold
  split
  · rename_i index config _
    dsimp only
    rw [alike.channels]
    split
    · exact alike
    · split
      · exact alike
      · split
        · exact alike
        · split
          · exact alike
          · exact alike.commit index _ _ _ outcome
  · exact alike

theorem remove (alike : first.Alike second) (slot slaveId : Int32) (outcome : WriteOutcome) :
    (removeDevice first slot slaveId outcome).2.Alike
      (removeDevice second slot slaveId outcome).2 := by
  unfold removeDevice
  split
  · exact alike
  · rename_i index _
    dsimp only
    rw [alike.channels]
    split
    · exact alike
    · split
      · exact alike
      · split
        · exact alike
        · exact alike.commit index _ _ _ outcome

theorem restoreSlot (alike : first.Alike second) (configs : Slot -> Option SavedPortConfig)
    (availablePorts : List String) (outcomes : Slot -> ConnectOutcome) (slot : Slot) :
    (restoreSlot getFloat library configs availablePorts outcomes first slot).Alike
      (restoreSlot getFloat library configs availablePorts outcomes second slot) := by
  unfold Board.restoreSlot
  split
  · split
    · exact alike.connect _ _ _ _
    · exact alike
  · exact alike

theorem savedPortConfigs (alike : first.Alike second) :
    loadSavedPortConfigs library first.file = loadSavedPortConfigs library second.file := by
  unfold loadSavedPortConfigs
  rw [alike.ports, alike.devices]

/-- An operation on the ports does the same to both. -/
theorem step (alike : first.Alike second) (event : PortEvent) :
    (first.step getFloat library event).Alike (second.step getFloat library event) := by
  cases event with
  | connectPort slot port baud outcome => exact alike.connect slot port baud outcome
  | disconnectPort slot => exact alike.disconnect slot
  | addDevice slot request outcome => exact alike.add slot request outcome
  | setDeviceThreshold slot slaveId config outcome =>
      exact alike.setThreshold slot slaveId config outcome
  | removeDevice slot slaveId outcome => exact alike.remove slot slaveId outcome
  | restoreSavedConnections availablePorts outcomes =>
      have configs := @savedPortConfigs library first second alike
      unfold PortManager.step restoreSavedConnections
      dsimp only
      rw [configs]
      exact (alike.restoreSlot _ availablePorts outcomes 0).restoreSlot _ availablePorts outcomes 1
  | fileReplaced content => exact ⟨alike.channels, rfl, rfl⟩
  | restarted => exact ⟨rfl, alike.ports, alike.devices⟩

end PortManager.Alike

/-- The event for the ports that an event is. -/
def CacheEvent.portEvent : CacheEvent -> Option PortEvent
  | .ports event => some event
  | _ => none

/-- The file never gets a root that is no object, and the settings can be
saved.  The writes of the port manager may fail. -/
def CacheEvent.Tidy : CacheEvent -> Prop
  | .ports event => event.Leaves HasMembers
  | .setOfflineCacheConfig _ outcome => exists nowMs, outcome = .written nowMs
  | .getOfflineCacheConfig => True

/-- The ports are as if nobody had ever touched the settings. -/
structure CacheBoard.HasPorts (board : CacheBoard) (ports : PortManager) : Prop where
  members : HasMembers board.ports.file
  alike : board.ports.Alike ports

section PortsRun

variable (getFloat : Json -> Limit) (library : JsonC)

theorem ports_project {file : Option Json} (members : HasMembers file) :
    Projects (cacheSystem getFloat library file) (portSystem getFloat library file)
      CacheEvent.Tidy CacheEvent.portEvent CacheBoard.HasPorts where
  initially := ⟨members, .refl _⟩
  hidden := by
    intro board ports event has tidy none
    cases event with
    | ports event => cases none
    | setOfflineCacheConfig root outcome =>
        rcases tidy with ⟨nowMs, rfl⟩
        exact {
          members := hasMembers_cacheConfigRoot has.members _ nowMs
          alike := {
            channels := has.alike.channels
            ports := (savedPorts_cacheConfigRoot has.members _ nowMs).trans has.alike.ports
            devices := (savedDevices_cacheConfigRoot has.members _ nowMs).trans
              has.alike.devices } }
    | getOfflineCacheConfig => exact ⟨has.members, has.alike⟩
  seen := by
    intro board ports event image has tidy same
    cases event with
    | ports event =>
        cases same
        have members := @file_step getFloat library HasMembers board.ports
          (fun state nowMs _ => hasMembers_configRoot state nowMs) has.members image tidy
        have alike := @PortManager.Alike.step getFloat library _ _ has.alike image
        cases image <;> exact ⟨members, alike⟩
    | setOfflineCacheConfig root outcome => cases same
    | getOfflineCacheConfig => cases same

/-- The file of the port cannot be written, and the settings are saved after it. -/
def failingRun : List CacheEvent :=
  [.ports (.connectPort 0 (some "/dev/ttymxc1") 9600 ⟨true, .failed none⟩),
    .setOfflineCacheConfig (.obj [("cache_enabled", .bool true)]) (.written 0),
    .getOfflineCacheConfig]

end PortsRun

end Board
end Imx6Gateway
