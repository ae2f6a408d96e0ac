import Imx6Gateway.Board.SyncLedger
import Imx6Gateway.Board.TelemetryGate

namespace Imx6Gateway
namespace Board

open Library

/-!
# Versions and configurations

A published snapshot carries a version number and describes the ports of the
board with their devices.  The counter goes up whenever a snapshot is issued,
but a retry stamps whatever message is active with the counter's current
value.  A `VersionLog` is a run with the texts of all snapshots the module has
published; the theorem says which runs keep versions and configurations bound
together, step by step in both directions.
-/

namespace ConfigSync

variable (library : JsonC)

/-- The configuration a text describes: its ports with their devices. -/
def describedBy (text : String) : Option Json :=
  (library.parse text).bind fun json => json.lookup "ports"

/-- The version a text carries. -/
def versionOf (text : String) : Option Int :=
  (library.parse text).bind fun json => (json.lookup "configVersion").map JsonC.getInt64

/-- The texts among the messages that are sent as snapshots. -/
def publishedSnapshots (effects : List Effect) : List String :=
  effects.filterMap fun
    | .offlinePublishOrCache _ json info => if isSnapshotCmd info.messageType then some json else none
    | .ipcServerSend _ => none

/-- The type under which the active message is sent again. -/
def retriedType (state : ConfigSync) : String :=
  if state.pendingCmd ≠ "" then state.pendingCmd else "config_snapshot"

/-- The tick sends the active message again, as a snapshot. -/
def resends (env : Surroundings) (state : ConfigSync) : Option Json :=
  if retryDue env state && isSnapshotCmd (retriedType state) then
    library.parse state.pendingSnapshot
  else none

theorem publishedSnapshots_quiet {effects : List Effect}
    (quiet : effects.any Effect.isPublish = false) : publishedSnapshots effects = [] := by
  rw [publishedSnapshots, List.filterMap_eq_nil_iff]
  intro effect member
  have silent := List.any_eq_false.mp quiet effect member
  cases effect with
  | ipcServerSend json => rfl
  | offlinePublishOrCache topic json info => exact absurd rfl silent

theorem publishedSnapshots_markSent (env : Surroundings) (entry : Pending) (state : ConfigSync) :
    publishedSnapshots (markSent env entry state).effects = [] := by
  unfold markSent
  split <;> rfl

theorem publishedSnapshots_handleAckJson (nowMs : Int) (payload : String) (state : ConfigSync) :
    publishedSnapshots (handleAckJson library nowMs payload state).effects = [] := by
  unfold handleAckJson
  split
  · rfl
  · unfold handleAck
    simp only
    split <;> rfl

theorem publishedSnapshots_publishLatest (env : Surroundings) (seq : UInt32)
    (exported : Option String) (mark : Nat) (state : ConfigSync) :
    publishedSnapshots (publishLatestSnapshot library env seq exported mark state).effects =
      (SyncWorld.latestSnapshotText library state exported).toList := by
  unfold publishLatestSnapshot SyncWorld.latestSnapshotText
  cases exported.bind library.parse <;> rfl

/-- A retry publishes the text under the type of the active message. -/
theorem publishedSnapshots_retry {env : Surroundings} {state : ConfigSync} {root : Json}
    (due : retryDue env state = true) (parsed : library.parse state.pendingSnapshot = some root) :
    publishedSnapshots (tick library env state).effects =
      if isSnapshotCmd (retriedType state) then [retryText library state root] else [] := by
  rcases retried_fields state with ⟨view, version⟩
  have text : (retried state).pendingSnapshot = state.pendingSnapshot :=
    congrArg PendingView.payload view
  have cmd : (retried state).pendingCmd = state.pendingCmd := congrArg PendingView.cmd view
  have nonempty : state.pendingSnapshot ≠ "" := by
    simp only [retryDue, hasActivePending, Bool.and_eq_true, decide_eq_true_eq] at due
    exact due.1.1.1.1
  rw [tick_of_due library env state due, sendPending, text, if_neg nonempty, parsed]
  simp only [publishedSnapshots, List.cons_append, List.nil_append, List.filterMap_cons, cmd,
    version, publishState, List.filterMap_nil]
  unfold retriedType retryText
  split <;> rename_i snapshot <;> split at snapshot <;> simp_all

theorem publishedSnapshots_tick (env : Surroundings) (state : ConfigSync) :
    publishedSnapshots (tick library env state).effects =
      ((resends library env state).map (retryText library state)).toList := by
  unfold resends
  rcases tick_cases library env state with
    ⟨due, quiet, -⟩ | ⟨due, failed, quiet, -⟩ | ⟨root, info, shown, due, parsed, sent, -⟩
  · rw [publishedSnapshots_quiet quiet, due]
    rfl
  · rw [publishedSnapshots_quiet quiet, failed]
    split <;> rfl
  · rw [publishedSnapshots_retry library due parsed, due, Bool.true_and]
    split
    · rw [parsed]
      rfl
    · rfl

/-! ## Stamped texts -/

theorem lookup_ports_stamp {key : String} (other : "ports" ≠ key) (value json : Json) :
    ((json.erase key).append key value).lookup "ports" = json.lookup "ports" := by
  rw [Json.lookup_append_of_ne _ _ other, Json.lookup_erase_of_ne _ other]

/-- Stamping does not touch the configuration. -/
theorem lookup_ports_restamp (seq version : UInt32) (json : Json) :
    (restamp seq version json).lookup "ports" = json.lookup "ports" := by
  rw [restamp, stampVersion, stampSeq, lookup_ports_stamp (by decide),
    lookup_ports_stamp (by decide)]

theorem getInt64_version (version : UInt32) :
    JsonC.getInt64 (.int version.toNat) = version.toNat := by
  have bounded := version.toNat_lt
  change JsonC.clampInt64 version.toNat = version.toNat
  unfold JsonC.clampInt64 JsonC.int64Min JsonC.int64Max
  omega

theorem versionOf_stamped (version : UInt32) {json : Json} (isObj : json.isObj = true)
    (wire : json.Wire Json.maxDepth) :
    versionOf library (library.print (stampVersion version json)) = some (version.toNat : Int) := by
  have stamped : (stampVersion version json).lookup "configVersion" =
      some (.int version.toNat) := by
    rw [stampVersion, Json.lookup_append_self "configVersion" _ _
      (by rw [Json.isObj_erase]; exact isObj) (Json.lookup_erase_self "configVersion" json)]
  have wireStamped : (stampVersion version json).Wire Json.maxDepth := SyncWorld.wire_stamp wire
  rw [versionOf, library.parse_print _ wireStamped, Option.bind_some, stamped, Option.map_some,
    getInt64_version]

theorem describedBy_stamped (version : UInt32) {json : Json} (wire : json.Wire Json.maxDepth) :
    describedBy library (library.print (stampVersion version json)) = json.lookup "ports" := by
  have wireStamped : (stampVersion version json).Wire Json.maxDepth := SyncWorld.wire_stamp wire
  rw [describedBy, library.parse_print _ wireStamped, Option.bind_some, stampVersion,
    lookup_ports_stamp (by decide)]

theorem describedBy_retryText {state : ConfigSync} {root : Json}
    (parsed : library.parse state.pendingSnapshot = some root) :
    describedBy library (retryText library state root) =
      describedBy library state.pendingSnapshot := by
  rw [describedBy, describedBy, SyncWorld.parse_retryText library parsed, parsed,
    Option.bind_some, Option.bind_some, lookup_ports_restamp]

theorem versionOf_retryText {state : ConfigSync} {root : Json}
    (parsed : library.parse state.pendingSnapshot = some root) :
    versionOf library (retryText library state root) =
      if root.isObj then some (state.configVersion.toNat : Int) else none := by
  have wire : (stampSeq (state.syncSeq + 1) root).Wire Json.maxDepth :=
    SyncWorld.wire_stamp (library.parse_wire _ root parsed)
  split
  · rename_i isObj
    have inner : (stampSeq (state.syncSeq + 1) root).isObj = true := by
      rw [stampSeq, Json.isObj_append, Json.isObj_erase]
      exact isObj
    exact versionOf_stamped library state.configVersion inner wire
  · rename_i leaf
    rw [versionOf, SyncWorld.parse_retryText library parsed, Option.bind_some]
    cases root with
    | obj members => exact absurd rfl leaf
    | _ => rfl

end ConfigSync

namespace SyncWorld

open ConfigSync

/-- The texts of the snapshots issued so far, in order. -/
def issuedSnapshots (history : List Registration) : List String :=
  (history.filter fun registration => isSnapshotCmd registration.cmd).map Registration.payload

theorem issuedSnapshots_append (history : List Registration) (added : Registration) :
    issuedSnapshots (history ++ [added]) =
      issuedSnapshots history ++ if isSnapshotCmd added.cmd then [added.payload] else [] := by
  unfold issuedSnapshots
  rw [List.filter_append, List.map_append]
  cases snapshot : isSnapshotCmd added.cmd <;> simp [snapshot]

theorem issuedSnapshots_map (ack : Ack) (history : List Registration) :
    issuedSnapshots (history.map (Registration.note ack)) = issuedSnapshots history := by
  unfold issuedSnapshots
  rw [List.filter_map, List.map_map]
  rfl

theorem issuedSnapshots_modify (seq : UInt32) (history : List Registration) (index : Nat) :
    issuedSnapshots (history.modify index (Registration.sendUnder seq)) =
      issuedSnapshots history := by
  unfold issuedSnapshots
  induction history generalizing index with
  | nil => cases index <;> rfl
  | cons head tail ih =>
      cases index with
      | zero =>
          rw [List.modify_zero_cons, List.filter_cons, List.filter_cons]
          cases snapshot : isSnapshotCmd head.cmd <;> simp [snapshot, Registration.sendUnder]
      | succ index =>
          rw [List.modify_succ_cons, List.filter_cons, List.filter_cons]
          split
          · rw [List.map_cons, List.map_cons, ih]
          · exact ih index

variable (library : JsonC)

theorem configVersion_step (world : SyncWorld) (event : SyncEvent) :
    (step library world event).sync.configVersion = versionAfter library world event := by
  by_cases isAck : exists nowMs payload, event = .handleAckJson nowMs payload
  · rcases isAck with ⟨nowMs, payload, rfl⟩
    have same := gate_step_ack library world nowMs payload
    have version : (step library world (.handleAckJson nowMs payload)).sync.gate.1 =
        world.sync.configVersion := by
      rw [same]
      split
      · rfl
      · split <;> rfl
    exact version
  · have noAck : forall nowMs payload, event ≠ .handleAckJson nowMs payload :=
      fun nowMs payload same => isAck ⟨nowMs, payload, same⟩
    exact congrArg Prod.fst (gate_step library world event noAck)

/-- What an event sends. -/
def effects (world : SyncWorld) : SyncEvent -> List Effect
  | .markSent env seq cmd payload portId =>
      (markSent env (world.newEntry seq cmd payload portId) world.sync).effects
  | .publishLatestSnapshot env seq exported =>
      (publishLatestSnapshot library env seq exported world.history.length world.sync).effects
  | .handleAckJson nowMs payload => (handleAckJson library nowMs payload world.sync).effects
  | .tick env => (tick library env world.sync).effects
  | .nextSeq => []

end SyncWorld

/-- A run with the texts of the snapshots the module has published. -/
structure VersionLog where
  world : SyncWorld
  published : List String
deriving DecidableEq

namespace VersionLog

open ConfigSync

variable (library : JsonC)

def step (log : VersionLog) (event : SyncEvent) : VersionLog where
  world := SyncWorld.step library log.world event
  published := log.published ++ publishedSnapshots (SyncWorld.effects library log.world event)

def system : TransitionSystem VersionLog SyncEvent where
  initial := ⟨SyncWorld.initial, []⟩
  step := step library

/-- The text describes the configuration that was issued last. -/
def DescribesLatest (log : VersionLog) (text : String) : Prop :=
  (SyncWorld.issuedSnapshots log.world.history).getLast?.map (describedBy library) =
    some (describedBy library text)

/-- No published snapshot has a higher version. -/
def Highest (log : VersionLog) (version : Int) : Prop :=
  forall other, other ∈ log.published -> forall seen, versionOf library other = some seen ->
    seen ≤ version

/-- A version stands for one configuration, and the highest one for the
latest. -/
structure Bound (log : VersionLog) : Prop where
  single : forall first second, first ∈ log.published -> second ∈ log.published ->
    forall version, versionOf library first = some version ->
      versionOf library second = some version ->
        describedBy library first = describedBy library second
  newest : forall text, text ∈ log.published -> forall version,
    versionOf library text = some version -> Highest library log version ->
      DescribesLatest library log text

/-- The version counter does not wrap around, and an export is an object. -/
def InDomain (log : VersionLog) : SyncEvent -> Prop
  | .markSent _ _ cmd payload _ => payload ≠ "" -> isSnapshotCmd cmd = true ->
      log.world.sync.configVersion.toNat + 1 < 2 ^ 32
  | .publishLatestSnapshot _ _ exported => forall root, root ∈ exported.bind library.parse ->
      root.isObj = true ∧ log.world.sync.configVersion.toNat + 1 < 2 ^ 32
  | _ => True

/-- A snapshot that others have published is registered only while it
describes what was issued last, or while no snapshot was published; and a
retry sends the configuration that was issued last. -/
def BindingCondition (log : VersionLog) : SyncEvent -> Prop
  | .markSent _ _ cmd payload _ => payload ≠ "" -> isSnapshotCmd cmd = true ->
      (exists text, text ∈ log.published ∧ (versionOf library text).isSome = true) ->
        DescribesLatest library log payload
  | .tick env => forall root, root ∈ resends library env log.world.sync -> root.isObj = true ->
      DescribesLatest library log log.world.sync.pendingSnapshot
  | _ => True

/-- No published version is ahead of the counter. -/
def Counted (log : VersionLog) : Prop :=
  Highest library log log.world.sync.configVersion.toNat

theorem Highest.mono {log next : VersionLog} {first second : Int} (atMost : first ≤ second)
    (same : next.published = log.published) (highest : Highest library log first) :
    Highest library next second := by
  intro other member seen version
  rw [same] at member
  exact (highest other member seen version).trans atMost

/-- Some published snapshot with a version has the highest one. -/
theorem exists_highest (log : VersionLog)
    (some : exists text, text ∈ log.published ∧ (versionOf library text).isSome = true) :
    exists text version, text ∈ log.published ∧ versionOf library text = Option.some version ∧
      Highest library log version := by
  rcases some with ⟨text, member, versioned⟩
  rcases Option.isSome_iff_exists.mp versioned with ⟨version, found⟩
  have inside : version ∈ log.published.filterMap (versionOf library) :=
    List.mem_filterMap.mpr ⟨text, member, found⟩
  cases greatest : (log.published.filterMap (versionOf library)).max? with
  | none =>
      rw [List.max?_eq_none_iff.mp greatest] at inside
      cases inside
  | some most =>
      rcases List.max?_eq_some_iff.mp greatest with ⟨listed, atMost⟩
      rcases List.mem_filterMap.mp listed with ⟨newest, published, carries⟩
      refine ⟨newest, most, published, carries, ?_⟩
      intro other otherPublished seen sees
      exact atMost seen (List.mem_filterMap.mpr ⟨other, otherPublished, sees⟩)

/-! ## What the three kinds of steps do to the binding -/

variable {library} {log next : VersionLog}

theorem describesLatest_congr
    (issued : SyncWorld.issuedSnapshots next.world.history =
      SyncWorld.issuedSnapshots log.world.history) (text : String) :
    DescribesLatest library next text ↔ DescribesLatest library log text := by
  unfold DescribesLatest
  rw [issued]

theorem describesLatest_issued {payload : String}
    (issued : SyncWorld.issuedSnapshots next.world.history =
      SyncWorld.issuedSnapshots log.world.history ++ [payload]) (text : String) :
    DescribesLatest library next text ↔
      describedBy library payload = describedBy library text := by
  unfold DescribesLatest
  rw [issued, List.getLast?_concat, Option.map_some, Option.some.injEq]

/-- Nothing is published and no snapshot is issued. -/
theorem bound_quiet (published : next.published = log.published)
    (issued : SyncWorld.issuedSnapshots next.world.history =
      SyncWorld.issuedSnapshots log.world.history) :
    Bound library next ↔ Bound library log := by
  have highest : forall version, Highest library next version ↔ Highest library log version := by
    intro version
    unfold Highest
    rw [published]
  constructor
  · rintro ⟨single, newest⟩
    rw [published] at single newest
    refine ⟨single, ?_⟩
    intro text member version found most
    exact (describesLatest_congr issued text).mp
      (newest text member version found ((highest version).mpr most))
  · rintro ⟨single, newest⟩
    constructor
    · rw [published]
      exact single
    · rw [published]
      intro text member version found most
      exact (describesLatest_congr issued text).mpr
        (newest text member version found ((highest version).mp most))

/-- A snapshot is issued that others have published. -/
theorem bound_registered {payload : String} (bound : Bound library log)
    (published : next.published = log.published)
    (issued : SyncWorld.issuedSnapshots next.world.history =
      SyncWorld.issuedSnapshots log.world.history ++ [payload]) :
    Bound library next ↔
      ((exists text, text ∈ log.published ∧ (versionOf library text).isSome = true) ->
        DescribesLatest library log payload) := by
  have highest : forall version, Highest library next version ↔ Highest library log version := by
    intro version
    unfold Highest
    rw [published]
  constructor
  · rintro ⟨-, newest⟩ some
    rcases exists_highest library log some with ⟨text, version, member, found, most⟩
    have old := bound.newest text member version found most
    rw [published] at newest
    have new := newest text member version found ((highest version).mpr most)
    rw [describesLatest_issued issued] at new
    unfold DescribesLatest at old ⊢
    rw [old, new]
  · intro condition
    constructor
    · rw [published]
      exact bound.single
    · rw [published]
      intro text member version found most
      have old := bound.newest text member version found ((highest version).mp most)
      have latest := condition ⟨text, member, Option.isSome_iff_exists.mpr ⟨version, found⟩⟩
      rw [describesLatest_issued issued]
      unfold DescribesLatest at old latest
      exact Option.some.inj (latest.symm.trans old)

/-- A snapshot is issued and published with a version of its own. -/
theorem bound_published {text : String} {number : Int} (bound : Bound library log)
    (published : next.published = log.published ++ [text])
    (issued : SyncWorld.issuedSnapshots next.world.history =
      SyncWorld.issuedSnapshots log.world.history ++ [text])
    (carries : versionOf library text = some number)
    (fresh : forall other, other ∈ log.published -> forall seen,
      versionOf library other = some seen -> seen < number) : Bound library next := by
  have split : forall other, other ∈ next.published -> other ∈ log.published ∨ other = text := by
    intro other member
    rw [published] at member
    simpa using member
  constructor
  · intro first second firstMember secondMember version firstFound secondFound
    rcases split first firstMember with firstOld | rfl
    · rcases split second secondMember with secondOld | rfl
      · exact bound.single first second firstOld secondOld version firstFound secondFound
      · have older := fresh first firstOld version firstFound
        cases carries.symm.trans secondFound
        exact absurd older (lt_irrefl _)
    · rcases split second secondMember with secondOld | rfl
      · have older := fresh second secondOld version secondFound
        cases carries.symm.trans firstFound
        exact absurd older (lt_irrefl _)
      · rfl
  · intro other member version found most
    rw [describesLatest_issued issued]
    rcases split other member with old | rfl
    · have older := fresh other old version found
      have newer := most text (by rw [published]; simp) number carries
      omega
    · rfl

/-- A snapshot is published again with the current version. -/
theorem bound_resent {text : String} {number : Int} (bound : Bound library log)
    (counted : Highest library log number)
    (published : next.published = log.published ++ [text])
    (issued : SyncWorld.issuedSnapshots next.world.history =
      SyncWorld.issuedSnapshots log.world.history)
    (carries : versionOf library text = some number) :
    Bound library next ↔ DescribesLatest library log text := by
  have split : forall other, other ∈ next.published -> other ∈ log.published ∨ other = text := by
    intro other member
    rw [published] at member
    simpa using member
  have here : text ∈ next.published := by
    rw [published]
    simp
  have highest : Highest library next number := by
    intro other member seen sees
    rcases split other member with old | rfl
    · exact counted other old seen sees
    · cases carries.symm.trans sees
      exact le_refl _
  constructor
  · intro after
    exact (describesLatest_congr issued text).mp (after.newest text here number carries highest)
  · intro latest
    -- an older text with the current version is the newest one so far
    have current : forall other, other ∈ log.published -> versionOf library other = some number ->
        describedBy library other = describedBy library text := by
      intro other old found
      have same := bound.newest other old number found counted
      unfold DescribesLatest at same latest
      exact Option.some.inj (same.symm.trans latest)
    constructor
    · intro first second firstMember secondMember version firstFound secondFound
      rcases split first firstMember with firstOld | rfl
      · rcases split second secondMember with secondOld | rfl
        · exact bound.single first second firstOld secondOld version firstFound secondFound
        · cases carries.symm.trans secondFound
          exact current first firstOld firstFound
      · rcases split second secondMember with secondOld | rfl
        · cases carries.symm.trans firstFound
          exact (current second secondOld secondFound).symm
        · rfl
    · intro other member version found most
      rw [describesLatest_congr issued]
      rcases split other member with old | rfl
      · have above := most text here number carries
        have below := counted other old version found
        cases le_antisymm above below
        exact bound.newest other old number found counted
      · exact latest

/-- A text without a version binds nothing. -/
theorem bound_unversioned {text : String} (bound : Bound library log)
    (published : next.published = log.published ++ [text])
    (issued : SyncWorld.issuedSnapshots next.world.history =
      SyncWorld.issuedSnapshots log.world.history)
    (carriesNone : versionOf library text = none) : Bound library next := by
  have old : forall other version, other ∈ next.published ->
      versionOf library other = some version -> other ∈ log.published := by
    intro other version member found
    rw [published, List.mem_append, List.mem_singleton] at member
    rcases member with old | rfl
    · exact old
    · rw [carriesNone] at found
      cases found
  constructor
  · intro first second firstMember secondMember version firstFound secondFound
    exact bound.single first second (old first version firstMember firstFound)
      (old second version secondMember secondFound) version firstFound secondFound
  · intro other member version found most
    rw [describesLatest_congr issued]
    apply bound.newest other (old other version member found) version found
    intro earlier inside seen sees
    apply most earlier _ seen sees
    rw [published]
    exact List.mem_append_left _ inside

/-! ## The characterization -/

variable (library) (log)

theorem issued_added {added : Registration} {world : SyncWorld}
    (history : world.history = log.world.history ++ [added]) :
    SyncWorld.issuedSnapshots world.history = SyncWorld.issuedSnapshots log.world.history ++
      if isSnapshotCmd added.cmd then [added.payload] else [] := by
  rw [history, SyncWorld.issuedSnapshots_append]

theorem bound_markSent {env : Surroundings} {seq : UInt32} {cmd payload portId : String}
    (bound : Bound library log) :
    Bound library (step library log (.markSent env seq cmd payload portId)) ↔
      BindingCondition library log (.markSent env seq cmd payload portId) := by
  have published : (step library log (.markSent env seq cmd payload portId)).published =
      log.published := by
    simp only [step, SyncWorld.effects, publishedSnapshots_markSent, List.append_nil]
  rcases SyncWorld.markSent_cases library log.world env seq cmd payload portId with
    ⟨blank, same⟩ | ⟨version, added, issues, -⟩
  · have issued : SyncWorld.issuedSnapshots
        (step library log (.markSent env seq cmd payload portId)).world.history =
          SyncWorld.issuedSnapshots log.world.history := by
      rw [step, same]
    rw [bound_quiet published issued]
    exact ⟨fun _ nonempty => absurd blank nonempty, fun _ => bound⟩
  · have issued := issued_added log (congrArg SyncWorld.history issues.next)
    rw [issues.cmd, issues.payload] at issued
    by_cases snapshot : isSnapshotCmd cmd = true
    · rw [if_pos snapshot] at issued
      rw [bound_registered bound published issued]
      exact ⟨fun latest _ _ => latest, fun condition => condition issues.nonempty snapshot⟩
    · rw [if_neg snapshot, List.append_nil] at issued
      rw [bound_quiet published issued]
      exact ⟨fun _ _ isSnapshot => absurd isSnapshot snapshot, fun _ => bound⟩

theorem toNat_nextVersion {version : UInt32} (room : version.toNat + 1 < 2 ^ 32) :
    (versionAtLeastOne (version + 1)).toNat = version.toNat + 1 := by
  have number : (version + 1).toNat = version.toNat + 1 := by
    rw [UInt32.toNat_add]
    exact Nat.mod_eq_of_lt room
  have nonzero : version + 1 ≠ 0 := by
    intro zero
    rw [zero] at number
    cases number
  rw [versionAtLeastOne, if_neg nonzero, number]

theorem bound_publishLatest {env : Surroundings} {seq : UInt32} {exported : Option String}
    (counted : Counted library log) (bound : Bound library log)
    (inDomain : InDomain library log (.publishLatestSnapshot env seq exported)) :
    Bound library (step library log (.publishLatestSnapshot env seq exported)) := by
  have published : (step library log (.publishLatestSnapshot env seq exported)).published =
      log.published ++
        (SyncWorld.latestSnapshotText library log.world.sync exported).toList := by
    simp only [step, SyncWorld.effects, publishedSnapshots_publishLatest]
  rcases SyncWorld.publishLatestSnapshot_cases library log.world env seq exported with
    ⟨nothing, same⟩ | ⟨text, version, added, printed, issues, -⟩
  · rw [nothing, Option.toList_none, List.append_nil] at published
    have issued : SyncWorld.issuedSnapshots
        (step library log (.publishLatestSnapshot env seq exported)).world.history =
          SyncWorld.issuedSnapshots log.world.history := by
      rw [step, same]
    exact (bound_quiet published issued).mpr bound
  · have issued := issued_added log (congrArg SyncWorld.history issues.next)
    rw [issues.cmd, issues.payload, if_pos (by decide)] at issued
    rw [printed, Option.toList_some] at published
    rcases Option.map_eq_some_iff.mp printed with ⟨root, found, stamped⟩
    rcases inDomain root found with ⟨isObj, room⟩
    have wire : root.Wire Json.maxDepth := by
      rcases Option.bind_eq_some_iff.mp found with ⟨source, -, read⟩
      exact library.parse_wire source root read
    have carries := versionOf_stamped library
      (versionAtLeastOne (log.world.sync.configVersion + 1)) isObj wire
    rw [stamped, toNat_nextVersion room] at carries
    apply bound_published bound published issued carries
    intro other member seen sees
    have before := counted other member seen sees
    push_cast
    omega

theorem bound_tick {env : Surroundings} (counted : Counted library log)
    (bound : Bound library log) :
    Bound library (step library log (.tick env)) ↔ BindingCondition library log (.tick env) := by
  have published : (step library log (.tick env)).published = log.published ++
      ((resends library env log.world.sync).map (retryText library log.world.sync)).toList := by
    simp only [step, SyncWorld.effects, publishedSnapshots_tick]
  have issued : SyncWorld.issuedSnapshots (step library log (.tick env)).world.history =
      SyncWorld.issuedSnapshots log.world.history := by
    rcases SyncWorld.step_tick_cases library log.world env with
      ⟨-, -, same⟩ | ⟨-, -, -, same⟩ | ⟨root, -, -, -, sent⟩
    · rw [step, same]
    · rw [step, same]
    · rw [step, sent, SyncWorld.issuedSnapshots_modify]
  unfold BindingCondition
  cases again : resends library env log.world.sync with
  | none =>
      rw [again, Option.map_none, Option.toList_none, List.append_nil] at published
      rw [bound_quiet published issued]
      refine ⟨fun _ root member => ?_, fun _ => bound⟩
      cases again.symm.trans member
  | some root =>
      rw [again, Option.map_some, Option.toList_some] at published
      have parsed : library.parse log.world.sync.pendingSnapshot = some root := by
        unfold resends at again
        split at again
        · exact again
        · cases again
      have carries := versionOf_retryText library parsed
      have same := describedBy_retryText library parsed
      by_cases isObj : root.isObj = true
      · rw [if_pos isObj] at carries
        rw [bound_resent bound counted published issued carries]
        unfold DescribesLatest
        rw [same]
        constructor
        · intro latest other _ _
          exact latest
        · intro condition
          exact condition root again isObj
      · rw [if_neg isObj] at carries
        refine ⟨fun _ other member isObject => ?_,
          fun _ => bound_unversioned bound published issued carries⟩
        cases again.symm.trans member
        exact absurd isObject isObj

theorem bound_step {event : SyncEvent} (counted : Counted library log)
    (inDomain : InDomain library log event) (bound : Bound library log) :
    Bound library (step library log event) ↔ BindingCondition library log event := by
  cases event with
  | markSent env seq cmd payload portId => exact bound_markSent library log bound
  | publishLatestSnapshot env seq exported =>
      exact ⟨fun _ => trivial, fun _ => bound_publishLatest library log counted bound inDomain⟩
  | handleAckJson nowMs payload =>
      refine ⟨fun _ => trivial, fun _ => (bound_quiet ?_ ?_).mpr bound⟩
      · simp only [step, SyncWorld.effects, publishedSnapshots_handleAckJson, List.append_nil]
      · simp only [step, SyncWorld.step]
        split
        · rfl
        · exact SyncWorld.issuedSnapshots_map _ _
  | tick env => exact bound_tick library log counted bound
  | nextSeq =>
      have published : (step library log .nextSeq).published = log.published := by
        simp only [step, SyncWorld.effects, publishedSnapshots, List.filterMap_nil, List.append_nil]
      exact ⟨fun _ => trivial, fun _ => (bound_quiet published rfl).mpr bound⟩

theorem toNat_versionAtLeastOne (version : UInt32) :
    version.toNat ≤ (versionAtLeastOne version).toNat := by
  unfold versionAtLeastOne
  split
  · rename_i zero
    rw [zero]
    exact Nat.zero_le _
  · exact le_refl _

/-- The counter never goes back. -/
theorem version_grows (event : SyncEvent) (inDomain : InDomain library log event) :
    log.world.sync.configVersion.toNat ≤
      (SyncWorld.versionAfter library log.world event).toNat := by
  cases event with
  | markSent env seq cmd payload portId =>
      rw [SyncWorld.versionAfter]
      split
      · exact le_refl _
      · rename_i nonempty
        unfold issuedVersion
        split
        · rename_i snapshot
          rw [toNat_nextVersion (inDomain nonempty snapshot)]
          exact Nat.le_succ _
        · exact toNat_versionAtLeastOne _
  | publishLatestSnapshot env seq exported =>
      rw [SyncWorld.versionAfter]
      split
      · rename_i some
        rcases Option.isSome_iff_exists.mp some with ⟨root, found⟩
        have next := toNat_nextVersion (inDomain root found).2
        change _ ≤ (versionAtLeastOne (log.world.sync.configVersion + 1)).toNat
        rw [next]
        exact Nat.le_succ _
      · exact le_refl _
  | handleAckJson | tick | nextSeq => exact le_refl _

theorem counted_step (event : SyncEvent) (counted : Counted library log)
    (inDomain : InDomain library log event) : Counted library (step library log event) := by
  have version : (step library log event).world.sync.configVersion =
      SyncWorld.versionAfter library log.world event :=
    SyncWorld.configVersion_step library log.world event
  have grows := version_grows library log event inDomain
  have old : forall text, text ∈ log.published -> forall seen, versionOf library text = some seen ->
      seen ≤ (SyncWorld.versionAfter library log.world event).toNat := by
    intro text member seen sees
    have before := counted text member seen sees
    omega
  intro text member seen sees
  rw [version]
  simp only [step, List.mem_append] at member
  rcases member with member | new
  · exact old text member seen sees
  · cases event with
    | markSent env seq cmd payload portId =>
        rw [SyncWorld.effects, publishedSnapshots_markSent] at new
        cases new
    | publishLatestSnapshot env seq exported =>
        rw [SyncWorld.effects, publishedSnapshots_publishLatest, Option.mem_toList] at new
        rcases Option.map_eq_some_iff.mp new with ⟨root, found, rfl⟩
        have wire : root.Wire Json.maxDepth := by
          rcases Option.bind_eq_some_iff.mp found with ⟨source, -, read⟩
          exact library.parse_wire source root read
        rw [versionOf_stamped library _ (inDomain root found).1 wire] at sees
        cases sees
        rw [SyncWorld.versionAfter, found]
        exact le_refl _
    | handleAckJson nowMs payload =>
        rw [SyncWorld.effects, publishedSnapshots_handleAckJson] at new
        cases new
    | tick env =>
        rw [SyncWorld.effects, publishedSnapshots_tick, Option.mem_toList] at new
        rcases Option.map_eq_some_iff.mp new with ⟨root, again, rfl⟩
        have parsed : library.parse log.world.sync.pendingSnapshot = some root := by
          unfold resends at again
          split at again
          · exact again
          · cases again
        rw [versionOf_retryText library parsed] at sees
        split at sees
        · cases sees
          exact le_refl _
        · cases sees
    | nextSeq => cases new

/-- The binding holds in every state of the run. -/
def BoundThroughout (events : List SyncEvent) : Prop :=
  forall before after, events = before ++ after -> Bound library ((system library).run before)

/-- In a run without wrap-around, versions and configurations are bound
together all the way exactly when every step meets the condition. -/
theorem versions_bound_iff {events : List SyncEvent}
    (inDomain : (system library).Admissible (InDomain library) events) :
    BoundThroughout library events ↔
      (system library).Admissible (BindingCondition library) events := by
  apply (system library).everywhere_iff _ _ _ _ inDomain
  · exact Counted library
  · intro other member
    cases member
  · constructor
    · intro first second member
      cases member
    · intro text member
      cases member
  · intro log event counted inDomain
    exact counted_step library log event counted inDomain
  · intro log event counted inDomain bound
    exact bound_step library log counted inDomain bound

instance inDomainDecidable : forall event, Decidable (InDomain library log event)
  | .markSent _ _ _ _ _ => inferInstanceAs (Decidable (_ -> _))
  | .publishLatestSnapshot _ _ _ => inferInstanceAs (Decidable (forall root, root ∈ _ -> _))
  | .handleAckJson _ _ | .tick _ | .nextSeq => isTrue trivial

theorem describesLatest_of_issued {text : String}
    (issued : (SyncWorld.issuedSnapshots log.world.history).getLast? = some text) :
    DescribesLatest library log text := by
  rw [DescribesLatest, issued, Option.map_some]

/-! ## Concrete runs -/

/-- One port with its devices. -/
def portsJson (devices : List Int) : Json :=
  .arr [.obj [("portId", .str "port_001"),
    ("devices", .arr (devices.map fun device => .obj [("deviceId", .int device)]))]]

/-- A snapshot, cut down to the member that is compared. -/
def snapshotText (devices : List Int) : String :=
  JsonC.jsonText.print (.obj [("ports", portsJson devices)])

/-- A snapshot is published and sent again, and another one follows. -/
def retriedRun : List SyncEvent :=
  [.publishLatestSnapshot (SyncWorld.online 0) 1001 (some (snapshotText [3])),
   .tick (SyncWorld.online 8000),
   .publishLatestSnapshot (SyncWorld.online 9000) 1002 (some (snapshotText [3, 4]))]

theorem versions_bound_retried : BoundThroughout JsonC.jsonText retriedRun := by
  have inDomain : (system JsonC.jsonText).Admissible (InDomain JsonC.jsonText) retriedRun := by
    decide +kernel
  apply (versions_bound_iff JsonC.jsonText inDomain).mpr
  refine ⟨trivial, ?_, trivial, trivial⟩
  intro root again isObj
  exact describesLatest_of_issued JsonC.jsonText _ (by decide +kernel)

/-- The first snapshot is still active when the second one is issued; its
retry carries the second one's version. -/
def overtakenRun : List SyncEvent :=
  [.publishLatestSnapshot (SyncWorld.online 0) 1001 (some (snapshotText [3])),
   .publishLatestSnapshot (SyncWorld.online 1000) 1002 (some (snapshotText [3, 4])),
   .tick (SyncWorld.online 8000)]

/-- A requested export is registered after a snapshot was published. -/
def requestedRun : List SyncEvent :=
  [.publishLatestSnapshot (SyncWorld.online 0) 1001 (some (snapshotText [3])),
   .markSent (SyncWorld.online 1000) 1002 "config_snapshot" (snapshotText [3, 4]) "port_001"]

/-- The published snapshots as pairs of version and configuration, printed. -/
def bindings (log : VersionLog) : List (Option Int × Option String) :=
  log.published.map fun text =>
    (versionOf JsonC.jsonText text, (describedBy JsonC.jsonText text).map (JsonText.print true))

def latestPrinted (log : VersionLog) : Option (Option String) :=
  (SyncWorld.issuedSnapshots log.world.history).getLast?.map fun text =>
    (describedBy JsonC.jsonText text).map (JsonText.print true)

theorem Bound.bindings_single {log : VersionLog} (bound : Bound JsonC.jsonText log) {version : Int}
    {first second : Option String} (firstMember : (some version, first) ∈ bindings log)
    (secondMember : (some version, second) ∈ bindings log) : first = second := by
  rcases List.mem_map.mp firstMember with ⟨one, oneMember, oneIs⟩
  rcases List.mem_map.mp secondMember with ⟨two, twoMember, twoIs⟩
  injection oneIs with oneVersion oneDescribed
  injection twoIs with twoVersion twoDescribed
  rw [← oneDescribed, ← twoDescribed,
    bound.single one two oneMember twoMember version oneVersion twoVersion]

theorem Bound.bindings_newest {log : VersionLog} (bound : Bound JsonC.jsonText log) {version : Int}
    {described : Option String} (only : bindings log = [(some version, described)]) :
    latestPrinted log = some described := by
  have member : (some version, described) ∈ bindings log := by
    rw [only]
    exact List.mem_singleton.mpr rfl
  rcases List.mem_map.mp member with ⟨text, published, is⟩
  injection is with carries describes
  have latest : DescribesLatest JsonC.jsonText log text := by
    apply bound.newest text published version carries
    intro other otherPublished seen sees
    have inside : (versionOf JsonC.jsonText other,
        (describedBy JsonC.jsonText other).map (JsonText.print true)) ∈ bindings log :=
      List.mem_map.mpr ⟨other, otherPublished, rfl⟩
    rw [only, List.mem_singleton, sees] at inside
    cases congrArg Prod.fst inside
    exact le_refl _
  unfold DescribesLatest at latest
  have printed := congrArg (Option.map (Option.map (JsonText.print true))) latest
  rw [Option.map_map, Option.map_some, describes] at printed
  exact printed

def portsPrinted (devices : List Int) : Option String :=
  some (JsonText.print true (portsJson devices))

theorem bindings_overtaken : bindings ((system JsonC.jsonText).run overtakenRun) =
    [(some 1, portsPrinted [3]), (some 2, portsPrinted [3, 4]), (some 2, portsPrinted [3])] := by
  decide +kernel

theorem bindings_requested :
    bindings ((system JsonC.jsonText).run requestedRun) = [(some 1, portsPrinted [3])] ∧
      latestPrinted ((system JsonC.jsonText).run requestedRun) = some (portsPrinted [3, 4]) := by
  decide +kernel

theorem portsPrinted_differ : portsPrinted [3, 4] ≠ portsPrinted [3] := by
  decide +kernel

/-- The overtaken retry gives one version two configurations; the requested
export leaves the highest version with an older one. -/
theorem versions_unbound :
    ¬ Bound JsonC.jsonText ((system JsonC.jsonText).run overtakenRun) ∧
      ¬ Bound JsonC.jsonText ((system JsonC.jsonText).run requestedRun) := by
  constructor
  · intro bound
    have listed := bindings_overtaken
    apply portsPrinted_differ
    apply bound.bindings_single
    · rw [listed]
      exact List.mem_cons_of_mem _ List.mem_cons_self
    · rw [listed]
      exact List.mem_cons_of_mem _ (List.mem_cons_of_mem _ List.mem_cons_self)
  · intro bound
    rcases bindings_requested with ⟨only, latest⟩
    have newest := bound.bindings_newest only
    rw [latest, Option.some.injEq] at newest
    exact portsPrinted_differ newest

end VersionLog
end Board
end Imx6Gateway
