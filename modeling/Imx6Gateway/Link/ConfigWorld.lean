import Imx6Gateway.Board.VersionBinding
import Imx6Gateway.Link.SnapshotReading

namespace Imx6Gateway
namespace Link

open Library Board Board.ConfigSync Pc

/-!
# The board and Pc_data with the snapshots between them

Whenever its devices change, the board issues a snapshot of all of them under
the next version; a tick may send the active message again.  The snapshots
reach Pc_data in the order in which they were sent, and its answers come back
in any order.  Messages and answers can get lost.
-/

/-! ## The snapshots that are sent -/

section Exports

variable (getFloat : Json -> Limit) (library : JsonC)

/-- The export that `data_config_sync_publish_latest_snapshot` asks for. -/
def latestExport (ports : PortManager) (seq : UInt32) (nowMs : Int64) : ExportedSnapshot :=
  exportedSnapshot getFloat library ports ports.file seq (some defaultGatewayId) (some "") nowMs

def latestExportText (ports : PortManager) (seq : UInt32) (nowMs : Int64) : Option String :=
  exportConfigSnapshotJson getFloat library ports ports.file seq (some defaultGatewayId) (some "")
    nowMs configSyncPayloadMax

/-- What the board tells of its devices: those in memory, and those that only
the config file has. -/
def configuredPorts (ports : PortManager) : List ExportedPort :=
  (latestExport getFloat library ports 0 0).ports

def configuredDevices (ports : PortManager) : List (Slot × Int32) :=
  exportedKeys (configuredPorts getFloat library ports)

theorem text_of_latestExportText {ports : PortManager} {seq : UInt32} {nowMs : Int64}
    {text : String} (exported : latestExportText getFloat library ports seq nowMs = some text) :
    text = library.print (latestExport getFloat library ports seq nowMs).toJson := by
  unfold latestExportText exportConfigSnapshotJson at exported
  dsimp only at exported
  split at exported
  · cases exported
  · cases exported
    rfl

/-- Once the board has saved its devices, these are the devices in memory. -/
theorem mem_configuredDevices {ports : PortManager} (consistent : ports.Consistent)
    (writtenMs : Int64) (slot : Slot) (deviceId : Int32) :
    (slot, deviceId) ∈
        configuredDevices getFloat library (ports.writeConfigLocked (.written writtenMs)).2 ↔
      ports.live (slot, deviceId) = true := by
  have distinct := fun slot => (consistent.channel slot).devices.distinct
  have exact := @exportsExactly getFloat library ports ports distinct distinct (some "") 0
    (some defaultGatewayId) writtenMs 0
    fun slot device inside => ((consistent.channel slot).devices.pollable device inside).address
  have everything : selectedDevices library (some "") = [] := rfl
  rw [configuredDevices, exportedKeys, List.mem_flatMap, PortManager.live_iff]
  constructor
  · rintro ⟨port, inside, listed⟩
    rcases List.mem_map.mp listed with ⟨device, held, same⟩
    cases same
    cases (exact.devices port.slot device).mp ⟨port, inside, rfl, held⟩ with
    | memory own known accepted => exact ⟨own, known, rfl⟩
    | file own known accepted absent =>
        rw [PortManager.live_iff.mpr ⟨own, known, rfl⟩] at absent
        cases absent
  · rintro ⟨own, known, rfl⟩
    rcases (exact.devices slot _).mpr (.memory own known (Or.inl everything)) with
      ⟨port, inside, rfl, held⟩
    exact ⟨port, inside, List.mem_map.mpr ⟨_, held, rfl⟩⟩

end Exports

/-- Apart from the fields that every send sets anew, the tree is a full export. -/
def ExportOf (snapshot : ExportedSnapshot) (root : Json) : Prop :=
  snapshot.fullSnapshot = true ∧ snapshot.gatewayId = defaultGatewayId ∧
    (root.erase "seq").erase "configVersion" = (snapshot.toJson.erase "seq").erase "configVersion"

theorem snapshotMessage_stamped (snapshot : ExportedSnapshot) (full : snapshot.fullSnapshot = true)
    (gateway : snapshot.gatewayId = defaultGatewayId) (version : UInt32) :
    SnapshotMessage snapshot.ports version.toNat (stampVersion version snapshot.toJson) where
  front := ⟨_, rfl⟩
  wire := SyncWorld.wire_stamp (wire_exportedSnapshot snapshot)
  version := rfl
  fullSnapshot := by
    rw [← full]
    rfl
  gatewayId := by
    rw [← gateway]
    rfl
  site := rfl
  factoryId := rfl
  areaId := rfl
  ports := by
    rw [← gateway]
    rfl

theorem snapshotMessage_restamped {snapshot : ExportedSnapshot} {root : Json}
    (exported : ExportOf snapshot root) (wire : root.Wire Json.maxDepth) (seq version : UInt32) :
    SnapshotMessage snapshot.ports version.toNat (restamp seq version root) := by
  rcases exported with ⟨full, gateway, same⟩
  have different : "seq" ≠ "configVersion" := by decide
  have tree : restamp seq version root =
      (((snapshot.toJson.erase "seq").erase "configVersion").append "seq" (.int seq.toNat)).append
        "configVersion" (.int version.toNat) := by
    rw [restamp, stampVersion, stampSeq, Json.erase_append_of_ne _ _ different, same]
  have wired : (restamp seq version root).Wire Json.maxDepth := SyncWorld.wire_restamp wire
  rw [tree] at wired ⊢
  exact {
    front := ⟨_, rfl⟩
    wire := wired
    version := rfl
    fullSnapshot := by
      rw [← full]
      rfl
    gatewayId := by
      rw [← gateway]
      rfl
    site := rfl
    factoryId := rfl
    areaId := rfl
    ports := by
      rw [← gateway]
      rfl }

/-! ## The two programs and the messages between them -/

/-- The registration module of the board with the devices it tells of, and
Pc_data.  Underway are the snapshots that were published and have not arrived,
the oldest first; an answer stays, so that it can arrive again. -/
structure ConfigWorld where
  board : SyncWorld
  ports : PortManager
  underway : List String
  pc : PcData
  answers : List Publication

inductive ConfigEvent where
  | issue (ports : PortManager) (env : Surroundings) (seq : UInt32) (nowMs : Int64)
  | tick (env : Surroundings)
  | loseMessage (position : Nat)
  | handle (clock : Int64)
  | loseAnswer (position : Nat)
  | acknowledge (position : Nat) (nowMs : Int)

namespace ConfigWorld

variable (link : Exchange) (getFloat : Json -> Limit) (stod : String -> Option Rat)

/-- The board takes a step, and the snapshots it publishes go on their way. -/
def boardStep (world : ConfigWorld) (event : Board.SyncEvent) : ConfigWorld :=
  { world with
    board := SyncWorld.step link.board world.board event
    underway := world.underway ++
      publishedSnapshots (SyncWorld.effects link.board world.board event) }

def issueEvent (ports : PortManager) (env : Surroundings) (seq : UInt32) (nowMs : Int64) :
    Board.SyncEvent :=
  .publishLatestSnapshot env seq (latestExportText getFloat link.board ports seq nowMs)

/-- Pc_data handles the oldest message, if there is one. -/
def handleNext (world : ConfigWorld) (clock : Int64) : ConfigWorld :=
  match world.underway with
  | [] => world
  | text :: later =>
      let result := world.pc.handle link.pc clock.toInt stod mqttGatewayRegisterTopic text
      { world with underway := later, pc := result.1, answers := world.answers ++ result.2 }

def step (world : ConfigWorld) : ConfigEvent -> ConfigWorld
  | .issue ports env seq nowMs =>
      { world with ports := ports }.boardStep link (issueEvent link getFloat ports env seq nowMs)
  | .tick env => world.boardStep link (.tick env)
  | .loseMessage position => { world with underway := world.underway.eraseIdx position }
  | .handle clock => world.handleNext link stod clock
  | .loseAnswer position => { world with answers := world.answers.eraseIdx position }
  | .acknowledge position nowMs =>
      world.answers[position]?.elim world fun answer =>
        world.boardStep link (.handleAckJson nowMs answer.payload)

/-- The board has not issued anything, and Pc_data has no request of a user. -/
def system (ports : PortManager) (pc : PcData) : TransitionSystem ConfigWorld ConfigEvent where
  initial := ⟨SyncWorld.initial, ports, [], pc, []⟩
  step := step link getFloat stod

end ConfigWorld

end Link
end Imx6Gateway
