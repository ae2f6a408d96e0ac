import Imx6Gateway.Board.MqttTopic
import Imx6Gateway.Library.RingBuffer
import Imx6Gateway.Library.Transition

namespace Imx6Gateway
namespace Board

open Library

/-!
# The send ring of the board

`queue_push` and `queue_pop` of `mqtt_wrapper.c`.  A slot has a fixed size,
and `strncpy` cuts what does not fit into it.  The ring itself keeps every
item in order; what is lost is lost at the copy into a slot.
-/

/-- One message for the broker. -/
structure MqttItem where
  topic : String
  payload : String
deriving DecidableEq

def mqttQueueMax : Nat := 32

/-- A slot holds the item with its terminators. -/
def MqttItem.Fits (item : MqttItem) : Prop :=
  textBytes item.topic < 128 ∧ textBytes item.payload < mqttPayloadMax

instance (item : MqttItem) : Decidable item.Fits :=
  inferInstanceAs (Decidable (_ ∧ _))

/-- The copy of an item in a slot. -/
def MqttItem.slot (item : MqttItem) : MqttItem :=
  ⟨clip 127 item.topic, clip (mqttPayloadMax - 1) item.payload⟩

theorem MqttItem.slot_of_fits {item : MqttItem} (fits : item.Fits) : item.slot = item := by
  rw [slot, clip_of_fits 127 item.topic (Nat.le_of_lt_succ fits.1),
    clip_of_fits (mqttPayloadMax - 1) item.payload (Nat.le_of_lt_succ fits.2)]

/-- Only what fits is stored unmodified. -/
theorem MqttItem.slot_eq_iff (item : MqttItem) : item.slot = item ↔ item.Fits := by
  constructor
  · intro same
    have topic := textBytes_clip_le 127 item.topic
    have payload := textBytes_clip_le (mqttPayloadMax - 1) item.payload
    rw [show clip 127 item.topic = item.topic from congrArg MqttItem.topic same] at topic
    rw [show clip (mqttPayloadMax - 1) item.payload = item.payload from
      congrArg MqttItem.payload same] at payload
    exact ⟨Nat.lt_succ_of_le topic, Nat.lt_succ_of_le payload⟩
  · exact slot_of_fits

abbrev SendRing : Type := RingBuffer MqttItem mqttQueueMax

/-- The ring as the program starts, with zeroed slots. -/
def SendRing.start : SendRing where
  cells := fun _ => ⟨"", ""⟩
  head := 0
  tail := 0
  head_lt := by decide
  tail_lt := by decide

/-- `none` is the result -1. -/
def queuePush (ring : SendRing) (item : MqttItem) : Option SendRing :=
  if ring.isFull then none else some (ring.push item.slot)

def queuePop (ring : SendRing) : Option (MqttItem × SendRing) :=
  if ring.isEmpty then none else some (ring.front, ring.dropFront)

theorem queuePush_contents {ring pushed : SendRing} {item : MqttItem}
    (stored : queuePush ring item = some pushed) :
    pushed.contents = ring.contents ++ [item.slot] := by
  unfold queuePush at stored
  split at stored
  · cases stored
  · rename_i room
    cases stored
    exact ring.contents_push item.slot (Bool.eq_false_iff.mpr room)

theorem queuePop_contents {ring rest : SendRing} {item : MqttItem}
    (taken : queuePop ring = some (item, rest)) : ring.contents = item :: rest.contents := by
  unfold queuePop at taken
  split at taken
  · cases taken
  · rename_i some
    cases taken
    exact ring.contents_dropFront (Bool.eq_false_iff.mpr some)

/-! ## Runs of pushes and pops -/

inductive RingEvent where
  | push (item : MqttItem)
  | pop
deriving DecidableEq

/-- The ring with what has been pushed and popped so far. -/
structure RingWorld where
  ring : SendRing
  pushed : List MqttItem
  popped : List MqttItem

namespace RingWorld

def step (world : RingWorld) : RingEvent -> RingWorld
  | .push item =>
      match queuePush world.ring item with
      | some ring => { world with ring := ring, pushed := world.pushed ++ [item] }
      | none => world
  | .pop =>
      match queuePop world.ring with
      | some (item, ring) => { world with ring := ring, popped := world.popped ++ [item] }
      | none => world

def system : TransitionSystem RingWorld RingEvent where
  initial := ⟨SendRing.start, [], []⟩
  step := step

/-- The pops give the pushed items back in order, and nothing is stored that
does not fit. -/
structure Exact (world : RingWorld) : Prop where
  inOrder : world.popped ++ world.ring.contents = world.pushed
  unmodified : forall item, item ∈ world.pushed -> item.slot = item
  bounded : world.ring.count ≤ 31

/-- A push that finds room fits its slot. -/
def PushFits (world : RingWorld) : RingEvent -> Prop
  | .push item => world.ring.isFull = false -> item.Fits
  | .pop => True

instance (world : RingWorld) (event : RingEvent) : Decidable (PushFits world event) := by
  cases event <;> unfold PushFits <;> infer_instance

/-- The ring is a queue of copies. -/
def Copies (world : RingWorld) : Prop :=
  world.popped ++ world.ring.contents = world.pushed.map MqttItem.slot

theorem copies_step {world : RingWorld} (event : RingEvent) (copies : Copies world) :
    Copies (world.step event) := by
  unfold Copies at copies ⊢
  cases event with
  | push item =>
      simp only [step]
      split
      · rename_i ring stored
        rw [queuePush_contents stored, List.map_append, ← copies, List.append_assoc]
        rfl
      · exact copies
  | pop =>
      simp only [step]
      split
      · rename_i item ring taken
        rw [queuePop_contents taken] at copies
        rw [← copies, List.append_assoc]
        rfl
      · exact copies

theorem copies_run (events : List RingEvent) : Copies (system.run events) := by
  have initially : Copies system.initial := rfl
  exact system.invariant_everywhere initially (fun _ event copies => copies_step event copies) events

/-- Everything that has been stored fits. -/
def StoredFits (world : RingWorld) : Prop :=
  forall item, item ∈ world.pushed -> item.Fits

theorem storedFits_step (world : RingWorld) (event : RingEvent) :
    StoredFits (world.step event) ↔ StoredFits world ∧ PushFits world event := by
  cases event with
  | push item =>
      simp only [step, queuePush, PushFits]
      cases full : world.ring.isFull with
      | true => simp
      | false => simp [StoredFits, or_imp, forall_and]
  | pop =>
      simp only [step, PushFits, and_true]
      split <;> exact Iff.rfl

theorem exact_iff_storedFits {world : RingWorld} (copies : Copies world) :
    Exact world ↔ StoredFits world := by
  constructor
  · intro exact_ item stored
    exact (MqttItem.slot_eq_iff item).mp (exact_.unmodified item stored)
  · intro fits
    have same : world.pushed.map MqttItem.slot = world.pushed := by
      refine (List.map_congr_left ?_).trans (List.map_id world.pushed)
      exact fun item stored => MqttItem.slot_of_fits (fits item stored)
    exact
      { inOrder := copies.trans same
        unmodified := fun item stored => MqttItem.slot_of_fits (fits item stored)
        bounded := Nat.le_of_lt_succ world.ring.count_lt }

/-- A run is exact precisely when every push that finds room fits its slot. -/
theorem exact_run_iff (events : List RingEvent) :
    Exact (system.run events) ↔ system.Admissible PushFits events := by
  have nothing : StoredFits system.initial := by
    intro item stored
    cases stored
  rw [exact_iff_storedFits (copies_run events), TransitionSystem.run,
    system.characterized_runFrom storedFits_step]
  exact and_iff_right nothing

/-- A snapshot of the length that the configuration module can export. -/
def longSnapshot : MqttItem :=
  ⟨"gateway/gateway_001/up", String.ofList (List.replicate 5000 'x')⟩

/-- It is stored, but not as it is. -/
theorem longSnapshot_cut :
    (system.run [.push longSnapshot]).pushed = [longSnapshot] ∧
      ¬ Exact (system.run [.push longSnapshot]) := by
  have stored : (system.run [.push longSnapshot]).pushed = [longSnapshot] := rfl
  refine ⟨stored, ?_⟩
  intro exact_
  have fits := (MqttItem.slot_eq_iff longSnapshot).mp (exact_.unmodified longSnapshot (by
    rw [stored]
    exact List.mem_singleton.mpr rfl))
  have long : textBytes longSnapshot.payload = 5000 := by
    rw [longSnapshot, textBytes, String.toList_ofList, byteLength_replicate]
    decide
  exact absurd fits.2 (by rw [long]; decide)

end RingWorld
end Board
end Imx6Gateway
