import Imx6Gateway.Library.LineFraming
import Mathlib.Data.List.DropRight
import Mathlib.Data.List.TakeWhile

namespace Imx6Gateway
namespace LocalUi
namespace IpcClient

open Library

/-!
# The connections of the interface on the board

`ipc_client.cpp` takes the stream of the board's socket apart into lines.
Neither a disconnect nor a new connection touches its buffer, so what one
connection leaves there stands in front of the first line of the next.
-/

def newline : UInt8 := 10

/-- White space of `QByteArray::trimmed`. -/
def isSpace (byte : UInt8) : Bool :=
  byte = 32 || (9 ≤ byte && byte ≤ 13)

def trimmed (bytes : List UInt8) : List UInt8 :=
  (bytes.dropWhile isSpace).rdropWhile isSpace

/-- The frame of a line, if it is not empty. -/
def frameOf (line : List UInt8) : Option (List UInt8) :=
  if trimmed line = [] then none else some (trimmed line)

/-- `IpcClient::onReadyRead`: what each newline causes, and what stays in the
buffer. -/
def onReadyRead (recvBuf data : List UInt8) : List (Option (List UInt8)) × List UInt8 :=
  ((lines newline [] (recvBuf ++ data)).1.map frameOf, (lines newline [] (recvBuf ++ data)).2)

/-- `IpcClient::connectToServer` makes a new connection; the buffer stays as it
is. -/
def connectToServer (recvBuf : List UInt8) : List UInt8 := recvBuf

inductive Event where
  | connected
  | readyRead (data : List UInt8)
deriving DecidableEq

abbrev ReceiveWorld : Type := LineWorld UInt8 (List UInt8)

/-- The lines of a connection begin with it. -/
def receive (world : ReceiveWorld) : Event -> ReceiveWorld
  | .connected => { world with line := [], buffer := connectToServer world.buffer }
  | .readyRead data => world.take newline frameOf data (onReadyRead world.buffer data)

def receiveSystem : TransitionSystem ReceiveWorld Event where
  initial := .start
  step := receive

/-- The reads of one connection; it can end after any byte. -/
abbrev Connection : Type := List (List UInt8)

def events (connections : List Connection) : List Event :=
  connections.flatMap fun reads => .connected :: reads.map .readyRead

/-- The frames that are processed. -/
def frames (connections : List Connection) : List (List UInt8) :=
  LineWorld.messages (receiveSystem.run (events connections)).done

/-- They are those of the lines that each connection completes. -/
def Separated (connections : List Connection) : Prop :=
  frames connections =
    connections.flatMap fun reads => (lines newline [] reads.flatten).1.filterMap frameOf

/-- The bytes of the buffer that earlier connections have left. -/
def leftover (world : ReceiveWorld) : List UInt8 :=
  world.buffer.take (world.buffer.length - world.line.length)

/-- When a newline comes, what earlier connections have left is white space. -/
def StartsClean (world : ReceiveWorld) : Event -> Prop
  | .connected => True
  | .readyRead data => newline ∈ data -> forall byte, byte ∈ leftover world -> isSpace byte = true

/-! ## White space around a line -/

/-- The other bytes of a line. -/
def ink (line : List UInt8) : Nat := line.countP fun byte => !isSpace byte

theorem ink_append (first second : List UInt8) : ink (first ++ second) = ink first + ink second :=
  List.countP_append

theorem ink_eq_zero_iff (line : List UInt8) :
    ink line = 0 ↔ forall byte, byte ∈ line -> isSpace byte = true := by
  rw [ink, List.countP_eq_zero]
  simp

theorem ink_dropWhile (line : List UInt8) : ink (line.dropWhile isSpace) = ink line := by
  induction line with
  | nil => rfl
  | cons byte line ih =>
      rw [List.dropWhile_cons]
      split
      · next space =>
          rw [ih, ink, ink, List.countP_cons_of_neg (by simp [space])]
      · rfl

theorem ink_trimmed (line : List UInt8) : ink (trimmed line) = ink line := by
  have back := ink_dropWhile (line.dropWhile isSpace).reverse
  rw [trimmed, List.rdropWhile, ink, List.countP_reverse, ← ink, back, ink, List.countP_reverse,
    ← ink, ink_dropWhile]

theorem trimmed_eq_nil_iff (line : List UInt8) : trimmed line = [] ↔ ink line = 0 := by
  rw [trimmed, List.rdropWhile_eq_nil_iff, ← ink_eq_zero_iff, ink_dropWhile]

theorem weight_frameOf (line : List UInt8) : weight ink (frameOf line) = ink line := by
  rw [frameOf]
  by_cases blank : trimmed line = []
  · rw [if_pos blank]
    exact ((trimmed_eq_nil_iff line).mp blank).symm
  · rw [if_neg blank]
    exact ink_trimmed line

theorem frameOf_append_of_space {old : List UInt8} (space : ink old = 0) (line : List UInt8) :
    frameOf (old ++ line) = frameOf line := by
  have same : trimmed (old ++ line) = trimmed line := by
    rw [trimmed, trimmed, List.dropWhile_append_of_pos ((ink_eq_zero_iff old).mp space)]
  rw [frameOf, frameOf, same]

/-- White space in front of a line does not show, and all else does. -/
theorem frameOf_append_iff (old line : List UInt8) :
    frameOf (old ++ line) = frameOf line ↔ ink old = 0 := by
  constructor
  · intro same
    have weights := congrArg (weight ink) same
    rw [weight_frameOf, weight_frameOf, ink_append] at weights
    omega
  · exact fun space => frameOf_append_of_space space line

/-! ## What a read does -/

/-- The current line is at the end of the buffer, and what went wrong so far
has made frames larger. -/
structure Receiving (world : ReceiveWorld) : Prop where
  larger : List.Forall₂ (fun one other => one = other ∨ weight ink one < weight ink other)
    world.due world.done
  suffix : world.line <:+ world.buffer
  noNewline : newline ∉ world.buffer

namespace Receiving

variable {world : ReceiveWorld}

theorem leftover_append_line (receiving : Receiving world) :
    leftover world ++ world.line = world.buffer := by
  rcases receiving.suffix with ⟨old, buffer⟩
  rw [leftover, ← buffer, List.length_append, Nat.add_sub_cancel, List.take_left]

theorem connected (receiving : Receiving world) : Receiving (receive world .connected) where
  larger := receiving.larger
  suffix := List.nil_suffix
  noNewline := receiving.noNewline

theorem onReadyRead_eq (receiving : Receiving world) (data : List UInt8) :
    onReadyRead world.buffer data =
      ((lines newline world.buffer data).1.map frameOf, (lines newline world.buffer data).2) := by
  rw [onReadyRead, lines_buffer newline receiving.noNewline]

theorem readyRead (receiving : Receiving world) (data : List UInt8) :
    Receiving (receive world (.readyRead data)) := by
  have extended := lines_extend newline (leftover world) world.line data
  rw [receiving.leftover_append_line] at extended
  rw [receive, LineWorld.take, receiving.onReadyRead_eq, extended]
  refine ⟨List.rel_append receiving.larger ?_, ?_, ?_⟩
  · cases (lines newline world.line data).1 with
    | nil => exact .nil
    | cons front others =>
        refine .cons ?_ ?_
        · rw [weight_frameOf, weight_frameOf, ink_append]
          by_cases same : frameOf (leftover world ++ front) = frameOf front
          · exact Or.inl same.symm
          · have something := mt (frameOf_append_iff _ front).mpr same
            exact Or.inr (by omega)
        · rw [List.forall₂_map_left_iff, List.forall₂_map_right_iff, List.forall₂_same]
          exact fun other _ => Or.inl rfl
  · cases (lines newline world.line data).1 with
    | nil => exact List.suffix_append _ _
    | cons front others => exact List.suffix_rfl
  · rw [← extended]
    exact stop_not_mem_rest newline receiving.noNewline data

/-- The frames of a read are those of the connection exactly when it meets the
condition. -/
theorem exact_iff (receiving : Receiving world) (event : Event) :
    (receive world event).Exact ↔ world.Exact ∧ StartsClean world event := by
  cases event with
  | connected => exact (and_iff_left trivial).symm
  | readyRead data =>
      rw [receive, LineWorld.take_exact_iff newline frameOf receiving.larger.length_eq.symm,
        receiving.onReadyRead_eq]
      apply and_congr_right
      intro _
      have compared := lines_map_eq_iff newline frameOf frameOf (leftover world) world.line data
      rw [receiving.leftover_append_line] at compared
      have ended := lines_eq_nil_iff newline world.line data
      rw [eq_comm, compared, StartsClean, ← ink_eq_zero_iff]
      cases completed : (lines newline world.line data).1 with
      | nil => exact iff_of_true trivial fun inside => absurd inside (ended.mp completed)
      | cons front others =>
          have inside : newline ∈ data := by
            by_contra absent
            rw [ended.mpr absent] at completed
            cases completed
          have first := frameOf_append_iff (leftover world) front
          constructor
          · exact fun same _ => first.mp same.1.symm
          · exact fun holds => ⟨(first.mpr (holds inside)).symm, fun _ _ => rfl⟩

theorem step (receiving : Receiving world) (event : Event) : Receiving (receive world event) := by
  cases event with
  | connected => exact receiving.connected
  | readyRead data => exact receiving.readyRead data

end Receiving

/-- What is due is what each connection completes. -/
theorem due_runFrom (world : ReceiveWorld) (connections : List Connection) :
    (receiveSystem.runFrom world (events connections)).due =
      world.due ++ connections.flatMap fun reads =>
        (lines newline [] reads.flatten).1.map frameOf := by
  induction connections generalizing world with
  | nil => exact (List.append_nil _).symm
  | cons reads connections ih =>
      rw [events, List.flatMap_cons, TransitionSystem.runFrom_append, ← events, ih,
        List.flatMap_cons, ← List.append_assoc]
      have here := (LineWorld.due_of_pieces newline frameOf
        (fun world data => onReadyRead world.buffer data) (receive world .connected) reads).1
      refine congrArg₂ (fun first second => first ++ second) ?_ rfl
      rw [TransitionSystem.runFrom_cons, TransitionSystem.runFrom, List.foldl_map]
      exact here

theorem messages_flatMap (connections : List Connection) :
    LineWorld.messages (connections.flatMap fun reads =>
        (lines newline [] reads.flatten).1.map frameOf) =
      connections.flatMap fun reads => (lines newline [] reads.flatten).1.filterMap frameOf := by
  induction connections with
  | nil => rfl
  | cons reads connections ih =>
      rw [List.flatMap_cons, List.flatMap_cons, LineWorld.messages_append, ih,
        LineWorld.messages_map]

/-- The frames are those of the connections exactly when each newline finds
nothing but white space that earlier connections have left. -/
theorem separated_iff (connections : List Connection) :
    Separated connections ↔ receiveSystem.Admissible StartsClean (events connections) := by
  have start : Receiving receiveSystem.initial :=
    ⟨.nil, List.suffix_rfl, List.not_mem_nil⟩
  have receiving := receiveSystem.invariant_everywhere start
    (fun _ event receiving => receiving.step event) (events connections)
  have steps := receiveSystem.characterizedFrom_iff_of_forall
    (fun _ event (receiving : Receiving _) => receiving.step event)
    (fun _ event receiving => receiving.exact_iff event) (events connections) start
  have due : (receiveSystem.run (events connections)).due =
      connections.flatMap fun reads => (lines newline [] reads.flatten).1.map frameOf :=
    (due_runFrom .start connections).trans (List.nil_append _)
  rw [Separated, frames, ← messages_flatMap, ← due, eq_comm]
  exact (messages_eq_iff ink receiving.larger).trans
    (eq_comm.trans (steps.trans (and_iff_right rfl)))

/-- A connection ends after one byte, and the next one sends a line. -/
theorem leftover_in_next_frame : ¬ forall connections, Separated connections := by
  intro separated
  have frame : frames [[[120]], [[97, newline]]] = [[120, 97]] := by decide
  have own := separated [[[120]], [[97, newline]]]
  rw [Separated, frame] at own
  cases own

end IpcClient
end LocalUi
end Imx6Gateway
