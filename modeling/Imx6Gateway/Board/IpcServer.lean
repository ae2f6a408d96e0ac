import Imx6Gateway.Board.Protocol
import Imx6Gateway.Library.LineFraming
import Mathlib.Data.List.TakeWhile

namespace Imx6Gateway
namespace Board
namespace IpcServer

open Library

/-!
# The socket of the board

`ipc_server.c` reads a stream of commands in pieces of at most 1023 bytes and
passes each line to `data_command_process_message`.  A piece that does not
fit behind the kept bytes makes it forget these, before it looks for the end
of their line.  In the other direction a message and its newline are written
with one `write` each.
-/

/-- `BUF_SIZE`; a read asks for one byte less. -/
def bufSize : Nat := 1024
/-- `RECV_BUF_SIZE`. -/
def recvBufSize : Nat := 4096

def newline : UInt8 := 10

/-- The text that a pointer stands for ends at the first NUL. -/
def cString (bytes : List UInt8) : List UInt8 :=
  bytes.takeWhile fun byte => byte ≠ 0

/-- The call for a line, if it is not empty. -/
def processLine (line : List UInt8) : Option (List UInt8) :=
  if line = [] then none else some (cString line)

/-- The bytes that are still there when a read has been taken over. -/
def keptBytes (recvBuf buf : List UInt8) : List UInt8 :=
  if recvBufSize ≤ recvBuf.length + buf.length then [] else recvBuf

/-- `ipc_process_received_data`: what each newline causes, and what stays in
the buffer. -/
def ipcProcessReceivedData (recvBuf buf : List UInt8) : List (Option (List UInt8)) × List UInt8 :=
  let parts := lines newline [] (keptBytes recvBuf buf ++ buf)
  (parts.1.map processLine, parts.2)

/-- One successful `read`. -/
structure Read where
  bytes : List UInt8
  nonempty : bytes ≠ []
  bounded : bytes.length < bufSize
deriving DecidableEq

/-! ## The lines of a stream -/

/-- A line is due unless it is empty or too long for the buffer. -/
def dueLine (line : List UInt8) : Option (List UInt8) :=
  if line = [] ∨ recvBufSize ≤ line.length + 1 then none else some line

abbrev ReceiveWorld : Type := LineWorld UInt8 (List UInt8)

def receive (world : ReceiveWorld) (read : Read) : ReceiveWorld :=
  world.take newline dueLine read.bytes (ipcProcessReceivedData world.buffer read.bytes)

def receiveSystem : TransitionSystem ReceiveWorld Read where
  initial := .start
  step := receive

/-- What each newline of the stream has caused. -/
def outcomes (reads : List Read) : List (Option (List UInt8)) :=
  (receiveSystem.run reads).done

/-- The lines that fit are passed on as they are, and nothing else is. -/
def Framed (reads : List Read) : Prop :=
  outcomes reads = (lines newline [] (reads.flatMap Read.bytes)).1.map dueLine

/-- When a read ends a line, the buffer holds the whole of it, or nothing of a
line that is too long; and no NUL is in the lines that it ends. -/
def EndsWholeLines (world : ReceiveWorld) (read : Read) : Prop :=
  let kept := keptBytes world.buffer read.bytes
  let ended := (lines newline kept read.bytes).1
  (forall front, front ∈ ended.head? ->
    (kept = world.line ∧ 0 ∉ front) ∨ (front = [] ∧ recvBufSize ≤ world.line.length + 1)) ∧
  forall other, other ∈ ended.tail -> 0 ∉ other

/-! ## What a read does -/

theorem cString_eq_self_iff (bytes : List UInt8) : cString bytes = bytes ↔ 0 ∉ bytes := by
  rw [cString, List.takeWhile_eq_self_iff]
  constructor
  · intro nonzero inside
    exact of_decide_eq_true (nonzero 0 inside) rfl
  · intro absent byte inside
    exact decide_eq_true fun zero => absent (zero ▸ inside)

theorem length_cString_le (bytes : List UInt8) : (cString bytes).length ≤ bytes.length :=
  (List.takeWhile_prefix _).length_le

/-- A line that is all there is passed on as it is, unless it has a NUL. -/
theorem processLine_eq_dueLine_iff {line : List UInt8} (short : line.length + 1 < recvBufSize) :
    processLine line = dueLine line ↔ 0 ∉ line := by
  rw [processLine, dueLine]
  by_cases empty : line = []
  · rw [if_pos empty, if_pos (Or.inl empty), empty]
    exact iff_of_true rfl List.not_mem_nil
  · rw [if_neg empty, if_neg (not_or.mpr ⟨empty, Nat.not_le_of_lt short⟩), Option.some.injEq,
      cString_eq_self_iff]

/-- A line whose beginning is lost is due to be dropped if it was too long;
then nothing of it may be left. -/
theorem processLine_lost_iff {lost front : List UInt8} (missing : lost ≠ []) :
    processLine front = dueLine (lost ++ front) ↔
      front = [] ∧ recvBufSize ≤ (lost ++ front).length + 1 := by
  have nonempty : lost ++ front ≠ [] := List.append_ne_nil_of_left_ne_nil missing front
  rw [processLine, dueLine]
  by_cases long : recvBufSize ≤ (lost ++ front).length + 1
  · rw [if_pos (Or.inr long), ite_eq_left_iff]
    constructor
    · intro nothing
      refine ⟨?_, long⟩
      by_contra something
      cases nothing something
    · rintro ⟨nothing, _⟩ something
      exact absurd nothing something
  · rw [if_neg (not_or.mpr ⟨nonempty, long⟩)]
    refine iff_of_false ?_ (fun impossible => long impossible.2)
    intro delivered
    split at delivered
    · cases delivered
    · have shorter := length_cString_le front
      rw [Option.some.inj delivered, List.length_append] at shorter
      have positive := List.length_pos_iff.mpr missing
      omega

/-- The buffer is the end of the current line, and there is room in it. -/
structure Receiving (world : ReceiveWorld) : Prop where
  aligned : world.done.length = world.due.length
  suffix : world.buffer <:+ world.line
  noNewline : newline ∉ world.buffer
  room : world.buffer.length < recvBufSize

namespace Receiving

variable {world : ReceiveWorld}

theorem newline_not_mem_kept (receiving : Receiving world) (read : Read) :
    newline ∉ keptBytes world.buffer read.bytes := by
  rw [keptBytes]
  split
  · exact List.not_mem_nil
  · exact receiving.noNewline

theorem processed_eq (receiving : Receiving world) (read : Read) :
    ipcProcessReceivedData world.buffer read.bytes =
      ((lines newline (keptBytes world.buffer read.bytes) read.bytes).1.map processLine,
        (lines newline (keptBytes world.buffer read.bytes) read.bytes).2) := by
  rw [ipcProcessReceivedData, lines_buffer newline (receiving.newline_not_mem_kept read)]

theorem kept_suffix (receiving : Receiving world) (read : Read) :
    keptBytes world.buffer read.bytes <:+ world.line := by
  rw [keptBytes]
  split
  · exact List.nil_suffix
  · exact receiving.suffix

theorem length_kept_lt (world : ReceiveWorld) (read : Read) :
    (keptBytes world.buffer read.bytes).length + read.bytes.length < recvBufSize := by
  rw [keptBytes]
  split
  · rw [List.length_nil, Nat.zero_add]
    exact Nat.lt_trans read.bounded (by decide)
  · next room => exact Nat.lt_of_not_le room

theorem preserved (receiving : Receiving world) (read : Read) :
    Receiving (receive world read) := by
  rcases receiving.kept_suffix read with ⟨lost, line⟩
  have processed := receiving.processed_eq read
  refine ⟨?_, ?_, ?_, ?_⟩
  · apply LineWorld.take_aligned newline dueLine receiving.aligned
    rw [processed, List.length_map, ← line, length_lines_extend]
  · rw [receive, LineWorld.take, processed, ← line, lines_extend]
    cases (lines newline (keptBytes world.buffer read.bytes) read.bytes).1 with
    | nil => exact List.suffix_append lost _
    | cons front others => exact List.suffix_rfl
  · rw [receive, LineWorld.take, processed]
    exact stop_not_mem_rest newline (receiving.newline_not_mem_kept read) read.bytes
  · rw [receive, LineWorld.take, processed]
    exact Nat.lt_of_le_of_lt (length_rest_le newline _ read.bytes) (length_kept_lt world read)

/-- The first line that a read ends is passed on as it is due exactly when the
buffer holds all of it, or nothing of a line that is too long. -/
theorem front_iff {lost front : List UInt8} {others : List (List UInt8)} {read : Read}
    (line : lost ++ keptBytes world.buffer read.bytes = world.line)
    (ended : (lines newline (keptBytes world.buffer read.bytes) read.bytes).1 = front :: others)
    (short : front.length + 1 < recvBufSize) :
    processLine front = dueLine (lost ++ front) ↔
      (keptBytes world.buffer read.bytes = world.line ∧ 0 ∉ front) ∨
        (front = [] ∧ recvBufSize ≤ world.line.length + 1) := by
  have keptFirst := prefix_front newline ended
  rw [← line]
  by_cases whole : lost = []
  · rw [whole, List.nil_append, List.nil_append, processLine_eq_dueLine_iff short]
    constructor
    · exact fun clean => Or.inl ⟨rfl, clean⟩
    · rintro (⟨_, clean⟩ | ⟨nothing, _⟩)
      · exact clean
      · rw [nothing]
        exact List.not_mem_nil
  · have incomplete : keptBytes world.buffer read.bytes ≠
        lost ++ keptBytes world.buffer read.bytes :=
      fun same => whole (List.self_eq_append_left.mp same)
    rw [processLine_lost_iff whole]
    simp only [incomplete, false_and, false_or]
    apply and_congr_right
    intro nothing
    rw [nothing] at keptFirst
    rw [nothing, List.prefix_nil.mp keptFirst]

/-- The lines that a read ends are all passed on as they are due exactly when
they are whole. -/
theorem exact_iff (receiving : Receiving world) (read : Read) :
    (receive world read).Exact ↔ world.Exact ∧ EndsWholeLines world read := by
  rcases receiving.kept_suffix read with ⟨lost, line⟩
  rw [receive, LineWorld.take_exact_iff newline dueLine receiving.aligned,
    receiving.processed_eq read]
  apply and_congr_right
  intro _
  have short : forall whole,
      whole ∈ (lines newline (keptBytes world.buffer read.bytes) read.bytes).1 ->
        whole.length + 1 < recvBufSize :=
    fun whole inside => Nat.lt_of_le_of_lt (length_line_lt newline inside)
      (length_kept_lt world read)
  have compared := lines_map_eq_iff newline processLine dueLine lost
    (keptBytes world.buffer read.bytes) read.bytes
  rw [line] at compared
  rw [compared, EndsWholeLines]
  cases ended : (lines newline (keptBytes world.buffer read.bytes) read.bytes).1 with
  | nil =>
      refine iff_of_true trivial ⟨?_, ?_⟩
      · intro front impossible
        cases impossible
      · intro other impossible
        cases impossible
  | cons front others =>
      rw [ended] at short
      have first := front_iff line ended (short front List.mem_cons_self)
      apply and_congr
      · constructor
        · intro delivered other same
          cases same
          exact first.mp delivered
        · exact fun holds => first.mpr (holds front rfl)
      · exact forall₂_congr fun other inside =>
          processLine_eq_dueLine_iff (short other (List.mem_cons_of_mem front inside))

end Receiving

theorem receiving_start : Receiving receiveSystem.initial where
  aligned := rfl
  suffix := List.suffix_rfl
  noNewline := List.not_mem_nil
  room := by decide

/-- The stream is framed exactly when every read that ends a line finds the
whole of it in the buffer, or nothing of a line that is too long. -/
theorem framed_iff (reads : List Read) :
    Framed reads ↔ receiveSystem.Admissible EndsWholeLines reads := by
  have streamed := (LineWorld.due_of_pieces newline dueLine
    (fun world piece => ipcProcessReceivedData world.buffer piece) .start
    (reads.map Read.bytes)).1
  rw [List.foldl_map, ← List.flatMap_def] at streamed
  have due : (receiveSystem.run reads).due =
      (lines newline [] (reads.flatMap Read.bytes)).1.map dueLine := streamed
  have steps := receiveSystem.characterizedFrom_iff_of_forall
    (fun world read receiving => Receiving.preserved receiving read)
    (fun world read receiving => Receiving.exact_iff receiving read) reads receiving_start
  rw [Framed, ← due]
  exact steps.trans (and_iff_right rfl)

/-! A line of 4093 bytes fits the buffer.  Its last byte and its newline arrive
together with a second line, and the first 4092 bytes are forgotten. -/

def fullRead : Read where
  bytes := List.replicate 1023 97
  nonempty := List.cons_ne_nil _ _
  bounded := by
    rw [List.length_replicate]
    decide

def twoLines : Read := ⟨[97, newline, 98, newline], by decide, by decide⟩

/-- A read without a newline, as long as there is room, is kept. -/
theorem receive_inside {world : ReceiveWorld} {read : Read} (receiving : Receiving world)
    (inside : newline ∉ read.bytes)
    (room : world.buffer.length + read.bytes.length < recvBufSize) :
    (receive world read).buffer = world.buffer ++ read.bytes ∧
      (receive world read).done = world.done := by
  have kept : keptBytes world.buffer read.bytes = world.buffer := if_neg (Nat.not_le_of_lt room)
  rw [receive, LineWorld.take, receiving.processed_eq read, kept,
    lines_of_not_mem newline inside world.buffer]
  exact ⟨rfl, List.append_nil _⟩

theorem outcomes_append_singleton (before : List Read) (read : Read) :
    outcomes (before ++ [read]) =
      outcomes before ++ (ipcProcessReceivedData (receiveSystem.run before).buffer read.bytes).1 := by
  rw [outcomes, TransitionSystem.run, TransitionSystem.runFrom_append]
  rfl

theorem newline_not_mem_full {byte : UInt8} (inside : byte ∈ fullRead.bytes) : byte ≠ newline := by
  rw [(List.mem_replicate.mp inside).2]
  decide

theorem full_reads {count : Nat} (few : count ≤ 4) :
    let world := receiveSystem.run (List.replicate count fullRead)
    Receiving world ∧ world.buffer.length = 1023 * count ∧ world.done = [] := by
  induction count with
  | zero => exact ⟨receiving_start, rfl, rfl⟩
  | succ count ih =>
      rcases ih (Nat.le_of_succ_le few) with ⟨receiving, length, nothing⟩
      have size : fullRead.bytes.length = 1023 := List.length_replicate
      have inside : newline ∉ fullRead.bytes := fun inside => newline_not_mem_full inside rfl
      have step := receive_inside receiving inside (by rw [length, size, recvBufSize]; omega)
      rw [List.replicate_succ', TransitionSystem.run, TransitionSystem.runFrom_append]
      refine ⟨receiving.preserved fullRead, ?_, ?_⟩
      · exact (congrArg List.length step.1).trans (by rw [List.length_append, length, size]; omega)
      · exact step.2.trans nothing

theorem line_reduced_to_its_end : ¬ forall reads, Framed reads := by
  intro framed
  have delivered := framed (List.replicate 4 fullRead ++ [twoLines])
  rcases full_reads (Nat.le_refl 4) with ⟨receiving, length, nothing⟩
  have reset : keptBytes (receiveSystem.run (List.replicate 4 fullRead)).buffer twoLines.bytes = [] :=
    if_pos (by rw [length]; decide)
  have done : outcomes (List.replicate 4 fullRead ++ [twoLines]) = [some [97], some [98]] := by
    rw [outcomes_append_singleton, outcomes, nothing, ipcProcessReceivedData, reset]
    rfl
  have front : newline ∉ (List.replicate 4 fullRead).flatMap Read.bytes := by
    intro inside
    rcases List.mem_flatMap.mp inside with ⟨read, member, byte⟩
    rw [(List.mem_replicate.mp member).2] at byte
    exact newline_not_mem_full byte rfl
  have first := congrArg List.head? (done.symm.trans delivered)
  rw [List.flatMap_append, lines_append, lines_of_not_mem newline front] at first
  have whole : dueLine ((List.replicate 4 fullRead).flatMap Read.bytes ++ [97]) = some [97] :=
    (Option.some.inj first).symm
  have size : ((List.replicate 4 fullRead).flatMap Read.bytes).length = 4092 := by
    rw [List.length_flatMap, List.map_replicate, fullRead, List.length_replicate]
    rfl
  rw [dueLine] at whole
  split at whole
  · cases whole
  · have length := congrArg List.length (Option.some.inj whole)
    rw [List.length_append, size] at length
    cases length

/-! ## Sending

The socket does not block: a `write` takes as many bytes as there is room for,
or none and fails.  Only its failure is looked at.
-/

/-- A C string has no NUL. -/
abbrev Message : Type := { bytes : List UInt8 // 0 ∉ bytes }

namespace Message

def strlen (msg : Message) : Nat := msg.val.length

/-- The message and the newline behind it. -/
def line (msg : Message) : List UInt8 := msg.val ++ [newline]

end Message

/-- What the two `write`s return; `none` stands for a negative result. -/
structure Writes where
  msgWritten : Option Nat
  nlWritten : Option Nat

/-- The bytes that a `write` has put into the stream. -/
def written (bytes : List UInt8) (result : Option Nat) : List UInt8 :=
  bytes.take (result.getD 0)

/-- `ipc_server_send`: its result and what it adds to the stream. -/
def ipcServerSend (clientConnected : Bool) (msg : Option Message) (writes : Writes) :
    DataSendCode × List UInt8 :=
  match msg with
  | none => (.invalidArg, [])
  | some msg =>
      if clientConnected then
        (if writes.msgWritten = none ∨ writes.nlWritten = none then .ipcWriteFailed else .ok,
          written msg.val writes.msgWritten ++ written [newline] writes.nlWritten)
      else (.ipcNoClient, [])

/-- A call with a message while a client is connected; a `write` takes no more
than it is offered. -/
structure SendCall where
  msg : Message
  writes : Writes
  msgBounded : forall count, count ∈ writes.msgWritten -> count ≤ msg.strlen
  nlBounded : forall count, count ∈ writes.nlWritten -> count ≤ 1

namespace SendCall

def code (call : SendCall) : DataSendCode :=
  (ipcServerSend true (some call.msg) call.writes).1

def added (call : SendCall) : List UInt8 :=
  (ipcServerSend true (some call.msg) call.writes).2

/-- Both writes take everything, or one of them fails and nothing is taken. -/
def Clean (call : SendCall) : Prop :=
  match call.writes.msgWritten, call.writes.nlWritten with
  | some msgWritten, some nlWritten => msgWritten = call.msg.strlen ∧ nlWritten = 1
  | msgWritten, nlWritten => msgWritten.getD 0 = 0 ∧ nlWritten.getD 0 = 0

theorem code_eq_ok_iff (call : SendCall) :
    call.code = .ok ↔ call.writes.msgWritten ≠ none ∧ call.writes.nlWritten ≠ none := by
  rw [← not_or, code, ipcServerSend, if_pos rfl, ite_eq_right_iff]
  constructor
  · intro succeeds failed
    cases succeeds failed
  · exact fun written failed => absurd failed written

theorem msgWritten_le (call : SendCall) : call.writes.msgWritten.getD 0 ≤ call.msg.strlen := by
  cases result : call.writes.msgWritten with
  | none => exact Nat.zero_le _
  | some count => exact call.msgBounded count result

theorem nlWritten_le (call : SendCall) : call.writes.nlWritten.getD 0 ≤ 1 := by
  cases result : call.writes.nlWritten with
  | none => exact Nat.zero_le 1
  | some count => exact call.nlBounded count result

theorem length_added (call : SendCall) :
    call.added.length =
      call.writes.msgWritten.getD 0 + call.writes.nlWritten.getD 0 := by
  have msgBounded := call.msgWritten_le
  have nlBounded := call.nlWritten_le
  rw [Message.strlen] at msgBounded
  rw [added, ipcServerSend, if_pos rfl, written, written, List.length_append, List.length_take,
    List.length_take, Nat.min_eq_left msgBounded, List.length_singleton,
    Nat.min_eq_left nlBounded]

theorem added_eq_nil_iff (call : SendCall) :
    call.added = [] ↔
      call.writes.msgWritten.getD 0 = 0 ∧ call.writes.nlWritten.getD 0 = 0 := by
  rw [← List.length_eq_zero_iff, length_added, Nat.add_eq_zero_iff]

theorem added_eq_line_iff (call : SendCall) :
    call.added = call.msg.line ↔
      call.writes.msgWritten.getD 0 = call.msg.strlen ∧ call.writes.nlWritten.getD 0 = 1 := by
  constructor
  · intro whole
    have length := congrArg List.length whole
    rw [length_added, Message.line, List.length_append, List.length_singleton] at length
    have msgBounded := call.msgWritten_le
    have nlBounded := call.nlWritten_le
    rw [Message.strlen] at msgBounded ⊢
    omega
  · rintro ⟨message, newlineToo⟩
    rw [added, ipcServerSend, if_pos rfl, written, written, message, newlineToo,
      Message.strlen, List.take_length]
    rfl

/-- A call is clean if it adds its line and returns `ok`, or adds nothing and
fails. -/
theorem clean_iff (call : SendCall) :
    call.Clean ↔ if call.code = .ok then call.added = call.msg.line else call.added = [] := by
  have ok := call.code_eq_ok_iff
  have nothing := call.added_eq_nil_iff
  have everything := call.added_eq_line_iff
  rw [Clean]
  cases message : call.writes.msgWritten with
  | none =>
      rw [message] at ok nothing
      rw [if_neg fun sent => (ok.mp sent).1 rfl, nothing]
  | some msgWritten =>
      cases newlineToo : call.writes.nlWritten with
      | none =>
          rw [message, newlineToo] at ok nothing
          rw [if_neg fun sent => (ok.mp sent).2 rfl, nothing]
      | some nlWritten =>
          rw [message, newlineToo] at ok everything
          rw [if_pos (ok.mpr ⟨Option.some_ne_none _, Option.some_ne_none _⟩), everything]
          rfl

end SendCall

/-- What the client has received. -/
def clientStream (calls : List SendCall) : List UInt8 :=
  calls.flatMap SendCall.added

/-- The lines of the calls that have returned `ok`. -/
def sentLines (calls : List SendCall) : List UInt8 :=
  (calls.filter fun call => call.code = .ok).flatMap fun call => call.msg.line

/-- A call that returns `ok` has written its whole line, and the stream has the
lines of these calls and nothing else. -/
def Delivered (calls : List SendCall) : Prop :=
  (forall call, call ∈ calls -> call.code = .ok -> call.added = call.msg.line) ∧
    clientStream calls = sentLines calls

theorem clientStream_cons (call : SendCall) (calls : List SendCall) :
    clientStream (call :: calls) = call.added ++ clientStream calls :=
  List.flatMap_cons

theorem sentLines_cons (call : SendCall) (calls : List SendCall) :
    sentLines (call :: calls) =
      if call.code = .ok then call.msg.line ++ sentLines calls else sentLines calls := by
  rw [sentLines, List.filter_cons]
  by_cases sent : call.code = .ok
  · rw [if_pos sent, if_pos (decide_eq_true sent), List.flatMap_cons]
    rfl
  · rw [if_neg sent, if_neg (fun claimed => sent (of_decide_eq_true claimed))]
    rfl

/-- What failed calls have written is in the stream too. -/
theorem length_sentLines_le {calls : List SendCall}
    (whole : forall call, call ∈ calls -> call.code = .ok -> call.added = call.msg.line) :
    (sentLines calls).length ≤ (clientStream calls).length := by
  induction calls with
  | nil => exact Nat.le_refl 0
  | cons call calls ih =>
      have later := ih fun other inside => whole other (List.mem_cons_of_mem call inside)
      rw [clientStream_cons, sentLines_cons, List.length_append]
      by_cases sent : call.code = .ok
      · rw [if_pos sent, ← whole call List.mem_cons_self sent, List.length_append]
        exact Nat.add_le_add_left later _
      · rw [if_neg sent]
        exact Nat.le_add_left_of_le later

/-- The calls keep the stream whole exactly when each of them is clean. -/
theorem calls_delivered_iff (calls : List SendCall) :
    Delivered calls ↔ forall call, call ∈ calls -> call.Clean := by
  induction calls with
  | nil =>
      refine iff_of_true ⟨?_, rfl⟩ ?_
      · intro call impossible
        cases impossible
      · intro call impossible
        cases impossible
  | cons call calls ih =>
      rw [List.forall_mem_cons, ← ih, call.clean_iff, Delivered, List.forall_mem_cons,
        clientStream_cons, sentLines_cons]
      by_cases sent : call.code = .ok
      · rw [if_pos sent, if_pos sent]
        constructor
        · rintro ⟨⟨first, others⟩, stream⟩
          rw [first sent] at stream
          exact ⟨first sent, others, List.append_cancel_left stream⟩
        · rintro ⟨first, others, stream⟩
          exact ⟨⟨fun _ => first, others⟩, congrArg₂ _ first stream⟩
      · rw [if_neg sent, if_neg sent]
        constructor
        · rintro ⟨⟨_, others⟩, stream⟩
          have lengths := congrArg List.length stream
          rw [List.length_append] at lengths
          have atMost := length_sentLines_le others
          have nothing : call.added = [] := List.length_eq_zero_iff.mp (by omega)
          rw [nothing, List.nil_append] at stream
          exact ⟨nothing, others, stream⟩
        · rintro ⟨nothing, others, stream⟩
          rw [nothing, List.nil_append]
          exact ⟨⟨fun impossible => absurd impossible sent, others⟩, stream⟩

/-- There is room for one of two bytes, and then for the newline. -/
def shortCall : SendCall where
  msg := ⟨[97, 98], by decide⟩
  writes := ⟨some 1, some 1⟩
  msgBounded := by
    rintro count ⟨⟩
    decide
  nlBounded := by
    rintro count ⟨⟩
    decide

theorem short_write_reported_ok : ¬ forall calls, Delivered calls := by
  intro delivered
  have whole := (delivered [shortCall]).1 shortCall List.mem_cons_self rfl
  cases whole

end IpcServer
end Board
end Imx6Gateway
