import Imx6Gateway.Pc.IpcServer

namespace Imx6Gateway
namespace Ui
namespace IpcClient

open Library
open Pc.IpcServer (newline messageOf Chunk pieces streamMessages Delivers EndsWholeLines)

/-!
# Both ends of the pipe on the PC

`ipcclient.cpp` of the user interface takes the stream of the data service
apart as that does with the stream of the interface.  Either receiver clears a
buffer that is too large before it looks for the lines that are complete in
it.
-/

def maxBufferSize : Nat := 1024 * 1024

/-- `IpcClient::processReceivedData`: the frames of the signal, and what stays
in the buffer. -/
def processReceivedData (recvBuffer data : List UInt8) : List (List UInt8) × List UInt8 :=
  takeFrames newline maxBufferSize messageOf recvBuffer data

/-- Each receiver delivers the lines of the stream exactly when its reads end
whole lines and find the buffer not too full. -/
theorem pipe_framed_iff (chunks : List Chunk) :
    (Delivers Pc.IpcServer.processReceivedData chunks ↔ EndsWholeLines chunks) ∧
      (Delivers processReceivedData chunks ↔ EndsWholeLines chunks) :=
  ⟨Pc.IpcServer.delivers_iff chunks, Pc.IpcServer.takeFrames_delivers_iff chunks⟩

/-! A line of 1048000 bytes is in the buffer when its newline arrives together
with a second line. -/

def lineChunk : Chunk := ⟨List.replicate 1000 97, List.cons_ne_nil _ _⟩

def lastChunk : Chunk := ⟨newline :: (List.replicate 600 98 ++ [newline]), List.cons_ne_nil _ _⟩

def longStream : List Chunk := List.replicate 1048 lineChunk ++ [lastChunk]

def longLine : List UInt8 := (pieces (List.replicate 1048 lineChunk)).flatten

theorem longLine_eq : longLine = List.replicate (1048 * 1000) 97 := by
  rw [longLine, pieces, List.map_replicate, lineChunk, List.flatten_replicate_replicate]

theorem length_longLine : longLine.length = 1048000 := by
  rw [longLine_eq, List.length_replicate]

theorem newline_not_mem_replicate {count : Nat} {byte : UInt8} (other : byte ≠ newline) :
    newline ∉ List.replicate count byte :=
  fun inside => other (List.mem_replicate.mp inside).2.symm

theorem newline_not_mem_longLine : newline ∉ longLine := by
  rw [longLine_eq]
  exact newline_not_mem_replicate (by decide)

theorem pieces_longStream :
    pieces longStream = pieces (List.replicate 1048 lineChunk) ++ [lastChunk.val] :=
  List.map_append

theorem lines_lastChunk (line : List UInt8) :
    lines newline line lastChunk.val = ([line, List.replicate 600 98], []) := by
  rw [lastChunk, lines_stop, lines_append,
    lines_of_not_mem newline (newline_not_mem_replicate (by decide)), lines_stop]
  rfl

theorem lines_longStream :
    (lines newline [] (pieces longStream).flatten).1 = [longLine, List.replicate 600 98] := by
  rw [pieces_longStream, List.flatten_append, List.flatten_singleton, ← longLine, lines_append,
    lines_of_not_mem newline newline_not_mem_longLine, List.nil_append, List.nil_append,
    lines_lastChunk]

theorem longStream_cleared : ¬ EndsWholeLines longStream := by
  rw [EndsWholeLines, pieces_longStream]
  apply not_intact newline Pc.IpcServer.maxBufferSize messageOf
  · exact newline_not_mem_longLine
  · rw [← longLine, length_longLine]
    decide
  · rw [← longLine, Ne, Pc.IpcServer.blank_iff]
    intro blank
    have length := length_longLine
    rcases blank with empty | single
    · rw [empty] at length
      cases length
    · rw [single] at length
      cases length
  · rw [← longLine, length_longLine, List.length_cons, List.length_append, List.length_replicate]
    decide

theorem full_buffer_cleared :
    (forall line, line ∈ (lines newline [] (pieces longStream).flatten).1 ->
      line.length ≤ 1024 * 1024) ∧
    ¬ Delivers Pc.IpcServer.processReceivedData longStream ∧
    ¬ Delivers processReceivedData longStream := by
  refine ⟨?_, ?_, ?_⟩
  · rw [lines_longStream, List.forall_mem_cons, List.forall_mem_singleton, length_longLine,
      List.length_replicate]
    decide
  · exact mt (Pc.IpcServer.delivers_iff longStream).mp longStream_cleared
  · exact mt (Pc.IpcServer.takeFrames_delivers_iff longStream).mp longStream_cleared

end IpcClient
end Ui
end Imx6Gateway
