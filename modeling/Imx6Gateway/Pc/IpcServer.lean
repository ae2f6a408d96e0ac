import Imx6Gateway.Library.BoundedFraming

namespace Imx6Gateway
namespace Pc
namespace IpcServer

open Library

/-!
# The pipe of the data service

`IpcServer.cpp` reads a stream of commands of the user interface, line by
line.  A buffer of more than one mebibyte is cleared.
-/

def maxBufferSize : Nat := 1024 * 1024

def newline : UInt8 := 10
def carriageReturn : UInt8 := 13

/-- A line without the CR at its end. -/
def withoutCr (line : List UInt8) : List UInt8 :=
  if line.getLast? = some carriageReturn then line.dropLast else line

/-- The message that the callback gets for a line. -/
def messageOf (line : List UInt8) : Option (List UInt8) :=
  if withoutCr line = [] then none else some (withoutCr line)

/-- `IpcServer::processReceivedData`: the messages, and what stays in the
buffer. -/
def processReceivedData (recvBuffer buf : List UInt8) : List (List UInt8) × List UInt8 :=
  if buf = [] then ([], recvBuffer)
  else takeFrames newline maxBufferSize messageOf recvBuffer buf

/-- One successful read. -/
abbrev Chunk : Type := { bytes : List UInt8 // bytes ≠ [] }

/-- The bytes that arrive, divided as they are read. -/
def pieces (chunks : List Chunk) : List (List UInt8) := chunks.map Subtype.val

/-- The lines of a stream that are not empty, without the CR at their end. -/
def streamMessages (stream : List UInt8) : List (List UInt8) :=
  ((lines newline [] stream).1.map withoutCr).filter fun message => message ≠ []

/-- The receiver delivers these lines and nothing else. -/
def Delivers (receive : List UInt8 -> List UInt8 -> List (List UInt8) × List UInt8)
    (chunks : List Chunk) : Prop :=
  deliveries receive [] (pieces chunks) = streamMessages (pieces chunks).flatten

/-- Every line that is not blank is completely in the buffer when a read
ends it, and the buffer is not full then. -/
def EndsWholeLines (chunks : List Chunk) : Prop :=
  (framing newline maxBufferSize messageOf).Admissible
    (Intact newline maxBufferSize messageOf) (pieces chunks)

/-! ## Messages of lines -/

theorem filterMap_messageOf (whole : List (List UInt8)) :
    whole.filterMap messageOf = (whole.map withoutCr).filter fun message => message ≠ [] := by
  induction whole with
  | nil => rfl
  | cons line whole ih =>
      rw [List.filterMap_cons, List.map_cons, List.filter_cons, ih, messageOf]
      by_cases blank : withoutCr line = []
      · rw [if_pos blank, if_neg fun claimed => (of_decide_eq_true claimed : _ ≠ []) blank]
      · rw [if_neg blank, if_pos (decide_eq_true blank)]

theorem messageOf_eq_none_iff (line : List UInt8) :
    messageOf line = none ↔ withoutCr line = [] := by
  rw [messageOf, ite_eq_left_iff]
  constructor
  · intro blank
    by_contra something
    cases blank something
  · exact fun blank something => absurd blank something

theorem weight_messageOf (line : List UInt8) :
    weight List.length (messageOf line) = (withoutCr line).length := by
  rw [messageOf]
  by_cases blank : withoutCr line = []
  · rw [if_pos blank, blank]
    rfl
  · rw [if_neg blank]
    rfl

theorem withoutCr_append (lost : List UInt8) {kept : List UInt8} (nonempty : kept ≠ []) :
    withoutCr (lost ++ kept) = lost ++ withoutCr kept := by
  rw [withoutCr, withoutCr, List.getLast?_append_of_ne_nil lost nonempty,
    List.dropLast_append_of_ne_nil nonempty]
  split <;> rfl

/-- The end of a line is delivered as a shorter message. -/
theorem messageOf_trimsEnd : TrimsEnd messageOf List.length where
  empty := rfl
  blank := by
    intro lost kept blank
    by_cases nonempty : kept = []
    · rw [nonempty]
      rfl
    · rw [messageOf_eq_none_iff, withoutCr_append lost nonempty] at blank
      rw [messageOf_eq_none_iff]
      exact (List.append_eq_nil_iff.mp blank).2
  smaller := by
    intro lost kept missing something
    rw [weight_messageOf, weight_messageOf]
    by_cases nonempty : kept = []
    · rw [nonempty, List.append_nil]
      rw [Ne, messageOf_eq_none_iff, nonempty, List.append_nil] at something
      exact List.length_pos_iff.mpr something
    · rw [withoutCr_append lost nonempty, List.length_append]
      exact Nat.lt_add_of_pos_left (List.length_pos_iff.mpr missing)

/-- Only a line without a byte, or with a CR alone, is blank. -/
theorem blank_iff (line : List UInt8) :
    messageOf line = none ↔ line = [] ∨ line = [carriageReturn] := by
  rw [messageOf_eq_none_iff]
  rcases List.eq_nil_or_concat line with empty | ⟨front, last, ends⟩
  · rw [empty]
    exact iff_of_true rfl (Or.inl rfl)
  · rw [ends, List.concat_eq_append, withoutCr_append front (List.cons_ne_nil last []),
      List.append_eq_nil_iff]
    have one : withoutCr [last] = [] ↔ last = carriageReturn := by
      by_cases same : last = carriageReturn
      · rw [same]
        exact iff_of_true rfl rfl
      · rw [withoutCr, List.getLast?_singleton, if_neg fun claimed => same (Option.some.inj claimed)]
        exact iff_of_false (List.cons_ne_nil last []) same
    rw [one]
    constructor
    · rintro ⟨nothing, same⟩
      rw [nothing, same]
      exact Or.inr rfl
    · rintro (empty | single)
      · cases (List.append_eq_nil_iff.mp empty).2
      · have parts : front = [] ∧ [last] = [carriageReturn] :=
          List.append_inj' (single.trans (List.nil_append _).symm) rfl
        exact ⟨parts.1, List.head_eq_of_cons_eq parts.2⟩

/-- A chunk is not empty, so that the buffer is always looked at. -/
theorem receives_chunk {chunks : List Chunk} {piece : List UInt8} (inside : piece ∈ pieces chunks)
    (buffer : List UInt8) :
    processReceivedData buffer piece =
      takeFrames newline maxBufferSize messageOf buffer piece := by
  rcases List.mem_map.mp inside with ⟨chunk, _, same⟩
  rw [processReceivedData, if_neg (same ▸ chunk.property)]

/-- The messages are those of the lines exactly when reads end whole lines. -/
theorem takeFrames_delivers_iff (chunks : List Chunk) :
    Delivers (takeFrames newline maxBufferSize messageOf) chunks ↔ EndsWholeLines chunks := by
  rw [Delivers, streamMessages, ← filterMap_messageOf]
  exact deliveries_eq_iff newline maxBufferSize messageOf messageOf_trimsEnd (pieces chunks)

theorem delivers_iff (chunks : List Chunk) :
    Delivers processReceivedData chunks ↔ EndsWholeLines chunks := by
  rw [← takeFrames_delivers_iff, Delivers, Delivers,
    deliveries_congr fun piece inside => receives_chunk inside]

end IpcServer
end Pc
end Imx6Gateway
