import Imx6Gateway.Library.LineFraming

namespace Imx6Gateway
namespace Library

/-!
# A receiver that forgets a full buffer

The receiver puts each piece behind what it keeps.  When that grows beyond a
limit it forgets all of it, the lines that are complete included; otherwise it
delivers the message of each complete line.  A line can be blank: then it has
no message.
-/

section TrimsEnd

variable {α β : Type} (frame : List α -> Option β)

/-- An empty line has no message, and the end of a line has none if the line
has none, and else a smaller one. -/
structure TrimsEnd (size : β -> Nat) : Prop where
  empty : frame [] = none
  blank : forall lost kept, frame (lost ++ kept) = none -> frame kept = none
  smaller : forall lost kept, lost ≠ [] -> frame (lost ++ kept) ≠ none ->
    weight size (frame kept) < weight size (frame (lost ++ kept))

namespace TrimsEnd

variable {frame : List α -> Option β} {size : β -> Nat}

/-- Without its beginning a line keeps its message only if it has none. -/
theorem frame_eq_iff (trims : TrimsEnd frame size) (lost kept : List α) :
    frame kept = frame (lost ++ kept) ↔ lost = [] ∨ frame (lost ++ kept) = none := by
  constructor
  · intro same
    by_contra different
    rw [not_or] at different
    have smaller := trims.smaller lost kept different.1 different.2
    rw [same] at smaller
    exact Nat.lt_irrefl _ smaller
  · rintro (whole | none)
    · rw [whole, List.nil_append]
    · rw [none, trims.blank lost kept none]

theorem eq_or_smaller (trims : TrimsEnd frame size) (lost kept : List α) :
    frame kept = frame (lost ++ kept) ∨
      weight size (frame kept) < weight size (frame (lost ++ kept)) := by
  by_cases same : frame kept = frame (lost ++ kept)
  · exact Or.inl same
  · have different := mt (trims.frame_eq_iff lost kept).mpr same
    rw [not_or] at different
    exact Or.inr (trims.smaller lost kept different.1 different.2)

theorem none_or_smaller (trims : TrimsEnd frame size) (whole : List α) :
    none = frame whole ∨ weight size (none : Option β) < weight size (frame whole) := by
  have dropped := trims.eq_or_smaller whole []
  rw [List.append_nil, trims.empty] at dropped
  exact dropped

end TrimsEnd

end TrimsEnd

section Deliveries

variable {α β : Type}

/-- What a receiver delivers while the pieces come in. -/
def deliveries (receive : List α -> List α -> List β × List α) : List α -> List (List α) -> List β
  | _, [] => []
  | buffer, piece :: pieces =>
      (receive buffer piece).1 ++ deliveries receive (receive buffer piece).2 pieces

theorem deliveries_congr {first second : List α -> List α -> List β × List α}
    {pieces : List (List α)}
    (same : forall piece, piece ∈ pieces -> forall buffer, first buffer piece = second buffer piece)
    (buffer : List α) : deliveries first buffer pieces = deliveries second buffer pieces := by
  induction pieces generalizing buffer with
  | nil => rfl
  | cons piece pieces ih =>
      rw [deliveries, deliveries, same piece List.mem_cons_self buffer,
        ih fun other inside => same other (List.mem_cons_of_mem piece inside)]

end Deliveries

section BoundedFraming

variable {α β : Type} [DecidableEq α] (stop : α) (limit : Nat) (frame : List α -> Option β)

/-- What a piece delivers, and what is kept after it. -/
def takeFrames (buffer piece : List α) : List β × List α :=
  if limit < (buffer ++ piece).length then ([], [])
  else ((lines stop [] (buffer ++ piece)).1.filterMap frame, (lines stop [] (buffer ++ piece)).2)

/-- What each end mark of a piece causes. -/
def frameOutcomes (buffer piece : List α) : List (Option β) × List α :=
  if limit < (buffer ++ piece).length then
    ((lines stop [] (buffer ++ piece)).1.map fun _ => none, [])
  else ((lines stop [] (buffer ++ piece)).1.map frame, (lines stop [] (buffer ++ piece)).2)

theorem takeFrames_eq (buffer piece : List α) :
    takeFrames stop limit frame buffer piece =
      (LineWorld.messages (frameOutcomes stop limit frame buffer piece).1,
        (frameOutcomes stop limit frame buffer piece).2) := by
  rw [takeFrames, frameOutcomes]
  split
  · refine congrArg₂ Prod.mk ?_ rfl
    rw [LineWorld.messages_map, List.filterMap_eq_nil_iff.mpr fun _ _ => rfl]
  · rw [LineWorld.messages_map]

/-- The receiver together with the stream. -/
def framing : TransitionSystem (LineWorld α β) (List α) where
  initial := .start
  step := fun world piece =>
    world.take stop frame piece (frameOutcomes stop limit frame world.buffer piece)

/-- A piece completes no line that the receiver does not hold completely, blank
lines apart. -/
def Intact (world : LineWorld α β) (piece : List α) : Prop :=
  if limit < (world.buffer ++ piece).length then
    forall whole, whole ∈ (lines stop world.line piece).1 -> frame whole = none
  else
    world.buffer = world.line ∨
      forall first, first ∈ (lines stop world.line piece).1.head? -> frame first = none

/-- The buffer is the end of the current line, and what went wrong so far has
made messages smaller. -/
structure Bounded (size : β -> Nat) (world : LineWorld α β) : Prop where
  smaller : List.Forall₂
    (fun one other => one = other ∨ weight size one < weight size other) world.done world.due
  suffix : world.buffer <:+ world.line
  noStop : stop ∉ world.buffer

namespace Bounded

variable {stop frame} {size : β -> Nat} {world : LineWorld α β}

/-- The same lines are completed, with or without what got lost. -/
theorem forgotten_eq (bounded : Bounded stop size world) (piece : List α) :
    ((lines stop [] (world.buffer ++ piece)).1.map fun _ => (none : Option β)) =
      (lines stop world.line piece).1.map fun _ => none := by
  rcases bounded.suffix with ⟨lost, line⟩
  rw [lines_buffer stop bounded.noStop, List.map_const', List.map_const', ← line,
    length_lines_extend]

theorem preserved (bounded : Bounded stop size world) (trims : TrimsEnd frame size)
    (piece : List α) : Bounded stop size ((framing stop limit frame).step world piece) := by
  rcases bounded.suffix with ⟨lost, line⟩
  change Bounded stop size
    (world.take stop frame piece (frameOutcomes stop limit frame world.buffer piece))
  rw [LineWorld.take, frameOutcomes]
  split
  · rw [bounded.forgotten_eq]
    refine ⟨List.rel_append bounded.smaller ?_, List.nil_suffix, List.not_mem_nil⟩
    rw [List.forall₂_map_left_iff, List.forall₂_map_right_iff, List.forall₂_same]
    exact fun whole _ => trims.none_or_smaller whole
  · rw [lines_buffer stop bounded.noStop, ← line, lines_extend]
    refine ⟨List.rel_append bounded.smaller ?_, ?_,
      stop_not_mem_rest stop bounded.noStop piece⟩
    · cases (lines stop world.buffer piece).1 with
      | nil => exact .nil
      | cons front others =>
          refine .cons (trims.eq_or_smaller lost front) ?_
          rw [List.forall₂_map_left_iff, List.forall₂_map_right_iff, List.forall₂_same]
          exact fun other _ => Or.inl rfl
    · cases (lines stop world.buffer piece).1 with
      | nil => exact List.suffix_append lost _
      | cons front others => exact List.suffix_rfl

/-- A piece is delivered as it is due exactly when it is intact. -/
theorem exact_iff (bounded : Bounded stop size world) (trims : TrimsEnd frame size)
    (piece : List α) :
    ((framing stop limit frame).step world piece).Exact ↔
      world.Exact ∧ Intact stop limit frame world piece := by
  rcases bounded.suffix with ⟨lost, line⟩
  change (world.take stop frame piece _).Exact ↔ _
  rw [LineWorld.take_exact_iff stop frame bounded.smaller.length_eq]
  apply and_congr_right
  intro _
  rw [frameOutcomes, Intact]
  split
  · rw [bounded.forgotten_eq, List.map_inj_left]
    exact forall₂_congr fun whole _ => eq_comm
  · have compared := lines_map_eq_iff stop frame frame lost world.buffer piece
    have ends := lines_extend stop lost world.buffer piece
    rw [line] at compared ends
    have whole : world.buffer = world.line ↔ lost = [] := by
      rw [← line, List.self_eq_append_left]
    rw [lines_buffer stop bounded.noStop, compared, ends, whole]
    cases (lines stop world.buffer piece).1 with
    | nil =>
        refine iff_of_true trivial (Or.inr ?_)
        intro first impossible
        cases impossible
    | cons front others =>
        have first := trims.frame_eq_iff lost front
        constructor
        · rintro ⟨same, _⟩
          refine (first.mp same).imp_right ?_
          rintro none other ⟨⟩
          exact none
        · intro holds
          refine ⟨first.mpr (holds.imp_right ?_), fun _ _ => rfl⟩
          exact fun none => none _ rfl

end Bounded

/-- What is delivered is what the end marks have caused. -/
theorem messages_runFrom (world : LineWorld α β) (pieces : List (List α)) :
    LineWorld.messages ((framing stop limit frame).runFrom world pieces).done =
      LineWorld.messages world.done ++
        deliveries (takeFrames stop limit frame) world.buffer pieces := by
  induction pieces generalizing world with
  | nil => exact (List.append_nil _).symm
  | cons piece pieces ih =>
      rw [TransitionSystem.runFrom_cons, ih, deliveries, takeFrames_eq]
      change LineWorld.messages (world.done ++ _) ++ _ = _
      rw [LineWorld.messages_append, List.append_assoc]
      rfl

/-- The receiver delivers the messages of the stream exactly when all its
pieces are intact. -/
theorem deliveries_eq_iff {size : β -> Nat} (trims : TrimsEnd frame size)
    (pieces : List (List α)) :
    deliveries (takeFrames stop limit frame) [] pieces =
        (lines stop [] pieces.flatten).1.filterMap frame ↔
      (framing stop limit frame).Admissible (Intact stop limit frame) pieces := by
  have delivered := messages_runFrom stop limit frame .start pieces
  have streamed := (LineWorld.due_of_pieces stop frame
    (fun world piece => frameOutcomes stop limit frame world.buffer piece) .start pieces).1
  have due : LineWorld.messages ((framing stop limit frame).run pieces).due =
      (lines stop [] pieces.flatten).1.filterMap frame :=
    (congrArg LineWorld.messages streamed).trans (LineWorld.messages_map frame _)
  have start : Bounded stop size (framing stop limit frame).initial :=
    ⟨.nil, List.suffix_rfl, List.not_mem_nil⟩
  have bounded := (framing stop limit frame).invariant_everywhere start
    (fun _ piece bounded => bounded.preserved limit trims piece) pieces
  have steps := (framing stop limit frame).characterizedFrom_iff_of_forall
    (fun _ piece (bounded : Bounded stop size _) => bounded.preserved limit trims piece)
    (fun _ piece bounded => bounded.exact_iff limit trims piece) pieces start
  rw [← due]
  refine (Iff.of_eq (congrArg (fun messages => messages = _) delivered.symm)).trans ?_
  exact (messages_eq_iff size bounded.smaller).trans (steps.trans (and_iff_right rfl))

/-- As long as no line ends and there is room, everything is kept. -/
theorem step_inside {world : LineWorld α β} {piece : List α} (noStop : stop ∉ world.buffer)
    (inside : stop ∉ piece) (room : world.buffer.length + piece.length ≤ limit) :
    (framing stop limit frame).step world piece =
      ⟨world.line ++ piece, world.buffer ++ piece, world.due, world.done⟩ := by
  change world.take stop frame piece (frameOutcomes stop limit frame world.buffer piece) = _
  rw [frameOutcomes, if_neg (by rw [List.length_append]; omega), lines_buffer stop noStop,
    lines_of_not_mem stop inside, LineWorld.take, lines_of_not_mem stop inside]
  dsimp only
  rw [List.map_nil, List.append_nil, List.append_nil]

theorem runFrom_inside {world : LineWorld α β} {pieces : List (List α)}
    (noStop : stop ∉ world.buffer) (inside : stop ∉ pieces.flatten)
    (room : world.buffer.length + pieces.flatten.length ≤ limit) :
    (framing stop limit frame).runFrom world pieces =
      ⟨world.line ++ pieces.flatten, world.buffer ++ pieces.flatten, world.due, world.done⟩ := by
  induction pieces generalizing world with
  | nil =>
      rw [List.flatten_nil, List.append_nil, List.append_nil]
      rfl
  | cons piece pieces ih =>
      rw [List.flatten_cons, List.mem_append, not_or] at inside
      rw [List.flatten_cons, List.length_append] at room
      rw [TransitionSystem.runFrom_cons,
        step_inside stop limit frame noStop inside.1 (by omega), ih _ inside.2 _,
        List.flatten_cons, List.append_assoc, List.append_assoc]
      · rw [List.mem_append, not_or]
        exact ⟨noStop, inside.1⟩
      · rw [List.length_append]
        omega

theorem run_inside {pieces : List (List α)} (inside : stop ∉ pieces.flatten)
    (room : pieces.flatten.length ≤ limit) :
    (framing stop limit frame).run pieces = ⟨pieces.flatten, pieces.flatten, [], []⟩ :=
  runFrom_inside stop limit frame List.not_mem_nil inside ((Nat.zero_add _).symm ▸ room)

/-- A line that is complete in the buffer is lost if too much comes together
with its end. -/
theorem not_intact {before : List (List α)} (inside : stop ∉ before.flatten)
    (room : before.flatten.length ≤ limit) (something : frame before.flatten ≠ none)
    {rest : List α} (full : limit < before.flatten.length + (stop :: rest).length) :
    ¬ (framing stop limit frame).Admissible (Intact stop limit frame)
      (before ++ [stop :: rest]) := by
  intro admissible
  have intact := (framing stop limit frame).admissible_step admissible
  rw [run_inside stop limit frame inside room, Intact, if_pos (by rwa [List.length_append]),
    lines_stop] at intact
  exact something (intact before.flatten List.mem_cons_self)

end BoundedFraming
end Library
end Imx6Gateway
