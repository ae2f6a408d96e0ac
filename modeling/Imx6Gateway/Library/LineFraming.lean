import Imx6Gateway.Library.Transition
import Mathlib.Data.List.Forall2

namespace Imx6Gateway
namespace Library

/-!
# Lines of a stream that arrives in pieces

A stream is divided into lines by an end mark.  It arrives in pieces, and a
receiver keeps what follows the last end mark until the next piece comes.
`lines` divides a piece that continues a given line, so that dividing piece
by piece and dividing the whole stream is the same.  A `LineWorld` compares
what a receiver did at each end mark with what was due there.
-/

section Lines

variable {α : Type} [DecidableEq α] (stop : α)

/-- The lines that a piece completes, the first of which has begun before it,
and the beginning of a line that the piece leaves. -/
def lines : List α -> List α -> List (List α) × List α
  | line, [] => ([], line)
  | line, item :: items =>
      if item = stop then (line :: (lines [] items).1, (lines [] items).2)
      else lines (line ++ [item]) items

@[simp]
theorem lines_nil (line : List α) : lines stop line [] = ([], line) := rfl

theorem lines_stop (line items : List α) :
    lines stop line (stop :: items) = (line :: (lines stop [] items).1, (lines stop [] items).2) :=
  if_pos rfl

theorem lines_item {item : α} (different : item ≠ stop) (line items : List α) :
    lines stop line (item :: items) = lines stop (line ++ [item]) items :=
  if_neg different

/-- Pieces can be divided one after the other. -/
theorem lines_append (line first second : List α) :
    lines stop line (first ++ second) =
      ((lines stop line first).1 ++ (lines stop (lines stop line first).2 second).1,
        (lines stop (lines stop line first).2 second).2) := by
  induction first generalizing line with
  | nil => rfl
  | cons item items ih =>
      rw [List.cons_append]
      by_cases ends : item = stop
      · rw [ends, lines_stop, lines_stop, ih, List.cons_append]
      · rw [lines_item stop ends, lines_item stop ends, ih]

/-- Only the first line depends on how it began. -/
theorem lines_extend (before line items : List α) :
    lines stop (before ++ line) items =
      match (lines stop line items).1 with
      | [] => ([], before ++ (lines stop line items).2)
      | front :: others => ((before ++ front) :: others, (lines stop line items).2) := by
  induction items generalizing line with
  | nil => rfl
  | cons item items ih =>
      by_cases ends : item = stop
      · rw [ends, lines_stop, lines_stop]
      · rw [lines_item stop ends, lines_item stop ends, List.append_assoc, ih]

theorem length_lines_extend (before line items : List α) :
    (lines stop (before ++ line) items).1.length = (lines stop line items).1.length := by
  rw [lines_extend]
  cases (lines stop line items).1 <;> rfl

/-- The first completed line begins with what was there. -/
theorem prefix_front {line items front : List α} {others : List (List α)}
    (ended : (lines stop line items).1 = front :: others) : line <+: front := by
  have begins := lines_extend stop line [] items
  rw [List.append_nil] at begins
  rw [begins] at ended
  cases fresh : (lines stop [] items).1 with
  | nil =>
      rw [fresh] at ended
      cases ended
  | cons first later =>
      rw [fresh] at ended
      cases ended
      exact List.prefix_append line first

theorem lines_of_not_mem {items : List α} (absent : stop ∉ items) (line : List α) :
    lines stop line items = ([], line ++ items) := by
  induction items generalizing line with
  | nil => rw [lines_nil, List.append_nil]
  | cons item items ih =>
      rw [List.mem_cons, not_or] at absent
      rw [lines_item stop (Ne.symm absent.1), ih absent.2, List.append_assoc,
        List.singleton_append]

theorem lines_eq_nil_iff (line items : List α) : (lines stop line items).1 = [] ↔ stop ∉ items := by
  induction items generalizing line with
  | nil => exact iff_of_true rfl List.not_mem_nil
  | cons item items ih =>
      by_cases ends : item = stop
      · rw [ends, lines_stop]
        exact iff_of_false (List.cons_ne_nil _ _) (not_not_intro List.mem_cons_self)
      · rw [lines_item stop ends, ih, List.mem_cons, not_or]
        exact (and_iff_right (Ne.symm ends)).symm

/-- A receiver that puts the piece behind what it keeps divides the piece. -/
theorem lines_buffer {buffer : List α} (absent : stop ∉ buffer) (items : List α) :
    lines stop [] (buffer ++ items) = lines stop buffer items := by
  rw [lines_append, lines_of_not_mem stop absent, List.nil_append, List.nil_append]

theorem stop_not_mem_rest {line : List α} (absent : stop ∉ line) (items : List α) :
    stop ∉ (lines stop line items).2 := by
  induction items generalizing line with
  | nil => exact absent
  | cons item items ih =>
      by_cases ends : item = stop
      · rw [ends, lines_stop]
        exact ih List.not_mem_nil
      · rw [lines_item stop ends]
        apply ih
        rw [List.mem_append, List.mem_singleton, not_or]
        exact ⟨absent, Ne.symm ends⟩

theorem length_rest_le (line items : List α) :
    (lines stop line items).2.length ≤ line.length + items.length := by
  induction items generalizing line with
  | nil => simp
  | cons item items ih =>
      by_cases ends : item = stop
      · rw [ends, lines_stop]
        apply Nat.le_trans (ih [])
        rw [List.length_nil, List.length_cons]
        omega
      · rw [lines_item stop ends]
        have rest := ih (line ++ [item])
        rw [List.length_append, List.length_singleton] at rest
        rw [List.length_cons]
        omega

/-- A completed line and its end mark lie in the pieces. -/
theorem length_line_lt {line items whole : List α} (inside : whole ∈ (lines stop line items).1) :
    whole.length < line.length + items.length := by
  induction items generalizing line with
  | nil => cases inside
  | cons item items ih =>
      rw [List.length_cons]
      by_cases ends : item = stop
      · rw [ends, lines_stop] at inside
        rcases List.mem_cons.mp inside with first | later
        · rw [first]
          omega
        · have rest := ih later
          simp only [List.length_nil] at rest
          omega
      · rw [lines_item stop ends] at inside
        have rest := ih inside
        rw [List.length_append, List.length_singleton] at rest
        omega

/-- What is done with the lines of a piece is due if it is for the first line,
whose beginning may have got lost, and for all others. -/
theorem lines_map_eq_iff {β : Type} (done due : List α -> β) (lost line items : List α) :
    (lines stop line items).1.map done = (lines stop (lost ++ line) items).1.map due ↔
      match (lines stop line items).1 with
      | [] => True
      | front :: others => done front = due (lost ++ front) ∧
          forall other, other ∈ others -> done other = due other := by
  rw [lines_extend]
  cases (lines stop line items).1 with
  | nil => exact iff_of_true rfl trivial
  | cons front others =>
      dsimp only
      rw [List.map_cons, List.map_cons, List.cons.injEq, List.map_inj_left]

end Lines

/-! ## What a receiver does and what is due -/

/-- The current line as it was sent, what the receiver keeps of it, and for
each end mark what was due and what was done. -/
structure LineWorld (α β : Type) where
  line : List α
  buffer : List α
  due : List (Option β)
  done : List (Option β)

namespace LineWorld

variable {α β : Type}

def start : LineWorld α β := ⟨[], [], [], []⟩

/-- Everything that was due was done, and nothing else. -/
def Exact (world : LineWorld α β) : Prop := world.done = world.due

def messages (outcomes : List (Option β)) : List β := outcomes.filterMap id

theorem messages_append (first second : List (Option β)) :
    messages (first ++ second) = messages first ++ messages second :=
  List.filterMap_append

theorem messages_map (frame : α -> Option β) (whole : List α) :
    messages (whole.map frame) = whole.filterMap frame := by
  rw [messages, List.filterMap_map]
  rfl

variable [DecidableEq α] (stop : α) (expect : List α -> Option β)

/-- A piece arrives, and the receiver answers it. -/
def take (world : LineWorld α β) (piece : List α) (answer : List (Option β) × List α) :
    LineWorld α β where
  line := (lines stop world.line piece).2
  buffer := answer.2
  due := world.due ++ (lines stop world.line piece).1.map expect
  done := world.done ++ answer.1

theorem take_aligned {world : LineWorld α β} {piece : List α}
    {answer : List (Option β) × List α} (aligned : world.done.length = world.due.length)
    (answered : answer.1.length = (lines stop world.line piece).1.length) :
    (world.take stop expect piece answer).done.length =
      (world.take stop expect piece answer).due.length := by
  rw [take, List.length_append, List.length_append, List.length_map, aligned, answered]

theorem take_exact_iff {world : LineWorld α β} {piece : List α}
    {answer : List (Option β) × List α} (aligned : world.done.length = world.due.length) :
    (world.take stop expect piece answer).Exact ↔
      world.Exact ∧ answer.1 = (lines stop world.line piece).1.map expect := by
  constructor
  · exact fun exact => List.append_inj exact aligned
  · rintro ⟨before, here⟩
    exact congrArg₂ (fun first second => first ++ second) before here

/-- What is due depends on the stream and not on its pieces. -/
theorem due_of_pieces (answer : LineWorld α β -> List α -> List (Option β) × List α)
    (world : LineWorld α β) (pieces : List (List α)) :
    let after := pieces.foldl
      (fun world piece => world.take stop expect piece (answer world piece)) world
    after.due = world.due ++ (lines stop world.line pieces.flatten).1.map expect ∧
      after.line = (lines stop world.line pieces.flatten).2 := by
  induction pieces generalizing world with
  | nil => exact ⟨(List.append_nil _).symm, rfl⟩
  | cons piece pieces ih =>
      dsimp only
      rw [List.foldl_cons, List.flatten_cons, lines_append, List.map_append,
        ← List.append_assoc]
      exact ih (world.take stop expect piece (answer world piece))

end LineWorld

/-- The size of an answer, if there is one. -/
def weight {β : Type} (size : β -> Nat) : Option β -> Nat
  | none => 0
  | some message => size message

/-- If every answer that is wrong is too small, the messages show it. -/
theorem messages_eq_iff {β : Type} (size : β -> Nat) {first second : List (Option β)}
    (smaller : List.Forall₂ (fun one other => one = other ∨ weight size one < weight size other)
      first second) :
    LineWorld.messages first = LineWorld.messages second ↔ first = second := by
  have total : forall outcomes : List (Option β),
      ((LineWorld.messages outcomes).map size).sum = (outcomes.map (weight size)).sum := by
    intro outcomes
    induction outcomes with
    | nil => rfl
    | cons outcome outcomes ih =>
        cases outcome with
        | none =>
            rw [List.map_cons, List.sum_cons, ← ih, weight, Nat.zero_add]
            rfl
        | some message =>
            rw [List.map_cons, List.sum_cons, ← ih]
            rfl
  have compared : (first.map (weight size)).sum ≤ (second.map (weight size)).sum ∧
      ((first.map (weight size)).sum = (second.map (weight size)).sum -> first = second) := by
    clear total
    induction smaller with
    | nil => exact ⟨Nat.le_refl 0, fun _ => rfl⟩
    | cons here _ ih =>
        simp only [List.map_cons, List.sum_cons]
        rcases here with same | less
        · rw [same]
          refine ⟨Nat.add_le_add_left ih.1 _, fun sums => ?_⟩
          rw [ih.2 (Nat.add_left_cancel sums)]
        · have atMost := ih.1
          exact ⟨by omega, fun sums => by omega⟩
  constructor
  · intro same
    apply compared.2
    rw [← total, ← total, same]
  · exact fun same => congrArg LineWorld.messages same

end Library
end Imx6Gateway
