import Mathlib.Data.List.Basic

namespace Imx6Gateway
namespace Library

/-!
# Texts with separators

Paths and topics are character sequences with a separator between their
levels.  `cutAt` finds the first separator, as `strchr` or `find` do, and
`afterFront` compares the beginning of a text with a fixed one.  Both are
described by how the text is put together, so that a parser is checked
against a builder without looking at indices.
-/

/-- The text before and after the first separator. -/
def cutAt (separator : Char) : List Char -> Option (List Char × List Char)
  | [] => none
  | head :: tail =>
      if head = separator then some ([], tail)
      else (cutAt separator tail).map fun parts => (head :: parts.1, parts.2)

theorem cutAt_eq_none_iff (separator : Char) (text : List Char) :
    cutAt separator text = none ↔ separator ∉ text := by
  induction text with
  | nil => simp [cutAt]
  | cons head tail ih =>
      rw [cutAt, List.mem_cons, not_or]
      by_cases found : head = separator
      · simp [found]
      · rw [if_neg found, Option.map_eq_none_iff, ih]
        exact ⟨fun absent => ⟨fun same => found same.symm, absent⟩, And.right⟩

theorem cutAt_append {separator : Char} {before : List Char} (after : List Char)
    (absent : separator ∉ before) :
    cutAt separator (before ++ separator :: after) = some (before, after) := by
  induction before with
  | nil => rw [List.nil_append, cutAt, if_pos rfl]
  | cons head tail ih =>
      rw [List.mem_cons, not_or] at absent
      rw [List.cons_append, cutAt, if_neg (fun same => absent.1 same.symm), ih absent.2,
        Option.map_some]

theorem cutAt_eq_some {separator : Char} {text before after : List Char}
    (cut : cutAt separator text = some (before, after)) :
    text = before ++ separator :: after ∧ separator ∉ before := by
  induction text generalizing before with
  | nil => cases cut
  | cons head tail ih =>
      rw [cutAt] at cut
      by_cases found : head = separator
      · rw [if_pos found] at cut
        cases cut
        rw [found]
        exact ⟨rfl, List.not_mem_nil⟩
      · rw [if_neg found, Option.map_eq_some_iff] at cut
        rcases cut with ⟨parts, inTail, same⟩
        cases same
        have split := ih inTail
        rw [split.1, List.mem_cons, not_or]
        exact ⟨rfl, fun same => found same.symm, split.2⟩

/-- The first separator divides a text in one way. -/
theorem append_first_separator_inj {separator : Char} {before other after rest : List Char}
    (absent : separator ∉ before) (none : separator ∉ other) :
    before ++ separator :: after = other ++ separator :: rest ↔ before = other ∧ after = rest := by
  constructor
  · intro same
    have cuts := congrArg (cutAt separator) same
    rw [cutAt_append _ absent, cutAt_append _ none] at cuts
    injection cuts with parts
    injection parts with fronts ends
    exact ⟨fronts, ends⟩
  · rintro ⟨rfl, rfl⟩
    rfl

/-- The last separator divides a text in one way. -/
theorem append_last_separator_inj {separator : Char} {before other after rest : List Char}
    (absent : separator ∉ after) (none : separator ∉ rest) :
    before ++ separator :: after = other ++ separator :: rest ↔ before = other ∧ after = rest := by
  constructor
  · intro same
    have reversed := congrArg List.reverse same
    simp only [List.reverse_append, List.reverse_cons, List.append_assoc, List.singleton_append]
      at reversed
    rw [append_first_separator_inj (fun inside => absent (List.mem_reverse.mp inside))
      (fun inside => none (List.mem_reverse.mp inside))] at reversed
    exact ⟨List.reverse_injective reversed.2, List.reverse_injective reversed.1⟩
  · rintro ⟨rfl, rfl⟩
    rfl

/-- What follows a fixed beginning. -/
def afterFront : List Char -> List Char -> Option (List Char)
  | [], text => some text
  | _ :: _, [] => none
  | expected :: front, head :: tail =>
      if head = expected then afterFront front tail else none

@[simp]
theorem afterFront_append (front rest : List Char) : afterFront front (front ++ rest) = some rest := by
  induction front with
  | nil => rfl
  | cons expected front ih => rw [List.cons_append, afterFront, if_pos rfl, ih]

theorem afterFront_eq_some_iff {front text rest : List Char} :
    afterFront front text = some rest ↔ text = front ++ rest := by
  constructor
  · intro found
    induction front generalizing text with
    | nil => exact Option.some.inj found
    | cons expected front ih =>
        cases text with
        | nil => cases found
        | cons head tail =>
            rw [afterFront] at found
            by_cases same : head = expected
            · rw [if_pos same] at found
              rw [same, ih found, List.cons_append]
            · rw [if_neg same] at found
              cases found
  · intro same
    rw [same, afterFront_append]

/-- The text between a fixed beginning and a fixed end, when it is not empty. -/
def between (front back text : List Char) : Option (List Char) :=
  if front.isPrefixOf text ∧ front.length + back.length < text.length ∧ back.isSuffixOf text then
    some ((text.drop front.length).take (text.length - front.length - back.length))
  else none

theorem between_append {front back body : List Char} (nonempty : body ≠ []) :
    between front back (front ++ body ++ back) = some body := by
  have longer : front.length + back.length < (front ++ body ++ back).length := by
    have positive := List.length_pos_iff.mpr nonempty
    simp only [List.length_append]
    omega
  have starts : front.isPrefixOf (front ++ body ++ back) = true := by
    rw [List.isPrefixOf_iff_prefix, List.append_assoc]
    exact List.prefix_append front (body ++ back)
  have finishes : back.isSuffixOf (front ++ body ++ back) = true := by
    rw [List.isSuffixOf_iff_suffix]
    exact List.suffix_append (front ++ body) back
  have length : (front ++ body ++ back).length - front.length - back.length = body.length := by
    simp only [List.length_append]
    omega
  rw [between, if_pos ⟨starts, longer, finishes⟩, length, List.append_assoc, List.drop_left,
    List.take_left]

/-- The end is cut from what the beginning leaves, so the two do not share a
character of the text. -/
theorem between_eq_some_iff {front back text body : List Char} :
    between front back text = some body ↔ body ≠ [] ∧ text = front ++ body ++ back := by
  constructor
  · intro found
    unfold between at found
    by_cases fits : front.isPrefixOf text ∧ front.length + back.length < text.length ∧
        back.isSuffixOf text
    · rw [if_pos fits] at found
      rcases fits with ⟨starts, longer, finishes⟩
      rcases List.isPrefixOf_iff_prefix.mp starts with ⟨rest, same⟩
      subst same
      rw [List.length_append] at longer
      have inRest : back <:+ rest := by
        apply List.suffix_of_suffix_length_le (List.isSuffixOf_iff_suffix.mp finishes)
          (List.suffix_append front rest)
        omega
      rcases inRest with ⟨middle, same⟩
      subst same
      have length : (front ++ (middle ++ back)).length - front.length - back.length =
          middle.length := by
        simp only [List.length_append]
        omega
      rw [List.drop_left, length, List.take_left] at found
      cases found
      rw [List.length_append] at longer
      refine ⟨fun empty => ?_, (List.append_assoc _ _ _).symm⟩
      rw [empty, List.length_nil] at longer
      omega
    · rw [if_neg fits] at found
      cases found
  · rintro ⟨nonempty, same⟩
    rw [same, between_append nonempty]

end Library
end Imx6Gateway
