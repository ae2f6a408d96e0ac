import Imx6Gateway.Library.Transition

namespace Imx6Gateway
namespace Library

/-!
# A variable that several parties share

Every access is atomic, and the accesses of the parties may come in any order.
A reader gets what was written last, whoever wrote it.
-/

inductive Access (Value : Type) where
  | write (value : Value)
  | read
deriving DecidableEq

/-- The variable, and what every read so far got. -/
structure SharedVariable (Party Value : Type) where
  value : Value
  reads : List (Party × Value)
deriving DecidableEq

namespace SharedVariable

variable {Party Value : Type}

def step (state : SharedVariable Party Value) :
    Party × Access Value -> SharedVariable Party Value
  | (_, .write value) => { state with value := value }
  | (party, .read) => { state with reads := state.reads ++ [(party, state.value)] }

def system (initial : Value) :
    TransitionSystem (SharedVariable Party Value) (Party × Access Value) where
  initial := ⟨initial, []⟩
  step := step

/-- What the last write leaves in a variable that had a value before. -/
def lastWrite : Value -> List (Party × Access Value) -> Value
  | value, [] => value
  | _, (_, .write value) :: accesses => lastWrite value accesses
  | value, (_, .read) :: accesses => lastWrite value accesses

theorem lastWrite_append (value : Value) (first second : List (Party × Access Value)) :
    lastWrite value (first ++ second) = lastWrite (lastWrite value first) second := by
  induction first generalizing value with
  | nil => rfl
  | cons access first ih =>
      rcases access with ⟨party, written | _⟩
      · exact ih written
      · exact ih value

/-- The values that are written, in their order. -/
def writes (accesses : List (Party × Access Value)) : List Value :=
  accesses.filterMap fun access =>
    match access.2 with
    | .write value => some value
    | .read => none

theorem lastWrite_eq_getD (value : Value) (accesses : List (Party × Access Value)) :
    lastWrite value accesses = (writes accesses).getLast?.getD value := by
  induction accesses generalizing value with
  | nil => rfl
  | cons access accesses ih =>
      rcases access with ⟨party, written | _⟩
      · have listed : writes ((party, Access.write written) :: accesses) =
            written :: writes accesses := rfl
        rw [lastWrite, ih, listed, List.getLast?_cons, Option.getD_some]
      · exact ih value

theorem value_runFrom (initial : Value) (state : SharedVariable Party Value)
    (accesses : List (Party × Access Value)) :
    ((system initial).runFrom state accesses).value = lastWrite state.value accesses := by
  induction accesses generalizing state with
  | nil => rfl
  | cons access accesses ih =>
      rw [TransitionSystem.runFrom_cons, ih]
      rcases access with ⟨party, written | _⟩ <;> rfl

theorem reads_runFrom (initial : Value) (state : SharedVariable Party Value)
    (accesses : List (Party × Access Value)) {read : Party × Value} :
    read ∈ ((system initial).runFrom state accesses).reads ↔ read ∈ state.reads ∨
      exists before after, accesses = before ++ (read.1, .read) :: after ∧
        read.2 = lastWrite state.value before := by
  induction accesses generalizing state with
  | nil => simp
  | cons access accesses ih =>
      rw [TransitionSystem.runFrom_cons, ih]
      rcases access with ⟨party, written | _⟩
      · refine or_congr_right ⟨?_, ?_⟩
        · rintro ⟨before, after, rfl, same⟩
          exact ⟨(party, .write written) :: before, after, rfl, same⟩
        · rintro ⟨before, after, split, same⟩
          cases before with
          | nil => cases split
          | cons first before =>
              cases split
              exact ⟨before, after, rfl, same⟩
      · constructor
        · rintro (known | ⟨before, after, rfl, same⟩)
          · rcases List.mem_append.mp known with old | new
            · exact Or.inl old
            · rw [List.mem_singleton] at new
              exact Or.inr ⟨[], accesses, by rw [new]; rfl, congrArg Prod.snd new⟩
          · exact Or.inr ⟨(party, .read) :: before, after, rfl, same⟩
        · rintro (old | ⟨before, after, split, same⟩)
          · exact Or.inl (List.mem_append_left _ old)
          · cases before with
            | nil =>
                cases split
                exact Or.inl (List.mem_append_right _ (List.mem_singleton.mpr (Prod.ext rfl same)))
            | cons first before =>
                cases split
                exact Or.inr ⟨before, after, rfl, same⟩

/-- A read gets what was written last before it. -/
theorem mem_reads_iff (initial : Value) (accesses : List (Party × Access Value))
    {party : Party} {value : Value} :
    (party, value) ∈ ((system initial).run accesses).reads ↔
      exists before after, accesses = before ++ (party, .read) :: after ∧
        value = lastWrite initial before := by
  refine (reads_runFrom initial _ accesses).trans ⟨?_, Or.inr⟩
  rintro (impossible | found)
  · cases impossible
  · exact found

end SharedVariable
end Library
end Imx6Gateway
