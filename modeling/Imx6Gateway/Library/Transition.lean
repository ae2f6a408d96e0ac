import Mathlib.Data.List.Basic

namespace Imx6Gateway
namespace Library

/-!
# Runs of a deterministic transition system

The environment chooses a list of events; the system answers each of them
with one step.  A property of reachable states is proved by an invariant.
Where a system misbehaves on some events, `Admissible` collects the runs in
which every step, taken from the state it really starts in, meets a stated
condition.
-/

/-- A system with one initial state and a total step function. -/
structure TransitionSystem (σ ε : Type) where
  initial : σ
  step : σ -> ε -> σ

namespace TransitionSystem

variable {σ ε : Type} (system : TransitionSystem σ ε)

/-- The state after a list of events. -/
def runFrom (state : σ) (events : List ε) : σ :=
  events.foldl system.step state

def run (events : List ε) : σ :=
  system.runFrom system.initial events

@[simp]
theorem runFrom_nil (state : σ) : system.runFrom state [] = state := rfl

@[simp]
theorem runFrom_cons (state : σ) (event : ε) (events : List ε) :
    system.runFrom state (event :: events) = system.runFrom (system.step state event) events := rfl

theorem runFrom_append (state : σ) (first second : List ε) :
    system.runFrom state (first ++ second) = system.runFrom (system.runFrom state first) second :=
  List.foldl_append

/-- Every step of the run from `state` meets the condition. -/
def AdmissibleFrom (condition : σ -> ε -> Prop) : σ -> List ε -> Prop
  | _, [] => True
  | state, event :: events =>
      condition state event ∧ AdmissibleFrom condition (system.step state event) events

def Admissible (condition : σ -> ε -> Prop) (events : List ε) : Prop :=
  system.AdmissibleFrom condition system.initial events

instance admissibleFromDecidable (condition : σ -> ε -> Prop)
    [forall state event, Decidable (condition state event)] :
    forall state events, Decidable (system.AdmissibleFrom condition state events)
  | _, [] => isTrue trivial
  | state, event :: events =>
      haveI := admissibleFromDecidable condition (system.step state event) events
      inferInstanceAs (Decidable (condition state event ∧ _))

instance admissibleDecidable (condition : σ -> ε -> Prop)
    [forall state event, Decidable (condition state event)] (events : List ε) :
    Decidable (system.Admissible condition events) :=
  system.admissibleFromDecidable condition system.initial events

theorem admissibleFrom_append {condition : σ -> ε -> Prop} {state : σ} {first second : List ε} :
    system.AdmissibleFrom condition state (first ++ second) ↔
      system.AdmissibleFrom condition state first ∧
        system.AdmissibleFrom condition (system.runFrom state first) second := by
  induction first generalizing state with
  | nil => simp [AdmissibleFrom]
  | cons event events ih =>
      rw [List.cons_append, AdmissibleFrom, AdmissibleFrom, ih, runFrom_cons, and_assoc]

theorem admissibleFrom_and {first second : σ -> ε -> Prop} {state : σ} {events : List ε} :
    system.AdmissibleFrom (fun state event => first state event ∧ second state event) state events ↔
      system.AdmissibleFrom first state events ∧ system.AdmissibleFrom second state events := by
  induction events generalizing state with
  | nil => simp [AdmissibleFrom]
  | cons event events ih =>
      rw [AdmissibleFrom, AdmissibleFrom, AdmissibleFrom, ih]
      exact and_and_and_comm

/-- A condition that every step meets. -/
theorem admissibleFrom_of_forall {condition : σ -> ε -> Prop}
    (always : forall state event, condition state event) (state : σ) (events : List ε) :
    system.AdmissibleFrom condition state events := by
  induction events generalizing state with
  | nil => exact trivial
  | cons event events ih => exact ⟨always state event, ih _⟩

/-- A run can stop anywhere, and each of its steps meets the condition. -/
theorem admissible_initial {condition : σ -> ε -> Prop} {before after : List ε}
    (admissible : system.Admissible condition (before ++ after)) :
    system.Admissible condition before :=
  (system.admissibleFrom_append.mp admissible).1

theorem admissible_step {condition : σ -> ε -> Prop} {before after : List ε} {event : ε}
    (admissible : system.Admissible condition (before ++ event :: after)) :
    condition (system.run before) event :=
  (system.admissibleFrom_append.mp admissible).2.1

/-- A run is admissible if each of its steps meets the condition in the state
it starts from. -/
theorem admissibleFrom_iff {condition : σ -> ε -> Prop} {state : σ} {events : List ε} :
    system.AdmissibleFrom condition state events ↔
      forall before event after, events = before ++ event :: after ->
        condition (system.runFrom state before) event := by
  induction events generalizing state with
  | nil =>
      refine ⟨?_, fun _ => trivial⟩
      intro _ before event after split
      exact absurd split.symm (List.append_ne_nil_of_right_ne_nil before (List.cons_ne_nil event after))
  | cons first events ih =>
      rw [AdmissibleFrom, ih]
      constructor
      · rintro ⟨here, later⟩ before event after split
        cases before with
        | nil =>
            cases split
            exact here
        | cons head before =>
            cases split
            exact later before event after rfl
      · intro everywhere
        refine ⟨everywhere [] first events rfl, ?_⟩
        intro before event after split
        exact everywhere (first :: before) event after (by rw [split]; rfl)

/-- An invariant of the steps that meet the condition holds after every
admissible run. -/
theorem invariant_runFrom {condition : σ -> ε -> Prop} {invariant : σ -> Prop}
    (preserved : forall state event, invariant state -> condition state event ->
      invariant (system.step state event))
    {state : σ} {events : List ε} (start : invariant state)
    (admissible : system.AdmissibleFrom condition state events) :
    invariant (system.runFrom state events) := by
  induction events generalizing state with
  | nil => exact start
  | cons event events ih =>
      exact ih (preserved state event start admissible.1) admissible.2

theorem invariant_run {condition : σ -> ε -> Prop} {invariant : σ -> Prop}
    (initially : invariant system.initial)
    (preserved : forall state event, invariant state -> condition state event ->
      invariant (system.step state event))
    {events : List ε} (admissible : system.Admissible condition events) :
    invariant (system.run events) :=
  system.invariant_runFrom preserved initially admissible

/-- An invariant that every step preserves holds in every reachable state. -/
theorem invariant_everywhere {invariant : σ -> Prop} (initially : invariant system.initial)
    (preserved : forall state event, invariant state -> invariant (system.step state event))
    (events : List ε) : invariant (system.run events) := by
  have always : forall (events : List ε) (state : σ), invariant state ->
      invariant (system.runFrom state events) := by
    intro events
    induction events with
    | nil => exact fun state holds => holds
    | cons event events ih =>
        intro state holds
        exact ih _ (preserved state event holds)
  exact always events system.initial initially

/-- If a step keeps a property exactly when it meets the condition, a run
keeps it exactly when it is admissible. -/
theorem characterized_runFrom {condition : σ -> ε -> Prop} {property : σ -> Prop}
    (characterized : forall state event,
      property (system.step state event) ↔ property state ∧ condition state event)
    (state : σ) (events : List ε) :
    property (system.runFrom state events) ↔
      property state ∧ system.AdmissibleFrom condition state events := by
  induction events generalizing state with
  | nil => simp [AdmissibleFrom]
  | cons event events ih => rw [runFrom_cons, ih, characterized, AdmissibleFrom, and_assoc]

/-- The same, for the steps of a domain and below an invariant. -/
theorem characterizedFrom_iff {domain condition : σ -> ε -> Prop} {invariant property : σ -> Prop}
    (preserved : forall state event, invariant state -> domain state event ->
      invariant (system.step state event))
    (characterized : forall state event, invariant state -> domain state event ->
      (property (system.step state event) ↔ property state ∧ condition state event))
    {state : σ} {events : List ε} (holds : invariant state)
    (inDomain : system.AdmissibleFrom domain state events) :
    property (system.runFrom state events) ↔
      property state ∧ system.AdmissibleFrom condition state events := by
  induction events generalizing state with
  | nil => simp [AdmissibleFrom]
  | cons event events ih =>
      have next := preserved state event holds inDomain.1
      rw [runFrom_cons, ih next inDomain.2, characterized state event holds inDomain.1,
        AdmissibleFrom, and_assoc]

/-- Every step is in the domain. -/
theorem characterizedFrom_iff_of_forall {condition : σ -> ε -> Prop}
    {invariant property : σ -> Prop}
    (preserved : forall state event, invariant state -> invariant (system.step state event))
    (characterized : forall state event, invariant state ->
      (property (system.step state event) ↔ property state ∧ condition state event))
    {state : σ} (events : List ε) (holds : invariant state) :
    property (system.runFrom state events) ↔
      property state ∧ system.AdmissibleFrom condition state events :=
  system.characterizedFrom_iff (fun state event holds (_ : True) => preserved state event holds)
    (fun state event holds _ => characterized state event holds) holds
    (system.admissibleFrom_of_forall (fun _ _ => trivial) state events)

/-- If, wherever the invariant and the property hold, a step keeps the
property exactly when it meets the condition, then a run has the property all
the way exactly when it is admissible.  The invariant may rest on the property. -/
theorem everywhereFrom_iff_of_kept {domain condition : σ -> ε -> Prop}
    {invariant property : σ -> Prop}
    (preserved : forall state event, invariant state -> domain state event ->
      property state -> property (system.step state event) ->
      invariant (system.step state event))
    (characterized : forall state event, invariant state -> domain state event ->
      property state -> (property (system.step state event) ↔ condition state event))
    {state : σ} {events : List ε} (holds : invariant state) (start : property state)
    (inDomain : system.AdmissibleFrom domain state events) :
    (forall before after, events = before ++ after -> property (system.runFrom state before)) ↔
      system.AdmissibleFrom condition state events := by
  induction events generalizing state with
  | nil =>
      refine ⟨fun _ => trivial, ?_⟩
      intro _ before after split
      rw [(List.append_eq_nil_iff.mp split.symm).1]
      exact start
  | cons event events ih =>
      have here := characterized state event holds inDomain.1 start
      constructor
      · intro everywhere
        have next : property (system.step state event) := everywhere [event] events rfl
        have nextHolds := preserved state event holds inDomain.1 start next
        refine ⟨here.mp next, (ih nextHolds next inDomain.2).mp ?_⟩
        intro before after split
        exact everywhere (event :: before) after (by rw [split]; rfl)
      · rintro ⟨meets, admissible⟩ before after split
        cases before with
        | nil => exact start
        | cons first before =>
            cases split
            have next := here.mpr meets
            have nextHolds := preserved state event holds inDomain.1 start next
            exact (ih nextHolds next inDomain.2).mpr admissible before after rfl

/-- The invariant does not rest on the property. -/
theorem everywhereFrom_iff {domain condition : σ -> ε -> Prop} {invariant property : σ -> Prop}
    (preserved : forall state event, invariant state -> domain state event ->
      invariant (system.step state event))
    (characterized : forall state event, invariant state -> domain state event ->
      property state -> (property (system.step state event) ↔ condition state event))
    {state : σ} {events : List ε} (holds : invariant state) (start : property state)
    (inDomain : system.AdmissibleFrom domain state events) :
    (forall before after, events = before ++ after -> property (system.runFrom state before)) ↔
      system.AdmissibleFrom condition state events :=
  system.everywhereFrom_iff_of_kept
    (fun state event holds inDomain _ _ => preserved state event holds inDomain)
    characterized holds start inDomain

theorem everywhere_iff {domain condition : σ -> ε -> Prop} {invariant property : σ -> Prop}
    (initially : invariant system.initial) (start : property system.initial)
    (preserved : forall state event, invariant state -> domain state event ->
      invariant (system.step state event))
    (characterized : forall state event, invariant state -> domain state event ->
      property state -> (property (system.step state event) ↔ condition state event))
    {events : List ε} (inDomain : system.Admissible domain events) :
    (forall before after, events = before ++ after -> property (system.run before)) ↔
      system.Admissible condition events :=
  system.everywhereFrom_iff preserved characterized initially start inDomain

/-- Every step is in the domain. -/
theorem everywhere_iff_of_forall {condition : σ -> ε -> Prop} {invariant property : σ -> Prop}
    (initially : invariant system.initial) (start : property system.initial)
    (preserved : forall state event, invariant state -> invariant (system.step state event))
    (characterized : forall state event, invariant state -> property state ->
      (property (system.step state event) ↔ condition state event))
    (events : List ε) :
    (forall before after, events = before ++ after -> property (system.run before)) ↔
      system.Admissible condition events :=
  system.everywhere_iff initially start
    (fun state event holds (_ : True) => preserved state event holds)
    (fun state event holds _ => characterized state event holds)
    (system.admissibleFrom_of_forall (fun _ _ => trivial) system.initial events)

end TransitionSystem
end Library
end Imx6Gateway
