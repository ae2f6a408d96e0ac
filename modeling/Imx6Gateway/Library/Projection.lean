import Imx6Gateway.Library.Transition

namespace Imx6Gateway
namespace Library

/-!
# Systems that follow some events of another

A system may depend on a part of the events of another only.  Each event of
the other has an image or none: one without an image leaves the states related
as they are, and one with an image takes both to related states.  Then a whole
run is related to the run of the images, whatever happens between them.
-/

variable {σ τ ε δ : Type}

/-- The second system follows the images of the allowed events of the first. -/
structure Projects (first : TransitionSystem σ ε) (second : TransitionSystem τ δ)
    (allowed : ε -> Prop) (project : ε -> Option δ) (related : σ -> τ -> Prop) : Prop where
  initially : related first.initial second.initial
  hidden : forall {state other event}, related state other -> allowed event ->
    project event = none -> related (first.step state event) other
  seen : forall {state other event image}, related state other -> allowed event ->
    project event = some image -> related (first.step state event) (second.step other image)

namespace Projects

variable {first : TransitionSystem σ ε} {second : TransitionSystem τ δ} {allowed : ε -> Prop}
  {project : ε -> Option δ} {related : σ -> τ -> Prop}

theorem runFrom (projects : Projects first second allowed project related) {state : σ} {other : τ}
    {events : List ε} (start : related state other)
    (each : forall event, event ∈ events -> allowed event) :
    related (first.runFrom state events) (second.runFrom other (events.filterMap project)) := by
  induction events generalizing state other with
  | nil => exact start
  | cons event events ih =>
      have here : allowed event := each event List.mem_cons_self
      have later : forall next, next ∈ events -> allowed next := fun next inside =>
        each next (List.mem_cons_of_mem event inside)
      cases image : project event with
      | none =>
          rw [List.filterMap_cons_none image]
          exact ih (projects.hidden start here image) later
      | some image' =>
          rw [List.filterMap_cons_some image]
          exact ih (projects.seen start here image) later

theorem run (projects : Projects first second allowed project related) {events : List ε}
    (each : forall event, event ∈ events -> allowed event) :
    related (first.run events) (second.run (events.filterMap project)) :=
  projects.runFrom projects.initially each

end Projects

end Library
end Imx6Gateway
