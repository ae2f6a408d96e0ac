import Mathlib.Data.List.Basic
import Mathlib.Data.Option.Basic

namespace Imx6Gateway
namespace Library

/-!
# Runs that a check can end

A program whose checks can end it is a function to `Option`.  What it computes
is often known from a function without the checks, and what remains to be said
is when all checks pass.  `RunsTo` says both: the run ends well exactly on a
domain, and there with the given value.  The rules follow the way the run is
put together.
-/

universe u v

/-- The run ends well exactly in the domain, and there with this value. -/
structure RunsTo {α : Type u} (run : Option α) (domain : Prop) (value : α) : Prop where
  run_eq : domain -> run = some value
  domain_of_isSome : run.isSome = true -> domain

/-- Runs that are tried in turn until one has a result. -/
def firstOf? {α : Type u} : List (Option (Option α)) -> Option (Option α)
  | [] => some none
  | run :: rest => do
      let found ← run
      match found with
      | some result => some (some result)
      | none => firstOf? rest

namespace RunsTo

variable {α β : Type u} {run : Option α} {domain domain' : Prop} {value value' : α}

/-- A step that never fails. -/
theorem some_bind {next : α -> Option β} : (some value >>= next) = next value := rfl

theorem isSome_iff (runs : RunsTo run domain value) : run.isSome = true ↔ domain := by
  constructor
  · exact runs.domain_of_isSome
  · intro inside
    rw [runs.run_eq inside]
    rfl

theorem of_some (value : α) : RunsTo (some value) True value where
  run_eq _ := rfl
  domain_of_isSome _ := trivial

theorem of_none (outside : ¬domain) (value : α) : RunsTo none domain value where
  run_eq inside := absurd inside outside
  domain_of_isSome ended := by cases ended

/-- The domain may be said in another way, and the value where it counts. -/
theorem congr (runs : RunsTo run domain value) (same : domain ↔ domain')
    (equal : domain' -> value = value') : RunsTo run domain' value' where
  run_eq inside := by
    rw [runs.run_eq (same.mpr inside), equal inside]
  domain_of_isSome ended := same.mp (runs.domain_of_isSome ended)

/-- One run after the other. -/
theorem bind {next : α -> Option β} {later : Prop} {result : β} (first : RunsTo run domain value)
    (second : RunsTo (next value) later result) :
    RunsTo (run >>= next) (domain ∧ later) result := by
  cases ended : run with
  | none =>
      apply of_none
      rintro ⟨inside, -⟩
      have runsOn := first.run_eq inside
      rw [ended] at runsOn
      cases runsOn
  | some found =>
      have inside : domain := first.domain_of_isSome (by rw [ended]; rfl)
      have same : found = value := by
        have runsOn := first.run_eq inside
        rw [ended] at runsOn
        exact Option.some.inj runsOn
      rw [same]
      exact second.congr (iff_and_self.mpr fun _ => inside) fun _ => rfl

/-- A run whose value is used once more at its end. -/
theorem map (first : RunsTo run domain value) (f : α -> β) :
    RunsTo (run >>= fun found => some (f found)) domain (f value) :=
  (first.bind (of_some (f value))).congr (and_iff_left trivial) fun _ => rfl

/-- A run that does not look at the value of the one before. -/
theorem andThen {other : Option β} {later : Prop} {result : β} (first : RunsTo run domain value)
    (second : RunsTo other later result) :
    RunsTo (run >>= fun _ => other) (domain ∧ later) result :=
  first.bind second

/-- A run in each branch. -/
theorem ite {condition : Prop} [Decidable condition] {other : Option α}
    (yes : condition -> RunsTo run domain value) (no : ¬condition -> RunsTo other domain value) :
    RunsTo (if condition then run else other) domain value := by
  by_cases holds : condition
  · rw [if_pos holds]
    exact yes holds
  · rw [if_neg holds]
    exact no holds

/-- A run over a list passes if it passes for each item. -/
theorem mapM {ι : Type v} {run : ι -> Option β} {domain : ι -> Prop} {value : ι -> β}
    {items : List ι} (each : forall item, item ∈ items -> RunsTo (run item) (domain item) (value item)) :
    RunsTo (items.mapM run) (forall item, item ∈ items -> domain item) (items.map value) := by
  induction items with
  | nil =>
      apply (of_some []).congr
      · exact ⟨fun _ item inside => absurd inside List.not_mem_nil, fun _ => trivial⟩
      · exact fun _ => rfl
  | cons item items ih =>
      have here := each item List.mem_cons_self
      have rest := ih fun other inside => each other (List.mem_cons_of_mem item inside)
      rw [List.mapM_cons]
      apply (here.bind (rest.bind (of_some (value item :: items.map value)))).congr
      · rw [and_true, List.forall_mem_cons]
      · exact fun _ => rfl

/-- Where a result leaves nothing to fear from the later runs, all of them pass. -/
theorem firstOf {ι : Type v} {run : ι -> Option (Option β)} {domain : ι -> Prop}
    {value : ι -> Option β} {items : List ι}
    (each : forall item, item ∈ items -> RunsTo (run item) (domain item) (value item))
    (alone : items.Pairwise fun earlier later => (value earlier).isSome = true -> domain later) :
    RunsTo (firstOf? (items.map run)) (forall item, item ∈ items -> domain item)
      (items.findSome? value) := by
  induction items with
  | nil =>
      apply (of_some none).congr
      · exact ⟨fun _ item inside => absurd inside List.not_mem_nil, fun _ => trivial⟩
      · exact fun _ => rfl
  | cons item items ih =>
      rcases List.pairwise_cons.mp alone with ⟨first, rest⟩
      have here := each item List.mem_cons_self
      have later := ih (fun other inside => each other (List.mem_cons_of_mem item inside)) rest
      rw [List.forall_mem_cons, List.findSome?_cons]
      apply here.bind
      cases found : value item with
      | none => exact later
      | some result =>
          apply (of_some (some result)).congr
          · refine iff_of_true trivial ?_
            intro other inside
            exact first other inside (by rw [found]; rfl)
          · exact fun _ => rfl

end RunsTo

end Library
end Imx6Gateway
