import Mathlib.Data.List.Basic

namespace Imx6Gateway
namespace Library

/-!
# A series of transactions

An operation that runs one transaction after the other is atomic as long as
nothing can be refused after something has changed.  A step of a series looks
at the state and does nothing, refuses, or runs one transaction; the environment
decides which transactions are committed.  The series goes on after a failure
and reports at its end whether all has gone well.
-/

/-- What a step does in a state. -/
inductive Move (σ : Type) where
  | skip
  | refuse
  | write (after : σ)

namespace TransactionSeries

variable {σ : Type}

/-- One move, with the outcomes that are left.  Outcomes that are not listed are commits. -/
def attempt (state : σ) (outcomes : List Bool) : Move σ -> σ × List Bool × Bool
  | .skip => (state, outcomes, true)
  | .refuse => (state, outcomes, false)
  | .write after =>
      if outcomes.headD true then (after, outcomes.tail, true) else (state, outcomes.tail, false)

/-- A whole series; the last component says that nothing has failed. -/
def run : List (σ -> Move σ) -> σ -> List Bool -> σ × List Bool × Bool
  | [], state, outcomes => (state, outcomes, true)
  | step :: steps, state, outcomes =>
      let first := attempt state outcomes (step state)
      let rest := run steps first.1 first.2.1
      (rest.1, rest.2.1, rest.2.2 && first.2.2)

theorem run_append (first second : List (σ -> Move σ)) (state : σ) (outcomes : List Bool) :
    run (first ++ second) state outcomes =
      ((run second (run first state outcomes).1 (run first state outcomes).2.1).1,
        (run second (run first state outcomes).1 (run first state outcomes).2.1).2.1,
        (run second (run first state outcomes).1 (run first state outcomes).2.1).2.2 &&
          (run first state outcomes).2.2) := by
  induction first generalizing state outcomes with
  | nil =>
      rw [List.nil_append, run, Bool.and_true]
  | cons step steps ih =>
      rw [List.cons_append, run, ih, run]
      dsimp only
      rw [Bool.and_assoc]

/-! ## Series that change nothing -/

section Relation

variable (same : σ -> σ -> Prop)

/-- The step does the same thing in states that are the same. -/
def Respects (step : σ -> Move σ) : Prop :=
  forall first second, same first second ->
    match step first, step second with
    | .skip, .skip => True
    | .refuse, .refuse => True
    | .write one, .write two => same one two
    | _, _ => False

/-- No step of the series, run alone, would change the state. -/
def Quiet (steps : List (σ -> Move σ)) (state : σ) : Prop :=
  forall step, step ∈ steps -> forall after, step state = .write after -> same state after

/-- No step of the series has anything to do. -/
def Idle (steps : List (σ -> Move σ)) (state : σ) : Prop :=
  forall step, step ∈ steps -> step state = .skip

/-- The first step that has something to do decides: later steps must change
nothing by themselves, and after a change there must be nothing left to do. -/
def Safe : List (σ -> Move σ) -> σ -> Prop
  | [], _ => True
  | step :: steps, state =>
      match step state with
      | .skip => Safe steps state
      | .refuse => Quiet same steps state
      | .write after => Quiet same steps state ∧ (same state after ∨ Idle steps after)

end Relation

/-- With no transaction committed, the state stays. -/
theorem run_failing (steps : List (σ -> Move σ)) (state : σ) {outcomes : List Bool}
    (enough : steps.length ≤ outcomes.length)
    (failing : forall outcome, outcome ∈ outcomes -> outcome = false) :
    (run steps state outcomes).1 = state := by
  induction steps generalizing outcomes with
  | nil => rfl
  | cons step steps ih =>
      cases outcomes with
      | nil => cases enough
      | cons outcome outcomes =>
          have later := fun other inside => failing other (List.mem_cons_of_mem outcome inside)
          have shorter : steps.length ≤ outcomes.length := Nat.le_of_succ_le_succ enough
          rw [run]
          cases step state with
          | skip => exact ih (Nat.le_succ_of_le shorter) failing
          | refuse => exact ih (Nat.le_succ_of_le shorter) failing
          | write after =>
              rw [failing outcome List.mem_cons_self]
              exact ih shorter later

/-- As many failures as there are steps. -/
def allFail (steps : List (σ -> Move σ)) : List Bool :=
  List.replicate steps.length false

theorem run_allFail (steps : List (σ -> Move σ)) (state : σ) :
    (run steps state (allFail steps)).1 = state :=
  run_failing steps state (Nat.le_of_eq List.length_replicate.symm)
    fun _ inside => List.eq_of_mem_replicate inside

/-- If nothing fails although nothing is committed, nothing is attempted. -/
theorem idle_of_allFail {steps : List (σ -> Move σ)} {state : σ} {outcomes : List Bool}
    (enough : steps.length ≤ outcomes.length)
    (failing : forall outcome, outcome ∈ outcomes -> outcome = false)
    (fine : (run steps state outcomes).2.2 = true) : Idle steps state := by
  induction steps generalizing outcomes with
  | nil => exact fun _ inside => absurd inside List.not_mem_nil
  | cons step steps ih =>
      rw [run] at fine
      cases move : step state with
      | skip =>
          rw [move] at fine
          intro other inside
          rcases List.mem_cons.mp inside with rfl | later
          · exact move
          · exact ih (Nat.le_of_succ_le enough) failing (Bool.and_eq_true_iff.mp fine).1 other later
      | refuse =>
          rw [move] at fine
          cases (Bool.and_eq_true_iff.mp fine).2
      | write after =>
          cases outcomes with
          | nil => cases enough
          | cons outcome outcomes =>
              rw [move, failing outcome List.mem_cons_self] at fine
              cases (Bool.and_eq_true_iff.mp fine).2

theorem run_of_idle {steps : List (σ -> Move σ)} {state : σ} (idle : Idle steps state)
    (outcomes : List Bool) : run steps state outcomes = (state, outcomes, true) := by
  induction steps with
  | nil => rfl
  | cons step steps ih =>
      rw [run, idle step List.mem_cons_self]
      change ((run steps state outcomes).1, (run steps state outcomes).2.1,
        (run steps state outcomes).2.2 && true) = _
      rw [ih fun other inside => idle other (List.mem_cons_of_mem step inside)]
      rfl

section Relation

variable {same : σ -> σ -> Prop} (equivalence : Equivalence same)

include equivalence in
/-- A quiet series is quiet in every state that is the same. -/
theorem Quiet.of_same {steps : List (σ -> Move σ)}
    (respects : forall step, step ∈ steps -> Respects same step)
    {state other : σ} (quiet : Quiet same steps state) (equal : same state other) :
    Quiet same steps other := by
  intro step inside after writes
  have both := respects step inside state other equal
  rw [writes] at both
  cases move : step state with
  | skip =>
      rw [move] at both
      cases both
  | refuse =>
      rw [move] at both
      cases both
  | write before =>
      rw [move] at both
      exact equivalence.trans (equivalence.symm equal)
        (equivalence.trans (quiet step inside before move) both)

include equivalence in
/-- A series never changes anything exactly if none of its steps would. -/
theorem quiet_iff {steps : List (σ -> Move σ)}
    (respects : forall step, step ∈ steps -> Respects same step)
    (state : σ) :
    (forall outcomes, same state (run steps state outcomes).1) ↔ Quiet same steps state := by
  induction steps generalizing state with
  | nil => exact iff_of_true (fun _ => equivalence.refl state) fun _ inside => absurd inside List.not_mem_nil
  | cons step steps ih =>
      have later := fun other inside => respects other (List.mem_cons_of_mem step inside)
      constructor
      · intro always other inside after writes
        rcases List.mem_cons.mp inside with rfl | listed
        · have ends := always (true :: allFail steps)
          rw [run, writes] at ends
          change same state (run steps after (allFail steps)).1 at ends
          rwa [run_allFail] at ends
        · refine (ih later state).mp ?_ other listed after writes
          intro outcomes
          cases move : step state with
          | skip =>
              have ends := always outcomes
              rw [run, move] at ends
              exact ends
          | refuse =>
              have ends := always outcomes
              rw [run, move] at ends
              exact ends
          | write written =>
              have ends := always (false :: outcomes)
              rw [run, move] at ends
              exact ends
      · intro quiet outcomes
        have rest : Quiet same steps state :=
          fun other inside => quiet other (List.mem_cons_of_mem step inside)
        rw [run]
        cases move : step state with
        | skip => exact (ih later state).mpr rest outcomes
        | refuse => exact (ih later state).mpr rest outcomes
        | write after =>
            have harmless := quiet step List.mem_cons_self after move
            dsimp only [attempt]
            split
            · exact equivalence.trans harmless ((ih later after).mpr
                (rest.of_same equivalence later harmless) outcomes.tail)
            · exact (ih later state).mpr rest outcomes.tail

include equivalence in
/-- A series is atomic, whatever is committed, exactly if it is safe. -/
theorem atomic_iff {steps : List (σ -> Move σ)}
    (respects : forall step, step ∈ steps -> Respects same step)
    (state : σ) :
    (forall outcomes, (run steps state outcomes).2.2 = false ->
      same state (run steps state outcomes).1) ↔ Safe same steps state := by
  induction steps generalizing state with
  | nil => exact iff_of_true (fun _ _ => equivalence.refl state) trivial
  | cons step steps ih =>
      have later := fun other inside => respects other (List.mem_cons_of_mem step inside)
      rw [Safe]
      cases move : step state with
      | skip =>
          dsimp only
          rw [← ih later state]
          simp only [run, move, attempt, Bool.and_true]
      | refuse =>
          dsimp only
          rw [← quiet_iff equivalence later state]
          simp only [run, move, attempt, Bool.and_false, forall_const]
      | write after =>
          dsimp only
          rw [← quiet_iff equivalence later state]
          constructor
          · intro atomic
            refine ⟨?_, ?_⟩
            · intro outcomes
              have ends := atomic (false :: outcomes)
              rw [run, move] at ends
              exact ends (Bool.and_false _)
            · by_cases harmless : same state after
              · exact Or.inl harmless
              · have ends := atomic (true :: allFail steps)
                rw [run, move] at ends
                change ((run steps after (allFail steps)).2.2 && true) = false ->
                  same state (run steps after (allFail steps)).1 at ends
                rw [run_allFail, Bool.and_true] at ends
                right
                apply idle_of_allFail (Nat.le_of_eq List.length_replicate.symm)
                  fun _ inside => List.eq_of_mem_replicate inside
                rw [← Bool.not_eq_false]
                exact fun failed => harmless (ends failed)
          · rintro ⟨quiet, harmless | idle⟩ outcomes failed
            · rw [run, move]
              dsimp only [attempt]
              split
              · have rest := ((quiet_iff equivalence later state).mp quiet).of_same
                  equivalence later harmless
                exact equivalence.trans harmless
                  ((quiet_iff equivalence later after).mpr rest outcomes.tail)
              · exact quiet outcomes.tail
            · rw [run, move] at failed ⊢
              dsimp only [attempt] at failed ⊢
              split at failed
              · rw [run_of_idle idle] at failed
                cases failed
              · rename_i rejected
                rw [if_neg rejected]
                exact quiet outcomes.tail

end Relation

/-! ## The log of a series -/

section Log

variable {Entry : Type} {before between after : List Entry} {ok fine : Bool}
  {entries more : List Entry}

/-- What a step appends to a log: all its entries if it reports success, and
fewer otherwise. -/
def Appends (before after : List Entry) (ok : Bool) (entries : List Entry) : Prop :=
  exists appended, after = before ++ appended ∧
    if ok then appended = entries else appended.length < entries.length

theorem appends_nothing (log : List Entry) : Appends log log true [] :=
  ⟨[], (List.append_nil log).symm, rfl⟩

theorem appends_refused (log : List Entry) (wanted : entries ≠ []) :
    Appends log log false entries :=
  ⟨[], (List.append_nil log).symm, List.length_pos_iff.mpr wanted⟩

theorem appends_entry (log : List Entry) (entry : Entry) :
    Appends log (log ++ [entry]) true [entry] :=
  ⟨[entry], rfl, rfl⟩

theorem Appends.length_le {appended : List Entry}
    (appends : if ok then appended = entries else appended.length < entries.length) :
    appended.length ≤ entries.length := by
  cases ok with
  | true => exact Nat.le_of_eq (congrArg List.length appends)
  | false => exact Nat.le_of_lt appends

/-- A series that goes on after a failure. -/
theorem Appends.trans (first : Appends before between ok entries)
    (second : Appends between after fine more) :
    Appends before after (fine && ok) (entries ++ more) := by
  rcases first with ⟨one, rfl, one_ends⟩
  rcases second with ⟨two, rfl, two_ends⟩
  refine ⟨one ++ two, List.append_assoc before one two, ?_⟩
  have one_le := Appends.length_le one_ends
  have two_le := Appends.length_le two_ends
  cases ok with
  | true =>
      cases fine with
      | true => exact congrArg₂ List.append one_ends two_ends
      | false =>
          have shorter : two.length < more.length := two_ends
          simp only [Bool.false_and, Bool.false_eq_true, if_false, List.length_append]
          omega
  | false =>
      have shorter : one.length < entries.length := one_ends
      simp only [Bool.and_false, Bool.false_eq_true, if_false, List.length_append]
      omega

/-- A series that ends with a failure. -/
theorem Appends.stopped (first : Appends before after false entries) (more : List Entry) :
    Appends before after false (entries ++ more) := by
  rcases first with ⟨appended, log, shorter⟩
  refine ⟨appended, log, ?_⟩
  exact Nat.lt_of_lt_of_le shorter (List.Sublist.length_le (List.sublist_append_left entries more))

/-- The report is the truth about the log. -/
theorem Appends.ok_iff (appends : Appends before after ok entries) :
    ok = true ↔ after = before ++ entries := by
  rcases appends with ⟨appended, rfl, ends⟩
  rw [List.append_cancel_left_eq]
  cases ok with
  | true => exact iff_of_true rfl ends
  | false =>
      have shorter : appended.length < entries.length := ends
      refine iff_of_false Bool.false_ne_true ?_
      rintro rfl
      exact Nat.lt_irrefl _ shorter

end Log

end TransactionSeries
end Library
end Imx6Gateway
