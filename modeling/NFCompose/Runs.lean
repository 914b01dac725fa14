/-
Runs of a deterministic transition function.  A run executes a list of
operations from a given state; the rules below carry a property of one step to
every run.
-/
import Mathlib.Data.List.Basic

namespace Runs

universe u v w x

variable {S : Type u} {O : Type v} {T : Type w} {P : Type x}

/-- The state after executing the operations in order. -/
def run (step : S → O → S) (init : S) (ops : List O) : S :=
  ops.foldl step init

@[simp] theorem run_nil (step : S → O → S) (init : S) :
    run step init [] = init := rfl

@[simp] theorem run_cons (step : S → O → S) (init : S) (op : O)
    (ops : List O) :
    run step init (op :: ops) = run step (step init op) ops := rfl

theorem run_append (step : S → O → S) (init : S) (first second : List O) :
    run step init (first ++ second) =
      run step (run step init first) second := by
  simp [run]

/-- Every operation of the run meets `cond` in the state it is executed in. -/
def AllSteps (step : S → O → S) (cond : S → O → Prop) : S → List O → Prop
  | _, [] => True
  | state, op :: rest => cond state op ∧ AllSteps step cond (step state op) rest

instance AllSteps.decide (step : S → O → S) (cond : S → O → Prop)
    [hcond : ∀ state op, Decidable (cond state op)] :
    (state : S) → (ops : List O) → Decidable (AllSteps step cond state ops)
  | _, [] => isTrue trivial
  | state, op :: rest =>
      have := AllSteps.decide step cond (step state op) rest
      inferInstanceAs (Decidable (_ ∧ _))

@[simp] theorem allSteps_nil (step : S → O → S) (cond : S → O → Prop)
    (init : S) : AllSteps step cond init [] := trivial

@[simp] theorem allSteps_cons (step : S → O → S) (cond : S → O → Prop)
    (init : S) (op : O) (ops : List O) :
    AllSteps step cond init (op :: ops) ↔
      cond init op ∧ AllSteps step cond (step init op) ops := Iff.rfl

/-- A run meets a condition exactly when its two parts do, the second one from
the state the first one reaches. -/
theorem allSteps_append (step : S → O → S) (cond : S → O → Prop)
    (init : S) (first second : List O) :
    AllSteps step cond init (first ++ second) ↔
      AllSteps step cond init first ∧
        AllSteps step cond (run step init first) second := by
  induction first generalizing init with
  | nil => simp
  | cons op rest ih => simp [ih, and_assoc]

/-- The invariant rule: what every admitted step keeps, every run keeps. -/
theorem run_invariant {step : S → O → S} {cond : S → O → Prop}
    (inv : S → Prop)
    (hstep : ∀ state op, inv state → cond state op → inv (step state op))
    {init : S} (hinit : inv init) {ops : List O}
    (hops : AllSteps step cond init ops) : inv (run step init ops) := by
  induction ops generalizing init with
  | nil => exact hinit
  | cons op rest ih =>
      exact ih (hstep init op hinit hops.1) hops.2

/-- The invariant rule where no step needs a condition. -/
theorem run_keeps {step : S → O → S} (inv : S → Prop)
    (hstep : ∀ state op, inv state → inv (step state op)) {init : S} (hinit : inv init)
    (ops : List O) : inv (run step init ops) := by
  induction ops generalizing init with
  | nil => exact hinit
  | cons op rest ih => exact ih (hstep init op hinit)

/-- The simulation rule: a relation kept by every admitted step relates the
two states after every run. -/
theorem run_simulation {step : S → O → S} {stepT : T → O → T}
    {cond : S → O → Prop} (rel : S → T → Prop)
    (hstep : ∀ state abs op, rel state abs → cond state op →
      rel (step state op) (stepT abs op))
    {init : S} {initT : T} (hinit : rel init initT) {ops : List O}
    (hops : AllSteps step cond init ops) :
    rel (run step init ops) (run stepT initT ops) := by
  induction ops generalizing init initT with
  | nil => exact hinit
  | cons op rest ih =>
      exact ih (hstep init initT op hinit hops.1) hops.2

/-- The invariant rule where the invariant speaks of the operations so far. -/
theorem run_along {step : S → O → S} {cond : S → O → Prop} (inv : S → List O → Prop)
    (hstep : ∀ state done op, inv state done → cond state op →
      inv (step state op) (done ++ [op]))
    {init : S} (hinit : inv init []) {ops : List O}
    (hops : AllSteps step cond init ops) : inv (run step init ops) ops := by
  have hrecord : ∀ done : List O, run (fun done op => done ++ [op]) done ops = done ++ ops := by
    clear hops
    induction ops with
    | nil => simp
    | cons op rest ih =>
        intro done
        rw [run_cons, ih, List.append_assoc, List.singleton_append]
  have hrel := run_simulation inv hstep hinit hops
  rw [hrecord, List.nil_append] at hrel
  exact hrel

/-- The projection rule: when every step changes a view of the state through
the view alone, the view of a run is the run of the view. -/
theorem run_projection {step : S → O → S} {stepT : T → P → T}
    (view : S → T) {act : O → Option P}
    (hstep : ∀ state op,
      view (step state op) = (act op).elim (view state) (stepT (view state)))
    (init : S) (ops : List O) :
    view (run step init ops) =
      run stepT (view init) (ops.filterMap act) := by
  induction ops generalizing init with
  | nil => rfl
  | cons op rest ih =>
      rw [run_cons, ih, hstep]
      cases hact : act op <;> simp [hact]

/-- The condition of a run carries over to the run of a view. -/
theorem allSteps_projection {step : S → O → S} {stepT : T → P → T}
    (view : S → T) {act : O → Option P}
    {cond : S → O → Prop} (condT : T → P → Prop)
    (hstep : ∀ state op,
      view (step state op) = (act op).elim (view state) (stepT (view state)))
    (hcond : ∀ state op p, act op = some p → cond state op →
      condT (view state) p)
    {init : S} {ops : List O} (hops : AllSteps step cond init ops) :
    AllSteps stepT condT (view init) (ops.filterMap act) := by
  induction ops generalizing init with
  | nil => trivial
  | cons op rest ih =>
      have htail := ih hops.2
      rw [hstep] at htail
      cases hact : act op with
      | none => simpa [hact] using htail
      | some p =>
          simp only [List.filterMap_cons, hact]
          exact ⟨hcond init op p hact hops.1, by simpa [hact] using htail⟩

/-- What the steps of a run emit, in order. -/
def outputs {E : Type w} (step : S → O → S) (emit : S → O → List E) :
    S → List O → List E
  | _, [] => []
  | state, op :: rest => emit state op ++ outputs step emit (step state op) rest

/-- The output rule: what holds of everything a step emits from a state with the
invariant holds of everything a run emits. -/
theorem forall_outputs {E : Type w} {step : S → O → S} {emit : S → O → List E}
    {cond : S → O → Prop} (inv : S → Prop) (good : E → Prop)
    (hstep : ∀ state op, inv state → cond state op → inv (step state op))
    (hemit : ∀ state op, inv state → cond state op →
      ∀ output ∈ emit state op, good output)
    {init : S} (hinit : inv init) {ops : List O}
    (hops : AllSteps step cond init ops) :
    ∀ output ∈ outputs step emit init ops, good output := by
  induction ops generalizing init with
  | nil => simp [outputs]
  | cons op rest ih =>
      intro output houtput
      rw [outputs, List.mem_append] at houtput
      rcases houtput with hnow | hlater
      · exact hemit init op hinit hops.1 output hnow
      · exact ih (hstep init op hinit hops.1) hops.2 output hlater

/-- The output rule where the invariant speaks of everything emitted so far. -/
theorem run_outputs {E : Type w} {step : S → O → S} {emit : S → O → List E}
    {cond : S → O → Prop} (inv : S → List E → Prop)
    (hstep : ∀ state emitted op, inv state emitted → cond state op →
      inv (step state op) (emitted ++ emit state op))
    {init : S} {emitted : List E} (hinit : inv init emitted) {ops : List O}
    (hops : AllSteps step cond init ops) :
    inv (run step init ops) (emitted ++ outputs step emit init ops) := by
  induction ops generalizing init emitted with
  | nil => simpa [outputs] using hinit
  | cons op rest ih =>
      have hrest := ih (hstep init emitted op hinit hops.1) hops.2
      rwa [List.append_assoc] at hrest

theorem allSteps_of_forall (step : S → O → S) {condO : O → Prop} (init : S)
    {ops : List O} (hall : ∀ op ∈ ops, condO op) :
    AllSteps step (fun _ op => condO op) init ops := by
  induction ops generalizing init with
  | nil => trivial
  | cons op rest ih =>
      refine ⟨hall op List.mem_cons_self, ih (step init op) ?_⟩
      exact fun other hother => hall other (List.mem_cons_of_mem op hother)

/-- A condition on the operations alone may join the condition on the steps. -/
theorem allSteps_and_forall {step : S → O → S} {cond : S → O → Prop}
    {condO : O → Prop} {init : S} {ops : List O}
    (hops : AllSteps step cond init ops) (hall : ∀ op ∈ ops, condO op) :
    AllSteps step (fun state op => cond state op ∧ condO op) init ops := by
  induction ops generalizing init with
  | nil => trivial
  | cons op rest ih =>
      refine ⟨⟨hops.1, hall op List.mem_cons_self⟩, ih hops.2 ?_⟩
      exact fun other hother => hall other (List.mem_cons_of_mem op hother)

/-- A state may be older than the operations that are still to come.  When one
operation keeps this for those after it, every operation is executed in a state
that is older than it. -/
theorem allSteps_of_pending {step : S → O → S} {cond : S → O → Prop}
    {older : S → O → Prop} {before : O → O → Prop}
    (hstep : ∀ state op next, older state op → older state next →
      before op next → older (step state op) next)
    (hcond : ∀ state op, older state op → cond state op)
    {init : S} {ops : List O} (hops : ops.Pairwise before)
    (hinit : ∀ op ∈ ops, older init op) : AllSteps step cond init ops := by
  induction ops generalizing init with
  | nil => trivial
  | cons op rest ih =>
      rw [List.pairwise_cons] at hops
      have hop := hinit op List.mem_cons_self
      refine ⟨hcond init op hop, ih hops.2 ?_⟩
      intro next hnext
      exact hstep init op next hop (hinit next (List.mem_cons_of_mem op hnext))
        (hops.1 next hnext)

/-- When later operations satisfy a predicate only if earlier ones do, the
operations that satisfy it form the first part of the run. -/
theorem eq_filter_append_filter_not (p : O → Prop) [DecidablePred p]
    {ops : List O} (hops : ops.Pairwise fun a b => p b → p a) :
    ops = ops.filter (fun op => p op) ++ ops.filter fun op => ¬ p op := by
  induction ops with
  | nil => rfl
  | cons op rest ih =>
      rw [List.pairwise_cons] at hops
      by_cases hop : p op
      · have hrest := ih hops.2
        simp only [List.filter_cons, hop, decide_true, if_true,
          List.cons_append, not_true, decide_false]
        exact congrArg (List.cons op) hrest
      · have hnone : ∀ other ∈ op :: rest, ¬ p other := by
          intro other hother
          rcases List.mem_cons.mp hother with rfl | hother
          · exact hop
          · exact fun hp => hop (hops.1 other hother hp)
        have hfirst : (op :: rest).filter (fun op => p op) = [] := by
          rw [List.filter_eq_nil_iff]
          simpa using hnone
        have hsecond : (op :: rest).filter (fun op => ¬ p op) =
            op :: rest := by
          rw [List.filter_eq_self]
          simpa using hnone
        rw [hfirst, hsecond, List.nil_append]

end Runs
