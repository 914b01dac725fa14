/-
The semaphore of the task queue: a counter in Redis that the workers read and
change one command at a time, in any interleaving.
-/
import Mathlib.Algebra.BigOperators.Ring.Finset
import Mathlib.Algebra.Order.BigOperators.Group.Finset
import NFCompose.Runs

namespace NFCompose

universe u

/-- What is stored under the key of a semaphore. -/
abbrev RedisValue := Option Int

/-- A missing counter counts as zero for `INCR` and `DECR`. -/
def RedisValue.count (value : RedisValue) : Int := value.getD 0

/-- Where a worker stands in `acquire_semaphore` or `release_semaphore`, named
after what it does next. -/
inductive SemaphoreWorker where
  | outside
  | initializing
  | incrementing
  | exceeded
  | holding
  | released
  | resetting
deriving DecidableEq, Repr

structure SemaphoreState (W : Type u) where
  value : RedisValue
  workers : W → SemaphoreWorker

variable {W : Type u} [DecidableEq W]

def SemaphoreState.initial : SemaphoreState W := ⟨none, fun _ => .outside⟩

/-- A command leaves a value and takes its worker further. -/
def SemaphoreState.after (state : SemaphoreState W) (worker : W) (value : RedisValue)
    (next : SemaphoreWorker) : SemaphoreState W :=
  ⟨value, Function.update state.workers worker next⟩

@[simp] theorem after_value (state : SemaphoreState W) (worker : W) (value : RedisValue)
    (next : SemaphoreWorker) : (state.after worker value next).value = value := rfl

@[simp] theorem after_workers (state : SemaphoreState W) (worker : W) (value : RedisValue)
    (next : SemaphoreWorker) :
    (state.after worker value next).workers = Function.update state.workers worker next := rfl

/-- The next Redis command of one worker. -/
def semaphoreStep (concurrencyLimit : Nat) (state : SemaphoreState W) (worker : W) :
    SemaphoreState W :=
  let value := state.value
  match state.workers worker with
  | .outside =>
      -- `acquire_semaphore`: get
      state.after worker value (if value.isNone then .initializing else .incrementing)
  | .initializing => state.after worker (some value.count) .incrementing
  | .incrementing =>
      let count := value.count + 1
      state.after worker (some count) (if count > concurrencyLimit then .exceeded else .holding)
  | .exceeded => state.after worker (some (value.count - 1)) .outside
  | .holding =>
      -- `release_semaphore`: decr
      state.after worker (some (value.count - 1)) .released
  | .released =>
      state.after worker value
        (match value with
          | some redisVal => if redisVal ≤ 0 then .resetting else .outside
          | none => .outside)
  | .resetting => state.after worker none .outside

/-- The number of workers that hold the semaphore. -/
def SemaphoreState.holders [Fintype W] (state : SemaphoreState W) : Nat :=
  (Finset.univ.filter fun worker => state.workers worker = .holding).card

/-- The key is deleted only while its counter is still spent. -/
def ResetsSpent (state : SemaphoreState W) (worker : W) : Prop :=
  state.workers worker = .resetting → state.value.count ≤ 0

instance (state : SemaphoreState W) (worker : W) : Decidable (ResetsSpent state worker) :=
  inferInstanceAs (Decidable (_ → _))

/-- What a worker has added to the counter and not taken away yet. -/
def SemaphoreWorker.permits : SemaphoreWorker → Int
  | .holding | .exceeded => 1
  | _ => 0

theorem permits_nonneg (worker : SemaphoreWorker) : 0 ≤ worker.permits := by
  cases worker <;> decide

section Counting

variable [Fintype W]

/-- The counter is the number of permits given out. -/
def SemaphoreState.Counted (state : SemaphoreState W) : Prop :=
  state.value.count = ∑ worker, (state.workers worker).permits

theorem sum_permits_update (workers : W → SemaphoreWorker) (worker : W)
    (next : SemaphoreWorker) :
    ∑ other, (Function.update workers worker next other).permits =
      (∑ other, (workers other).permits) - (workers worker).permits + next.permits := by
  have hrest : ∑ other ∈ Finset.univ.erase worker,
        (Function.update workers worker next other).permits =
      ∑ other ∈ Finset.univ.erase worker, (workers other).permits := by
    apply Finset.sum_congr rfl
    intro other hother
    rw [Function.update_of_ne (Finset.ne_of_mem_erase hother)]
  rw [← Finset.add_sum_erase _ _ (Finset.mem_univ worker), hrest, Function.update_self,
    ← Finset.add_sum_erase _ (fun other => (workers other).permits) (Finset.mem_univ worker)]
  omega

theorem counted_after {state : SemaphoreState W} (hcounted : state.Counted) {worker : W}
    {value : RedisValue} {next : SemaphoreWorker}
    (hvalue : value.count - next.permits =
      state.value.count - (state.workers worker).permits) :
    (state.after worker value next).Counted := by
  rw [SemaphoreState.Counted, after_value, after_workers, sum_permits_update, ← hcounted]
  omega

omit [DecidableEq W] in
theorem sum_permits_nonneg (state : SemaphoreState W) :
    0 ≤ ∑ worker, (state.workers worker).permits :=
  Finset.sum_nonneg fun worker _ => permits_nonneg (state.workers worker)

/-- Every command but a reset of a used counter keeps the count. -/
theorem counted_step {limit : Nat} {state : SemaphoreState W} {worker : W}
    (hcounted : state.Counted) (hspent : ResetsSpent state worker) :
    (semaphoreStep limit state worker).Counted := by
  unfold semaphoreStep
  cases hworker : state.workers worker with
  | outside =>
      apply counted_after hcounted
      rw [hworker]
      split <;> rfl
  | initializing =>
      apply counted_after hcounted
      rw [hworker]
      rfl
  | incrementing =>
      apply counted_after hcounted
      rw [hworker]
      split <;> simp [RedisValue.count, SemaphoreWorker.permits]
  | exceeded =>
      apply counted_after hcounted
      rw [hworker]
      simp [RedisValue.count, SemaphoreWorker.permits]
  | holding =>
      apply counted_after hcounted
      rw [hworker]
      simp [RedisValue.count, SemaphoreWorker.permits]
  | released =>
      apply counted_after hcounted
      rw [hworker]
      split
      · split <;> rfl
      · rfl
  | resetting =>
      apply counted_after hcounted
      rw [hworker]
      have hnonneg := sum_permits_nonneg state
      have hle := hspent hworker
      rw [← hcounted] at hnonneg
      have hzero : state.value.count = 0 := le_antisymm hle hnonneg
      rw [hzero]
      rfl

omit [DecidableEq W] in
theorem holders_le_permits (state : SemaphoreState W) :
    (state.holders : Int) ≤ ∑ worker, (state.workers worker).permits := by
  rw [SemaphoreState.holders, Finset.natCast_card_filter]
  apply Finset.sum_le_sum
  intro worker _
  cases state.workers worker <;> decide

/-- Only a worker that comes to hold the semaphore adds to the holders. -/
theorem holders_after_le (state : SemaphoreState W) (worker : W) (value : RedisValue)
    {next : SemaphoreWorker} (hnext : next ≠ .holding) :
    (state.after worker value next).holders ≤ state.holders := by
  apply Finset.card_le_card
  intro other hother
  rw [Finset.mem_filter] at hother ⊢
  refine ⟨Finset.mem_univ other, ?_⟩
  by_cases heq : other = worker
  · subst heq
    rw [after_workers, Function.update_self] at hother
    exact absurd hother.2 hnext
  · rw [after_workers, Function.update_of_ne heq] at hother
    exact hother.2

theorem holders_step_le {limit : Nat} {state : SemaphoreState W} {worker : W}
    (hcounted : state.Counted) (hholders : state.holders ≤ limit) :
    (semaphoreStep limit state worker).holders ≤ limit := by
  unfold semaphoreStep
  cases hworker : state.workers worker with
  | outside =>
      apply (holders_after_le ..).trans hholders
      split <;> decide
  | initializing => exact (holders_after_le state worker _ (by decide)).trans hholders
  | incrementing =>
      simp only
      split
      · exact (holders_after_le state worker _ (by decide)).trans hholders
      · -- the new holder read a count of at most the limit
        rename_i hlimit
        have hafter : (state.after worker (some (state.value.count + 1)) .holding).Counted := by
          apply counted_after hcounted
          rw [hworker]
          simp [RedisValue.count, SemaphoreWorker.permits]
        have hpermits := holders_le_permits
          (state.after worker (some (state.value.count + 1)) .holding)
        rw [← hafter] at hpermits
        have hcount : (state.after worker (some (state.value.count + 1)) .holding).value.count =
            state.value.count + 1 := rfl
        rw [hcount] at hpermits
        omega
  | exceeded => exact (holders_after_le state worker _ (by decide)).trans hholders
  | holding => exact (holders_after_le state worker _ (by decide)).trans hholders
  | released =>
      apply (holders_after_le ..).trans hholders
      split
      · split <;> decide
      · decide
  | resetting => exact (holders_after_le state worker _ (by decide)).trans hholders

/-- No more workers than the limit hold the semaphore as long as no worker
deletes a counter that is in use again. -/
theorem holders_le_limit (limit : Nat) (commands : List W)
    (hspent : Runs.AllSteps (semaphoreStep limit) ResetsSpent SemaphoreState.initial commands) :
    (Runs.run (semaphoreStep limit) SemaphoreState.initial commands).holders ≤ limit := by
  have hinv := Runs.run_invariant
    (fun state : SemaphoreState W => state.Counted ∧ state.holders ≤ limit)
    (fun state worker hstate hworker =>
      ⟨counted_step hstate.1 hworker, holders_step_le hstate.1 hstate.2⟩)
    ⟨?_, ?_⟩ hspent
  · exact hinv.2
  · simp [SemaphoreState.Counted, SemaphoreState.initial, RedisValue.count,
      SemaphoreWorker.permits]
  · simp [SemaphoreState.holders, SemaphoreState.initial]

end Counting

namespace SemaphoreWitness

/-- Worker 0 reads that the counter is spent and deletes it after worker 1 has
incremented it. -/
def lateReset : List (Fin 3) := [0, 0, 0, 0, 0, 1, 1, 0, 2, 2, 2]

theorem lateReset_exceeds_limit :
    ¬ (Runs.run (semaphoreStep 1) SemaphoreState.initial lateReset).holders ≤ 1 := by
  decide

theorem holders_le_limit_handover :
    (Runs.run (semaphoreStep 1) SemaphoreState.initial
      ([0, 0, 0, 1, 1, 1, 0, 0, 0, 1, 1, 1] : List (Fin 2))).holders ≤ 1 :=
  holders_le_limit 1 _ (by decide)

end SemaphoreWitness

end NFCompose
