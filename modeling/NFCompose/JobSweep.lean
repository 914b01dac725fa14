/-
The job queue of a tenant, and the sweep that runs its jobs.  The sweep ends with the
first job that fails, so a job that fails keeps the others from running.
-/
import NFCompose.DataModel
import Mathlib.Data.List.Sort

namespace NFCompose

namespace JobSweep

/-- `TenantPostgresQueueJob`. -/
structure Job (T : Type) where
  id : Nat
  createdAt : T
  executeAt : T
  priority : Int
  queue : String
  task : String
  tenant : Uuid
deriving DecidableEq, Repr

/-- `TenantAtMostOnceQueue` or `TenantAtLeastOnceQueue`. -/
structure TenantQueue where
  queue : String
  tenant : Uuid
  tasks : List String
  atMostOnce : Bool
deriving DecidableEq, Repr

/-- What a run of one job finds: the time, the rows that other transactions have locked,
and the jobs whose task raises. -/
structure Moment (T : Type) where
  now : T
  locked : List Nat
  fails : List Nat
deriving DecidableEq, Repr

/-- The jobs, by their primary keys. -/
structure JobTable (T : Type) where
  jobs : List (Job T)
  ids_nodup : (jobs.map Job.id).Nodup

inductive RunResult (T : Type) where
  | idle
  | done (job : Job T)
  | failed (job : Job T)

section Queue

variable {T : Type} [LinearOrder T]

/-- The `WHERE` of `dequeue_tenant`, with `SKIP LOCKED`. -/
def TenantQueue.isReady (queue : TenantQueue) (moment : Moment T) (excludeIds : List Nat)
    (job : Job T) : Bool :=
  decide (job.executeAt ≤ moment.now) && decide (job.id ∉ excludeIds) &&
    decide (job.queue = queue.queue) && decide (job.tenant = queue.tenant) &&
      decide (job.task ∈ queue.tasks) && decide (job.id ∉ moment.locked)

/-- `ORDER BY priority DESC, created_at`. -/
def Job.before (job other : Job T) : Prop :=
  other.priority < job.priority ∨ (other.priority = job.priority ∧ job.createdAt ≤ other.createdAt)

instance : DecidableRel (Job.before (T := T)) :=
  fun job other => inferInstanceAs (Decidable (other.priority < job.priority ∨
    (other.priority = job.priority ∧ job.createdAt ≤ other.createdAt)))

def TenantQueue.dequeueTenant (queue : TenantQueue) (moment : Moment T) (excludeIds : List Nat)
    (jobs : List (Job T)) : Option (Job T) :=
  ((jobs.filter (queue.isReady moment excludeIds)).insertionSort Job.before).head?

def remove (job : Job T) (jobs : List (Job T)) : List (Job T) :=
  jobs.filter fun other => other.id ≠ job.id

/-- `_run_once`.  At most once, the job is gone before it runs; at least once, a failure
brings it back. -/
def TenantQueue.runOnce (queue : TenantQueue) (moment : Moment T) (excludeIds : List Nat)
    (jobs : List (Job T)) : RunResult T × List (Job T) :=
  match queue.dequeueTenant moment excludeIds jobs with
  | none => (.idle, jobs)
  | some job =>
      if job.id ∈ moment.fails then
        (.failed job, if queue.atMostOnce then remove job jobs else jobs)
      else (.done job, remove job jobs)

/-- The variables of a sweep, the jobs it has attempted and how often it called
`run_once`. -/
structure SweepState (T : Type) where
  jobs : List (Job T)
  failedIds : List Nat
  attempted : List Nat
  runs : Nat

def SweepState.start (jobs : List (Job T)) : SweepState T := ⟨jobs, [], [], 0⟩

/-- `try_run`: a job and its result, or nothing. -/
def tryRun (queue : TenantQueue) (moments : Nat → Moment T) (state : SweepState T) :
    Option (Job T) × SweepState T :=
  match queue.runOnce (moments state.runs) state.failedIds state.jobs with
  | (.idle, jobs) => (none, { state with jobs := jobs, runs := state.runs + 1 })
  | (.done job, jobs) => (some job,
      { state with jobs := jobs, attempted := state.attempted ++ [job.id],
                   runs := state.runs + 1 })
  | (.failed job, jobs) => (none,
      { jobs := jobs, failedIds := job.id :: state.failedIds,
        attempted := state.attempted ++ [job.id], runs := state.runs + 1 })

/-- `try_run_all`, if it ends within so many runs. -/
def tryRunAll (queue : TenantQueue) (moments : Nat → Moment T) :
    Nat → SweepState T → Option (SweepState T)
  | 0, _ => none
  | runs + 1, state =>
      match tryRun queue moments state with
      | (some _, next) => tryRunAll queue moments runs next
      | (none, last) => some last

/-- The jobs that are ready at the end were all attempted. -/
def AttemptsReady (queue : TenantQueue) (moments : Nat → Moment T) (table : JobTable T)
    (last : SweepState T) : Prop :=
  ∀ job ∈ table.jobs, queue.isReady (moments (last.runs - 1)) [] job → job.id ∈ last.attempted

/-- What a sweep is for: it ends, every job that is ready when it ends was attempted, and
none was attempted twice. -/
structure SweepsAll (queue : TenantQueue) (moments : Nat → Moment T) (table : JobTable T) :
    Prop where
  terminates : ∃ runs last, tryRunAll queue moments runs (.start table.jobs) = some last
  attempts_ready : ∀ runs last, tryRunAll queue moments runs (.start table.jobs) = some last →
    AttemptsReady queue moments table last
  attempts_once : ∀ runs last, tryRunAll queue moments runs (.start table.jobs) = some last →
    last.attempted.Nodup

/-- No job fails while another one is ready. -/
inductive LastToFail (queue : TenantQueue) (moments : Nat → Moment T) :
    Nat → List (Job T) → Prop where
  | idle {run : Nat} {jobs : List (Job T)} :
      queue.dequeueTenant (moments run) [] jobs = none → LastToFail queue moments run jobs
  | failed {run : Nat} {jobs : List (Job T)} {job : Job T} :
      queue.dequeueTenant (moments run) [] jobs = some job → job.id ∈ (moments run).fails →
      (∀ other ∈ jobs, queue.isReady (moments run) [] other → other.id = job.id) →
      LastToFail queue moments run jobs
  | done {run : Nat} {jobs : List (Job T)} {job : Job T} :
      queue.dequeueTenant (moments run) [] jobs = some job → job.id ∉ (moments run).fails →
      LastToFail queue moments (run + 1) (remove job jobs) → LastToFail queue moments run jobs

variable {queue : TenantQueue} {moments : Nat → Moment T} {moment : Moment T}

theorem mem_of_dequeueTenant {excludeIds : List Nat} {jobs : List (Job T)} {job : Job T}
    (hjob : queue.dequeueTenant moment excludeIds jobs = some job) :
    job ∈ jobs ∧ queue.isReady moment excludeIds job := by
  have hmem := List.mem_of_mem_head? (Option.mem_def.mpr hjob)
  rw [(List.perm_insertionSort _ _).mem_iff] at hmem
  exact List.mem_filter.mp hmem

theorem not_isReady_of_dequeueTenant_none {excludeIds : List Nat} {jobs : List (Job T)}
    (hnone : queue.dequeueTenant moment excludeIds jobs = none) :
    ∀ job ∈ jobs, ¬ queue.isReady moment excludeIds job := by
  intro job hjob hready
  have hempty := List.head?_eq_none_iff.mp hnone
  have hmem : job ∈ (jobs.filter (queue.isReady moment excludeIds)).insertionSort Job.before :=
    (List.perm_insertionSort _ _).mem_iff.mpr (List.mem_filter.mpr ⟨hjob, hready⟩)
  rw [hempty] at hmem
  cases hmem

omit [LinearOrder T] in
theorem mem_remove {job other : Job T} {jobs : List (Job T)} :
    other ∈ remove job jobs ↔ other ∈ jobs ∧ other.id ≠ job.id := by
  simp [remove]

omit [LinearOrder T] in
theorem length_remove_lt {job : Job T} {jobs : List (Job T)} (hjob : job ∈ jobs) :
    (remove job jobs).length < jobs.length :=
  List.length_filter_lt_length_iff_exists.mpr ⟨job, hjob, by simp⟩

theorem tryRun_idle {state : SweepState T}
    (hnone : queue.dequeueTenant (moments state.runs) state.failedIds state.jobs = none) :
    tryRun queue moments state = (none, { state with runs := state.runs + 1 }) := by
  simp [tryRun, TenantQueue.runOnce, hnone]

theorem tryRun_done {state : SweepState T} {job : Job T}
    (hjob : queue.dequeueTenant (moments state.runs) state.failedIds state.jobs = some job)
    (hrun : job.id ∉ (moments state.runs).fails) :
    tryRun queue moments state =
      (some job, ⟨remove job state.jobs, state.failedIds, state.attempted ++ [job.id],
        state.runs + 1⟩) := by
  simp [tryRun, TenantQueue.runOnce, hjob, hrun]

theorem tryRun_failed {state : SweepState T} {job : Job T}
    (hjob : queue.dequeueTenant (moments state.runs) state.failedIds state.jobs = some job)
    (hfails : job.id ∈ (moments state.runs).fails) :
    tryRun queue moments state =
      (none, ⟨if queue.atMostOnce then remove job state.jobs else state.jobs,
        job.id :: state.failedIds, state.attempted ++ [job.id], state.runs + 1⟩) := by
  simp [tryRun, TenantQueue.runOnce, hjob, hfails]

/-- Every run but the last takes a job away. -/
theorem tryRunAll_terminates (queue : TenantQueue) (moments : Nat → Moment T) (runs : Nat)
    (state : SweepState T) (hlength : state.jobs.length ≤ runs) :
    ∃ last, tryRunAll queue moments (runs + 1) state = some last := by
  induction runs generalizing state with
  | zero =>
      have hnone : queue.dequeueTenant (moments state.runs) state.failedIds state.jobs = none := by
        rw [List.length_eq_zero_iff.mp (Nat.le_zero.mp hlength)]
        rfl
      exact ⟨_, by rw [tryRunAll, tryRun_idle hnone]⟩
  | succ runs ih =>
      cases hnext : queue.dequeueTenant (moments state.runs) state.failedIds state.jobs with
      | none => exact ⟨_, by rw [tryRunAll, tryRun_idle hnext]⟩
      | some job =>
          by_cases hfails : job.id ∈ (moments state.runs).fails
          · exact ⟨_, by rw [tryRunAll, tryRun_failed hnext hfails]⟩
          · have hshorter := length_remove_lt (mem_of_dequeueTenant hnext).1
            obtain ⟨last, hlast⟩ := ih
              ⟨remove job state.jobs, state.failedIds, state.attempted ++ [job.id],
                state.runs + 1⟩ (by dsimp only; omega)
            exact ⟨last, by rw [tryRunAll, tryRun_done hnext hfails]; exact hlast⟩

/-- What holds before every run: the jobs that are left are those that were not attempted,
and none has failed, as a failure ends the sweep. -/
structure Sweeping (table : JobTable T) (state : SweepState T) : Prop where
  mem_jobs : ∀ job, job ∈ state.jobs ↔ job ∈ table.jobs ∧ job.id ∉ state.attempted
  attempted_nodup : state.attempted.Nodup
  failedIds_nil : state.failedIds = []

omit [LinearOrder T] in
theorem sweeping_start (table : JobTable T) : Sweeping table (.start table.jobs) :=
  ⟨by simp [SweepState.start], List.nodup_nil, rfl⟩

omit [LinearOrder T] in
theorem Sweeping.nodup_append {table : JobTable T} {state : SweepState T} {job : Job T}
    (hstate : Sweeping table state) (hjob : job ∈ state.jobs) :
    (state.attempted ++ [job.id]).Nodup :=
  List.nodup_append.mpr ⟨hstate.attempted_nodup, List.nodup_singleton _, by
    intro id hid other hother heq
    rw [List.mem_singleton.mp hother] at heq
    exact ((hstate.mem_jobs job).mp hjob).2 (heq ▸ hid)⟩

omit [LinearOrder T] in
theorem Sweeping.done {table : JobTable T} {state : SweepState T} {job : Job T}
    (hstate : Sweeping table state) (hjob : job ∈ state.jobs) :
    Sweeping table ⟨remove job state.jobs, state.failedIds, state.attempted ++ [job.id],
      state.runs + 1⟩ where
  mem_jobs := by
    intro other
    rw [mem_remove, hstate.mem_jobs]
    simp [and_assoc]
  attempted_nodup := hstate.nodup_append hjob
  failedIds_nil := hstate.failedIds_nil

theorem Sweeping.attempted_once {table : JobTable T} (runs : Nat) {state last : SweepState T}
    (hstate : Sweeping table state) (hlast : tryRunAll queue moments runs state = some last) :
    last.attempted.Nodup := by
  induction runs generalizing state with
  | zero => cases hlast
  | succ runs ih =>
      cases hnext : queue.dequeueTenant (moments state.runs) state.failedIds state.jobs with
      | none =>
          rw [tryRunAll, tryRun_idle hnext, Option.some.injEq] at hlast
          rw [← hlast]
          exact hstate.attempted_nodup
      | some job =>
          have hjob := (mem_of_dequeueTenant hnext).1
          by_cases hfails : job.id ∈ (moments state.runs).fails
          · rw [tryRunAll, tryRun_failed hnext hfails, Option.some.injEq] at hlast
            rw [← hlast]
            exact hstate.nodup_append hjob
          · rw [tryRunAll, tryRun_done hnext hfails] at hlast
            exact ih (hstate.done hjob) hlast

theorem Sweeping.lastToFail {table : JobTable T} (runs : Nat) {state last : SweepState T}
    (hstate : Sweeping table state) (hlast : tryRunAll queue moments runs state = some last)
    (hready : AttemptsReady queue moments table last) :
    LastToFail queue moments state.runs state.jobs := by
  induction runs generalizing state with
  | zero => cases hlast
  | succ runs ih =>
      cases hnext : queue.dequeueTenant (moments state.runs) state.failedIds state.jobs with
      | none => exact .idle (hstate.failedIds_nil ▸ hnext)
      | some job =>
          have hjob := (mem_of_dequeueTenant hnext).1
          by_cases hfails : job.id ∈ (moments state.runs).fails
          · rw [tryRunAll, tryRun_failed hnext hfails, Option.some.injEq] at hlast
            refine .failed (hstate.failedIds_nil ▸ hnext) hfails ?_
            intro other hother hotherReady
            obtain ⟨htable, hnew⟩ := (hstate.mem_jobs other).mp hother
            have hattempted : other.id ∈ state.attempted ++ [job.id] := by
              rw [← hlast] at hready
              exact hready other htable hotherReady
            simpa [hnew] using hattempted
          · rw [tryRunAll, tryRun_done hnext hfails] at hlast
            exact .done (hstate.failedIds_nil ▸ hnext) hfails (ih (hstate.done hjob) hlast)

theorem Sweeping.attemptsReady {table : JobTable T} (runs : Nat) {state last : SweepState T}
    (hstate : Sweeping table state) (hlast : tryRunAll queue moments runs state = some last)
    (hfail : LastToFail queue moments state.runs state.jobs) :
    AttemptsReady queue moments table last := by
  induction runs generalizing state with
  | zero => cases hlast
  | succ runs ih =>
      have hnil := hstate.failedIds_nil
      -- What is in the table is still to be run, or was attempted.
      have hleft : ∀ job ∈ table.jobs, job.id ∉ state.attempted → job ∈ state.jobs :=
        fun job hjob hnew => (hstate.mem_jobs job).mpr ⟨hjob, hnew⟩
      cases hfail with
      | idle hnext =>
          rw [tryRunAll, tryRun_idle (hnil.symm ▸ hnext), Option.some.injEq] at hlast
          intro job hjob hready
          rw [← hlast] at hready ⊢
          by_contra hnew
          exact not_isReady_of_dequeueTenant_none hnext job (hleft job hjob hnew) hready
      | failed hnext hfails honly =>
          rw [tryRunAll, tryRun_failed (hnil.symm ▸ hnext) hfails, Option.some.injEq] at hlast
          intro job hjob hready
          rw [← hlast] at hready ⊢
          by_cases hnew : job.id ∈ state.attempted
          · exact List.mem_append_left _ hnew
          · rw [honly job (hleft job hjob hnew) hready]
            exact List.mem_append_right _ (List.mem_singleton_self _)
      | done hnext hruns hrest =>
          rw [tryRunAll, tryRun_done (hnil.symm ▸ hnext) hruns] at hlast
          exact ih (hstate.done (mem_of_dequeueTenant hnext).1) hlast hrest

/-- A sweep does its work exactly when no job fails while another one is ready. -/
theorem sweepsAll_iff (queue : TenantQueue) (moments : Nat → Moment T) (table : JobTable T) :
    SweepsAll queue moments table ↔ LastToFail queue moments 0 table.jobs := by
  have hstart := sweeping_start table
  obtain ⟨last, hlast⟩ := tryRunAll_terminates queue moments table.jobs.length
    (.start table.jobs) le_rfl
  constructor
  · intro hsweeps
    exact hstart.lastToFail _ hlast (hsweeps.attempts_ready _ last hlast)
  · intro hfail
    exact
      { terminates := ⟨_, last, hlast⟩
        attempts_ready := fun runs last hlast => hstart.attemptsReady runs hlast hfail
        attempts_once := fun runs last hlast => hstart.attempted_once runs hlast }

/-- Where nothing fails, every job that is ready gets its turn. -/
theorem lastToFail_of_fails_nil (hfails : ∀ run, (moments run).fails = [])
    (count run : Nat) (jobs : List (Job T)) (hlength : jobs.length ≤ count) :
    LastToFail queue moments run jobs := by
  induction count generalizing run jobs with
  | zero =>
      rw [List.length_eq_zero_iff.mp (Nat.le_zero.mp hlength)]
      exact .idle rfl
  | succ count ih =>
      cases hnext : queue.dequeueTenant (moments run) [] jobs with
      | none => exact .idle hnext
      | some job =>
          have hshorter := length_remove_lt (mem_of_dequeueTenant hnext).1
          exact .done hnext (by simp [hfails]) (ih (run + 1) _ (by omega))

end Queue

namespace SweepWitness

def tenant : Uuid := "acme"

def events : TenantQueue := ⟨"events", tenant, ["deliver"], false⟩

def broken : Job Nat := ⟨1, 0, 0, 0, "events", "deliver", tenant⟩

def healthy : Job Nat := ⟨2, 1, 0, 0, "events", "deliver", tenant⟩

def table : JobTable Nat := ⟨[broken, healthy], by decide⟩

/-- The older of two jobs always fails, and the sweep leaves the other one waiting. -/
theorem failure_keeps_others :
    ¬ SweepsAll events (fun _ => ⟨5, [], [1]⟩) table ∧
      tryRunAll events (fun _ => ⟨5, [], [1]⟩) 3 (.start table.jobs) =
        some ⟨[broken, healthy], [1], [1], 1⟩ := by
  have hrun : tryRunAll events (fun _ => ⟨5, [], [1]⟩) 3 (.start table.jobs) =
      some ⟨[broken, healthy], [1], [1], 1⟩ := by rfl
  refine ⟨fun hsweeps => ?_, hrun⟩
  have hmem := hsweeps.attempts_ready 3 _ hrun healthy (by simp [table]) (by decide)
  revert hmem
  decide

end SweepWitness

end JobSweep

end NFCompose
