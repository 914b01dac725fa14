/-
The job queue under any number of workers, which run side by side, fail and die: what
the two kinds of delivery promise.
-/
import NFCompose.JobSweep
import NFCompose.KeyedTable
import NFCompose.Runs

namespace NFCompose

namespace JobWorkers

open JobSweep Runs

/-- A row of `_core_tenant_pgq_job`. -/
structure Row (T : Type) where
  job : Job T
  globallyUniqueIdentifier : Option String

/-- A worker in `try_run_all`, and the job it is running. -/
structure Sweep (T : Type) where
  queue : TenantQueue
  running : Option (Job T)

/-- A job that a worker has begun, and whether its row was gone for good by then. -/
structure Start (T : Type) where
  job : Job T
  atMostOnce : Bool

/-- The table as the other transactions see it, the workers that sweep, and a record of
what they did, latest first. -/
structure WorkersState (T : Type) where
  rows : List (Row T)
  nextId : Nat
  workers : AList fun _ : Nat => Sweep T
  started : List (Start T)
  finished : List Nat
  clock : T

def WorkersState.empty {T : Type} (clock : T) : WorkersState T := ⟨[], 0, ∅, [], [], clock⟩

/-- What the workers do, in whatever order.  A worker that dies takes its transaction with
it. -/
inductive WorkerAction (T : Type) where
  | enqueue (queue : TenantQueue) (heartbeat : Bool) (task : String) (executeAt : Option T)
      (priority : Option Int) (now : T)
  | tryRunAll (worker : Nat) (queue : TenantQueue)
  | dequeueTenant (worker : Nat) (now : T)
  | returns (worker : Nat)
  | raises (worker : Nat)
  | dies (worker : Nat)

section Queue

variable {T : Type}

/-- `task_globally_unique_identifier`, which only a heartbeat has. -/
def taskIdentifier (queue : TenantQueue) (heartbeat : Bool) (task : String) : Option String :=
  if heartbeat then some (queue.queue ++ "_" ++ task) else none

/-- `_should_enqueue`. -/
def shouldEnqueue (queue : TenantQueue) (identifier : Option String) (rows : List (Row T)) : Bool :=
  identifier.isNone || !rows.any fun row =>
    decide (row.globallyUniqueIdentifier = identifier) && decide (row.job.tenant = queue.tenant)

/-- The `UNIQUE` of the column, where `NULL` equals nothing. -/
def violatesUnique (identifier : Option String) (rows : List (Row T)) : Bool :=
  identifier.isSome && rows.any fun row => row.globallyUniqueIdentifier = identifier

def newJob (queue : TenantQueue) (task : String) (executeAt : Option T) (priority : Option Int)
    (now : T) (id : Nat) : Job T where
  id := id
  createdAt := now
  executeAt := executeAt.getD now
  priority := priority.getD 0
  queue := queue.queue
  task := task
  tenant := queue.tenant

/-- `enqueue`.  An insert that meets the row of a transaction in progress waits for its
end, and is the step taken then. -/
def enqueue (queue : TenantQueue) (heartbeat : Bool) (task : String) (executeAt : Option T)
    (priority : Option Int) (now : T) (state : WorkersState T) : WorkersState T :=
  if task ∈ queue.tasks && shouldEnqueue queue (taskIdentifier queue heartbeat task) state.rows &&
      !violatesUnique (taskIdentifier queue heartbeat task) state.rows then
    { state with
      rows := state.rows ++ [⟨newJob queue task executeAt priority now state.nextId,
        taskIdentifier queue heartbeat task⟩]
      nextId := state.nextId + 1
      clock := now }
  else { state with clock := now }

/-- At least once, the row of a job in progress is deleted and not yet committed. -/
def Sweep.lockedId (sweep : Sweep T) : Option Nat :=
  if sweep.queue.atMostOnce then none else sweep.running.map Job.id

def WorkersState.locked (state : WorkersState T) : List Nat :=
  state.workers.entries.filterMap fun entry => entry.2.lockedId

def deleteRow (id : Nat) (rows : List (Row T)) : List (Row T) :=
  rows.filter fun row => row.job.id ≠ id

/-- Up to `run_job`.  No id is ever excluded here, as a failure ends the sweep. -/
def dequeueStep [LinearOrder T] (worker : Nat) (now : T) (state : WorkersState T) :
    WorkersState T :=
  match state.workers.lookup worker with
  | some ⟨queue, none⟩ =>
      match queue.dequeueTenant ⟨now, state.locked, []⟩ [] (state.rows.map Row.job) with
      | none => { state with workers := state.workers.erase worker, clock := now }
      | some job =>
          { state with
            rows := if queue.atMostOnce then deleteRow job.id state.rows else state.rows
            workers := state.workers.insert worker ⟨queue, some job⟩
            started := ⟨job, queue.atMostOnce⟩ :: state.started
            clock := now }
  | _ => state

/-- The task returns, at least once the transaction commits, and the sweep goes on. -/
def returnStep (worker : Nat) (state : WorkersState T) : WorkersState T :=
  match state.workers.lookup worker with
  | some ⟨queue, some job⟩ =>
      { state with
        rows := if queue.atMostOnce then state.rows else deleteRow job.id state.rows
        workers := state.workers.insert worker ⟨queue, none⟩
        finished := job.id :: state.finished }
  | _ => state

def workerStep [LinearOrder T] (state : WorkersState T) : WorkerAction T → WorkersState T
  | .enqueue queue heartbeat task executeAt priority now =>
      enqueue queue heartbeat task executeAt priority now state
  | .tryRunAll worker queue =>
      match state.workers.lookup worker with
      | none => { state with workers := state.workers.insert worker ⟨queue, none⟩ }
      | some _ => state
  | .dequeueTenant worker now => dequeueStep worker now state
  | .returns worker => returnStep worker state
  | .raises worker =>
      match state.workers.lookup worker with
      -- The transaction rolls back, where there is one, and the sweep is over.
      | some ⟨_, some _⟩ => { state with workers := state.workers.erase worker }
      | _ => state
  | .dies worker => { state with workers := state.workers.erase worker }

/-- How the runs of a job were started, latest first. -/
def starts (started : List (Start T)) (id : Nat) : List Bool :=
  (started.filter fun start => start.job.id = id).map Start.atMostOnce

/-- The jobs that a queue is for. -/
structure Belongs (queue : TenantQueue) (job : Job T) : Prop where
  queue_eq : job.queue = queue.queue
  tenant_eq : job.tenant = queue.tenant
  task_mem : job.task ∈ queue.tasks

/-- What the queue promises for the jobs with the ids it has given out. -/
structure Delivers (state : WorkersState T) : Prop where
  own_jobs : ∀ worker sweep job, state.workers.lookup worker = some sweep →
    sweep.running = some job → Belongs sweep.queue job
  one_worker : ∀ first second sweep other job otherJob,
    state.workers.lookup first = some sweep → sweep.running = some job →
    state.workers.lookup second = some other → other.running = some otherJob →
    job.id = otherJob.id → first = second
  /-- After a start that took the row away there is no other. -/
  at_most_once : ∀ id, ∀ atMostOnce ∈ (starts state.started id).tail, atMostOnce = false
  /-- A job that only such queues took that run it at least once is still queued, or done,
  and never both. -/
  at_least_once : ∀ id < state.nextId, true ∉ starts state.started id →
    ((∃ row ∈ state.rows, row.job.id = id) ↔ id ∉ state.finished)
  finished_once : state.finished.Nodup
  finished_started : ∀ id ∈ state.finished, starts state.started id ≠ []
  one_heartbeat : (state.rows.filterMap Row.globallyUniqueIdentifier).Nodup

/-- The record and the table.  What has a row is neither done nor gone for good. -/
structure LedgerInv (state : WorkersState T) : Prop where
  ids_nodup : (state.rows.map fun row => row.job.id).Nodup
  rows_old : ∀ row ∈ state.rows, row.job.id < state.nextId
  starts_old : ∀ id, starts state.started id ≠ [] → id < state.nextId
  rows_open : ∀ row ∈ state.rows,
    row.job.id ∉ state.finished ∧ true ∉ starts state.started row.job.id
  kept : ∀ id < state.nextId,
    (∃ row ∈ state.rows, row.job.id = id) ∨ id ∈ state.finished ∨ true ∈ starts state.started id
  last_start : ∀ id, ∀ atMostOnce ∈ (starts state.started id).tail, atMostOnce = false
  finished_nodup : state.finished.Nodup
  finished_started : ∀ id ∈ state.finished, starts state.started id ≠ []
  identifiers_nodup : (state.rows.filterMap Row.globallyUniqueIdentifier).Nodup

/-- A job in the hands of a worker. -/
structure Held (state : WorkersState T) (queue : TenantQueue) (job : Job T) : Prop where
  belongs : Belongs queue job
  started : queue.atMostOnce ∈ starts state.started job.id
  unfinished : job.id ∉ state.finished
  row : queue.atMostOnce = false → ∃ row ∈ state.rows, row.job.id = job.id

structure WorkersInv (state : WorkersState T) : Prop where
  held : ∀ worker queue job, state.workers.lookup worker = some ⟨queue, some job⟩ →
    Held state queue job
  exclusive : ∀ first second queue other job otherJob,
    state.workers.lookup first = some ⟨queue, some job⟩ →
    state.workers.lookup second = some ⟨other, some otherJob⟩ →
    job.id = otherJob.id → first = second

variable {state : WorkersState T} {worker : Nat} {queue : TenantQueue} {job : Job T}

theorem starts_cons (start : Start T) (started : List (Start T)) (id : Nat) :
    starts (start :: started) id =
      if start.job.id = id then start.atMostOnce :: starts started id else starts started id := by
  by_cases hid : start.job.id = id <;> simp [starts, hid]

theorem mem_deleteRow {id : Nat} {rows : List (Row T)} {row : Row T} :
    row ∈ deleteRow id rows ↔ row ∈ rows ∧ row.job.id ≠ id := by
  simp [deleteRow]

theorem mem_locked {id : Nat} :
    id ∈ state.locked ↔ ∃ worker queue job, state.workers.lookup worker = some ⟨queue, some job⟩ ∧
      queue.atMostOnce = false ∧ job.id = id := by
  simp only [WorkersState.locked, List.mem_filterMap, Sweep.lockedId]
  constructor
  · rintro ⟨⟨worker, ⟨queue, running⟩⟩, hmem, hlocked⟩
    have hlookup := KeyedTable.mem_entries_iff.mp hmem
    cases hkind : queue.atMostOnce with
    | true => simp [hkind] at hlocked
    | false =>
        obtain ⟨job, rfl, hid⟩ : ∃ job, running = some job ∧ job.id = id := by
          simpa [hkind] using hlocked
        exact ⟨worker, queue, job, hlookup, hkind, hid⟩
  · rintro ⟨worker, queue, job, hlookup, hkind, hid⟩
    exact ⟨⟨worker, ⟨queue, some job⟩⟩, KeyedTable.mem_entries_iff.mpr hlookup,
      by simp [hkind, hid]⟩

theorem map_deleteRow_sublist (id : Nat) (rows : List (Row T)) :
    List.Sublist ((deleteRow id rows).map fun row => row.job.id)
      (rows.map fun row => row.job.id) :=
  List.filter_sublist.map _

/-- What is begun or done takes at most its own row away. -/
theorem LedgerInv.deleteRow (hledger : LedgerInv state) (id : Nat) :
    ((deleteRow id state.rows).map fun row => row.job.id).Nodup ∧
      ((JobWorkers.deleteRow id state.rows).filterMap Row.globallyUniqueIdentifier).Nodup :=
  ⟨hledger.ids_nodup.sublist (map_deleteRow_sublist id state.rows),
    hledger.identifiers_nodup.sublist (List.filter_sublist.filterMap _)⟩

theorem deleteRow_of_forall {id : Nat} {rows : List (Row T)}
    (hrows : ∀ row ∈ rows, row.job.id ≠ id) : deleteRow id rows = rows :=
  List.filter_eq_self.mpr fun row hrow => by simpa using hrows row hrow

/-- The ways an enqueue can end. -/
theorem enqueue_cases (queue : TenantQueue) (heartbeat : Bool) (task : String)
    (executeAt : Option T) (priority : Option Int) (now : T) (state : WorkersState T) :
    (enqueue queue heartbeat task executeAt priority now state = { state with clock := now } ∧
      (task ∈ queue.tasks → heartbeat = true → ∃ row ∈ state.rows,
        row.globallyUniqueIdentifier = taskIdentifier queue heartbeat task)) ∨
    ((∀ row ∈ state.rows, (taskIdentifier queue heartbeat task).isSome →
        row.globallyUniqueIdentifier ≠ taskIdentifier queue heartbeat task) ∧
      enqueue queue heartbeat task executeAt priority now state =
        { state with
          rows := state.rows ++ [⟨newJob queue task executeAt priority now state.nextId,
            taskIdentifier queue heartbeat task⟩]
          nextId := state.nextId + 1
          clock := now }) := by
  generalize hidentifier : taskIdentifier queue heartbeat task = identifier
  rw [JobWorkers.enqueue, hidentifier]
  split
  · next hcond =>
      refine .inr ⟨fun row hrow hsome heq => ?_, rfl⟩
      rw [Bool.and_eq_true, Bool.not_eq_true'] at hcond
      have hunique := hcond.2
      rw [violatesUnique, hsome, Bool.true_and, List.any_eq_false] at hunique
      exact hunique row hrow (by simpa using heq)
  · next hcond =>
      refine .inl ⟨rfl, fun htask hheartbeat => ?_⟩
      by_contra hnone
      have hfree : ∀ row ∈ state.rows, row.globallyUniqueIdentifier ≠ identifier :=
        fun row hrow heq => hnone ⟨row, hrow, heq⟩
      refine hcond ?_
      simp only [Bool.and_eq_true, Bool.not_eq_true', decide_eq_true_iff]
      refine ⟨⟨htask, ?_⟩, ?_⟩
      · simp only [shouldEnqueue, Bool.or_eq_true, Bool.not_eq_true', List.any_eq_false]
        exact .inr fun row hrow => by simp [hfree row hrow]
      · simp only [violatesUnique, Bool.and_eq_false_iff, List.any_eq_false]
        exact .inr fun row hrow => by simp [hfree row hrow]

theorem LedgerInv.clock (hledger : LedgerInv state) (now : T)
    (workers : AList fun _ : Nat => Sweep T) :
    LedgerInv { state with workers := workers, clock := now } :=
  { hledger with }

theorem LedgerInv.enqueue (hledger : LedgerInv state) {identifier : Option String}
    (hidentifier : ∀ row ∈ state.rows, identifier.isSome →
      row.globallyUniqueIdentifier ≠ identifier)
    {job : Job T} (hjob : job.id = state.nextId) (now : T) :
    LedgerInv { state with
      rows := state.rows ++ [⟨job, identifier⟩], nextId := state.nextId + 1, clock := now } where
  ids_nodup := by
    rw [List.map_append]
    refine List.nodup_append.mpr ⟨hledger.ids_nodup, List.nodup_singleton _, ?_⟩
    intro id hid other hother heq
    obtain ⟨row, hrow, rfl⟩ := List.mem_map.mp hid
    have hold := hledger.rows_old row hrow
    have hnew : other = job.id := List.mem_singleton.mp hother
    rw [heq, hnew, hjob] at hold
    exact Nat.lt_irrefl _ hold
  rows_old row hrow := by
    rcases List.mem_append.mp hrow with hrow | hnew
    · exact Nat.lt_succ_of_lt (hledger.rows_old row hrow)
    · rw [List.mem_singleton.mp hnew, hjob]
      exact Nat.lt_succ_self _
  starts_old id hid := Nat.lt_succ_of_lt (hledger.starts_old id hid)
  rows_open row hrow := by
    rcases List.mem_append.mp hrow with hrow | hnew
    · exact hledger.rows_open row hrow
    · -- No run was started under an id that was not given out.
      have hnone : starts state.started state.nextId = [] := by
        by_contra hstarted
        exact Nat.lt_irrefl _ (hledger.starts_old _ hstarted)
      rw [List.mem_singleton.mp hnew, hjob]
      refine ⟨fun hfinished => hledger.finished_started _ hfinished hnone, ?_⟩
      rw [hnone]
      exact List.not_mem_nil
  kept id hid := by
    rcases Nat.lt_succ_iff_lt_or_eq.mp hid with hold | rfl
    · refine (hledger.kept id hold).imp_left ?_
      rintro ⟨row, hrow, hrowId⟩
      exact ⟨row, List.mem_append_left _ hrow, hrowId⟩
    · exact .inl ⟨_, List.mem_append_right _ (List.mem_singleton_self _), hjob⟩
  last_start := hledger.last_start
  finished_nodup := hledger.finished_nodup
  finished_started := hledger.finished_started
  identifiers_nodup := by
    rw [List.filterMap_append]
    refine List.nodup_append.mpr ⟨hledger.identifiers_nodup, ?_, ?_⟩
    · cases identifier <;> simp
    · intro old hold new hnew heq
      obtain ⟨row, hrow, hrowIdentifier⟩ := List.mem_filterMap.mp hold
      have hnewIdentifier : identifier = some new := by simpa using hnew
      refine hidentifier row hrow (by simp [hnewIdentifier]) ?_
      rw [hrowIdentifier, hnewIdentifier, heq]

theorem mem_of_mem_begin {atMostOnce : Bool} {id : Nat} {rows : List (Row T)} {row : Row T}
    (hrow : row ∈ if atMostOnce then deleteRow id rows else rows) : row ∈ rows := by
  cases atMostOnce
  · exact hrow
  · exact (mem_deleteRow.mp hrow).1

/-- A job is begun, and leaves the table if it is to run at most once. -/
theorem LedgerInv.begin (hledger : LedgerInv state) {row : Row T} (hrow : row ∈ state.rows)
    (atMostOnce : Bool) (workers : AList fun _ : Nat => Sweep T) (now : T) :
    LedgerInv { state with
      rows := if atMostOnce then JobWorkers.deleteRow row.job.id state.rows else state.rows
      workers := workers, started := ⟨row.job, atMostOnce⟩ :: state.started, clock := now } where
  ids_nodup := by
    cases atMostOnce
    · exact hledger.ids_nodup
    · exact (hledger.deleteRow row.job.id).1
  rows_old other hother := hledger.rows_old other (mem_of_mem_begin hother)
  starts_old id hid := by
    rw [starts_cons] at hid
    split at hid
    · next hsame => exact hsame ▸ hledger.rows_old row hrow
    · exact hledger.starts_old id hid
  rows_open other hother := by
    obtain ⟨hunfinished, hopen⟩ := hledger.rows_open other (mem_of_mem_begin hother)
    refine ⟨hunfinished, ?_⟩
    rw [starts_cons]
    split
    · next hsame =>
        -- The row is still there, so it was not taken for good.
        cases atMostOnce with
        | true => exact absurd hsame.symm (mem_deleteRow.mp hother).2
        | false => simpa using hopen
    · exact hopen
  kept id hid := by
    rw [starts_cons]
    rcases hledger.kept id hid with ⟨other, hother, hotherId⟩ | hfinished | htaken
    · by_cases hsame : row.job.id = id
      · cases atMostOnce with
        | true => exact .inr (.inr (by simp [hsame]))
        | false => exact .inl ⟨other, hother, hotherId⟩
      · refine .inl ⟨other, ?_, hotherId⟩
        have hne : other.job.id ≠ row.job.id := fun heq => hsame (heq.symm.trans hotherId)
        cases atMostOnce with
        | true => exact mem_deleteRow.mpr ⟨hother, hne⟩
        | false => exact hother
    · exact .inr (.inl hfinished)
    · refine .inr (.inr ?_)
      split
      · exact List.mem_cons_of_mem _ htaken
      · exact htaken
  last_start id atMost hatMost := by
    rw [starts_cons] at hatMost
    split at hatMost
    · next hsame =>
        have hopen := (hledger.rows_open row hrow).2
        rw [hsame] at hopen
        exact Bool.eq_false_iff.mpr fun htrue => hopen (htrue ▸ hatMost)
    · exact hledger.last_start id atMost hatMost
  finished_nodup := hledger.finished_nodup
  finished_started id hid := by
    rw [starts_cons]
    split
    · exact List.cons_ne_nil _ _
    · exact hledger.finished_started id hid
  identifiers_nodup := by
    cases atMostOnce
    · exact hledger.identifiers_nodup
    · exact (hledger.deleteRow row.job.id).2

/-- A job that was begun is done, and has no row any more. -/
theorem LedgerInv.finish (hledger : LedgerInv state) {id : Nat}
    (hstarted : starts state.started id ≠ []) (hunfinished : id ∉ state.finished)
    (workers : AList fun _ : Nat => Sweep T) :
    LedgerInv { state with
      rows := JobWorkers.deleteRow id state.rows, workers := workers
      finished := id :: state.finished } where
  ids_nodup := (hledger.deleteRow id).1
  rows_old row hrow := hledger.rows_old row (mem_deleteRow.mp hrow).1
  starts_old := hledger.starts_old
  rows_open row hrow := by
    obtain ⟨hmem, hne⟩ := mem_deleteRow.mp hrow
    obtain ⟨hopen, hstarts⟩ := hledger.rows_open row hmem
    exact ⟨fun hfinished => (List.mem_cons.mp hfinished).elim hne hopen, hstarts⟩
  kept other hother := by
    by_cases hsame : other = id
    · exact .inr (.inl (hsame ▸ List.mem_cons_self))
    · rcases hledger.kept other hother with ⟨row, hrow, hrowId⟩ | hfinished | htaken
      · exact .inl ⟨row, mem_deleteRow.mpr ⟨hrow, fun heq => hsame (hrowId.symm.trans heq)⟩,
          hrowId⟩
      · exact .inr (.inl (List.mem_cons_of_mem _ hfinished))
      · exact .inr (.inr htaken)
  last_start := hledger.last_start
  finished_nodup := List.nodup_cons.mpr ⟨hunfinished, hledger.finished_nodup⟩
  finished_started other hother := by
    rcases List.mem_cons.mp hother with rfl | hother
    · exact hstarted
    · exact hledger.finished_started other hother
  identifiers_nodup := (hledger.deleteRow id).2

/-- Workers that hold nothing new keep what they hold while its rows stay. -/
theorem WorkersInv.keep (hworkers : WorkersInv state) {next : WorkersState T}
    (hlookup : ∀ worker queue job, next.workers.lookup worker = some ⟨queue, some job⟩ →
      state.workers.lookup worker = some ⟨queue, some job⟩)
    (hstarted : next.started = state.started) (hfinished : next.finished = state.finished)
    (hrows : ∀ row ∈ state.rows, row ∈ next.rows) : WorkersInv next where
  held worker queue job hjob := by
    obtain ⟨hbelongs, hstart, hunfinished, hrow⟩ :=
      hworkers.held worker queue job (hlookup _ _ _ hjob)
    refine ⟨hbelongs, hstarted.symm ▸ hstart, hfinished.symm ▸ hunfinished, fun hkind => ?_⟩
    obtain ⟨row, hmem, hid⟩ := hrow hkind
    exact ⟨row, hrows row hmem, hid⟩
  exclusive first second queue other job otherJob hfirst hsecond :=
    hworkers.exclusive first second queue other job otherJob (hlookup _ _ _ hfirst)
      (hlookup _ _ _ hsecond)

theorem lookup_of_erase {worker other : Nat} {sweep : Sweep T}
    {workers : AList fun _ : Nat => Sweep T}
    (hlookup : (workers.erase worker).lookup other = some sweep) :
    workers.lookup other = some sweep := by
  by_cases hsame : other = worker
  · rw [hsame, AList.lookup_erase] at hlookup
    cases hlookup
  · rwa [AList.lookup_erase_ne hsame] at hlookup

/-- A worker that takes no job does not hold one. -/
theorem lookup_of_insert_idle {worker other : Nat} {queue otherQueue : TenantQueue} {job : Job T}
    {workers : AList fun _ : Nat => Sweep T}
    (hlookup : (workers.insert worker ⟨queue, none⟩).lookup other = some ⟨otherQueue, some job⟩) :
    other ≠ worker ∧ workers.lookup other = some ⟨otherQueue, some job⟩ := by
  by_cases hsame : other = worker
  · rw [hsame, AList.lookup_insert] at hlookup
    cases hlookup
  · exact ⟨hsame, by rwa [AList.lookup_insert_ne hsame] at hlookup⟩

/-- Nobody holds a job that the table hands out. -/
theorem WorkersInv.unheld (hworkers : WorkersInv state) (hledger : LedgerInv state)
    {row : Row T} (hrow : row ∈ state.rows) (hunlocked : row.job.id ∉ state.locked)
    (hlookup : state.workers.lookup worker = some ⟨queue, some job⟩) : job.id ≠ row.job.id := by
  intro hsame
  cases hkind : queue.atMostOnce with
  | true =>
      have hstarted := (hworkers.held worker queue job hlookup).started
      rw [hkind, hsame] at hstarted
      exact (hledger.rows_open row hrow).2 hstarted
  | false => exact hunlocked (mem_locked.mpr ⟨worker, queue, job, hlookup, hkind, hsame⟩)

theorem WorkersInv.begin (hworkers : WorkersInv state) (hledger : LedgerInv state)
    {row : Row T} (hrow : row ∈ state.rows) (hunlocked : row.job.id ∉ state.locked)
    (worker : Nat) (hbelongs : Belongs queue row.job) (now : T) :
    WorkersInv { state with
      rows := if queue.atMostOnce then JobWorkers.deleteRow row.job.id state.rows else state.rows
      workers := state.workers.insert worker ⟨queue, some row.job⟩
      started := ⟨row.job, queue.atMostOnce⟩ :: state.started, clock := now } where
  held other otherQueue job hlookup := by
    dsimp only at hlookup
    by_cases hsame : other = worker
    · rw [hsame, AList.lookup_insert, Option.some.injEq, Sweep.mk.injEq, Option.some.injEq]
        at hlookup
      obtain ⟨rfl, rfl⟩ := hlookup
      refine ⟨hbelongs, ?_, (hledger.rows_open row hrow).1, fun hkind => ?_⟩
      · simp [starts_cons]
      · exact ⟨row, by simpa [hkind] using hrow, rfl⟩
    · rw [AList.lookup_insert_ne hsame] at hlookup
      have hne := hworkers.unheld hledger hrow hunlocked hlookup
      obtain ⟨hown, hstarted, hunfinished, hkept⟩ := hworkers.held other otherQueue job hlookup
      refine ⟨hown, ?_, hunfinished, fun hkind => ?_⟩
      · simpa [starts_cons, hne.symm] using hstarted
      · obtain ⟨kept, hmem, hid⟩ := hkept hkind
        refine ⟨kept, ?_, hid⟩
        cases queue.atMostOnce
        · exact hmem
        · exact mem_deleteRow.mpr ⟨hmem, hid ▸ hne⟩
  exclusive first second firstQueue secondQueue firstJob secondJob hfirst hsecond hid := by
    dsimp only at hfirst hsecond
    by_cases hfirstSame : first = worker <;> by_cases hsecondSame : second = worker
    · rw [hfirstSame, hsecondSame]
    · rw [hfirstSame, AList.lookup_insert, Option.some.injEq, Sweep.mk.injEq,
        Option.some.injEq] at hfirst
      rw [AList.lookup_insert_ne hsecondSame] at hsecond
      refine absurd ?_ (hworkers.unheld hledger hrow hunlocked hsecond)
      rw [← hid, ← hfirst.2]
    · rw [hsecondSame, AList.lookup_insert, Option.some.injEq, Sweep.mk.injEq,
        Option.some.injEq] at hsecond
      rw [AList.lookup_insert_ne hfirstSame] at hfirst
      refine absurd ?_ (hworkers.unheld hledger hrow hunlocked hfirst)
      rw [hid, ← hsecond.2]
    · rw [AList.lookup_insert_ne hfirstSame] at hfirst
      rw [AList.lookup_insert_ne hsecondSame] at hsecond
      exact hworkers.exclusive _ _ _ _ _ _ hfirst hsecond hid

theorem WorkersInv.finish (hworkers : WorkersInv state)
    (hlookup : state.workers.lookup worker = some ⟨queue, some job⟩) :
    WorkersInv { state with
      rows := JobWorkers.deleteRow job.id state.rows
      workers := state.workers.insert worker ⟨queue, none⟩
      finished := job.id :: state.finished } where
  held other otherQueue otherJob hother := by
    obtain ⟨hne, hother⟩ := lookup_of_insert_idle hother
    have hid : otherJob.id ≠ job.id :=
      fun heq => hne (hworkers.exclusive _ _ _ _ _ _ hother hlookup heq)
    obtain ⟨hown, hstarted, hunfinished, hkept⟩ :=
      hworkers.held other otherQueue otherJob hother
    refine ⟨hown, hstarted, fun hfinished => ?_, fun hkind => ?_⟩
    · exact (List.mem_cons.mp hfinished).elim hid hunfinished
    · obtain ⟨row, hmem, hrowId⟩ := hkept hkind
      exact ⟨row, mem_deleteRow.mpr ⟨hmem, hrowId ▸ hid⟩, hrowId⟩
  exclusive first second firstQueue secondQueue firstJob secondJob hfirst hsecond :=
    hworkers.exclusive first second firstQueue secondQueue firstJob secondJob
      (lookup_of_insert_idle hfirst).2 (lookup_of_insert_idle hsecond).2

structure QueueInv (state : WorkersState T) : Prop where
  ledger : LedgerInv state
  workers : WorkersInv state

theorem queueInv_empty (clock : T) : QueueInv (WorkersState.empty clock) where
  ledger := by
    constructor <;> simp [WorkersState.empty, starts]
  workers := by
    constructor <;> simp [WorkersState.empty]

theorem QueueInv.erase (hinv : QueueInv state) (worker : Nat) (now : T) :
    QueueInv { state with workers := state.workers.erase worker, clock := now } where
  ledger := hinv.ledger.clock _ _
  workers := hinv.workers.keep (fun _ _ _ => lookup_of_erase) rfl rfl fun _ => id

theorem QueueInv.enqueue (hinv : QueueInv state) (queue : TenantQueue) (heartbeat : Bool)
    (task : String) (executeAt : Option T) (priority : Option Int) (now : T) :
    QueueInv (enqueue queue heartbeat task executeAt priority now state) := by
  rcases enqueue_cases queue heartbeat task executeAt priority now state with
    ⟨heq, -⟩ | ⟨hfree, heq⟩
  · rw [heq]
    exact ⟨hinv.ledger.clock _ _, hinv.workers.keep (fun _ _ _ => id) rfl rfl fun _ => id⟩
  · rw [heq]
    exact ⟨hinv.ledger.enqueue hfree rfl _,
      hinv.workers.keep (fun _ _ _ => id) rfl rfl fun _ => List.mem_append_left _⟩

theorem QueueInv.returnStep (hinv : QueueInv state) (worker : Nat) :
    QueueInv (returnStep worker state) := by
  unfold JobWorkers.returnStep
  split
  · next queue job hlookup =>
      obtain ⟨-, hstarted, hunfinished, -⟩ := hinv.workers.held worker queue job hlookup
      -- What runs at most once has no row that could be deleted here.
      have hrows : (if queue.atMostOnce then state.rows else deleteRow job.id state.rows) =
          deleteRow job.id state.rows := by
        split
        · next hkind =>
            rw [hkind] at hstarted
            refine (deleteRow_of_forall fun row hrow hid => ?_).symm
            exact (hinv.ledger.rows_open row hrow).2 (hid ▸ hstarted)
        · rfl
      rw [hrows]
      exact ⟨hinv.ledger.finish (List.ne_nil_of_mem hstarted) hunfinished _,
        hinv.workers.finish hlookup⟩
  · exact hinv

variable [LinearOrder T]

/-- What `dequeue_tenant` hands out is the row of nobody. -/
theorem exists_row_of_dequeue {now : T}
    (hjob : queue.dequeueTenant ⟨now, state.locked, []⟩ [] (state.rows.map Row.job) = some job) :
    ∃ row ∈ state.rows, row.job = job ∧ job.id ∉ state.locked ∧ Belongs queue job := by
  obtain ⟨hmem, hready⟩ := mem_of_dequeueTenant hjob
  obtain ⟨row, hrow, hrowJob⟩ := List.mem_map.mp hmem
  simp only [TenantQueue.isReady, Bool.and_eq_true, decide_eq_true_iff] at hready
  obtain ⟨⟨⟨⟨-, hqueue⟩, htenant⟩, htask⟩, hunlocked⟩ := hready
  exact ⟨row, hrow, hrowJob, hunlocked, hqueue, htenant, htask⟩

/-- The ways a `dequeue_tenant` can end. -/
theorem dequeueStep_cases (worker : Nat) (now : T) (state : WorkersState T) :
    (dequeueStep worker now state = state ∧
      ∀ queue, state.workers.lookup worker ≠ some ⟨queue, none⟩) ∨
    ∃ queue, state.workers.lookup worker = some ⟨queue, none⟩ ∧
      ((queue.dequeueTenant ⟨now, state.locked, []⟩ [] (state.rows.map Row.job) = none ∧
        dequeueStep worker now state =
          { state with workers := state.workers.erase worker, clock := now }) ∨
      ∃ row ∈ state.rows, row.job.id ∉ state.locked ∧ Belongs queue row.job ∧
        dequeueStep worker now state =
          { state with
            rows := if queue.atMostOnce then deleteRow row.job.id state.rows else state.rows
            workers := state.workers.insert worker ⟨queue, some row.job⟩
            started := ⟨row.job, queue.atMostOnce⟩ :: state.started
            clock := now }) := by
  unfold JobWorkers.dequeueStep
  split
  · next queue hlookup =>
      refine .inr ⟨queue, hlookup, ?_⟩
      split
      · next hnone => exact .inl ⟨hnone, rfl⟩
      · next job hjob =>
          obtain ⟨row, hrow, rfl, hunlocked, hbelongs⟩ := exists_row_of_dequeue hjob
          exact .inr ⟨row, hrow, hunlocked, hbelongs, rfl⟩
  · next hlookup => exact .inl ⟨rfl, hlookup⟩

theorem QueueInv.dequeueStep (hinv : QueueInv state) (worker : Nat) (now : T) :
    QueueInv (dequeueStep worker now state) := by
  rcases dequeueStep_cases worker now state with
    ⟨heq, -⟩ | ⟨queue, -, ⟨-, heq⟩ | ⟨row, hrow, hunlocked, hbelongs, heq⟩⟩
  · rw [heq]
    exact hinv
  · rw [heq]
    exact hinv.erase worker now
  · rw [heq]
    exact ⟨hinv.ledger.begin hrow _ _ _,
      hinv.workers.begin hinv.ledger hrow hunlocked worker hbelongs now⟩

theorem workerStep_keeps_inv (state : WorkersState T) (action : WorkerAction T)
    (hinv : QueueInv state) : QueueInv (workerStep state action) := by
  cases action with
  | enqueue queue heartbeat task executeAt priority now =>
      exact hinv.enqueue queue heartbeat task executeAt priority now
  | tryRunAll worker queue =>
      rw [workerStep]
      split
      · exact ⟨hinv.ledger.clock _ _, hinv.workers.keep
          (fun _ _ _ hlookup => (lookup_of_insert_idle hlookup).2) rfl rfl fun _ => id⟩
      · exact hinv
  | dequeueTenant worker now => exact hinv.dequeueStep worker now
  | returns worker => exact hinv.returnStep worker
  | raises worker =>
      rw [workerStep]
      split
      · exact hinv.erase worker _
      · exact hinv
  | dies worker => exact hinv.erase worker _

/-- However the workers interleave, fail and die, the queue keeps its promises. -/
theorem run_delivers (clock : T) (actions : List (WorkerAction T)) :
    Delivers (run workerStep (.empty clock) actions) := by
  have hinv : QueueInv (run workerStep (.empty clock) actions) :=
    run_keeps QueueInv workerStep_keeps_inv (queueInv_empty clock) actions
  generalize run workerStep (.empty clock) actions = state at hinv
  exact
    { own_jobs := by
        rintro worker ⟨queue, _⟩ job hlookup rfl
        exact (hinv.workers.held worker queue job hlookup).belongs
      one_worker := by
        rintro first second ⟨queue, _⟩ ⟨other, _⟩ job otherJob hfirst rfl hsecond rfl
        exact hinv.workers.exclusive _ _ _ _ _ _ hfirst hsecond
      at_most_once := hinv.ledger.last_start
      at_least_once := by
        intro id hid hnotTaken
        constructor
        · rintro ⟨row, hrow, rfl⟩
          exact (hinv.ledger.rows_open row hrow).1
        · intro hunfinished
          rcases hinv.ledger.kept id hid with hrow | hfinished | htaken
          · exact hrow
          · exact absurd hfinished hunfinished
          · exact absurd htaken hnotTaken
      finished_once := hinv.ledger.finished_nodup
      finished_started := hinv.ledger.finished_started
      one_heartbeat := hinv.ledger.identifiers_nodup }

end Queue

end JobWorkers

end NFCompose
