/-
Asynchronous bulk inserts.  A request stores its data as a row of the task
table; workers that are told about the row, perhaps more than once, persist the
data and delete the row in one transaction.
-/
import Mathlib.Data.Fintype.Basic
import Mathlib.Data.List.Nodup
import NFCompose.Modification

namespace NFCompose

universe u v

/-- Distinct ids, since a request names every external id only once. -/
structure BulkInsertTaskData (V : Type u) where
  dataSeriesId : Uuid
  clock : Clock
  validatedDatas : List (ValidatedData V)
  serializationKeys : List ExternalId
  userId : Option String
  recordSource : String
  ids_nodup : (validatedDatas.map ValidatedData.id).Nodup

structure BulkSettings where
  batchSize : Nat
  batchSize_pos : 0 < batchSize
  requeueAge : Int

variable {V : Type u}

def setMissingStructureElementsToNone (flattenedKeys : List ExternalId)
    (data : ValidatedData V) : ValidatedData V :=
  { data with
    payload := flattenedKeys.foldl
      (fun payload key =>
        if (payload.lookup key).isSome then payload else payload ++ [(key, none)])
      data.payload }

/-- The data points that a task persists. -/
def BulkInsertTaskData.dataPoints (task : BulkInsertTaskData V) : List (ValidatedData V) :=
  task.validatedDatas.map (setMissingStructureElementsToNone task.serializationKeys)

theorem dataPoints_ids_nodup (task : BulkInsertTaskData V) :
    (task.dataPoints.map ValidatedData.id).Nodup := by
  have hids : task.dataPoints.map ValidatedData.id =
      task.validatedDatas.map ValidatedData.id := by
    rw [BulkInsertTaskData.dataPoints, List.map_map]
    rfl
  rw [hids]
  exact task.ids_nodup

/-- The write of one chunk. -/
def BulkInsertTaskData.chunk (size : Nat) (task : BulkInsertTaskData V) (index : Nat) :
    Write V where
  validatedDatas := (task.dataPoints.drop (index * size)).take size
  isPartial := false
  clock := task.clock
  userId := task.userId
  recordSource := task.recordSource
  ids_nodup := by
    refine List.Nodup.sublist ?_ (dataPoints_ids_nodup task)
    exact ((List.take_sublist _ _).trans (List.drop_sublist _ _)).map ValidatedData.id
  partial_single := by simp

/-- The writes of `persist_data_point_chunk`. -/
def BulkInsertTaskData.chunks (size : Nat) (task : BulkInsertTaskData V) : List (Write V) :=
  (List.range ((task.validatedDatas.length + size - 1) / size)).map (task.chunk size)

theorem flatMap_chunk (size count : Nat) (task : BulkInsertTaskData V) :
    ((List.range count).map (task.chunk size)).flatMap Write.validatedDatas =
      task.dataPoints.take (count * size) := by
  induction count with
  | zero => simp
  | succ count ih =>
      rw [List.range_succ, List.map_append, List.flatMap_append, ih, Nat.add_mul, Nat.one_mul,
        List.take_add]
      simp [BulkInsertTaskData.chunk]

/-- The chunks carry all data points, each one once. -/
theorem chunks_dataPoints {size : Nat} (hsize : 0 < size) (task : BulkInsertTaskData V) :
    (task.chunks size).flatMap Write.validatedDatas = task.dataPoints := by
  rw [BulkInsertTaskData.chunks, flatMap_chunk]
  apply List.take_of_length_le
  rw [BulkInsertTaskData.dataPoints, List.length_map]
  have hdiv := Nat.div_add_mod (task.validatedDatas.length + size - 1) size
  have hmod := Nat.mod_lt (task.validatedDatas.length + size - 1) hsize
  rw [Nat.mul_comm]
  omega

/-- Where a worker stands in `async_persist_data_point_chunk`.  From `claimed`
on it holds the lock on the row, and what it has written is not committed. -/
inductive PersistWorker (V : Type u) where
  | idle
  | claimed (id : Nat) (task : BulkInsertTaskData V)
  | notified (id : Nat) (task : BulkInsertTaskData V)
  | persisting (id : Nat) (task : BulkInsertTaskData V) (remaining written : List (Write V))
  | deleted (id : Nat) (task : BulkInsertTaskData V) (written : List (Write V))

def PersistWorker.claim : PersistWorker V → Option (Nat × BulkInsertTaskData V)
  | .idle => none
  | .claimed id task => some (id, task)
  | .notified id task => some (id, task)
  | .persisting id task _ _ => some (id, task)
  | .deleted id task _ => some (id, task)

/-- A committed transaction that deletes the row of a task, with the writes that
are committed with it. -/
structure BulkTransaction (V : Type u) where
  task : Nat
  written : List (Write V)

/-- The task table, the messages that were sent and the workers.  The rows that
were ever accepted and the transactions in the order of their commits are kept
as well. -/
structure TaskStore (W : Type v) (V : Type u) where
  rows : AList fun _ : Nat => BulkInsertTaskData V
  messages : List Nat
  workers : W → PersistWorker V
  accepted : AList fun _ : Nat => BulkInsertTaskData V
  log : List (BulkTransaction V)

inductive PersistAction (W : Type v) (V : Type u) where
  /-- A request commits; the process may die before it spawns the task. -/
  | createBulk (id : Nat) (task : BulkInsertTaskData V) (spawned : Bool)
  /-- A tick of `wake_up_requeue_persist_data_point_chunk`, with the rows for
  which it is granted the semaphore. -/
  | requeue (now : Int) (granted : Nat → Bool)
  /-- A message is delivered; it may be delivered again. -/
  | deliver (worker : W) (id : Nat)
  /-- The next statement of a worker, and whether it is granted the semaphore of
  the data series. -/
  | proceed (worker : W) (granted : Bool)
  /-- A worker crashes, or a statement fails: the transaction is rolled back. -/
  | crash (worker : W)

variable {W : Type v} [DecidableEq W] [Fintype W]

def TaskStore.initial : TaskStore W V := ⟨∅, [], fun _ => .idle, ∅, []⟩

/-- A row that another transaction has selected for update. -/
def TaskStore.Locked (state : TaskStore W V) (id : Nat) : Prop :=
  ∃ worker, (state.workers worker).claim.map Prod.fst = some id

instance (state : TaskStore W V) (id : Nat) : Decidable (state.Locked id) :=
  inferInstanceAs (Decidable (∃ _, _))

def TaskStore.put (state : TaskStore W V) (worker : W) (next : PersistWorker V) :
    TaskStore W V :=
  { state with workers := Function.update state.workers worker next }

omit [Fintype W] in
@[simp] theorem put_workers (state : TaskStore W V) (worker : W) (next : PersistWorker V) :
    (state.put worker next).workers = Function.update state.workers worker next := rfl

def TaskStore.send (state : TaskStore W V) (ids : List Nat) : TaskStore W V :=
  { state with messages := state.messages ++ ids }

/-- The writes and the deletion of the row become visible together. -/
def TaskStore.commit (state : TaskStore W V) (worker : W) (id : Nat) (written : List (Write V)) :
    TaskStore W V :=
  { state.put worker .idle with
    rows := state.rows.erase id
    log := state.log ++ [⟨id, written⟩] }

def TaskStore.create (state : TaskStore W V) (id : Nat) (task : BulkInsertTaskData V) :
    TaskStore W V :=
  { state with
    rows := state.rows.insert id task
    accepted := state.accepted.insert id task }

/-- The ids of the rows that are old enough to be started again. -/
def TaskStore.overdue (state : TaskStore W V) (settings : BulkSettings) (now : Int) : List Nat :=
  (state.rows.entries.filter fun entry =>
    entry.2.clock.pointInTime < now - settings.requeueAge).map Sigma.fst

def proceedStep (settings : BulkSettings) (state : TaskStore W V) (worker : W) (granted : Bool) :
    TaskStore W V :=
  match state.workers worker with
  | .idle => state
  | .claimed id task =>
      -- the semaphore of the requeue tick is taken if it is free
      state.put worker (.notified id task)
  | .notified id task =>
      if granted then
        state.put worker (.persisting id task (task.chunks settings.batchSize) [])
      else
        -- `self.retry` sends the task again and rolls the transaction back
        (state.put worker .idle).send [id]
  | .persisting id task (write :: remaining) written =>
      state.put worker (.persisting id task remaining (written ++ [write]))
  | .persisting id task [] written => state.put worker (.deleted id task written)
  | .deleted id _ written => state.commit worker id written

def persistStep (settings : BulkSettings) (state : TaskStore W V) :
    PersistAction W V → TaskStore W V
  | .createBulk id task spawned =>
      -- the sequence of the primary key never gives out an id twice
      if id ∈ state.accepted then state
      else (state.create id task).send (if spawned then [id] else [])
  | .requeue now granted => state.send ((state.overdue settings now).filter granted)
  | .deliver worker id =>
      match state.workers worker, state.rows.lookup id with
      | .idle, some task =>
          -- `select_for_update(skip_locked=True)`
          if id ∈ state.messages ∧ ¬ state.Locked id then
            state.put worker (.claimed id task)
          else state
      | _, _ => state
  | .proceed worker granted => proceedStep settings state worker granted
  | .crash worker => state.put worker .idle

/-- What a worker has written and what it still has to write are the chunks of
its task. -/
def PersistWorker.OnTrack (settings : BulkSettings) : PersistWorker V → Prop
  | .persisting _ task remaining written =>
      written ++ remaining = task.chunks settings.batchSize
  | .deleted _ task written => written = task.chunks settings.batchSize
  | _ => True

structure TaskStore.Inv (settings : BulkSettings) (state : TaskStore W V) : Prop where
  claimed : ∀ worker id task, (state.workers worker).claim = some (id, task) →
    state.rows.lookup id = some task
  exclusive : ∀ worker other id task task', (state.workers worker).claim = some (id, task) →
    (state.workers other).claim = some (id, task') → worker = other
  onTrack : ∀ worker, (state.workers worker).OnTrack settings
  stored : ∀ id task, state.rows.lookup id = some task → state.accepted.lookup id = some task
  kept : ∀ id task, state.accepted.lookup id = some task →
    state.rows.lookup id = some task ∨ ∃ transaction ∈ state.log, transaction.task = id
  committed : ∀ transaction ∈ state.log, state.rows.lookup transaction.task = none ∧
    ∃ task, state.accepted.lookup transaction.task = some task ∧
      transaction.written = task.chunks settings.batchSize
  once : (state.log.map BulkTransaction.task).Nodup

section Preservation

variable {settings : BulkSettings} {state : TaskStore W V}

omit [Fintype W] in
theorem claim_put (worker other : W) (next : PersistWorker V) :
    ((state.put worker next).workers other).claim =
      if other = worker then next.claim else (state.workers other).claim := by
  rw [put_workers, Function.update_apply]
  split <;> rfl

omit [Fintype W] in
/-- A worker goes on: it may claim what is stored and nobody else has claimed. -/
theorem inv_put (hinv : state.Inv settings) {worker : W} {next : PersistWorker V}
    (hclaim : ∀ id task, next.claim = some (id, task) → state.rows.lookup id = some task ∧
      ∀ other, other ≠ worker → ∀ task', (state.workers other).claim ≠ some (id, task'))
    (htrack : next.OnTrack settings) : (state.put worker next).Inv settings := by
  refine ⟨?_, ?_, ?_, hinv.stored, hinv.kept, hinv.committed, hinv.once⟩
  · intro other id task hother
    rw [claim_put] at hother
    split at hother
    · exact (hclaim id task hother).1
    · exact hinv.claimed other id task hother
  · intro first second id task task' hfirst hsecond
    rw [claim_put] at hfirst hsecond
    split at hfirst <;> split at hsecond
    · simp_all
    · rename_i hne
      exact absurd hsecond ((hclaim id task hfirst).2 second hne task')
    · rename_i hne _
      exact absurd hfirst ((hclaim id task' hsecond).2 first hne task)
    · exact hinv.exclusive first second id task task' hfirst hsecond
  · intro other
    rw [put_workers, Function.update_apply]
    split
    · exact htrack
    · exact hinv.onTrack other

omit [Fintype W] in
/-- A worker that keeps its claim goes on. -/
theorem inv_put_same (hinv : state.Inv settings) {worker : W} {next : PersistWorker V}
    (hclaim : next.claim = (state.workers worker).claim) (htrack : next.OnTrack settings) :
    (state.put worker next).Inv settings := by
  apply inv_put hinv _ htrack
  intro id task hnext
  rw [hclaim] at hnext
  refine ⟨hinv.claimed worker id task hnext, ?_⟩
  intro other hne task' hother
  exact hne (hinv.exclusive other worker id task' task hother hnext)

omit [Fintype W] in
theorem inv_idle (hinv : state.Inv settings) (worker : W) :
    (state.put worker .idle).Inv settings := by
  apply inv_put hinv
  · intro id task hnone
    cases hnone
  · trivial

omit [DecidableEq W] [Fintype W] in
theorem inv_send (hinv : state.Inv settings) (ids : List Nat) : (state.send ids).Inv settings :=
  ⟨hinv.claimed, hinv.exclusive, hinv.onTrack, hinv.stored, hinv.kept, hinv.committed, hinv.once⟩

omit [DecidableEq W] [Fintype W] in
theorem inv_create (hinv : state.Inv settings) {id : Nat} (task : BulkInsertTaskData V)
    (hfresh : id ∉ state.accepted) : (state.create id task).Inv settings := by
  have hnone : state.accepted.lookup id = none := AList.lookup_eq_none.mpr hfresh
  have hrows : ∀ other task', state.rows.lookup other = some task' → other ≠ id := by
    rintro other task' hother rfl
    rw [hinv.stored other task' hother] at hnone
    cases hnone
  have haccepted : ∀ other task', state.accepted.lookup other = some task' → other ≠ id := by
    rintro other task' hother rfl
    rw [hother] at hnone
    cases hnone
  refine ⟨?_, hinv.exclusive, hinv.onTrack, ?_, ?_, ?_, hinv.once⟩
  · intro worker other task' hother
    have hlookup := hinv.claimed worker other task' hother
    rw [TaskStore.create, AList.lookup_insert_ne (hrows other task' hlookup)]
    exact hlookup
  · intro other task' hother
    simp only [TaskStore.create] at hother ⊢
    by_cases heq : other = id
    · subst heq
      rw [AList.lookup_insert] at hother ⊢
      exact hother
    · rw [AList.lookup_insert_ne heq] at hother ⊢
      exact hinv.stored other task' hother
  · intro other task' hother
    simp only [TaskStore.create] at hother ⊢
    by_cases heq : other = id
    · subst heq
      rw [AList.lookup_insert] at hother ⊢
      exact Or.inl hother
    · rw [AList.lookup_insert_ne heq] at hother ⊢
      exact hinv.kept other task' hother
  · intro transaction htransaction
    obtain ⟨hgone, task', htask, hwritten⟩ := hinv.committed transaction htransaction
    have hne := haccepted _ _ htask
    refine ⟨?_, task', ?_, hwritten⟩
    · rw [TaskStore.create, AList.lookup_insert_ne hne]
      exact hgone
    · rw [TaskStore.create, AList.lookup_insert_ne hne]
      exact htask

omit [Fintype W] in
theorem inv_commit (hinv : state.Inv settings) {worker : W} {id : Nat}
    {task : BulkInsertTaskData V} {written : List (Write V)}
    (hworker : state.workers worker = .deleted id task written) :
    (state.commit worker id written).Inv settings := by
  have hclaim : (state.workers worker).claim = some (id, task) := by
    rw [hworker]
    rfl
  have hrow := hinv.claimed worker id task hclaim
  have hwritten : written = task.chunks settings.batchSize := by
    have htrack := hinv.onTrack worker
    rw [hworker] at htrack
    exact htrack
  have hother : ∀ other task', ((state.put worker .idle).workers other).claim =
      some (id, task') → False := by
    intro other task' hother
    rw [claim_put] at hother
    split at hother
    · cases hother
    · rename_i hne
      exact hne (hinv.exclusive other worker id task' task hother hclaim)
  have hidle := inv_idle hinv worker
  refine ⟨?_, hidle.exclusive, hidle.onTrack, ?_, ?_, ?_, ?_⟩
  · intro other id' task' hclaim'
    have hne : id' ≠ id := by
      rintro rfl
      exact hother other task' hclaim'
    rw [TaskStore.commit, AList.lookup_erase_ne hne]
    exact hidle.claimed other id' task' hclaim'
  · intro id' task' hlookup
    have hne : id' ≠ id := by
      rintro rfl
      rw [TaskStore.commit, AList.lookup_erase] at hlookup
      cases hlookup
    rw [TaskStore.commit, AList.lookup_erase_ne hne] at hlookup
    exact hinv.stored id' task' hlookup
  · intro id' task' haccepted
    by_cases heq : id' = id
    · right
      exact ⟨⟨id, written⟩, List.mem_append_right _ List.mem_cons_self, heq.symm⟩
    · rcases hinv.kept id' task' haccepted with hstored | ⟨transaction, hmem, htask⟩
      · left
        rw [TaskStore.commit, AList.lookup_erase_ne heq]
        exact hstored
      · right
        exact ⟨transaction, List.mem_append_left _ hmem, htask⟩
  · intro transaction htransaction
    rcases List.mem_append.mp htransaction with hearlier | hlast
    · obtain ⟨hgone, htask⟩ := hinv.committed transaction hearlier
      refine ⟨?_, htask⟩
      by_cases heq : transaction.task = id
      · rw [TaskStore.commit, heq, AList.lookup_erase]
      · rw [TaskStore.commit, AList.lookup_erase_ne heq]
        exact hgone
    · rw [List.mem_singleton] at hlast
      subst hlast
      exact ⟨AList.lookup_erase _ _, task, hinv.stored id task hrow, hwritten⟩
  · rw [TaskStore.commit, List.map_append, List.nodup_append]
    refine ⟨hinv.once, List.nodup_singleton _, ?_⟩
    intro earlier hearlier last hlast heq
    obtain ⟨transaction, hmem, rfl⟩ := List.mem_map.mp hearlier
    rw [List.map_cons, List.map_nil, List.mem_singleton] at hlast
    have hgone := (hinv.committed transaction hmem).1
    rw [heq, hlast, hrow] at hgone
    cases hgone

omit [Fintype W] in
theorem inv_proceedStep (hinv : state.Inv settings) (worker : W) (granted : Bool) :
    (proceedStep settings state worker granted).Inv settings := by
  have htrack := hinv.onTrack worker
  unfold proceedStep
  split
  · exact hinv
  · rename_i id task hworker
    exact inv_put_same hinv (by rw [hworker]; rfl) trivial
  · rename_i id task hworker
    split
    · exact inv_put_same hinv (by rw [hworker]; rfl) (List.nil_append _)
    · exact inv_send (inv_idle hinv worker) _
  · rename_i id task write remaining written hworker
    rw [hworker] at htrack
    apply inv_put_same hinv
    · rw [hworker]
      rfl
    · rw [PersistWorker.OnTrack, List.append_assoc]
      exact htrack
  · rename_i id task written hworker
    rw [hworker] at htrack
    apply inv_put_same hinv
    · rw [hworker]
      rfl
    · rw [PersistWorker.OnTrack, ← htrack, List.append_nil]
  · rename_i id task written hworker
    exact inv_commit hinv hworker

theorem inv_persistStep (hinv : state.Inv settings) (action : PersistAction W V) :
    (persistStep settings state action).Inv settings := by
  cases action with
  | createBulk id task spawned =>
      rw [persistStep]
      split
      · exact hinv
      · rename_i hfresh
        exact inv_send (inv_create hinv task hfresh) _
  | requeue now granted => exact inv_send hinv _
  | deliver worker id =>
      simp only [persistStep]
      split
      · rename_i task _ hrow
        split
        · rename_i hfree
          apply inv_put hinv
          · intro id' task' hclaim
            obtain ⟨rfl, rfl⟩ : id = id' ∧ task = task' := by
              simpa [PersistWorker.claim] using hclaim
            refine ⟨hrow, ?_⟩
            intro other _ task' hother
            exact hfree.2 ⟨other, by rw [hother]; rfl⟩
          · trivial
        · exact hinv
      · exact hinv
  | proceed worker granted => exact inv_proceedStep hinv worker granted
  | crash worker => exact inv_idle hinv worker

/-- A step that deletes a row commits the writes of its chunks. -/
theorem persistStep_deletes (hinv : state.Inv settings) {action : PersistAction W V} {id : Nat}
    {task : BulkInsertTaskData V} (hrow : state.rows.lookup id = some task)
    (hgone : (persistStep settings state action).rows.lookup id = none) :
    (persistStep settings state action).log =
      state.log ++ [⟨id, task.chunks settings.batchSize⟩] := by
  have hkeeps : ∀ next : TaskStore W V, next.rows = state.rows → next.rows.lookup id = none →
      False := by
    intro next heq hnone
    rw [heq, hrow] at hnone
    cases hnone
  cases action with
  | createBulk other task' spawned =>
      rw [persistStep] at hgone
      split at hgone
      · exact (hkeeps _ rfl hgone).elim
      · rename_i hfresh
        have hne : id ≠ other := by
          rintro rfl
          apply hfresh
          rw [← AList.lookup_isSome, hinv.stored id task hrow]
          rfl
        rw [TaskStore.send, TaskStore.create, AList.lookup_insert_ne hne, hrow] at hgone
        cases hgone
  | requeue now granted => exact (hkeeps _ rfl hgone).elim
  | deliver worker other =>
      simp only [persistStep] at hgone
      split at hgone
      · split at hgone
        · exact (hkeeps _ rfl hgone).elim
        · exact (hkeeps _ rfl hgone).elim
      · exact (hkeeps _ rfl hgone).elim
  | proceed worker granted =>
      simp only [persistStep, proceedStep] at hgone ⊢
      split at hgone
      · exact (hkeeps _ rfl hgone).elim
      · exact (hkeeps _ rfl hgone).elim
      · split at hgone
        · exact (hkeeps _ rfl hgone).elim
        · exact (hkeeps _ rfl hgone).elim
      · exact (hkeeps _ rfl hgone).elim
      · exact (hkeeps _ rfl hgone).elim
      · rename_i other task' written hworker
        have hclaimed := hinv.claimed worker other task' (by rw [hworker]; rfl)
        have hwritten := hinv.onTrack worker
        rw [hworker] at hwritten
        by_cases hne : id = other
        · subst hne
          rw [hrow, Option.some.injEq] at hclaimed
          rw [TaskStore.commit, show written = _ from hwritten, hclaimed]
        · rw [TaskStore.commit, AList.lookup_erase_ne hne, hrow] at hgone
          cases hgone
  | crash worker => exact (hkeeps _ rfl hgone).elim

end Preservation

section Restart

variable {settings : BulkSettings} {state : TaskStore W V}

/-- A worker that is left alone commits. -/
theorem persisting_commits {worker : W} {id : Nat} {task : BulkInsertTaskData V}
    {remaining written : List (Write V)}
    (hworker : state.workers worker = .persisting id task remaining written) :
    ∃ later : List (PersistAction W V),
      ∃ transaction ∈ (Runs.run (persistStep settings) state later).log,
        transaction.task = id := by
  induction remaining generalizing state written with
  | nil =>
      refine ⟨[.proceed worker true, .proceed worker true], ⟨id, written⟩, ?_, rfl⟩
      simp [persistStep, proceedStep, hworker, TaskStore.commit]
  | cons write remaining ih =>
      have hnext : (persistStep settings state (.proceed worker true)).workers worker =
          .persisting id task remaining (written ++ [write]) := by
        simp [persistStep, proceedStep, hworker]
      obtain ⟨later, hlater⟩ := ih hnext
      exact ⟨.proceed worker true :: later, hlater⟩

theorem idle_commits {worker : W} {id : Nat} {task : BulkInsertTaskData V}
    (hidle : state.workers worker = .idle) (hrow : state.rows.lookup id = some task)
    (hmessage : id ∈ state.messages) (hfree : ¬ state.Locked id) :
    ∃ later : List (PersistAction W V),
      ∃ transaction ∈ (Runs.run (persistStep settings) state later).log,
        transaction.task = id := by
  have hclaimed : persistStep settings state (.deliver worker id) =
      state.put worker (.claimed id task) := by
    simp [persistStep, hidle, hrow, hmessage, hfree]
  have hstarted : (Runs.run (persistStep settings) state
      [.deliver worker id, .proceed worker true, .proceed worker true]).workers worker =
      .persisting id task (task.chunks settings.batchSize) [] := by
    rw [Runs.run_cons, hclaimed]
    simp [persistStep, proceedStep]
  obtain ⟨later, hlater⟩ : ∃ later, ∃ transaction ∈ (Runs.run (persistStep settings) _ later).log,
      transaction.task = id := persisting_commits hstarted
  exact ⟨_ ++ later, by rw [Runs.run_append]; exact hlater⟩

/-- A row that is old enough is persisted after the next tick, once the worker
that holds it is done or has crashed. -/
theorem requeue_commits (hinv : state.Inv settings) (worker : W) {now : Int} {id : Nat}
    {task : BulkInsertTaskData V} (hrow : state.rows.lookup id = some task)
    (hold : task.clock.pointInTime < now - settings.requeueAge) :
    ∃ later : List (PersistAction W V),
      ∃ transaction ∈ (Runs.run (persistStep settings) state
        (.requeue now (fun _ => true) :: later)).log, transaction.task = id := by
  have hmessage : id ∈ (persistStep settings state (.requeue now fun _ => true)).messages := by
    have hentry : (⟨id, task⟩ : (_ : Nat) × BulkInsertTaskData V) ∈ state.rows.entries := by
      rw [← List.mem_dlookup_iff state.rows.nodupKeys]
      exact hrow
    have hoverdue : id ∈ state.overdue settings now := by
      simp only [TaskStore.overdue, List.mem_map, List.mem_filter, decide_eq_true_eq]
      exact ⟨⟨id, task⟩, ⟨hentry, hold⟩, rfl⟩
    simp [persistStep, TaskStore.send, hoverdue]
  -- whoever holds the row gives it up
  have howner : ∃ owner, ∀ other, other ≠ owner →
      (state.workers other).claim.map Prod.fst ≠ some id := by
    by_cases hlocked : state.Locked id
    · obtain ⟨owner, howner⟩ := hlocked
      refine ⟨owner, ?_⟩
      intro other hne hother
      apply hne
      rw [Option.map_eq_some_iff] at howner hother
      obtain ⟨⟨held, task₁⟩, hclaim, rfl⟩ := howner
      obtain ⟨⟨_, task₂⟩, hclaim', rfl⟩ := hother
      exact hinv.exclusive other owner _ task₂ task₁ hclaim' hclaim
    · exact ⟨worker, fun other _ hother => hlocked ⟨other, hother⟩⟩
  obtain ⟨owner, howner⟩ := howner
  have hfree : ¬ (Runs.run (persistStep settings) state
      [.requeue now (fun _ => true), .crash owner]).Locked id := by
    rintro ⟨other, hother⟩
    change ((TaskStore.put (state.send _) owner .idle).workers other).claim.map Prod.fst =
      some id at hother
    rw [claim_put] at hother
    split at hother
    · cases hother
    · rename_i hne
      exact howner other hne hother
  have hidle : (Runs.run (persistStep settings) state
      [.requeue now (fun _ => true), .crash owner]).workers owner = .idle := by
    simp [persistStep]
  obtain ⟨later, hlater⟩ : ∃ later, ∃ transaction ∈ (Runs.run (persistStep settings) _ later).log,
      transaction.task = id := idle_commits hidle hrow hmessage hfree
  exact ⟨.crash owner :: later, hlater⟩

end Restart

omit [DecidableEq W] [Fintype W] in
theorem inv_initial (settings : BulkSettings) :
    (TaskStore.initial : TaskStore W V).Inv settings := by
  constructor <;> simp [TaskStore.initial, PersistWorker.claim, PersistWorker.OnTrack]

namespace BulkInsertWitness

def settings : BulkSettings := ⟨1, by decide, 5⟩

def task : BulkInsertTaskData String :=
  ⟨"series", ⟨1, 1⟩, [⟨"p1", "e1", []⟩, ⟨"p2", "e2", [("note", some "x")]⟩], ["note"], none,
    "REST", by decide⟩

/-- The first worker crashes with one data point written, the second one skips
the locked row at first and persists it when the message is delivered again. -/
def duplicateDelivery : List (PersistAction (Fin 2) String) :=
  [.createBulk 7 task true, .deliver 0 7, .deliver 1 7, .proceed 0 true, .proceed 0 true,
    .proceed 0 true, .crash 0, .deliver 1 7, .proceed 1 true, .proceed 1 true, .proceed 1 true,
    .proceed 1 true, .proceed 1 true, .proceed 1 true, .deliver 0 7]

example : (Runs.run (persistStep settings) TaskStore.initial duplicateDelivery).log.map
    (fun transaction => (transaction.task, transaction.written.length)) = [(7, 2)] := by
  decide

end BulkInsertWitness

end NFCompose
