/-
Truncating a data series while bulk requests wait in the task table.  The
truncation empties the tables, the events and the registry in one transaction
and does not look at the task table.
-/
import NFCompose.BulkInsert
import NFCompose.EventDelivery
import NFCompose.KeyedTable
import NFCompose.RowClock

namespace NFCompose

universe u v

/-- The storage of a data series, the events of a consumer of it and the task
table.  The clocks of the truncations are kept in the order of their commits. -/
structure BulkSeriesState (W : Type v) (V : Type u) where
  store : TaskStore W V
  storage : StorageState V
  events : List (ConsumerEventType × Clock)
  truncations : List Clock

inductive BulkSeriesAction (W : Type v) (V : Type u) where
  | persist (action : PersistAction W V)
  | truncate (clock : Clock)

variable {V : Type u} {W : Type v} [DecidableEq W] [Fintype W]

def BulkSeriesState.initial (registry : List FileLookup) (files : List String) :
    BulkSeriesState W V :=
  ⟨TaskStore.initial, StorageState.empty registry files, [], []⟩

def PersistWorker.written : PersistWorker V → List (Write V)
  | .persisting _ _ _ written => written
  | .deleted _ _ written => written
  | _ => []

/-- The writes that become visible with an action. -/
def PersistAction.commits (store : TaskStore W V) : PersistAction W V → List (Write V)
  | .proceed worker _ =>
      match store.workers worker with
      | .deleted _ _ written => written
      | _ => []
  | _ => []

/-- `TRUNCATE` waits for the transactions that have written to the table. -/
def TaskStore.Writing (store : TaskStore W V) : Prop :=
  ∃ worker, (store.workers worker).written.isEmpty = false

instance (store : TaskStore W V) : Decidable store.Writing :=
  inferInstanceAs (Decidable (∃ _, _))

def truncateDataSeriesData (ds : DataSeries) (now : Int) : List FileLookup → List FileLookup :=
  markDeleted
    (fun entry => decide (entry.tenantId = ds.tenantId ∧ entry.dataSeriesId = ds.id ∧
      entry.deletedAt = none)) now

def truncateDataSeries (ds : DataSeries) (clock : Clock) (state : BulkSeriesState W V) :
    BulkSeriesState W V :=
  { state with
    storage := { state.storage with
      materialized := ∅
      history := []
      fileLookup := truncateDataSeriesData ds clock.pointInTime state.storage.fileLookup }
    events := [(.dataSeriesTruncated, clock)]
    truncations := state.truncations ++ [clock] }

variable [UploadedFile V]

def bulkSeriesStep (ds : DataSeries) (settings : BulkSettings) (state : BulkSeriesState W V) :
    BulkSeriesAction W V → BulkSeriesState W V
  | .persist action =>
      let writes := action.commits state.store
      { state with
        store := persistStep settings state.store action
        storage := Runs.run (modify ds) state.storage (writes.map Modification.write)
        events := state.events ++ writes.map fun write => (.dataPointChanged, write.clock) }
  | .truncate clock =>
      if state.store.Writing then state else truncateDataSeries ds clock state

omit [UploadedFile V] in
/-- No data point shows a write or a deletion with a clock before the given
one. -/
def StorageState.NoneBefore (clock : Clock) (storage : StorageState V) : Prop :=
  (∀ entry ∈ storage.materialized.entries, ∀ current ∈ entry.2.clock, ¬ current < clock) ∧
    ∀ entry ∈ storage.history, ∀ current ∈ entry.clock, ¬ current < clock

instance (clock : Clock) (storage : StorageState V) : Decidable (storage.NoneBefore clock) :=
  inferInstanceAs (Decidable (_ ∧ _))

/-- No action commits a request that was accepted with a clock before a
truncation that has committed in the meantime. -/
def CommitsNoneStale (state : BulkSeriesState W V) : BulkSeriesAction W V → Prop
  | .persist action => ∀ write ∈ action.commits state.store,
      ∀ clock ∈ state.truncations, ¬ write.clock < clock
  | .truncate _ => True

instance (state : BulkSeriesState W V) :
    (action : BulkSeriesAction W V) → Decidable (CommitsNoneStale state action)
  | .persist action => inferInstanceAs
      (Decidable (∀ write ∈ action.commits state.store, _))
  | .truncate _ => isTrue trivial

omit [UploadedFile V] in
theorem noneBefore_iff {clock : Clock} {storage : StorageState V} :
    storage.NoneBefore clock ↔ ∀ id,
      (∀ row ∈ (storage.point id).row, ∀ current ∈ row.clock, ¬ current < clock) ∧
        ∀ entry ∈ (storage.point id).history, ∀ current ∈ entry.clock, ¬ current < clock := by
  constructor
  · intro hstorage id
    constructor
    · intro row hrow
      exact hstorage.1 ⟨id, row⟩ (KeyedTable.mem_entries_iff.mpr hrow)
    · intro entry hentry
      exact hstorage.2 entry (List.mem_filter.mp hentry).1
  · intro hpoints
    constructor
    · rintro ⟨id, row⟩ hentry
      exact (hpoints id).1 row (KeyedTable.mem_entries_iff.mp hentry)
    · intro entry hentry
      apply (hpoints entry.id).2 entry
      simp [StorageState.point, hentry]

/-- A write leaves its own clock behind, or the rows as they are. -/
theorem noneBefore_write (ds : DataSeries) {clock : Clock} {storage : StorageState V}
    (hstorage : storage.NoneBefore clock) {write : Write V} (hwrite : ¬ write.clock < clock) :
    (modify ds storage (.write write)).NoneBefore clock := by
  rw [noneBefore_iff] at hstorage ⊢
  intro id
  rw [point_modify]
  cases hon : (Modification.write write).on id with
  | none => exact hstorage id
  | some op =>
      simp only [Modification.on, Option.map_eq_some_iff] at hon
      obtain ⟨data, -, rfl⟩ := hon
      rw [Option.elim_some, pointStep]
      cases hinserted : centralInsert (setColumns ds write.isPartial data.payload) write.clock
          (valuesToInsert ds write.clock data) (storage.point id).row with
      | none => exact hstorage id
      | some inserted =>
          constructor
          · intro row hrow current hcurrent
            obtain rfl : inserted = row := Option.some.inj hrow
            have hclock := resultRow_clock ds (storage.point id).row
              (.write data write.isPartial write.clock write.userId write.recordSource)
            rw [PointOp.resultRow, ← centralInsert_some hinserted] at hclock
            rw [hclock] at hcurrent
            obtain rfl : write.clock = current := Option.some.inj hcurrent
            exact hwrite
          · intro entry hentry current hcurrent
            simp only [PointState.put] at hentry
            split at hentry
            · rcases List.mem_append.mp hentry with hold | hnew
              · exact (hstorage id).2 entry hold current hcurrent
              · rw [List.mem_singleton] at hnew
                subst hnew
                obtain rfl : write.clock = current := Option.some.inj hcurrent
                exact hwrite
            · exact (hstorage id).2 entry hentry current hcurrent

theorem noneBefore_writes (ds : DataSeries) {clock : Clock} {storage : StorageState V}
    (hstorage : storage.NoneBefore clock) {writes : List (Write V)}
    (hwrites : ∀ write ∈ writes, ¬ write.clock < clock) :
    (Runs.run (modify ds) storage (writes.map Modification.write)).NoneBefore clock := by
  induction writes generalizing storage with
  | nil => exact hstorage
  | cons write rest ih =>
      rw [List.forall_mem_cons] at hwrites
      exact ih (noneBefore_write ds hstorage hwrites.1) hwrites.2

omit [UploadedFile V] [DecidableEq W] [Fintype W] in
theorem noneBefore_truncate (ds : DataSeries) (clock other : Clock) (state : BulkSeriesState W V) :
    (truncateDataSeries ds other state).storage.NoneBefore clock := by
  constructor
  · intro entry hentry
    cases hentry
  · intro entry hentry
    cases hentry

/-- Nothing in the tables is older than a truncation that has committed. -/
def BulkSeriesState.Truncated (state : BulkSeriesState W V) : Prop :=
  ∀ clock ∈ state.truncations, state.storage.NoneBefore clock

theorem truncated_bulkSeriesStep (ds : DataSeries) (settings : BulkSettings)
    {state : BulkSeriesState W V} (hstate : state.Truncated) {action : BulkSeriesAction W V}
    (hstale : CommitsNoneStale state action) :
    (bulkSeriesStep ds settings state action).Truncated := by
  cases action with
  | persist action =>
      intro clock hclock
      apply noneBefore_writes ds (hstate clock hclock)
      exact fun write hwrite => hstale write hwrite clock hclock
  | truncate clock =>
      rw [bulkSeriesStep]
      split
      · exact hstate
      · exact fun other _ => noneBefore_truncate ds other clock state

/-- A truncation is final in every run that commits no request accepted before
it afterwards. -/
theorem truncation_final (ds : DataSeries) (settings : BulkSettings) (registry : List FileLookup)
    (files : List String) (actions : List (BulkSeriesAction W V))
    (hstale : Runs.AllSteps (bulkSeriesStep ds settings) CommitsNoneStale
      (BulkSeriesState.initial registry files) actions) :
    (Runs.run (bulkSeriesStep ds settings) (BulkSeriesState.initial registry files)
      actions).Truncated :=
  Runs.run_invariant BulkSeriesState.Truncated
    (fun _ _ hstate hstale => truncated_bulkSeriesStep ds settings hstate hstale)
    (fun _ hclock => absurd hclock List.not_mem_nil) hstale

/-- The truncation finds no request waiting that was accepted before it, and
nothing is accepted with a clock before a truncation. -/
def NothingWaits (state : BulkSeriesState W V) : BulkSeriesAction W V → Prop
  | .persist (.createBulk _ task _) => ∀ clock ∈ state.truncations, ¬ task.clock < clock
  | .persist _ => True
  | .truncate clock => ∀ entry ∈ state.store.rows.entries, ¬ entry.2.clock < clock

omit [UploadedFile V] in
/-- A row of the task table was there before, or its request has just been
accepted. -/
theorem rows_persistStep {settings : BulkSettings} {store : TaskStore W V}
    {action : PersistAction W V} {id : Nat} {task : BulkInsertTaskData V}
    (hrow : (persistStep settings store action).rows.lookup id = some task) :
    store.rows.lookup id = some task ∨ ∃ spawned, action = .createBulk id task spawned := by
  cases action with
  | createBulk other task' spawned =>
      rw [persistStep] at hrow
      split at hrow
      · exact Or.inl hrow
      · rw [TaskStore.send, TaskStore.create] at hrow
        by_cases hid : id = other
        · subst hid
          rw [AList.lookup_insert, Option.some.injEq] at hrow
          exact Or.inr ⟨spawned, by rw [hrow]⟩
        · rw [AList.lookup_insert_ne hid] at hrow
          exact Or.inl hrow
  | requeue now granted => exact Or.inl hrow
  | deliver worker other =>
      simp only [persistStep] at hrow
      split at hrow
      · split at hrow <;> exact Or.inl hrow
      · exact Or.inl hrow
  | proceed worker granted =>
      simp only [persistStep, proceedStep] at hrow
      split at hrow
      · exact Or.inl hrow
      · exact Or.inl hrow
      · split at hrow <;> exact Or.inl hrow
      · exact Or.inl hrow
      · exact Or.inl hrow
      · rename_i other task' written hworker
        rw [TaskStore.commit] at hrow
        by_cases hid : id = other
        · subst hid
          rw [AList.lookup_erase] at hrow
          cases hrow
        · rw [AList.lookup_erase_ne hid] at hrow
          exact Or.inl hrow
  | crash worker => exact Or.inl hrow

omit [UploadedFile V] [DecidableEq W] [Fintype W] in
/-- What a worker commits carries the clock of a row that is still there. -/
theorem commits_clock {settings : BulkSettings} {store : TaskStore W V}
    (hinv : store.Inv settings) {action : PersistAction W V} {write : Write V}
    (hwrite : write ∈ action.commits store) :
    ∃ id task, store.rows.lookup id = some task ∧ write.clock = task.clock := by
  cases action with
  | proceed worker granted =>
      simp only [PersistAction.commits] at hwrite
      split at hwrite
      · rename_i id task written hworker
        have hrow := hinv.claimed worker id task (by rw [hworker]; rfl)
        have htrack := hinv.onTrack worker
        rw [hworker] at htrack
        rw [show written = _ from htrack] at hwrite
        obtain ⟨index, -, rfl⟩ := List.mem_map.mp hwrite
        exact ⟨id, task, hrow, rfl⟩
      · cases hwrite
  | createBulk => cases hwrite
  | requeue => cases hwrite
  | deliver => cases hwrite
  | crash => cases hwrite

/-- When nothing waits at a truncation, nothing stale is committed after it. -/
theorem truncation_final_of_nothingWaits (ds : DataSeries) (settings : BulkSettings)
    (registry : List FileLookup) (files : List String) (actions : List (BulkSeriesAction W V))
    (hwaits : Runs.AllSteps (bulkSeriesStep ds settings) NothingWaits
      (BulkSeriesState.initial registry files) actions) :
    ∀ clock ∈ (Runs.run (bulkSeriesStep ds settings) (BulkSeriesState.initial registry files)
        actions).truncations,
      (Runs.run (bulkSeriesStep ds settings) (BulkSeriesState.initial registry files)
        actions).storage.NoneBefore clock := by
  -- the rows that wait are younger than every truncation so far
  have hinv := Runs.run_invariant
    (fun state : BulkSeriesState W V => state.store.Inv settings ∧ state.Truncated ∧
      ∀ clock ∈ state.truncations, ∀ id task, state.store.rows.lookup id = some task →
        ¬ task.clock < clock) ?_ ⟨inv_initial settings, ?_, ?_⟩ hwaits
  · exact hinv.2.1
  · rintro state action ⟨hstore, htruncated, hrows⟩ hwaits
    cases action with
    | persist action =>
        refine ⟨inv_persistStep hstore action,
          truncated_bulkSeriesStep ds settings htruncated ?_, ?_⟩
        · intro write hwrite clock hclock
          obtain ⟨id, task, hrow, heq⟩ := commits_clock hstore hwrite
          rw [heq]
          exact hrows clock hclock id task hrow
        · intro clock hclock id task hrow
          rcases rows_persistStep hrow with hold | ⟨spawned, rfl⟩
          · exact hrows clock hclock id task hold
          · exact hwaits clock hclock
    | truncate clock =>
        refine ⟨?_, truncated_bulkSeriesStep ds settings htruncated trivial, ?_⟩
        · rw [bulkSeriesStep]
          split <;> exact hstore
        · rw [bulkSeriesStep]
          split
          · exact hrows
          · intro other hother id task hrow
            rcases List.mem_append.mp hother with hearlier | hlast
            · exact hrows other hearlier id task hrow
            · rw [List.mem_singleton] at hlast
              subst hlast
              exact hwaits ⟨id, task⟩ (KeyedTable.mem_entries_iff.mpr hrow)
  · exact fun _ hclock => absurd hclock List.not_mem_nil
  · exact fun _ hclock => absurd hclock List.not_mem_nil

namespace TruncationWitness

open ModificationWitness

def task (time : Int) : BulkInsertTaskData String :=
  ⟨"series", ⟨time, time⟩, [⟨"point", "external", []⟩], ["note"], none, "REST", by decide⟩

def settings : BulkSettings := ⟨250, by decide, 5⟩

/-- One worker takes the row of a task from its message to the commit. -/
def execute (id : Nat) : List (BulkSeriesAction (Fin 1) String) :=
  .persist (.deliver 0 id) :: List.replicate 5 (.persist (.proceed 0 true))

/-- A request of time 1 waits while the data series is truncated at time 5. -/
def lateTask : List (BulkSeriesAction (Fin 1) String) :=
  .persist (.createBulk 1 (task 1) true) :: .truncate ⟨5, 5⟩ :: execute 1

theorem lateTask_survives_truncation :
    ¬ (∀ clock ∈ (Runs.run (bulkSeriesStep (series .dynamicSqlMaterializedFlatHistory) settings)
        (BulkSeriesState.initial [] []) lateTask).truncations,
      (Runs.run (bulkSeriesStep (series .dynamicSqlMaterializedFlatHistory) settings)
        (BulkSeriesState.initial [] []) lateTask).storage.NoneBefore clock) := by
  decide

theorem truncation_final_between_tasks :
    (Runs.run (bulkSeriesStep (series .dynamicSqlMaterializedFlatHistory) settings)
      (BulkSeriesState.initial [] [])
      (.persist (.createBulk 1 (task 1) true) :: execute 1 ++ .truncate ⟨5, 5⟩ ::
        .persist (.createBulk 2 (task 6) true) :: execute 2)).Truncated :=
  truncation_final _ settings [] [] _ (by decide)

end TruncationWitness

end NFCompose
