/-
Changing the backend of a data series.  The way to the flat history backend
fills the history table with one entry a materialised row; the way back prunes
what is deleted and drops the history table.
-/
import NFCompose.Prune
import NFCompose.TimeTravel

namespace NFCompose

universe u

variable {V : Type u}

/-- The primary key of the history table, over `(id, point_in_time, sub_clock)`. -/
def HistoryKey (history : List (HistRow V)) : Prop :=
  (∀ row ∈ history, row.subClock ≠ none) ∧
    history.Pairwise fun row other => ¬ row.SameKey other

instance (history : List (HistRow V)) : Decidable (HistoryKey history) :=
  inferInstanceAs (Decidable (_ ∧ _))

/-- The history entries that the migration inserts. -/
def migratedHistory (table : MatTable V) : List (HistRow V) :=
  table.entries.map fun entry =>
    insertToFlatHistory none "migration - no history to flat history" entry.1 entry.2

def StorageState.migrated (state : StorageState V) : StorageState V :=
  { state with history := state.history ++ migratedHistory state.materialized }

/-- `_migrate_no_history_to_flat_history`; there is no state when the insert
violates the primary key. -/
def migrateNoHistoryToFlatHistory (state : StorageState V) : Option (StorageState V) :=
  if HistoryKey state.migrated.history then some state.migrated else none

/-- The start of the year 4000, with a one in every field. -/
def migrationOlderThan : Int := 64060592461000001

/-- `_migrate_flat_history_to_no_history`.  The serializer has stored the new
backend before. -/
def migrateFlatHistoryToNoHistory (ds : DataSeries) (now : Int) (state : StorageState V) :
    StorageState V :=
  { pruneHistory { ds with backend := .dynamicSqlNoHistory } migrationOlderThan now state with
    history := [] }

theorem put_history {ds : DataSeries} (hbackend : ds.backend ≠ .dynamicSqlMaterializedFlatHistory)
    (point : PointState V) (returned : Option (MatRow V)) (historyRow : MatRow V → HistRow V) :
    (point.put ds returned historyRow).history = point.history := by
  cases returned with
  | none => rfl
  | some row => simp [PointState.put, hbackend]

section Clocks

variable [UploadedFile V]

/-- A request leaves the row of a data point alone or stamps it with its own
clock. -/
theorem pointStep_clock {ds : DataSeries} {id : DataPointId} {point : PointState V}
    {op : PointOp V} {row : MatRow V} (hrow : row ∈ (pointStep ds id point op).row) :
    row ∈ point.row ∨ row.clock = some op.clock := by
  cases op with
  | write data isPartial clock userId recordSource =>
      rw [pointStep, PointState.put_row, Option.mem_def, Option.or_eq_some_iff] at hrow
      rcases hrow with hinserted | ⟨-, hkept⟩
      · right
        rw [centralInsert_some hinserted]
        cases point.row <;> rfl
      · exact Or.inl hkept
  | delete deletion =>
      rw [pointStep, PointState.put_row, Option.mem_def, Option.or_eq_some_iff] at hrow
      rcases hrow with hdeleted | ⟨-, hkept⟩
      · right
        cases htarget : point.row with
        | none =>
            rw [htarget, centralDelete, Option.some.injEq] at hdeleted
            rw [← hdeleted]
            rfl
        | some target =>
            rw [htarget, centralDelete] at hdeleted
            split at hdeleted
            · rw [Option.some.injEq] at hdeleted
              rw [← hdeleted]
              rfl
            · cases hdeleted
      · exact Or.inl hkept

/-- Whatever the order of the requests, no row is deleted before the write that
it still shows. -/
theorem pointStep_keeps_wellClocked (ds : DataSeries) (id : DataPointId) (point : PointState V)
    (op : PointOp V) (hwell : ∀ row ∈ point.row, row.WellClocked) :
    ∀ row ∈ (pointStep ds id point op).row, row.WellClocked := by
  intro row hrow
  refine ⟨?_, ?_⟩
  · rcases pointStep_clock hrow with hkept | hclock
    · exact (hwell row hkept).clock_ne_none
    · simp [hclock]
  · cases op with
    | write data isPartial clock userId recordSource =>
        rw [pointStep, PointState.put_row, Option.mem_def, Option.or_eq_some_iff] at hrow
        rcases hrow with hinserted | ⟨-, hkept⟩
        · intro deletedAt hdeleted
          rw [centralInsert_some hinserted] at hdeleted
          cases htarget : point.row <;>
            simp [htarget, writtenRow, upsertSet, valuesToInsert] at hdeleted
        · exact (hwell row hkept).deleted_after_write
    | delete deletion =>
        rw [pointStep, PointState.put_row, Option.mem_def, Option.or_eq_some_iff] at hrow
        rcases hrow with hdeleted | ⟨-, hkept⟩
        · intro deletedAt hdeletedAt
          cases htarget : point.row with
          | none =>
              rw [htarget, centralDelete, Option.some.injEq] at hdeleted
              subst hdeleted
              exact Int.le_of_eq (Option.some.inj hdeletedAt)
          | some target =>
              rw [htarget, centralDelete] at hdeleted
              split at hdeleted
              · next hwhere =>
                  rw [Option.some.injEq] at hdeleted
                  subst hdeleted
                  rw [← Option.some.inj hdeletedAt]
                  rw [DeleteWhere] at hwhere
                  split at hwhere
                  · exact Int.le_of_lt hwhere
                  · exact Clock.pointInTime_le_of_le (le_of_lt hwhere)
              · cases hdeleted
        · exact (hwell row hkept).deleted_after_write

/-- The rows of every materialised table are well clocked. -/
theorem run_wellClocked (ds : DataSeries) (registry : List FileLookup) (storage : List String)
    (requests : List (Modification V)) (id : DataPointId) :
    ∀ row ∈ ((Runs.run (modify ds) (StorageState.empty registry storage) requests).point id).row,
      row.WellClocked := by
  rw [point_run_modify]
  refine Runs.run_keeps (fun point : PointState V => ∀ row ∈ point.row, row.WellClocked)
    (pointStep_keeps_wellClocked ds id) ?_ _
  intro row hrow
  cases hrow

/-- Without a flat history backend the history table stays empty. -/
theorem run_history_eq_nil (ds : DataSeries)
    (hbackend : ds.backend ≠ .dynamicSqlMaterializedFlatHistory) (registry : List FileLookup)
    (storage : List String) (requests : List (Modification V)) :
    (Runs.run (modify ds) (StorageState.empty registry storage) requests).history = [] := by
  rw [List.eq_nil_iff_forall_not_mem]
  intro row hrow
  have hpoint : ((Runs.run (modify ds) (StorageState.empty registry storage)
      requests).point row.id).history = [] := by
    rw [point_run_modify]
    refine Runs.run_keeps (fun point : PointState V => point.history = []) ?_ rfl _
    intro point op hnil
    cases op <;> simp only [pointStep, put_history hbackend, hnil]
  have hmem : row ∈ ((Runs.run (modify ds) (StorageState.empty registry storage)
      requests).point row.id).history := by
    simp [StorageState.point, hrow]
  rw [hpoint] at hmem
  cases hmem

end Clocks

section Migrate

/-- The entries of a data point among the migrated ones. -/
theorem migratedHistory_filter_id (table : MatTable V) (id : DataPointId) :
    (migratedHistory table).filter (fun row => row.id = id) =
      (table.lookup id).toList.map
        (insertToFlatHistory none "migration - no history to flat history" id) := by
  have hentries : table.entries.filter (fun entry => entry.1 = id) =
      (table.lookup id).toList.map fun row => ⟨id, row⟩ := by
    cases hlookup : table.lookup id with
    | none =>
        rw [Option.toList_none, List.map_nil, List.filter_eq_nil_iff]
        rintro ⟨key, row⟩ hentry hkey
        obtain rfl : key = id := of_decide_eq_true hkey
        rw [KeyedTable.mem_entries_iff, hlookup] at hentry
        cases hentry
    | some row =>
        have hnodup : (table.entries.filter fun entry => entry.1 = id).Nodup :=
          (List.NodupKeys.nodup table.nodupKeys).filter _
        refine (List.perm_singleton.mp ((List.perm_ext_iff_of_nodup hnodup
          (List.nodup_singleton _)).mpr ?_))
        rintro ⟨key, other⟩
        rw [List.mem_filter, KeyedTable.mem_entries_iff, List.mem_singleton]
        constructor
        · rintro ⟨hother, hkey⟩
          obtain rfl : key = id := of_decide_eq_true hkey
          rw [hlookup, Option.some.injEq] at hother
          rw [hother]
        · rintro heq
          cases heq
          exact ⟨hlookup, decide_eq_true rfl⟩
  rw [migratedHistory, List.filter_map]
  have hcomp : ((fun row : HistRow V => decide (row.id = id)) ∘
      fun entry : (_ : DataPointId) × MatRow V =>
        insertToFlatHistory none "migration - no history to flat history" entry.1 entry.2) =
      fun entry => decide (entry.1 = id) := rfl
  rw [hcomp, hentries, List.map_map]
  rfl

/-- Every data point agrees when its history is what the migration inserts. -/
theorem agrees_migrated {state : StorageState V} (hempty : state.history = [])
    (hwell : ∀ id, ∀ row ∈ (state.point id).row, row.WellClocked) (id : DataPointId) :
    (state.migrated.point id).Agrees := by
  rw [PointState.Agrees]
  simp only [StorageState.point, StorageState.migrated, hempty, List.nil_append,
    migratedHistory_filter_id]
  cases hrow : state.materialized.lookup id with
  | none => rfl
  | some row =>
      refine ⟨hwell id row hrow, [], _, rfl, ⟨rfl, rfl, rfl⟩, ?_⟩
      intro other hother
      cases hother

theorem historyKey_migrated {state : StorageState V} (hempty : state.history = [])
    (hwell : ∀ id, ∀ row ∈ (state.point id).row, row.WellClocked) :
    HistoryKey state.migrated.history := by
  rw [StorageState.migrated, hempty, List.nil_append]
  constructor
  · intro entry hentry
    obtain ⟨⟨id, row⟩, hmem, rfl⟩ := List.mem_map.mp hentry
    have hclock := (hwell id row (KeyedTable.mem_entries_iff.mp hmem)).clock_ne_none
    intro hnone
    apply hclock
    rw [MatRow.clock, show row.subClock = none from hnone]
    rfl
  · rw [migratedHistory, List.pairwise_map]
    have hkeys := List.nodupKeys_iff_pairwise.mp state.materialized.nodupKeys
    exact hkeys.imp fun hne hsame => hne hsame.1

/-- The way back leaves the alive rows as they are. -/
theorem materializedRows_migrateFlatHistoryToNoHistory (ds : DataSeries) (now : Int)
    (state : StorageState V) :
    materializedRows none (migrateFlatHistoryToNoHistory ds now state).materialized =
      materializedRows none state.materialized := by
  change materializedRows none (prunedTable migrationOlderThan state.materialized) = _
  simp only [materializedRows, prunedTable, KeyedTable.deleteWhere, List.filter_map,
    List.filter_filter]
  congr 1
  apply List.filter_congr
  rintro ⟨id, row⟩ -
  cases hdeleted : row.deletedAt <;> simp [MatRow.DeletedBefore, hdeleted]

variable [UploadedFile V]

/-- The clocks of requests grow, from above those of the rows on. -/
structure ClocksIncrease (table : MatTable V) (requests : List (Modification V)) : Prop where
  above : ∀ request ∈ requests, ∀ entry ∈ table.entries, ∀ current ∈ entry.2.clock,
    current < request.clock
  increasing : requests.Pairwise fun request later => request.clock < later.clock

/-- With growing clocks no deletion is stale. -/
theorem noStaleDelete_of_clocksIncrease (ds : DataSeries) {state : StorageState V}
    (hwell : ∀ id, ∀ row ∈ (state.point id).row, row.WellClocked)
    {requests : List (Modification V)} (hclocks : ClocksIncrease state.materialized requests) :
    Runs.AllSteps (modify ds) NoStaleDelete state requests := by
  apply Runs.allSteps_of_pending (tableOlder_modify ds)
    (fun state op => noStaleDelete_of_tableOlder) hclocks.increasing
  intro request hrequest id
  refine ⟨hwell id, ?_⟩
  intro row hrow
  exact hclocks.above request hrequest ⟨id, row⟩ (KeyedTable.mem_entries_iff.mpr hrow)

/-- A data series changes its backend to flat history, takes further requests
with growing clocks and changes back.  The alive rows stay as they are at both
changes, and between them the two tables agree. -/
theorem migration_preserves (ds : DataSeries) (registry : List FileLookup) (storage : List String)
    (requests later : List (Modification V)) (now : Int)
    (hclocks : ClocksIncrease (Runs.run (modify { ds with backend := .dynamicSqlNoHistory })
      (StorageState.empty registry storage) requests).materialized later) :
    let noHistory := Runs.run (modify { ds with backend := .dynamicSqlNoHistory })
      (StorageState.empty registry storage) requests
    ∃ migrated, migrateNoHistoryToFlatHistory noHistory = some migrated ∧
      migrated.materialized = noHistory.materialized ∧
      (historyDataPoints ds none none migrated.history).Perm
        (materializedDataPoints ds none noHistory.materialized) ∧
      let final := Runs.run (modify { ds with backend := .dynamicSqlMaterializedFlatHistory })
        migrated later
      (∀ id, TablesAgree ds final id) ∧
        (historyDataPoints ds none none final.history).Perm
          (materializedDataPoints ds none final.materialized) ∧
        materializedRows none (migrateFlatHistoryToNoHistory ds now final).materialized =
          materializedRows none final.materialized ∧
        materializedRows none (migrateFlatHistoryToNoHistory ds now migrated).materialized =
          materializedRows none noHistory.materialized := by
  intro noHistory
  have hempty : noHistory.history = [] :=
    run_history_eq_nil { ds with backend := .dynamicSqlNoHistory } (by simp) registry storage
      requests
  have hwell : ∀ id, ∀ row ∈ (noHistory.point id).row, row.WellClocked :=
    run_wellClocked { ds with backend := .dynamicSqlNoHistory } registry storage requests
  have hmigrated : ∀ id, (noHistory.migrated.point id).Agrees := agrees_migrated hempty hwell
  have hsteps : Runs.AllSteps (modify { ds with backend := .dynamicSqlMaterializedFlatHistory })
      NoStaleDelete noHistory.migrated later := by
    apply noStaleDelete_of_clocksIncrease
    · intro id
      exact (hmigrated id).wellClocked
    · exact hclocks
  have hfinal := agrees_run _ rfl hmigrated hsteps
  refine ⟨noHistory.migrated, if_pos (historyKey_migrated hempty hwell), rfl,
    currentView_perm ds hmigrated, ?_⟩
  intro final
  exact ⟨fun id => tablesAgree_of_agrees ds (hfinal id), currentView_perm ds hfinal,
    materializedRows_migrateFlatHistoryToNoHistory ds now final,
    materializedRows_migrateFlatHistoryToNoHistory ds now noHistory.migrated⟩

end Migrate

namespace MigrationWitness

open ModificationWitness

/-- The second deletion takes the first one back. -/
def requests : List (Modification String) :=
  [write false [("note", some "old")] 1, delete 5, delete 3]

theorem migration_preserves_revived :
    let ds := series .dynamicSqlNoHistory
    let noHistory := Runs.run (modify ds) (StorageState.empty [] []) requests
    ∃ migrated, migrateNoHistoryToFlatHistory noHistory = some migrated ∧
      migrated.materialized = noHistory.materialized ∧
      (historyDataPoints ds none none migrated.history).Perm
        (materializedDataPoints ds none noHistory.materialized) ∧
      let final := Runs.run (modify (series .dynamicSqlMaterializedFlatHistory)) migrated
        [write true [("note", some "new")] 6, delete 7]
      (∀ id, TablesAgree ds final id) ∧
        (historyDataPoints ds none none final.history).Perm
          (materializedDataPoints ds none final.materialized) ∧
        materializedRows none (migrateFlatHistoryToNoHistory ds 9 final).materialized =
          materializedRows none final.materialized ∧
        materializedRows none (migrateFlatHistoryToNoHistory ds 9 migrated).materialized =
          materializedRows none noHistory.materialized :=
  migration_preserves (series .dynamicSqlNoHistory) [] [] requests
    [write true [("note", some "new")] 6, delete 7] 9 ⟨by decide, by decide⟩

end MigrationWitness

end NFCompose
