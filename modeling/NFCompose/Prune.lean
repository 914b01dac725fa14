/-
Pruning the history of a data series: rows deleted long enough ago leave the
materialised table, older history rows that something newer supersedes leave
the history table, and the files registered for what was removed are
un-registered.
-/
import NFCompose.KeyedTable
import NFCompose.Modification

namespace NFCompose

universe u

variable {V : Type u}

/-- `deleted_at IS NOT NULL AND deleted_at < older_than`. -/
def MatRow.DeletedBefore (olderThan : Int) (row : MatRow V) : Prop :=
  ∃ deletedAt ∈ row.deletedAt, deletedAt < olderThan

instance (olderThan : Int) (row : MatRow V) :
    Decidable (row.DeletedBefore olderThan) :=
  inferInstanceAs (Decidable (∃ deletedAt ∈ row.deletedAt, _))

def prunedTable (olderThan : Int) (table : MatTable V) : MatTable V :=
  KeyedTable.deleteWhere (fun _ row => row.DeletedBefore olderThan) table

/-- `RETURNING id` of the deletion from the materialised table. -/
def prunedIds (olderThan : Int) (table : MatTable V) : List DataPointId :=
  (table.entries.filter fun entry => entry.2.DeletedBefore olderThan).map
    Sigma.fst

/-- A newer row of the data point exists, or its materialised row is gone. -/
def HistRow.SupersededIn (table : MatTable V) (historical : HistRow V) :
    Prop :=
  (∃ data ∈ table.lookup historical.id,
    RowLess historical.pointInTime historical.subClock data.pointInTime
      data.subClock) ∨
    (table.lookup historical.id).isNone

instance (table : MatTable V) (historical : HistRow V) :
    Decidable (historical.SupersededIn table) :=
  inferInstanceAs (Decidable (_ ∨ _))

/-- Row equality of `(id, point_in_time, sub_clock)`; NULL equals nothing. -/
def HistRow.SameKey (row other : HistRow V) : Prop :=
  row.id = other.id ∧ row.pointInTime = other.pointInTime ∧
    ∃ sub ∈ row.subClock, ∃ sub' ∈ other.subClock, sub = sub'

instance (row other : HistRow V) : Decidable (row.SameKey other) :=
  inferInstanceAs (Decidable (_ ∧ _))

/-- The WHERE of `generate_prune_query_flat_history`. -/
def PruneQueryFlatHistory (olderThan : Int) (table : MatTable V)
    (history : List (HistRow V)) (toDelete : HistRow V) : Prop :=
  ∃ historical ∈ history, historical.SupersededIn table ∧
    historical.pointInTime < olderThan ∧ historical.SameKey toDelete

instance (olderThan : Int) (table : MatTable V) (history : List (HistRow V))
    (toDelete : HistRow V) :
    Decidable (PruneQueryFlatHistory olderThan table history toDelete) :=
  inferInstanceAs (Decidable (∃ historical ∈ history, _))

/-- The identifier of a removed history row. -/
def HistRow.identifiers (row : HistRow V) : List HistoryDataPointIdentifier :=
  row.subClock.toList.map fun sub => ⟨row.id, row.pointInTime, sub⟩

/-- Un-register the files of all removed data points. -/
def unregisterDatapoints (ds : DataSeries) (now : Int)
    (ids : List DataPointId) (registry : List FileLookup) : List FileLookup :=
  ids.foldl
    (fun registry id => ds.fileColumns.foldl
      (fun registry factId =>
        deleteAllForDatapoint ds.tenantId ds.id factId id now registry)
      registry)
    registry

/-- Un-register the files registered under the keys of removed history rows. -/
def unregisterHistory (ds : DataSeries) (now : Int)
    (removed : List (HistRow V)) (registry : List FileLookup) :
    List FileLookup :=
  removed.foldl
    (fun registry row => ds.fileColumns.foldl
      (fun registry factId =>
        deleteAllMatching ds.tenantId ds.id factId row.identifiers now
          registry)
      registry)
    registry

def pruneHistory (ds : DataSeries) (olderThan now : Int)
    (state : StorageState V) : StorageState V :=
  let table := prunedTable olderThan state.materialized
  match ds.backend with
  | .dynamicSqlNoHistory =>
      { state with
        materialized := table
        fileLookup := unregisterDatapoints ds now
          (prunedIds olderThan state.materialized) state.fileLookup }
  | .dynamicSqlMaterializedFlatHistory =>
      { state with
        materialized := table
        history := state.history.filter fun row =>
          ¬ PruneQueryFlatHistory olderThan table state.history row
        fileLookup := unregisterHistory ds now
          (state.history.filter fun row =>
            PruneQueryFlatHistory olderThan table state.history row)
          state.fileLookup }
  | _ => state

theorem lookup_prunedTable {olderThan : Int} {table : MatTable V}
    {id : DataPointId} {row : MatRow V} :
    (prunedTable olderThan table).lookup id = some row ↔
      table.lookup id = some row ∧ ¬ row.DeletedBefore olderThan := by
  rw [prunedTable, KeyedTable.lookup_deleteWhere]
  simp

/-- Un-registering keeps a row unless it is registered under the key of a
removed history row. -/
theorem mem_unregisterHistory (ds : DataSeries) (now : Int)
    {removed : List (HistRow V)} {registry : List FileLookup}
    {entry : FileLookup} (hmem : entry ∈ registry)
    (hkept : ∀ row ∈ removed,
      ⟨entry.dataPointId, entry.pointInTime, entry.subClock⟩ ∉
        row.identifiers) :
    entry ∈ unregisterHistory ds now removed registry := by
  refine List.foldlRecOn removed _ hmem ?_
  intro registry hmem row hrow
  refine List.foldlRecOn ds.fileColumns _ hmem ?_
  intro registry hmem factId _
  apply mem_markDeleted_of_not hmem
  simp [hkept row hrow]

/-- Whatever is not marked after un-registering was there before. -/
theorem mem_of_mem_unregisterHistory (ds : DataSeries) (now : Int)
    {removed : List (HistRow V)} {registry : List FileLookup}
    {entry : FileLookup}
    (hmem : entry ∈ unregisterHistory ds now removed registry)
    (hlive : entry.deletedAt = none) : entry ∈ registry := by
  revert hmem
  refine List.foldlRecOn (motive := fun current =>
    entry ∈ current → entry ∈ registry) removed _ (fun hmem => hmem) ?_
  intro current ih row _
  refine List.foldlRecOn (motive := fun current =>
    entry ∈ current → entry ∈ registry) ds.fileColumns _ ih ?_
  intro current ih factId _ hmem
  exact ih (mem_of_mem_markDeleted hmem hlive)

end NFCompose
