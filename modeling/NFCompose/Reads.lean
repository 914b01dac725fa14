/-
The rows that the list queries select: from the materialised table for the
present, from the flat history table by an anti-join with the later rows of the
same data point.
-/
import NFCompose.KeyedTable
import NFCompose.RowClock

namespace NFCompose

universe u

variable {V : Type u}

/-- The row comparison of the history queries. -/
def HistRow.Before (row other : HistRow V) : Prop :=
  RowLess row.pointInTime row.subClock other.pointInTime other.subClock

instance (row other : HistRow V) : Decidable (row.Before other) :=
  inferInstanceAs (Decidable (RowLess _ _ _ _))

theorem HistRow.before_iff {row other : HistRow V} {clock clock' : Clock}
    (hrow : row.clock = some clock) (hother : other.clock = some clock') :
    row.Before other ↔ clock < clock' := by
  simp only [HistRow.clock, Option.map_eq_some_iff] at hrow hother
  obtain ⟨sub, hsub, rfl⟩ := hrow
  obtain ⟨sub', hsub', rfl⟩ := hother
  rw [HistRow.Before, hsub, hsub', rowLess_some]

theorem HistRow.clock_pointInTime {row : HistRow V} {clock : Clock}
    (hclock : row.clock = some clock) :
    row.pointInTime = clock.pointInTime := by
  simp only [HistRow.clock, Option.map_eq_some_iff] at hclock
  obtain ⟨sub, -, rfl⟩ := hclock
  rfl

/-- The bounds that a query puts on a point in time. -/
def InBounds (pointInTime changesSince : Option Int) (time : Int) : Prop :=
  (∀ bound ∈ pointInTime, time ≤ bound) ∧ ∀ bound ∈ changesSince, time > bound

instance (pointInTime changesSince : Option Int) (time : Int) :
    Decidable (InBounds pointInTime changesSince time) :=
  inferInstanceAs (Decidable (_ ∧ _))

/-- The join condition between `ds_dp` and `ds_dp2`. -/
def HistRow.JoinsLater (pointInTime changesSince : Option Int)
    (row other : HistRow V) : Prop :=
  row.id = other.id ∧ row.Before other ∧
    InBounds pointInTime changesSince other.pointInTime

instance (pointInTime changesSince : Option Int) (row other : HistRow V) :
    Decidable (row.JoinsLater pointInTime changesSince other) :=
  inferInstanceAs (Decidable (_ ∧ _))

/-- The query over the flat history table.  A row with no partner in the left
outer join comes out once. -/
def flatHistoryRows (pointInTime changesSince : Option Int)
    (history : List (HistRow V)) : List (HistRow V) :=
  history.filter fun row =>
    (∀ other ∈ history, ¬ row.JoinsLater pointInTime changesSince other) ∧
      row.deleted = false ∧
      InBounds pointInTime changesSince row.pointInTime

/-- The query over the materialised table. -/
def materializedRows (changesSince : Option Int) (table : MatTable V) :
    List (DataPointId × MatRow V) :=
  (table.entries.map fun entry => (entry.1, entry.2)).filter fun entry =>
    entry.2.deletedAt = none ∧ InBounds none changesSince entry.2.pointInTime

/-- A data point as a reader sees it. -/
structure DataPoint (V : Type u) where
  id : DataPointId
  pointInTime : Int
  payload : List (Uuid × Cell V)
deriving DecidableEq, Repr

def HistRow.dataPoint (ds : DataSeries) (row : HistRow V) : DataPoint V :=
  ⟨row.id, row.pointInTime, ds.payload row.data⟩

def MatRow.dataPoint (ds : DataSeries) (id : DataPointId) (row : MatRow V) :
    DataPoint V :=
  ⟨id, row.pointInTime, ds.payload row.data⟩

def historyDataPoints (ds : DataSeries)
    (pointInTime changesSince : Option Int) (history : List (HistRow V)) :
    List (DataPoint V) :=
  (flatHistoryRows pointInTime changesSince history).map
    (HistRow.dataPoint ds)

def materializedDataPoints (ds : DataSeries) (changesSince : Option Int)
    (table : MatTable V) : List (DataPoint V) :=
  (materializedRows changesSince table).map fun row =>
    row.2.dataPoint ds row.1

theorem mem_materializedRows {changesSince : Option Int} {table : MatTable V}
    {id : DataPointId} {row : MatRow V} :
    (id, row) ∈ materializedRows changesSince table ↔
      table.lookup id = some row ∧ row.deletedAt = none ∧
        InBounds none changesSince row.pointInTime := by
  rw [materializedRows, List.mem_filter]
  simp only [decide_eq_true_eq, List.mem_map, Prod.mk.injEq]
  refine and_congr_left fun _ => ?_
  rw [← KeyedTable.mem_entries_iff]
  constructor
  · rintro ⟨⟨key, value⟩, hmem, rfl, rfl⟩
    exact hmem
  · exact fun hmem => ⟨⟨id, row⟩, hmem, rfl, rfl⟩

/-- Every data point comes at most once from the materialised table. -/
theorem materializedRows_ids_nodup (changesSince : Option Int)
    (table : MatTable V) :
    ((materializedRows changesSince table).map Prod.fst).Nodup := by
  have hkeys : (table.entries.map fun entry =>
      (entry.1, entry.2)).map Prod.fst = table.keys := by
    rw [List.map_map]
    rfl
  have hnodup := table.keys_nodup
  rw [← hkeys] at hnodup
  exact hnodup.sublist (List.filter_sublist.map _)

theorem materializedDataPoints_ids_nodup (ds : DataSeries)
    (changesSince : Option Int) (table : MatTable V) :
    ((materializedDataPoints ds changesSince table).map
      DataPoint.id).Nodup := by
  have hnodup := materializedRows_ids_nodup changesSince table
  rw [materializedDataPoints, List.map_map]
  exact hnodup

theorem mem_materializedDataPoints {ds : DataSeries}
    {changesSince : Option Int} {table : MatTable V} {point : DataPoint V} :
    point ∈ materializedDataPoints ds changesSince table ↔
      ∃ row, table.lookup point.id = some row ∧ row.deletedAt = none ∧
        InBounds none changesSince row.pointInTime ∧
        row.dataPoint ds point.id = point := by
  rw [materializedDataPoints, List.mem_map]
  constructor
  · rintro ⟨⟨id, row⟩, hmem, rfl⟩
    obtain ⟨hlookup, halive, hbounds⟩ := mem_materializedRows.mp hmem
    exact ⟨row, hlookup, halive, hbounds, rfl⟩
  · rintro ⟨row, hlookup, halive, hbounds, heq⟩
    exact ⟨(point.id, row),
      mem_materializedRows.mpr ⟨hlookup, halive, hbounds⟩, heq⟩

/-- The history query answers for each data point from its own history. -/
theorem flatHistoryRows_filter_id (pointInTime changesSince : Option Int)
    (history : List (HistRow V)) (id : DataPointId) :
    (flatHistoryRows pointInTime changesSince history).filter
        (fun row => row.id = id) =
      flatHistoryRows pointInTime changesSince
        (history.filter fun row => row.id = id) := by
  rw [flatHistoryRows, flatHistoryRows, List.filter_filter,
    List.filter_filter]
  apply List.filter_congr
  intro row _
  by_cases hid : row.id = id
  · have hjoin : (∀ other ∈ history,
          ¬ row.JoinsLater pointInTime changesSince other) ↔
        ∀ other ∈ history.filter (fun row => row.id = id),
          ¬ row.JoinsLater pointInTime changesSince other := by
      constructor
      · exact fun hall other hother => hall other (List.mem_of_mem_filter hother)
      · intro hall other hother hjoins
        refine hall other ?_ hjoins
        simp [hother, ← hjoins.1, hid]
    simp [hid, hjoin]
  · simp [hid]

end NFCompose
