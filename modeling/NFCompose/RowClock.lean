/-
The clock of a materialised row and the two guards.  The guard of a write
compares with the clock of the row, also when the row is deleted; the guard of a
deletion compares with the last write only.  Apart from stale deletions both
admit exactly the clocks above that of the row, and every executed operation
leaves a row and a history row with its own clock.
-/
import NFCompose.Modification

namespace NFCompose

universe u

variable {V : Type u}

/-- The clock that the row stands for: its deletion, else its last write. -/
def MatRow.clock (row : MatRow V) : Option Clock :=
  row.subClock.map (Clock.mk (row.deletedAt.getD row.pointInTime))

def HistRow.clock (row : HistRow V) : Option Clock :=
  row.subClock.map (Clock.mk row.pointInTime)

/-- The row was written by an operation with a sub clock, and is not deleted
before the write that it still shows. -/
structure MatRow.WellClocked (row : MatRow V) : Prop where
  clock_ne_none : row.clock ≠ none
  deleted_after_write :
    ∀ deletedAt ∈ row.deletedAt, row.pointInTime ≤ deletedAt

/-- The clock is above that of the row, if there is a row. -/
def Newer (target : Option (MatRow V)) (clock : Clock) : Prop :=
  ∀ row ∈ target, ∀ current ∈ row.clock, current < clock

instance (target : Option (MatRow V)) (clock : Clock) :
    Decidable (Newer target clock) :=
  inferInstanceAs (Decidable (∀ row ∈ target, _))

theorem newer_none (clock : Clock) : Newer (none : Option (MatRow V)) clock := by
  simp [Newer]

theorem newer_some {row : MatRow V} {current : Clock}
    (hclock : row.clock = some current) (clock : Clock) :
    Newer (some row) clock ↔ current < clock := by
  simp [Newer, hclock]

/-- The guard of a write admits exactly the clocks above that of the row. -/
theorem upsertWhere_iff {row : MatRow V} {current : Clock}
    (hclock : row.clock = some current) (clock : Clock) :
    UpsertWhere row clock ↔ current < clock := by
  simp only [MatRow.clock, Option.map_eq_some_iff] at hclock
  obtain ⟨subClock, hsub, heq⟩ := hclock
  cases hdeleted : row.deletedAt with
  | none => simp [UpsertWhere, hsub, hdeleted, ← heq]
  | some deletedAt => simp [UpsertWhere, hsub, hdeleted, ← heq]

/-- A deletion is stale when the row is deleted already with a clock it does not
exceed, and the guard lets it through all the same. -/
def StaleDelete (row : MatRow V) (clock : Clock) : Prop :=
  row.deletedAt ≠ none ∧ DeleteWhere row clock ∧
    ∃ current ∈ row.clock, clock ≤ current

instance (row : MatRow V) (clock : Clock) :
    Decidable (StaleDelete row clock) :=
  inferInstanceAs (Decidable (_ ∧ _))

/-- The guard of a deletion that is not stale admits exactly the clocks above
that of the row. -/
theorem deleteWhere_iff {row : MatRow V} (hrow : row.WellClocked)
    {current clock : Clock} (hclock : row.clock = some current)
    (hstale : ¬ StaleDelete row clock) :
    DeleteWhere row clock ↔ current < clock := by
  have hclock' := hclock
  simp only [MatRow.clock, Option.map_eq_some_iff] at hclock
  obtain ⟨subClock, hsub, heq⟩ := hclock
  cases hdeleted : row.deletedAt with
  | none => simp [DeleteWhere, hsub, hdeleted, ← heq]
  | some deletedAt =>
      have hle := hrow.deleted_after_write deletedAt hdeleted
      rw [hdeleted, Option.getD_some] at heq
      constructor
      · intro hwhere
        by_contra hnot
        apply hstale
        refine ⟨by simp [hdeleted], hwhere, current, hclock', ?_⟩
        exact not_lt.mp hnot
      · intro hlt
        rw [DeleteWhere, hsub]
        rw [← heq] at hlt
        refine lt_of_le_of_lt ?_ hlt
        simp only [Clock.le_def]
        omega

/-- An older write of the row does not exceed the clock of the row. -/
theorem MatRow.WellClocked.pointInTime_le {row : MatRow V}
    (hrow : row.WellClocked) {current : Clock}
    (hclock : row.clock = some current) :
    row.pointInTime ≤ current.pointInTime := by
  simp only [MatRow.clock, Option.map_eq_some_iff] at hclock
  obtain ⟨subClock, -, rfl⟩ := hclock
  cases hdeleted : row.deletedAt with
  | none => exact Int.le_refl _
  | some deletedAt => exact hrow.deleted_after_write deletedAt hdeleted

/-- A deletion is no stale one; the guard of a write has no such gap. -/
def PointOp.NotStale (row : Option (MatRow V)) : PointOp V → Prop
  | .write .. => True
  | .delete deletion => ∀ target ∈ row, ¬ StaleDelete target deletion.clock

instance (row : Option (MatRow V)) :
    (op : PointOp V) → Decidable (op.NotStale row)
  | .write .. => isTrue trivial
  | .delete deletion =>
      inferInstanceAs
        (Decidable (∀ target ∈ row, ¬ StaleDelete target deletion.clock))

/-- The row that an executed deletion leaves. -/
def deletedRow (externalId : ExternalId) (clock : Clock)
    (target : Option (MatRow V)) : MatRow V :=
  match target with
  | none => {
      externalId := externalId
      pointInTime := clock.pointInTime
      insertedAt := clock.pointInTime
      deletedAt := some clock.pointInTime
      subClock := some clock.subClock
      data := fun _ => .null }
  | some target => { target with
      deletedAt := some clock.pointInTime
      subClock := some clock.subClock }

theorem centralDelete_eq {externalId : ExternalId} {clock : Clock}
    {target : Option (MatRow V)} (hrow : ∀ row ∈ target, row.WellClocked)
    (hstale : ∀ row ∈ target, ¬ StaleDelete row clock) :
    centralDelete externalId clock target =
      if Newer target clock then some (deletedRow externalId clock target)
      else none := by
  cases target with
  | none => rw [if_pos (newer_none clock)]; rfl
  | some row =>
      obtain ⟨current, hclock⟩ :=
        Option.ne_none_iff_exists'.mp (hrow row rfl).clock_ne_none
      have hiff := deleteWhere_iff (hrow row rfl) hclock (hstale row rfl)
      rw [← newer_some hclock] at hiff
      simp only [centralDelete, deletedRow, hiff]

/-- The row that an executed write leaves. -/
def writtenRow (columns : List Uuid) (values : MatRow V)
    (target : Option (MatRow V)) : MatRow V :=
  target.elim values (upsertSet columns values)

theorem centralInsert_eq {columns : List Uuid} {clock : Clock}
    {values : MatRow V} {target : Option (MatRow V)}
    (hrow : ∀ row ∈ target, row.WellClocked) :
    centralInsert columns clock values target =
      if Newer target clock then some (writtenRow columns values target)
      else none := by
  cases target with
  | none => rw [if_pos (newer_none clock)]; rfl
  | some row =>
      obtain ⟨current, hclock⟩ :=
        Option.ne_none_iff_exists'.mp (hrow row rfl).clock_ne_none
      have hiff := upsertWhere_iff hclock clock
      rw [← newer_some hclock] at hiff
      simp only [centralInsert, writtenRow, Option.elim_some, hiff]

theorem centralInsert_some {columns : List Uuid} {clock : Clock}
    {values row : MatRow V} {target : Option (MatRow V)}
    (hrow : centralInsert columns clock values target = some row) :
    row = writtenRow columns values target := by
  cases target with
  | none => exact (Option.some.inj hrow).symm
  | some target =>
      rw [centralInsert] at hrow
      split at hrow
      · exact (Option.some.inj hrow).symm
      · simp at hrow

/-- The history row of a write shows the columns of the returned row, taken
from the request or from the row as the columns are overwritten or not. -/
theorem historySelect_data (columns : List Uuid) (values : MatRow V)
    (target : Option (MatRow V)) :
    (historySelect columns values (writtenRow columns values target)).data =
      (writtenRow columns values target).data := by
  funext column
  cases target with
  | none => simp [historySelect, writtenRow]
  | some row =>
      by_cases hmem : column ∈ columns <;>
        simp [historySelect, writtenRow, upsertSet, hmem]

variable [UploadedFile V]

/-- The row that an executed operation leaves. -/
def PointOp.resultRow (ds : DataSeries) (target : Option (MatRow V)) :
    PointOp V → MatRow V
  | .write data isPartial clock _ _ =>
      writtenRow (setColumns ds isPartial data.payload)
        (valuesToInsert ds clock data) target
  | .delete deletion => deletedRow deletion.externalId deletion.clock target

/-- The history row that an executed operation appends. -/
def PointOp.resultEntry (ds : DataSeries) (id : DataPointId)
    (target : Option (MatRow V)) : PointOp V → HistRow V
  | .write data isPartial clock userId recordSource =>
      let columns := setColumns ds isPartial data.payload
      let values := valuesToInsert ds clock data
      insertToFlatHistory userId recordSource id
        (historySelect columns values (writtenRow columns values target))
  | .delete deletion =>
      insertToFlatHistory deletion.userId deletion.recordSource id
        (historySelectForDelete deletion.clock
          (deletedRow deletion.externalId deletion.clock target))

omit [UploadedFile V] in
/-- The row that a point keeps: the returned one, else the old one. -/
theorem PointState.put_row (ds : DataSeries) (point : PointState V)
    (returned : Option (MatRow V)) (historyRow : MatRow V → HistRow V) :
    (point.put ds returned historyRow).row = returned.or point.row := by
  cases returned <;> rfl

/-- What one operation can do to a data point: nothing when its clock is not
above that of the row, else it leaves its row and appends its history row. -/
theorem pointStep_eq (ds : DataSeries) (id : DataPointId)
    {point : PointState V} {op : PointOp V}
    (hrow : ∀ row ∈ point.row, row.WellClocked)
    (hstale : op.NotStale point.row) :
    pointStep ds id point op =
      if Newer point.row op.clock then
        ⟨some (op.resultRow ds point.row),
          if ds.backend = .dynamicSqlMaterializedFlatHistory then
            point.history ++ [op.resultEntry ds id point.row]
          else point.history⟩
      else point := by
  cases op with
  | write data isPartial clock userId recordSource =>
      simp only [pointStep, centralInsert_eq hrow, PointOp.clock]
      by_cases hnewer : Newer point.row clock <;>
        simp [hnewer, PointState.put, PointOp.resultRow, PointOp.resultEntry]
  | delete deletion =>
      simp only [pointStep, centralDelete_eq hrow hstale, PointOp.clock]
      by_cases hnewer : Newer point.row deletion.clock <;>
        simp [hnewer, PointState.put, PointOp.resultRow, PointOp.resultEntry]

theorem resultRow_clock (ds : DataSeries) (target : Option (MatRow V))
    (op : PointOp V) : (op.resultRow ds target).clock = some op.clock := by
  cases op <;> cases target <;> rfl

theorem resultRow_wellClocked (ds : DataSeries) {target : Option (MatRow V)}
    (hrow : ∀ row ∈ target, row.WellClocked) (op : PointOp V)
    (hnewer : Newer target op.clock) :
    (op.resultRow ds target).WellClocked := by
  refine ⟨by simp [resultRow_clock], ?_⟩
  intro deletedAt hdeleted
  cases op with
  | write data isPartial clock userId recordSource =>
      cases target <;>
        simp [PointOp.resultRow, writtenRow, upsertSet, valuesToInsert]
          at hdeleted
  | delete deletion =>
      cases target with
      | none =>
          simp only [PointOp.resultRow, deletedRow, Option.mem_def,
            Option.some.injEq] at hdeleted ⊢
          omega
      | some row =>
          obtain ⟨current, hclock⟩ :=
            Option.ne_none_iff_exists'.mp (hrow row rfl).clock_ne_none
          have hle := (hrow row rfl).pointInTime_le hclock
          have hlt := Clock.pointInTime_le_of_le
            (le_of_lt ((newer_some hclock deletion.clock).mp hnewer))
          simp only [PointOp.resultRow, deletedRow, Option.mem_def,
            Option.some.injEq] at hdeleted ⊢
          omega

theorem resultEntry_clock (ds : DataSeries) (id : DataPointId)
    (target : Option (MatRow V)) (op : PointOp V) :
    (op.resultEntry ds id target).clock = some op.clock := by
  cases op <;> cases target <;> rfl

theorem resultEntry_deleted (ds : DataSeries) (id : DataPointId)
    (target : Option (MatRow V)) (op : PointOp V) :
    (op.resultEntry ds id target).deleted =
      (op.resultRow ds target).deletedAt.isSome := by
  cases op <;> cases target <;> rfl

theorem resultEntry_data (ds : DataSeries) (id : DataPointId)
    (target : Option (MatRow V)) (op : PointOp V) :
    (op.resultEntry ds id target).data = (op.resultRow ds target).data := by
  cases op with
  | write data isPartial clock userId recordSource =>
      exact historySelect_data _ _ target
  | delete deletion => cases target <;> rfl

/-- The rows of a data point are well clocked after every operation that is no
stale deletion. -/
theorem pointStep_wellClocked (ds : DataSeries) (id : DataPointId)
    {point : PointState V} {op : PointOp V}
    (hrow : ∀ row ∈ point.row, row.WellClocked)
    (hstale : op.NotStale point.row) :
    ∀ row ∈ (pointStep ds id point op).row, row.WellClocked := by
  rw [pointStep_eq ds id hrow hstale]
  split
  · rename_i hnewer
    intro row hmem
    simp only [Option.mem_def, Option.some.injEq] at hmem
    exact hmem ▸ resultRow_wellClocked ds hrow op hnewer
  · exact hrow

end NFCompose
