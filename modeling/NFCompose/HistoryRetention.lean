/-
What pruning leaves of a flat history.  A write is admitted above the row it
replaces, a deletion only above the last write, so under a deleted row every
written entry has a later deletion entry; the prune removes the entries of a
data point from the oldest one on.
-/
import NFCompose.Prune
import NFCompose.TimeTravel

namespace NFCompose

universe u

variable {V : Type u}

theorem RowLess.trans {time time' time'' : Int} {sub sub' sub'' : Option Int}
    (hfirst : RowLess time sub time' sub') (hsecond : RowLess time' sub' time'' sub'') :
    RowLess time sub time'' sub'' := by
  rcases hfirst with hlt | ⟨heq, first, hfirst, middle, hmiddle, hlt⟩
  · rcases hsecond with hlt' | ⟨heq', -⟩
    · exact Or.inl (lt_trans hlt hlt')
    · exact Or.inl (heq' ▸ hlt)
  · rcases hsecond with hlt' | ⟨heq', other, hother, last, hlast, hlt'⟩
    · exact Or.inl (heq ▸ hlt')
    · rw [hmiddle, Option.mem_some_iff] at hother
      exact Or.inr ⟨heq.trans heq', first, hfirst, last, hlast, lt_trans hlt (hother ▸ hlt')⟩

/-- A later entry of the history says that the data point is deleted. -/
def HistRow.DeletedLater (history : List (HistRow V)) (entry : HistRow V) : Prop :=
  ∃ other ∈ history, other.id = entry.id ∧ other.deleted = true ∧ entry.Before other

/-- The history of a data point against its row. -/
structure PointState.Recorded (id : DataPointId) (point : PointState V) : Prop where
  ids : ∀ entry ∈ point.history, entry.id = id
  clocked : ∀ entry ∈ point.history, ∃ clock, entry.clock = some clock
  missing : point.row = none → point.history = []
  shown : ∀ row, point.row = some row → row.deletedAt = none →
    ∃ entry ∈ point.history, ∃ clock, entry.clock = some clock ∧ row.clock = some clock
  written : ∀ row, point.row = some row → row.deletedAt = none →
    ∀ entry ∈ point.history, entry.deleted = false →
      entry.DeletedLater point.history ∨
        ∃ clock current, entry.clock = some clock ∧ row.clock = some current ∧ clock ≤ current
  deleted : ∀ row, point.row = some row → row.deletedAt ≠ none →
    ∀ entry ∈ point.history, entry.deleted = false → entry.DeletedLater point.history

theorem HistRow.DeletedLater.append {history : List (HistRow V)} {entry : HistRow V}
    (hlater : entry.DeletedLater history) (next : HistRow V) :
    entry.DeletedLater (history ++ [next]) := by
  obtain ⟨other, hmem, hother⟩ := hlater
  exact ⟨other, List.mem_append_left _ hmem, hother⟩

theorem centralDelete_some {externalId : ExternalId} {clock : Clock}
    {target : Option (MatRow V)} {row : MatRow V}
    (hrow : centralDelete externalId clock target = some row) :
    row = deletedRow externalId clock target := by
  cases target with
  | none => exact (Option.some.inj hrow).symm
  | some target =>
      rw [centralDelete] at hrow
      split at hrow
      · exact (Option.some.inj hrow).symm
      · simp at hrow

/-- The operation is above the write that an alive row shows. -/
def AboveAlive (target : Option (MatRow V)) (clock : Clock) : Prop :=
  ∀ row, target = some row → row.deletedAt = none →
    ∀ current, row.clock = some current → current < clock

theorem aboveAlive_of_centralInsert {columns : List Uuid} {clock : Clock}
    {values row : MatRow V} {target : Option (MatRow V)}
    (hrow : centralInsert columns clock values target = some row) : AboveAlive target clock := by
  rintro target rfl halive current hcurrent
  rw [centralInsert] at hrow
  split at hrow
  · rename_i hwhere
    exact (upsertWhere_iff hcurrent clock).mp hwhere
  · simp at hrow

theorem aboveAlive_of_centralDelete {externalId : ExternalId} {clock : Clock}
    {row : MatRow V} {target : Option (MatRow V)}
    (hrow : centralDelete externalId clock target = some row) : AboveAlive target clock := by
  rintro target rfl halive current hcurrent
  rw [centralDelete] at hrow
  split at hrow
  · rename_i hwhere
    obtain ⟨sub, hsub, rfl⟩ := Option.map_eq_some_iff.mp hcurrent
    rw [DeleteWhere, hsub] at hwhere
    rw [halive, Option.getD_none]
    exact hwhere
  · simp at hrow

/-- Below an operation that is carried out, every entry shown so far is deleted later
or older. -/
theorem PointState.Recorded.deleted_or_older {id : DataPointId} {point : PointState V}
    (hrecorded : point.Recorded id) {clock : Clock} (habove : AboveAlive point.row clock)
    {entry : HistRow V} (hentry : entry ∈ point.history) (hshown : entry.deleted = false) :
    entry.DeletedLater point.history ∨ ∃ older, entry.clock = some older ∧ older < clock := by
  cases hrow : point.row with
  | none =>
      rw [hrecorded.missing hrow] at hentry
      cases hentry
  | some row =>
      by_cases halive : row.deletedAt = none
      · rcases hrecorded.written row hrow halive entry hentry hshown with
          hlater | ⟨older, current, holder, hcurrent, hle⟩
        · exact Or.inl hlater
        · exact Or.inr ⟨older, holder,
            lt_of_le_of_lt hle (habove row hrow halive current hcurrent)⟩
      · exact Or.inl (hrecorded.deleted row hrow halive entry hentry hshown)

section Steps

variable [UploadedFile V] {ds : DataSeries}
  (hbackend : ds.backend = .dynamicSqlMaterializedFlatHistory)
include hbackend

/-- What one operation can do to a data point, whatever its clock. -/
theorem pointStep_cases (id : DataPointId) (point : PointState V) (op : PointOp V) :
    pointStep ds id point op = point ∨
      AboveAlive point.row op.clock ∧
        pointStep ds id point op = ⟨some (op.resultRow ds point.row),
          point.history ++ [op.resultEntry ds id point.row]⟩ := by
  cases op with
  | write data isPartial clock userId recordSource =>
      simp only [pointStep]
      cases hrow : centralInsert (setColumns ds isPartial data.payload) clock
          (valuesToInsert ds clock data) point.row with
      | none => exact Or.inl rfl
      | some row =>
          right
          refine ⟨aboveAlive_of_centralInsert hrow, ?_⟩
          rw [PointState.put, if_pos hbackend, centralInsert_some hrow]
          rfl
  | delete deletion =>
      simp only [pointStep]
      cases hrow : centralDelete deletion.externalId deletion.clock point.row with
      | none => exact Or.inl rfl
      | some row =>
          right
          refine ⟨aboveAlive_of_centralDelete hrow, ?_⟩
          rw [PointState.put, if_pos hbackend, centralDelete_some hrow]
          rfl

theorem recorded_pointStep {id : DataPointId} {point : PointState V}
    (hrecorded : point.Recorded id) (op : PointOp V) : (pointStep ds id point op).Recorded id := by
  rcases pointStep_cases hbackend id point op with hsame | ⟨habove, hstep⟩
  · rwa [hsame]
  · have hclock := resultEntry_clock ds id point.row op
    have hdeleted := resultEntry_deleted ds id point.row op
    have hid : (op.resultEntry ds id point.row).id = id := by cases op <;> rfl
    rw [hstep]
    constructor
    · intro entry hentry
      rcases List.mem_append.mp hentry with hentry | hentry
      · exact hrecorded.ids entry hentry
      · rw [List.mem_singleton.mp hentry, hid]
    · intro entry hentry
      rcases List.mem_append.mp hentry with hentry | hentry
      · exact hrecorded.clocked entry hentry
      · exact ⟨op.clock, by rw [List.mem_singleton.mp hentry, hclock]⟩
    · intro hnone
      cases hnone
    · intro row hrow _
      rw [← Option.some.inj hrow]
      exact ⟨_, List.mem_append_right _ (List.mem_singleton.mpr rfl), op.clock, hclock,
        resultRow_clock ds point.row op⟩
    · intro row hrow _ entry hentry hshown
      rw [← Option.some.inj hrow]
      rcases List.mem_append.mp hentry with hentry | hentry
      · rcases hrecorded.deleted_or_older habove hentry hshown with
          hlater | ⟨clock, hentryClock, hlt⟩
        · exact Or.inl (hlater.append _)
        · exact Or.inr ⟨clock, op.clock, hentryClock, resultRow_clock ds point.row op,
            le_of_lt hlt⟩
      · right
        rw [List.mem_singleton.mp hentry]
        exact ⟨op.clock, op.clock, hclock, resultRow_clock ds point.row op, le_refl _⟩
    · intro row hrow hgone entry hentry hshown
      rw [← Option.some.inj hrow] at hgone
      have hlast : (op.resultEntry ds id point.row).deleted = true := by
        rw [hdeleted, Option.isSome_iff_ne_none]
        exact hgone
      rcases List.mem_append.mp hentry with hentry | hentry
      · rcases hrecorded.deleted_or_older habove hentry hshown with
          hlater | ⟨clock, hentryClock, hlt⟩
        · exact hlater.append _
        · refine ⟨_, List.mem_append_right _ (List.mem_singleton.mpr rfl), ?_, hlast, ?_⟩
          · rw [hid, hrecorded.ids entry hentry]
          · exact (HistRow.before_iff hentryClock hclock).mpr hlt
      · rw [List.mem_singleton.mp hentry, hlast] at hshown
        cases hshown

theorem recorded_run (registry : List FileLookup) (storage : List String)
    (requests : List (Modification V)) (id : DataPointId) :
    ((Runs.run (modify ds) (StorageState.empty registry storage) requests).point id).Recorded
      id := by
  rw [point_run_modify]
  apply Runs.run_keeps (PointState.Recorded id)
    (fun _ op hrecorded => recorded_pointStep hbackend hrecorded op)
  constructor
  · intro entry hentry
    cases hentry
  · intro entry hentry
    cases hentry
  · exact fun _ => rfl
  · intro row hrow
    cases hrow
  · intro row hrow
    cases hrow
  · intro row hrow
    cases hrow

end Steps

/-- What pruning owes to the rows of a data series. -/
structure RetainsHistory (olderThan : Int) (before after : StorageState V) : Prop where
  alive : ∀ id row, row.deletedAt = none →
    (after.materialized.lookup id = some row ↔ before.materialized.lookup id = some row)
  kept : after.history.Sublist before.history
  recent : ∀ entry ∈ before.history, olderThan ≤ entry.pointInTime → entry ∈ after.history
  latest : ∀ id row, before.materialized.lookup id = some row → row.deletedAt = none →
    ∀ entry ∈ before.history, entry.id = id →
      (∀ other ∈ before.history, other.id = id → ¬entry.Before other) → entry ∈ after.history
  current : flatHistoryRows none none after.history = flatHistoryRows none none before.history
  removed : ∀ id row deletedAt, before.materialized.lookup id = some row →
    row.deletedAt = some deletedAt → deletedAt < olderThan →
    ∀ entry ∈ after.history, entry.id = id → olderThan ≤ entry.pointInTime

section Prune

variable {olderThan : Int} {state : StorageState V}

/-- The key of an entry decides whether it is removed. -/
theorem pruneQueryFlatHistory_iff {table : MatTable V} {history : List (HistRow V)}
    {entry : HistRow V} (hmem : entry ∈ history) {clock : Clock}
    (hclock : entry.clock = some clock) :
    PruneQueryFlatHistory olderThan table history entry ↔
      entry.SupersededIn table ∧ entry.pointInTime < olderThan := by
  obtain ⟨sub, hsub, -⟩ := Option.map_eq_some_iff.mp hclock
  constructor
  · rintro ⟨historical, -, hsuperseded, hold, hid, htime, other, hother, same, hsame, rfl⟩
    have hsubs : historical.subClock = entry.subClock := by
      rw [Option.mem_def] at hother hsame
      rw [hother, hsame]
    rw [HistRow.SupersededIn, ← hid, ← htime, ← hsubs]
    exact ⟨hsuperseded, hold⟩
  · exact fun ⟨hsuperseded, hold⟩ =>
      ⟨entry, hmem, hsuperseded, hold, rfl, rfl, sub, hsub, sub, hsub, rfl⟩

/-- What supersedes an entry supersedes those before it. -/
theorem HistRow.SupersededIn.of_before {table : MatTable V} {entry other : HistRow V}
    (hother : other.SupersededIn table) (hid : entry.id = other.id)
    (hbefore : entry.Before other) : entry.SupersededIn table := by
  rcases hother with ⟨row, hrow, hless⟩ | hnone
  · exact Or.inl ⟨row, hid ▸ hrow, hbefore.trans hless⟩
  · exact Or.inr (hid ▸ hnone)

variable (hrecorded : ∀ id, (state.point id).Recorded id)
include hrecorded

theorem clock_of_mem_history {entry : HistRow V} (hmem : entry ∈ state.history) :
    ∃ clock, entry.clock = some clock :=
  (hrecorded entry.id).clocked entry (List.mem_filter.mpr ⟨hmem, decide_eq_true rfl⟩)

/-- What an alive row supersedes has a later entry, the one that the row shows. -/
theorem later_of_alive {entry : HistRow V} {row : MatRow V}
    (hrow : state.materialized.lookup entry.id = some row) (halive : row.deletedAt = none)
    (hless : RowLess entry.pointInTime entry.subClock row.pointInTime row.subClock) :
    ∃ other ∈ state.history, other.id = entry.id ∧ entry.Before other := by
  obtain ⟨shown, hshown, clock, hclock, hcurrent⟩ := (hrecorded entry.id).shown row hrow halive
  obtain ⟨hshown, hid⟩ := List.mem_filter.mp hshown
  refine ⟨shown, hshown, of_decide_eq_true hid, ?_⟩
  obtain ⟨sub, hsub, rfl⟩ := Option.map_eq_some_iff.mp hclock
  obtain ⟨rowSub, hrowSub, heq⟩ := Option.map_eq_some_iff.mp hcurrent
  rw [halive, Option.getD_none, Clock.mk.injEq] at heq
  rw [HistRow.Before, hsub, ← heq.1, ← heq.2, ← hrowSub]
  exact hless

/-- A written entry that the prune removes has a later one. -/
theorem later_of_superseded {entry : HistRow V} (hmem : entry ∈ state.history)
    (hwritten : entry.deleted = false)
    (hsuperseded : entry.SupersededIn (prunedTable olderThan state.materialized)) :
    ∃ other ∈ state.history, other.id = entry.id ∧ entry.Before other := by
  have hpoint : entry ∈ (state.point entry.id).history :=
    List.mem_filter.mpr ⟨hmem, decide_eq_true rfl⟩
  have hgone : ∀ row, state.materialized.lookup entry.id = some row → row.deletedAt ≠ none →
      ∃ other ∈ state.history, other.id = entry.id ∧ entry.Before other := by
    intro row hrow hdeleted
    obtain ⟨other, hother, hid, -, hbefore⟩ :=
      (hrecorded entry.id).deleted row hrow hdeleted entry hpoint hwritten
    exact ⟨other, List.mem_of_mem_filter hother, hid, hbefore⟩
  cases hrow : state.materialized.lookup entry.id with
  | none =>
      rw [(hrecorded entry.id).missing hrow] at hpoint
      cases hpoint
  | some row =>
      by_cases halive : row.deletedAt = none
      · rcases hsuperseded with ⟨data, hdata, hless⟩ | hnone
        · have hsame := (lookup_prunedTable.mp hdata).1
          rw [hrow, Option.some.injEq] at hsame
          subst hsame
          exact later_of_alive hrecorded hrow halive hless
        · have hkept : (prunedTable olderThan state.materialized).lookup entry.id = some row :=
            lookup_prunedTable.mpr ⟨hrow, by simp [MatRow.DeletedBefore, halive]⟩
          rw [hkept] at hnone
          cases hnone
      · exact hgone row hrow halive

theorem mem_pruned_history {table : MatTable V} {entry : HistRow V} :
    entry ∈ state.history.filter (fun row =>
        ¬PruneQueryFlatHistory olderThan table state.history row) ↔
      entry ∈ state.history ∧ ¬(entry.SupersededIn table ∧ entry.pointInTime < olderThan) := by
  rw [List.mem_filter, decide_eq_true_eq]
  refine and_congr_right fun hmem => ?_
  obtain ⟨clock, hclock⟩ := clock_of_mem_history hrecorded hmem
  rw [pruneQueryFlatHistory_iff hmem hclock]

/-- The prune removes the entries of a data point from the oldest one on, so it
leaves the current view. -/
theorem flatHistoryRows_pruned :
    flatHistoryRows none none (state.history.filter fun row =>
        ¬PruneQueryFlatHistory olderThan (prunedTable olderThan state.materialized)
          state.history row) =
      flatHistoryRows none none state.history := by
  rw [flatHistoryRows, flatHistoryRows, List.filter_filter]
  apply List.filter_congr
  intro row hrow
  obtain ⟨clock, hclock⟩ := clock_of_mem_history hrecorded hrow
  rw [Bool.eq_iff_iff, Bool.and_eq_true, decide_eq_true_eq, decide_eq_true_eq, decide_eq_true_eq,
    pruneQueryFlatHistory_iff hrow hclock]
  constructor
  · rintro ⟨⟨hlatest, hshown⟩, hkept⟩
    refine ⟨fun other hother hjoins => ?_, hshown⟩
    by_cases hpruned : other.SupersededIn (prunedTable olderThan state.materialized) ∧
        other.pointInTime < olderThan
    · apply hkept
      exact ⟨hpruned.1.of_before hjoins.1 hjoins.2.1,
        lt_of_le_of_lt hjoins.2.1.pointInTime_le hpruned.2⟩
    · exact hlatest other ((mem_pruned_history hrecorded).mpr ⟨hother, hpruned⟩) hjoins
  · rintro ⟨hlatest, hshown⟩
    refine ⟨⟨fun other hother => hlatest other (List.mem_of_mem_filter hother), hshown⟩, ?_⟩
    rintro ⟨hsuperseded, -⟩
    obtain ⟨other, hother, hid, hbefore⟩ :=
      later_of_superseded hrecorded hrow hshown.1 hsuperseded
    exact hlatest other hother ⟨hid.symm, hbefore, by simp [InBounds]⟩

theorem retainsHistory_pruneHistory {ds : DataSeries}
    (hbackend : ds.backend = .dynamicSqlMaterializedFlatHistory) (now : Int) :
    RetainsHistory olderThan state (pruneHistory ds olderThan now state) := by
  simp only [pruneHistory, hbackend]
  constructor
  · intro id row halive
    rw [lookup_prunedTable]
    exact and_iff_left (by simp [MatRow.DeletedBefore, halive])
  · exact List.filter_sublist
  · intro entry hentry hrecent
    exact (mem_pruned_history hrecorded).mpr ⟨hentry, fun hold => not_lt.mpr hrecent hold.2⟩
  · intro id row hrow halive entry hentry hid hlatest
    subst hid
    refine (mem_pruned_history hrecorded).mpr ⟨hentry, fun ⟨hsuperseded, _⟩ => ?_⟩
    have hkept : (prunedTable olderThan state.materialized).lookup entry.id = some row :=
      lookup_prunedTable.mpr ⟨hrow, by simp [MatRow.DeletedBefore, halive]⟩
    rcases hsuperseded with ⟨data, hdata, hless⟩ | hnone
    · rw [Option.mem_def, hkept, Option.some.injEq] at hdata
      subst hdata
      obtain ⟨other, hother, hid, hbefore⟩ :=
        later_of_alive hrecorded hrow halive hless
      exact hlatest other hother hid hbefore
    · rw [hkept] at hnone
      cases hnone
  · exact flatHistoryRows_pruned hrecorded
  · intro id row deletedAt hrow hdeleted hold entry hentry hid
    subst hid
    obtain ⟨-, hkept⟩ := (mem_pruned_history hrecorded).mp hentry
    by_contra hrecent
    refine hkept ⟨Or.inr ?_, not_le.mp hrecent⟩
    rw [Option.isNone_iff_eq_none, Option.eq_none_iff_forall_ne_some]
    intro data hdata
    obtain ⟨hsame, hnot⟩ := lookup_prunedTable.mp hdata
    rw [hrow, Option.some.injEq] at hsame
    exact hnot ⟨deletedAt, hsame ▸ hdeleted, hold⟩

end Prune

/-- In every state that writes, PATCHes and deletions lead to, whatever their
clocks, pruning keeps what is current and what is recent. -/
theorem prune_retains_history [UploadedFile V] (ds : DataSeries)
    (hbackend : ds.backend = .dynamicSqlMaterializedFlatHistory) (registry : List FileLookup)
    (storage : List String) (requests : List (Modification V)) (olderThan now : Int) :
    RetainsHistory olderThan
      (Runs.run (modify ds) (StorageState.empty registry storage) requests)
      (pruneHistory ds olderThan now
        (Runs.run (modify ds) (StorageState.empty registry storage) requests)) :=
  retainsHistory_pruneHistory (recorded_run hbackend registry storage requests) hbackend now

namespace RetentionWitness

open ModificationWitness

/-- The point is written, deleted, deleted again with an older clock, and
re-created before its first deletion. -/
def requests : List (Modification String) :=
  [write false [("note", some "old")] 1, delete 5, delete 2, write false [("note", some "new")] 3]

theorem requests_retained :
    RetainsHistory 4
      (Runs.run (modify (series .dynamicSqlMaterializedFlatHistory)) (StorageState.empty [] [])
        requests)
      (pruneHistory (series .dynamicSqlMaterializedFlatHistory) 4 10
        (Runs.run (modify (series .dynamicSqlMaterializedFlatHistory)) (StorageState.empty [] [])
          requests)) :=
  prune_retains_history _ rfl [] [] requests 4 10

end RetentionWitness

end NFCompose
