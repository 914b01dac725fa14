/-
The two tables of the flat history backend.  As long as no deletion is stale,
the history of a data point ends in an entry that shows the same as its
materialised row, and every other entry is older.
-/
import NFCompose.Convergence
import NFCompose.Reads

namespace NFCompose

universe u

variable {V : Type u}

/-- The history row shows the same as the materialised row. -/
structure SameEntry (row : MatRow V) (entry : HistRow V) : Prop where
  clock : entry.clock = row.clock
  deleted : entry.deleted = row.deletedAt.isSome
  data : entry.data = row.data

/-- The history ends in what the materialised row shows, after older entries
only. -/
def PointState.Agrees (point : PointState V) : Prop :=
  match point.row with
  | none => point.history = []
  | some row => row.WellClocked ∧ ∃ earlier entry,
      point.history = earlier ++ [entry] ∧ SameEntry row entry ∧
        ∀ other ∈ earlier, ∃ clock ∈ other.clock, ∃ current ∈ row.clock,
          clock < current

theorem PointState.Agrees.wellClocked {point : PointState V}
    (hagrees : point.Agrees) : ∀ row ∈ point.row, row.WellClocked := by
  intro row hrow
  rw [Option.mem_def] at hrow
  rw [PointState.Agrees, hrow] at hagrees
  exact hagrees.1

/-- Every entry is older than a clock above that of the row. -/
theorem PointState.Agrees.history_lt {point : PointState V}
    (hagrees : point.Agrees) {clock : Clock} (hnewer : Newer point.row clock) :
    ∀ entry ∈ point.history, ∃ clock' ∈ entry.clock, clock' < clock := by
  intro entry hentry
  cases hrow : point.row with
  | none =>
      rw [PointState.Agrees, hrow] at hagrees
      simp only at hagrees
      rw [hagrees] at hentry
      simp at hentry
  | some row =>
      rw [PointState.Agrees, hrow] at hagrees
      obtain ⟨hwell, earlier, last, hhistory, hsame, holder⟩ := hagrees
      obtain ⟨current, hcurrent⟩ :=
        Option.ne_none_iff_exists'.mp hwell.clock_ne_none
      rw [hrow, newer_some hcurrent] at hnewer
      rw [hhistory, List.mem_append, List.mem_singleton] at hentry
      rcases hentry with hentry | rfl
      · obtain ⟨clock', hclock', current', hcurrent', hlt⟩ :=
          holder entry hentry
        rw [hcurrent, Option.mem_some_iff] at hcurrent'
        subst hcurrent'
        exact ⟨clock', hclock', hlt.trans hnewer⟩
      · exact ⟨current, by rw [hsame.clock, hcurrent]; rfl, hnewer⟩

/-- Of the rows of one data point, the history shows the latest when it is alive. -/
theorem flatHistoryRows_append_last {earlier : List (HistRow V)} {entry : HistRow V}
    {current : Clock} (hclock : entry.clock = some current)
    (hids : ∀ other ∈ earlier, other.id = entry.id)
    (holder : ∀ other ∈ earlier, ∃ clock ∈ other.clock, clock < current) :
    flatHistoryRows none none (earlier ++ [entry]) =
      [entry].filter fun entry => entry.deleted = false := by
  have hlast : ∀ other ∈ earlier ++ [entry], ¬ entry.JoinsLater none none other := by
    intro other hother hjoins
    rcases List.mem_append.mp hother with hother | hother
    · obtain ⟨clock, hclock', hlt⟩ := holder other hother
      exact lt_asymm hlt ((HistRow.before_iff hclock hclock').mp hjoins.2.1)
    · rw [List.mem_singleton] at hother
      subst hother
      exact lt_irrefl _ ((HistRow.before_iff hclock hclock).mp hjoins.2.1)
  rw [flatHistoryRows, List.filter_append]
  have hnone : earlier.filter (fun row =>
      (∀ other ∈ earlier ++ [entry], ¬ row.JoinsLater none none other) ∧
        row.deleted = false ∧ InBounds none none row.pointInTime) = [] := by
    rw [List.filter_eq_nil_iff]
    intro other hother hkept
    have hkept := of_decide_eq_true hkept
    obtain ⟨clock, hclock', hlt⟩ := holder other hother
    exact hkept.1 entry (by simp)
      ⟨hids other hother, (HistRow.before_iff hclock' hclock).mpr hlt, by simp [InBounds]⟩
  rw [hnone, List.nil_append]
  apply List.filter_congr
  intro other hother
  rw [List.mem_singleton] at hother
  subst hother
  simp only [decide_eq_decide]
  constructor
  · exact fun hkept => hkept.2.1
  · exact fun hdeleted => ⟨hlast, hdeleted, by simp [InBounds]⟩

/-- No history row of the data point is later than its current entry, and a
data point is shown by the history as by the materialised row. -/
theorem currentDataPoints_of_agrees (ds : DataSeries) (id : DataPointId)
    {point : PointState V} (hagrees : point.Agrees)
    (hids : ∀ entry ∈ point.history, entry.id = id) :
    historyDataPoints ds none none point.history =
      (point.row.toList.filter fun row => row.deletedAt = none).map
        (MatRow.dataPoint ds id) := by
  cases hrow : point.row with
  | none =>
      rw [PointState.Agrees, hrow] at hagrees
      simp only at hagrees
      simp [hagrees, historyDataPoints, flatHistoryRows]
  | some row =>
      rw [PointState.Agrees, hrow] at hagrees
      obtain ⟨hwell, earlier, entry, hhistory, hsame, holder⟩ := hagrees
      obtain ⟨current, hcurrent⟩ :=
        Option.ne_none_iff_exists'.mp hwell.clock_ne_none
      have hclock : entry.clock = some current := by
        rw [hsame.clock, hcurrent]
      have hentryId : entry.id = id :=
        hids entry (by simp [hhistory])
      have hearlierIds : ∀ other ∈ earlier, other.id = entry.id := by
        intro other hother
        rw [hids other (by simp [hhistory, hother]), hentryId]
      have holder' : ∀ other ∈ earlier, ∃ clock ∈ other.clock, clock < current := by
        intro other hother
        obtain ⟨clock, hother', current', hcurrent', hlt⟩ :=
          holder other hother
        rw [hcurrent, Option.mem_some_iff] at hcurrent'
        subst hcurrent'
        exact ⟨clock, hother', hlt⟩
      rw [historyDataPoints, hhistory, flatHistoryRows_append_last hclock hearlierIds holder']
      cases hdeleted : row.deletedAt with
      | none =>
          have hpoint : entry.dataPoint ds = row.dataPoint ds id := by
            have htime := HistRow.clock_pointInTime hclock
            rw [MatRow.clock, hdeleted] at hcurrent
            simp only [Option.getD_none, Option.map_eq_some_iff] at hcurrent
            obtain ⟨sub, -, rfl⟩ := hcurrent
            simp [HistRow.dataPoint, MatRow.dataPoint, hsame.data, hentryId,
              htime]
          simp [hsame.deleted, hdeleted, hpoint]
      | some deletedAt => simp [hsame.deleted, hdeleted]

variable [UploadedFile V]

/-- The step lemma of the agreement. -/
theorem agrees_pointStep (ds : DataSeries) (id : DataPointId)
    (hbackend : ds.backend = .dynamicSqlMaterializedFlatHistory)
    (point : PointState V) (op : PointOp V) (hagrees : point.Agrees)
    (hstale : op.NotStale point.row) : (pointStep ds id point op).Agrees := by
  rw [pointStep_eq ds id hagrees.wellClocked hstale]
  split
  · rename_i hnewer
    refine ⟨resultRow_wellClocked ds hagrees.wellClocked op hnewer,
      point.history, op.resultEntry ds id point.row, by simp,
      ⟨?_, resultEntry_deleted ds id point.row op,
        resultEntry_data ds id point.row op⟩, ?_⟩
    · rw [resultEntry_clock, resultRow_clock]
    · intro other hother
      obtain ⟨clock, hclock, hlt⟩ := hagrees.history_lt hnewer other hother
      exact ⟨clock, hclock, op.clock, resultRow_clock ds point.row op, hlt⟩
  · exact hagrees

/-- No request deletes a data point by a stale deletion. -/
def NoStaleDelete (state : StorageState V) : Modification V → Prop
  | .write _ => True
  | .delete deletion => ∀ target ∈ state.materialized.lookup deletion.id,
      ¬ StaleDelete target deletion.clock

instance (state : StorageState V) :
    (request : Modification V) → Decidable (NoStaleDelete state request)
  | .write _ => isTrue trivial
  | .delete deletion => inferInstanceAs
      (Decidable (∀ target ∈ state.materialized.lookup deletion.id, _))

omit [UploadedFile V] in
theorem noStaleDeleteOf_of_noStaleDelete (id : DataPointId)
    {state : StorageState V} {request : Modification V}
    (hcond : NoStaleDelete state request) :
    NoStaleDeleteOf id state request := by
  intro op hop
  cases request with
  | write request =>
      simp only [Modification.on, Option.mem_def, Option.map_eq_some_iff]
        at hop
      obtain ⟨data, -, rfl⟩ := hop
      trivial
  | delete deletion =>
      simp only [Modification.on] at hop
      split at hop
      · rename_i hid
        simp only [Option.mem_def, Option.some.injEq] at hop
        subst hop hid
        exact hcond
      · simp at hop

/-- Without stale deletions no step is stale for the rows of a data point. -/
theorem notStale_point (ds : DataSeries) (id : DataPointId) {state : StorageState V}
    {requests : List (Modification V)}
    (hsteps : Runs.AllSteps (modify ds) NoStaleDelete state requests) :
    Runs.AllSteps (pointStep ds id) (fun point op => op.NotStale point.row)
      (state.point id) (requests.filterMap (Modification.on id)) :=
  Runs.allSteps_projection (fun state : StorageState V => state.point id)
    (fun point op => op.NotStale point.row) (point_modify ds id)
    (fun _ _ op hop hcond => noStaleDeleteOf_of_noStaleDelete id hcond op hop) hsteps

/-- The run lemma of the agreement. -/
theorem agrees_run (ds : DataSeries)
    (hbackend : ds.backend = .dynamicSqlMaterializedFlatHistory)
    {state : StorageState V} (hagrees : ∀ id, (state.point id).Agrees)
    {requests : List (Modification V)}
    (hsteps : Runs.AllSteps (modify ds) NoStaleDelete state requests)
    (id : DataPointId) :
    ((Runs.run (modify ds) state requests).point id).Agrees := by
  rw [point_run_modify]
  exact Runs.run_invariant PointState.Agrees (agrees_pointStep ds id hbackend)
    (hagrees id) (notStale_point ds id hsteps)

omit [UploadedFile V] in
theorem agrees_empty (registry : List FileLookup) (storage : List String)
    (id : DataPointId) :
    ((StorageState.empty registry storage : StorageState V).point id).Agrees :=
  rfl

omit [UploadedFile V] in
theorem point_history_ids (state : StorageState V) (id : DataPointId) :
    ∀ entry ∈ (state.point id).history, entry.id = id := by
  simp [StorageState.point]

omit [UploadedFile V] in
/-- When every data point agrees, the current view of the history is that of
the materialised table. -/
theorem currentView_perm (ds : DataSeries) {state : StorageState V}
    (hagrees : ∀ id, (state.point id).Agrees) :
    (historyDataPoints ds none none state.history).Perm
      (materializedDataPoints ds none state.materialized) := by
  have hpoint : ∀ id,
      (historyDataPoints ds none none state.history).filter
          (fun point => point.id = id) =
        ((state.point id).row.toList.filter fun row =>
          row.deletedAt = none).map (MatRow.dataPoint ds id) := by
    intro id
    rw [← currentDataPoints_of_agrees ds id (hagrees id)
      (point_history_ids state id), historyDataPoints, List.filter_map]
    have hrows := flatHistoryRows_filter_id none none state.history id
    exact congrArg (List.map (HistRow.dataPoint ds)) hrows
  have hnodup : ((historyDataPoints ds none none state.history).map
      DataPoint.id).Nodup := by
    rw [List.nodup_iff_count_le_one]
    intro id
    have hcount : ((historyDataPoints ds none none state.history).map
        DataPoint.id).count id =
        ((historyDataPoints ds none none state.history).filter
          (fun point => point.id = id)).length := by
      rw [List.count, List.countP_map, List.countP_eq_length_filter]
      rfl
    rw [hcount, hpoint, List.length_map]
    refine le_trans (List.length_filter_le _ _) ?_
    cases (state.point id).row <;> simp
  refine (List.perm_ext_iff_of_nodup hnodup.of_map
    (materializedDataPoints_ids_nodup ds none state.materialized).of_map).mpr ?_
  intro point
  have hmem : point ∈ historyDataPoints ds none none state.history ↔
      point ∈ (historyDataPoints ds none none state.history).filter
        (fun other => other.id = point.id) := by
    simp
  rw [hmem, hpoint, mem_materializedDataPoints, List.mem_map]
  constructor
  · rintro ⟨row, hrow, heq⟩
    simp only [List.mem_filter, Option.mem_toList, decide_eq_true_eq] at hrow
    exact ⟨row, hrow.1, hrow.2, by simp [InBounds], heq⟩
  · rintro ⟨row, hlookup, halive, -, heq⟩
    refine ⟨row, ?_, heq⟩
    simp only [List.mem_filter, Option.mem_toList, decide_eq_true_eq]
    exact ⟨hlookup, halive⟩

/-- The greatest history entry of a data point and its materialised row tell
the same. -/
def TablesAgree (ds : DataSeries) (state : StorageState V)
    (id : DataPointId) : Prop :=
  match state.materialized.lookup id with
  | none => ∀ entry ∈ state.history, entry.id ≠ id
  | some row => ∃ entry ∈ state.history, entry.id = id ∧
      (∀ other ∈ state.history, other.id = id →
        other = entry ∨ other.Before entry) ∧
      (entry.deleted = true ↔ row.deletedAt ≠ none) ∧
      (entry.deleted = false → ds.payload entry.data = ds.payload row.data)

omit [UploadedFile V] in
theorem tablesAgree_of_agrees (ds : DataSeries) {state : StorageState V}
    {id : DataPointId} (hagrees : (state.point id).Agrees) :
    TablesAgree ds state id := by
  have hids := point_history_ids state id
  unfold TablesAgree
  cases hrow : state.materialized.lookup id with
  | none =>
      rw [PointState.Agrees, StorageState.point, hrow] at hagrees
      simp only at hagrees
      intro entry hentry hid
      have hmem : entry ∈ state.history.filter fun row => row.id = id := by
        simp [hentry, hid]
      rw [hagrees] at hmem
      simp at hmem
  | some row =>
      rw [PointState.Agrees, StorageState.point, hrow] at hagrees
      obtain ⟨hwell, earlier, entry, hhistory, hsame, holder⟩ := hagrees
      simp only at hhistory
      have hmem : ∀ other, (other ∈ state.history ∧ other.id = id) ↔
          other ∈ earlier ++ [entry] := by
        intro other
        rw [← hhistory]
        simp
      obtain ⟨hentry, hid⟩ := (hmem entry).mpr (by simp)
      refine ⟨entry, hentry, hid, ?_, ?_, ?_⟩
      · intro other hother hotherId
        have hin := (hmem other).mp ⟨hother, hotherId⟩
        rcases List.mem_append.mp hin with hearlier | hlast
        · obtain ⟨clock, hclock, current, hcurrent, hlt⟩ :=
            holder other hearlier
          refine Or.inr ((HistRow.before_iff hclock ?_).mpr hlt)
          rw [hsame.clock]
          exact hcurrent
        · exact Or.inl (List.mem_singleton.mp hlast)
      · rw [hsame.deleted, Option.isSome_iff_ne_none]
      · intro _
        rw [hsame.data]

/-- Full writes, PATCHes and deletions in any order in which no deletion is
stale keep the history table and the materialised table in agreement, data
point by data point and as current views. -/
theorem flatHistory_agrees (ds : DataSeries)
    (hbackend : ds.backend = .dynamicSqlMaterializedFlatHistory)
    (registry : List FileLookup) (storage : List String)
    (requests : List (Modification V))
    (hsteps : Runs.AllSteps (modify ds) NoStaleDelete
      (StorageState.empty registry storage) requests) :
    let final := Runs.run (modify ds) (StorageState.empty registry storage)
      requests
    (∀ id, TablesAgree ds final id) ∧
      (historyDataPoints ds none none final.history).Perm
        (materializedDataPoints ds none final.materialized) := by
  intro final
  have hagrees : ∀ id, (final.point id).Agrees :=
    agrees_run ds hbackend (agrees_empty registry storage) hsteps
  exact ⟨fun id => tablesAgree_of_agrees ds (hagrees id),
    currentView_perm ds hagrees⟩

namespace AgreementWitness

open ModificationWitness

def series : DataSeries :=
  ModificationWitness.series .dynamicSqlMaterializedFlatHistory

def afterLateDeletion : StorageState String :=
  Runs.run (modify series) (StorageState.empty [] [])
    ConvergenceWitness.lateDeletion

/-- The deletion of time 3 takes the row back, so the write of time 4 revives
the row while the greatest history entry is the deletion of time 5. -/
theorem lateDeletion_tables_disagree :
    ¬ TablesAgree series afterLateDeletion "point" ∧
      ¬ (historyDataPoints series none none afterLateDeletion.history).Perm
        (materializedDataPoints series none
          afterLateDeletion.materialized) := by
  have hrow : (afterLateDeletion.materialized.lookup "point").map
      MatRow.deletedAt = some none := by decide
  have hhistory : afterLateDeletion.history.map
      (fun entry => (entry.id, entry.pointInTime, entry.deleted)) =
    [("point", 1, false), ("point", 5, true), ("point", 3, true),
      ("point", 4, false)] := by decide
  constructor
  · intro hagree
    obtain ⟨row, hlookup, halive⟩ := Option.map_eq_some_iff.mp hrow
    rw [TablesAgree, hlookup] at hagree
    obtain ⟨entry, hentry, -, hgreatest, hdeleted, -⟩ := hagree
    have hfive : ("point", (5 : Int), true) ∈ afterLateDeletion.history.map
        (fun entry => (entry.id, entry.pointInTime, entry.deleted)) := by
      simp [hhistory]
    obtain ⟨other, hother, heq⟩ := List.mem_map.mp hfive
    simp only [Prod.mk.injEq] at heq
    have htriple : (entry.id, entry.pointInTime, entry.deleted) ∈
        afterLateDeletion.history.map
          (fun entry => (entry.id, entry.pointInTime, entry.deleted)) :=
      List.mem_map.mpr ⟨entry, hentry, rfl⟩
    rw [hhistory] at htriple
    have hfalse : entry.deleted = false := by
      rw [← Bool.not_eq_true, hdeleted]
      exact fun hne => hne halive
    have htime : entry.pointInTime < 5 := by
      simp only [hfalse, List.mem_cons, Prod.mk.injEq] at htriple
      simp at htriple
      omega
    rcases hgreatest other hother heq.1 with rfl | hbefore
    · simp [heq.2.2] at hfalse
    · have hle : other.pointInTime ≤ entry.pointInTime := by
        rcases hbefore with hlt | ⟨heq', -⟩ <;> omega
      omega
  · intro hperm
    have hlength := hperm.length_eq
    have hcounts : (historyDataPoints series none none
        afterLateDeletion.history).length = 0 ∧
      (materializedDataPoints series none
        afterLateDeletion.materialized).length = 1 := by decide
    omega

theorem flatHistory_agrees_patched :
    let requests := [write false [("note", some "old")] 1,
      write true [("picture", some "a.png")] 2, delete 5,
      write false [("note", some "late")] 4]
    let final := Runs.run (modify series) (StorageState.empty [] []) requests
    (∀ id, TablesAgree series final id) ∧
      (historyDataPoints series none none final.history).Perm
        (materializedDataPoints series none final.materialized) :=
  flatHistory_agrees series rfl [] [] _ (by decide)

end AgreementWitness

end NFCompose
