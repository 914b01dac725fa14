/-
Point-in-time queries of the flat history backend.  With increasing clocks the
history table only grows, and the query at an instant sees the table as it was
after the last operation up to that instant.
-/
import NFCompose.Agreement

namespace NFCompose

universe u

variable {V : Type u}

section Query

/-- Rows after the bound of a query are invisible to it. -/
theorem flatHistoryRows_append_later (pointInTime : Int)
    (changesSince : Option Int) {history later : List (HistRow V)}
    (hhistory : ∀ row ∈ history, row.pointInTime ≤ pointInTime)
    (hlater : ∀ row ∈ later, pointInTime < row.pointInTime) :
    flatHistoryRows (some pointInTime) changesSince (history ++ later) =
      flatHistoryRows none changesSince history := by
  rw [flatHistoryRows, flatHistoryRows, List.filter_append]
  have hnone : later.filter (fun row =>
      (∀ other ∈ history ++ later,
        ¬ row.JoinsLater (some pointInTime) changesSince other) ∧
        row.deleted = false ∧
        InBounds (some pointInTime) changesSince row.pointInTime) = [] := by
    rw [List.filter_eq_nil_iff]
    intro row hrow hkept
    have hkept := of_decide_eq_true hkept
    have hle := hkept.2.2.1 pointInTime rfl
    have hlt := hlater row hrow
    omega
  rw [hnone, List.append_nil]
  apply List.filter_congr
  intro row hrow
  have hbounds : ∀ other ∈ history,
      (InBounds (some pointInTime) changesSince other.pointInTime ↔
        InBounds none changesSince other.pointInTime) := by
    intro other hother
    simp [InBounds, hhistory other hother]
  have hjoins : (∀ other ∈ history ++ later,
        ¬ row.JoinsLater (some pointInTime) changesSince other) ↔
      ∀ other ∈ history, ¬ row.JoinsLater none changesSince other := by
    constructor
    · intro hall other hother hjoin
      refine hall other (List.mem_append_left later hother) ?_
      exact ⟨hjoin.1, hjoin.2.1, (hbounds other hother).mpr hjoin.2.2⟩
    · intro hall other hother hjoin
      rcases List.mem_append.mp hother with hother | hother
      · refine hall other hother ?_
        exact ⟨hjoin.1, hjoin.2.1, (hbounds other hother).mp hjoin.2.2⟩
      · have hle := hjoin.2.2.1 pointInTime rfl
        have hlt := hlater other hother
        omega
  simp only [hjoins, hbounds row hrow]

theorem HistRow.Before.pointInTime_le {row other : HistRow V}
    (hbefore : row.Before other) : row.pointInTime ≤ other.pointInTime := by
  rcases hbefore with hlt | ⟨heq, -⟩ <;> omega

/-- A lower bound keeps the rows above it: what is later than such a row is
above the bound as well. -/
theorem flatHistoryRows_changesSince (changesSince : Int)
    (history : List (HistRow V)) :
    flatHistoryRows none (some changesSince) history =
      (flatHistoryRows none none history).filter fun row =>
        changesSince < row.pointInTime := by
  rw [flatHistoryRows, flatHistoryRows, List.filter_filter]
  apply List.filter_congr
  intro row _
  by_cases hbound : changesSince < row.pointInTime
  · have hjoins : (∀ other ∈ history,
          ¬ row.JoinsLater none (some changesSince) other) ↔
        ∀ other ∈ history, ¬ row.JoinsLater none none other := by
      refine forall₂_congr fun other _ => not_congr ?_
      constructor
      · exact fun hjoin => ⟨hjoin.1, hjoin.2.1, by simp [InBounds]⟩
      · intro hjoin
        have hle := hjoin.2.1.pointInTime_le
        refine ⟨hjoin.1, hjoin.2.1, by simp, ?_⟩
        intro bound hmem
        rw [Option.mem_some_iff] at hmem
        omega
    simp [hjoins, InBounds, hbound]
  · simp [InBounds, hbound]

end Query

variable [UploadedFile V]

section Growth

theorem executeInsert_history (ds : DataSeries) (write : Write V)
    (state : StorageState V) (data : ValidatedData V) :
    ∃ rows, (executeInsert ds write state data).history =
        state.history ++ rows ∧
      ∀ row ∈ rows, row.clock = some write.clock := by
  unfold executeInsert
  simp only
  split
  · exact ⟨[], by simp, by simp⟩
  · rename_i inserted hinserted
    split
    · refine ⟨_, rfl, ?_⟩
      intro row hrow
      rw [List.mem_singleton] at hrow
      subst hrow
      rfl
    · exact ⟨[], by simp, by simp⟩

theorem foldl_executeInsert_history (ds : DataSeries) (write : Write V)
    (state : StorageState V) (datas : List (ValidatedData V)) :
    ∃ rows, (datas.foldl (executeInsert ds write) state).history =
        state.history ++ rows ∧
      ∀ row ∈ rows, row.clock = some write.clock := by
  induction datas generalizing state with
  | nil => exact ⟨[], by simp, by simp⟩
  | cons data rest ih =>
      obtain ⟨first, hfirst, hclock⟩ :=
        executeInsert_history ds write state data
      obtain ⟨second, hsecond, hclock'⟩ := ih (executeInsert ds write state data)
      refine ⟨first ++ second, ?_, ?_⟩
      · rw [List.foldl_cons, hsecond, hfirst, List.append_assoc]
      · intro row hrow
        rcases List.mem_append.mp hrow with hrow | hrow
        · exact hclock row hrow
        · exact hclock' row hrow

/-- A request only appends history rows, all with its own clock. -/
theorem modify_history (ds : DataSeries) (state : StorageState V)
    (request : Modification V) :
    ∃ rows, (modify ds state request).history = state.history ++ rows ∧
      ∀ row ∈ rows, row.clock = some request.clock := by
  cases request with
  | write request =>
      simp only [modify, insertOrUpdateDataPoints]
      obtain ⟨rows, hrows, hclock⟩ := foldl_executeInsert_history ds request
        (if ds.backend = .dynamicSqlNoHistory then
          { request.validatedDatas.foldl (saveFiles ds request.clock) state with
            fileLookup := deleteAllButLatestForDatapoints ds.tenantId ds.id
              (request.validatedDatas.map ValidatedData.id)
              request.clock.pointInTime
              (request.validatedDatas.foldl (saveFiles ds request.clock)
                state).fileLookup }
        else request.validatedDatas.foldl (saveFiles ds request.clock) state)
        request.validatedDatas
      refine ⟨rows, ?_, hclock⟩
      rw [hrows]
      congr 1
      split <;> exact (foldl_saveFiles_tables ds request.clock state _).2
  | delete deletion =>
      simp only [modify, deleteDatapoint]
      split
      · exact ⟨[], by simp, by simp⟩
      · rename_i deleted hdeleted
        split
        · refine ⟨_, rfl, ?_⟩
          intro row hrow
          rw [List.mem_singleton] at hrow
          subst hrow
          rfl
        · exact ⟨[], by simp, by simp⟩

theorem run_modify_history (ds : DataSeries) (state : StorageState V)
    (requests : List (Modification V)) :
    ∃ rows, (Runs.run (modify ds) state requests).history =
        state.history ++ rows ∧
      ∀ row ∈ rows, ∃ request ∈ requests, row.clock = some request.clock := by
  induction requests generalizing state with
  | nil => exact ⟨[], by simp, by simp⟩
  | cons request rest ih =>
      obtain ⟨first, hfirst, hclock⟩ := modify_history ds state request
      obtain ⟨second, hsecond, hclock'⟩ := ih (modify ds state request)
      refine ⟨first ++ second, ?_, ?_⟩
      · rw [Runs.run_cons, hsecond, hfirst, List.append_assoc]
      · intro row hrow
        rcases List.mem_append.mp hrow with hrow | hrow
        · exact ⟨request, List.mem_cons_self, hclock row hrow⟩
        · obtain ⟨other, hother, heq⟩ := hclock' row hrow
          exact ⟨other, List.mem_cons_of_mem request hother, heq⟩

end Growth

section Increasing

/-- Every row of the materialised table is older than the request. -/
def TableOlder (state : StorageState V) (request : Modification V) : Prop :=
  ∀ id, (∀ row ∈ (state.point id).row, row.WellClocked) ∧
    Newer (state.point id).row request.clock

omit [UploadedFile V] in
theorem noStaleDelete_of_tableOlder {state : StorageState V}
    {request : Modification V} (holder : TableOlder state request) :
    NoStaleDelete state request := by
  cases request with
  | write request => trivial
  | delete deletion =>
      rintro target htarget ⟨-, -, current, hcurrent, hle⟩
      have hlt := (holder deletion.id).2 target htarget current hcurrent
      exact absurd hle (not_le.mpr hlt)

omit [UploadedFile V] in
theorem on_clock {id : DataPointId} {request : Modification V}
    {op : PointOp V} (hop : request.on id = some op) :
    op.clock = request.clock := by
  cases request with
  | write request =>
      simp only [Modification.on, Option.map_eq_some_iff] at hop
      obtain ⟨data, -, rfl⟩ := hop
      rfl
  | delete deletion =>
      simp only [Modification.on] at hop
      split at hop
      · simp only [Option.some.injEq] at hop
        subst hop
        rfl
      · simp at hop

theorem tableOlder_modify (ds : DataSeries) (state : StorageState V)
    (request next : Modification V) (holder : TableOlder state request)
    (hnext : TableOlder state next) (hlt : request.clock < next.clock) :
    TableOlder (modify ds state request) next := by
  intro id
  rw [point_modify]
  cases hop : request.on id with
  | none => exact hnext id
  | some op =>
      have hwell := (holder id).1
      have hstale := noStaleDeleteOf_of_noStaleDelete id
        (noStaleDelete_of_tableOlder holder) op hop
      refine ⟨pointStep_wellClocked ds id hwell hstale, ?_⟩
      simp only [Option.elim_some]
      rw [pointStep_eq ds id hwell hstale]
      split
      · rw [newer_some (resultRow_clock ds _ op), on_clock hop]
        exact hlt
      · exact (hnext id).2

/-- In a run with increasing clocks no deletion is stale. -/
theorem noStaleDelete_of_increasing (ds : DataSeries)
    (registry : List FileLookup) (storage : List String)
    {requests : List (Modification V)}
    (hincreasing : requests.Pairwise fun a b => a.clock < b.clock) :
    Runs.AllSteps (modify ds) NoStaleDelete
      (StorageState.empty registry storage) requests := by
  apply Runs.allSteps_of_pending (tableOlder_modify ds)
    (fun state op => noStaleDelete_of_tableOlder) hincreasing
  intro request _ id
  exact ⟨by simp [StorageState.point, StorageState.empty],
    newer_none request.clock⟩

/-- In a run with increasing clocks the row of a data point carries the clock
of the last operation that addressed it. -/
theorem clockRel_of_increasing (ds : DataSeries)
    (registry : List FileLookup) (storage : List String)
    {requests : List (Modification V)}
    (hincreasing : requests.Pairwise fun a b => a.clock < b.clock)
    (id : DataPointId) :
    ClockRel ((Runs.run (modify ds) (StorageState.empty registry storage)
        requests).materialized.lookup id)
      (requests.filterMap (Modification.on id)).getLast? := by
  have hview := notStale_point ds id
    (noStaleDelete_of_increasing ds registry storage hincreasing)
  have hinit : ClockRel ((StorageState.empty registry storage :
      StorageState V).point id).row none := by
    simp [StorageState.point, StorageState.empty, ClockRel]
  have hrel := Runs.run_simulation
    (fun (point : PointState V) held => ClockRel point.row held)
    (clockRel_pointStep ds id) hinit hview
  have hops : (requests.filterMap (Modification.on id)).Pairwise
      fun a b => a.clock < b.clock := by
    rw [List.pairwise_filterMap]
    refine hincreasing.imp ?_
    intro a b hlt op hop op' hop'
    rw [on_clock hop, on_clock hop']
    exact hlt
  rw [← point_run_modify] at hrel
  rw [← LastWriter.latest_eq_getLast? hops]
  exact hrel

end Increasing

/-- The point in time of the last of the requests that address a data point is
above the bound. -/
def LastChangedAfter (requests : List (Modification V)) (changesSince : Int)
    (id : DataPointId) : Prop :=
  ∃ op ∈ (requests.filterMap (Modification.on id)).getLast?,
    changesSince < op.clock.pointInTime

instance (requests : List (Modification V)) (changesSince : Int)
    (id : DataPointId) : Decidable (LastChangedAfter requests changesSince id) :=
  inferInstanceAs (Decidable (∃ op ∈ _, _))

/-- The table shows an alive row with the point in time of the last operation
on its data point. -/
theorem lastChangedAfter_iff (ds : DataSeries)
    (registry : List FileLookup) (storage : List String)
    {requests : List (Modification V)}
    (hincreasing : requests.Pairwise fun a b => a.clock < b.clock)
    (changesSince : Int) {point : DataPoint V}
    (hpoint : point ∈ materializedDataPoints ds none
      (Runs.run (modify ds) (StorageState.empty registry storage)
        requests).materialized) :
    LastChangedAfter requests changesSince point.id ↔
      changesSince < point.pointInTime := by
  obtain ⟨row, hlookup, halive, -, heq⟩ :=
    mem_materializedDataPoints.mp hpoint
  have hrel := clockRel_of_increasing ds registry storage hincreasing point.id
  rw [hlookup] at hrel
  obtain ⟨current, hclock⟩ :=
    Option.ne_none_iff_exists'.mp (hrel.1 row rfl).clock_ne_none
  have hheld := hrel.2
  rw [Option.bind_some, hclock, eq_comm, Option.map_eq_some_iff] at hheld
  obtain ⟨op, hlast, hop⟩ := hheld
  rw [MatRow.clock, halive] at hclock
  simp only [Option.getD_none, Option.map_eq_some_iff] at hclock
  obtain ⟨sub, -, rfl⟩ := hclock
  rw [LastChangedAfter, hlast, ← heq]
  simp [hop, MatRow.dataPoint]

/-- The query at an instant returns what the materialised table showed after
the last operation up to that instant; with a lower bound it returns those
whose last operation is above the bound. -/
theorem timeTravel (ds : DataSeries)
    (hbackend : ds.backend = .dynamicSqlMaterializedFlatHistory)
    (registry : List FileLookup) (storage : List String)
    (requests : List (Modification V))
    (hincreasing : requests.Pairwise fun a b => a.clock < b.clock)
    (pointInTime : Int) :
    let empty := StorageState.empty registry storage
    let before := requests.filter fun request =>
      request.clock.pointInTime ≤ pointInTime
    let final := Runs.run (modify ds) empty requests
    let shown := materializedDataPoints ds none
      (Runs.run (modify ds) empty before).materialized
    (historyDataPoints ds (some pointInTime) none final.history).Perm shown ∧
      ∀ changesSince,
        (historyDataPoints ds (some pointInTime) (some changesSince)
          final.history).Perm
          (shown.filter fun point =>
            LastChangedAfter before changesSince point.id) := by
  intro empty before final shown
  have hsplit : requests = before ++ requests.filter fun request =>
      ¬ request.clock.pointInTime ≤ pointInTime := by
    apply Runs.eq_filter_append_filter_not
    refine hincreasing.imp ?_
    intro a b hlt hb
    exact Int.le_trans (Clock.pointInTime_le_of_le (le_of_lt hlt)) hb
  have hbefore : before.Pairwise fun a b => a.clock < b.clock :=
    hincreasing.filter _
  obtain ⟨older, holder, hclock⟩ := run_modify_history ds empty before
  obtain ⟨newer, hnewer, hclock'⟩ := run_modify_history ds
    (Runs.run (modify ds) empty before) (requests.filter fun request =>
      ¬ request.clock.pointInTime ≤ pointInTime)
  have hfinal : final.history =
      (Runs.run (modify ds) empty before).history ++ newer := by
    rw [← hnewer, ← Runs.run_append, ← hsplit]
  have hle : ∀ row ∈ (Runs.run (modify ds) empty before).history,
      row.pointInTime ≤ pointInTime := by
    intro row hrow
    rw [holder] at hrow
    obtain ⟨request, hrequest, heq⟩ := hclock row hrow
    rw [HistRow.clock_pointInTime heq]
    simpa using (List.mem_filter.mp hrequest).2
  have hlt : ∀ row ∈ newer, pointInTime < row.pointInTime := by
    intro row hrow
    obtain ⟨request, hrequest, heq⟩ := hclock' row hrow
    rw [HistRow.clock_pointInTime heq]
    simpa using (List.mem_filter.mp hrequest).2
  have hagrees : ∀ id, ((Runs.run (modify ds) empty before).point id).Agrees :=
    agrees_run ds hbackend (agrees_empty registry storage)
      (noStaleDelete_of_increasing ds registry storage hbefore)
  have hview := currentView_perm ds hagrees
  constructor
  · rw [historyDataPoints, hfinal,
      flatHistoryRows_append_later pointInTime none hle hlt]
    exact hview
  · intro changesSince
    rw [historyDataPoints, hfinal,
      flatHistoryRows_append_later pointInTime _ hle hlt,
      flatHistoryRows_changesSince]
    have hcommute : ((flatHistoryRows none none
          (Runs.run (modify ds) empty before).history).filter fun row =>
            changesSince < row.pointInTime).map (HistRow.dataPoint ds) =
        (historyDataPoints ds none none
          (Runs.run (modify ds) empty before).history).filter fun point =>
            changesSince < point.pointInTime := by
      rw [historyDataPoints, List.filter_map]
      rfl
    have hfilter : (shown.filter fun point =>
          LastChangedAfter before changesSince point.id) =
        shown.filter fun point => changesSince < point.pointInTime := by
      apply List.filter_congr
      intro point hpoint
      simp only [lastChangedAfter_iff ds registry storage hbefore changesSince
        hpoint]
    rw [hcommute, hfilter]
    exact hview.filter _

namespace TimeTravelWitness

open ModificationWitness

theorem timeTravel_patched :
    let requests := [write false [("note", some "old")] 1,
      write true [("picture", some "a.png")] 2, delete 5,
      write false [("note", some "new")] 7]
    let empty := StorageState.empty [] []
    let before := requests.filter fun request => request.clock.pointInTime ≤ 3
    let final := Runs.run (modify AgreementWitness.series) empty requests
    let shown := materializedDataPoints AgreementWitness.series none
      (Runs.run (modify AgreementWitness.series) empty before).materialized
    (historyDataPoints AgreementWitness.series (some 3) none
        final.history).Perm shown ∧
      ∀ changesSince,
        (historyDataPoints AgreementWitness.series (some 3) (some changesSince)
          final.history).Perm
          (shown.filter fun point =>
            LastChangedAfter before changesSince point.id) :=
  timeTravel AgreementWitness.series rfl [] [] _ (by decide) 3

end TimeTravelWitness

end NFCompose
