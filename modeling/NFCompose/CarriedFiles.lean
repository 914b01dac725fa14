/-
No file is lost while no copy outlives its upload.  The rows of a data point are told by the
requests and prunes that have reached it: every file that a history row shows comes from an
upload, which stays registered until a prune removes the history row of the upload.
-/
import Mathlib.Data.List.Induction
import NFCompose.FileLeaks
import NFCompose.HistoryRetention
import NFCompose.PointEvents

namespace NFCompose

universe u

variable {V : Type u}

section Histories

variable [UploadedFile V]

/-- The file in a column is that of an upload, whose column no later request has overwritten and
whose row has not been taken away. -/
def ShownSince (ds : DataSeries) (events : List (PointEvent V)) (column : Uuid) (name : String) :
    Prop :=
  ∃ first, ∃ upload ∈ opAt events first, (column, name) ∈ upload.files ds ∧
    (∀ place, first < place → ∀ op ∈ opAt events place, ¬ op.Sets ds column) ∧
    ∀ place, first < place → ¬ RowGoneAt events place

/-- The history row of a write that no prune has removed. Its files are those of the write, or
copies. -/
structure WrittenAt (ds : DataSeries) (events : List (PointEvent V)) (second : Nat)
    (op : PointOp V) (entry : HistRow V) : Prop where
  kept : ∀ place, second < place → ¬ PrunedAt events op.clock place
  files : ∀ column name, entry.data column = .fileName name →
    ∃ first, (first = second ∨ Copies ds column events first second) ∧
      ∃ upload ∈ opAt events first, (column, name) ∈ upload.files ds

/-- The rows of a data point, told by what has reached it. -/
structure ToldBy (ds : DataSeries) (events : List (PointEvent V)) (point : PointState V) :
    Prop where
  clocked : ∀ row ∈ point.row, row.WellClocked
  absent : point.row = none → point.history = []
  last : ∀ row ∈ point.row, ∃ op ∈ (requestsOf events).getLast?,
    row.clock = some op.clock ∧ (row.deletedAt = none ↔ ¬ op.IsDelete)
  shown : ∀ row ∈ point.row, ∀ column name, row.data column = .fileName name →
    ShownSince ds events column name
  current : ∀ row ∈ point.row, row.deletedAt = none → ∃ entry ∈ point.history,
    entry.deleted = false ∧ entry.clock = row.clock ∧ entry.data = row.data
  key : ∀ row ∈ point.row, ∀ entry ∈ point.history, entry.deleted = false →
    ∃ key ∈ newestKey (requestsOf events),
      row.pointInTime = key.pointInTime ∧ row.subClock = some key.subClock
  entries : ∀ entry ∈ point.history, ∃ second, ∃ op ∈ opAt events second,
    entry.clock = some op.clock ∧ (entry.deleted = true ↔ op.IsDelete) ∧
      (¬ op.IsDelete → WrittenAt ds events second op entry)

variable {ds : DataSeries} {events : List (PointEvent V)} {point : PointState V}

/-- A request that leaves the column out does not change what it shows. -/
theorem ShownSince.request {column : Uuid} {name : String} {op : PointOp V}
    (hshown : ShownSince ds events column name) (hunset : ¬ op.Sets ds column) :
    ShownSince ds (events ++ [.request op]) column name := by
  obtain ⟨first, upload, hupload, hfile, hlater, hgone⟩ := hshown
  refine ⟨first, upload, ?_, hfile, ?_, ?_⟩
  · rwa [opAt_append (lt_of_opAt hupload)]
  · intro place hplace other hother
    rcases opAt_concat hother with hold | ⟨-, hnew⟩
    · exact hlater place hplace other hold
    · cases hnew
      exact hunset
  · intro place hplace hrow
    rcases rowGoneAt_concat hrow with hold | ⟨olderThan, hnew, -⟩
    · exact hgone place hplace hold
    · cases hnew

theorem ShownSince.prune {column : Uuid} {name : String} {olderThan : Int}
    (hshown : ShownSince ds events column name)
    (hkept : ¬ EndsDeletedBefore olderThan (requestsOf events)) :
    ShownSince ds (events ++ [.prune olderThan]) column name := by
  obtain ⟨first, upload, hupload, hfile, hlater, hgone⟩ := hshown
  refine ⟨first, upload, ?_, hfile, ?_, ?_⟩
  · rwa [opAt_append (lt_of_opAt hupload)]
  · intro place hplace other hother
    rcases opAt_concat hother with hold | ⟨-, hnew⟩
    · exact hlater place hplace other hold
    · cases hnew
  · intro place hplace hrow
    rcases rowGoneAt_concat hrow with hold | ⟨bound, hnew, hends⟩
    · exact hgone place hplace hold
    · cases hnew
      exact hkept hends

/-- A history row stays that of its write, unless the event prunes it. -/
theorem WrittenAt.append {second : Nat} {op : PointOp V} {entry : HistRow V}
    {event : PointEvent V} (hwritten : WrittenAt ds events second op entry)
    (hop : op ∈ opAt events second)
    (hkept : ∀ olderThan ∈ event.olderThan?,
      ¬ PrunesWrite olderThan (requestsOf events) op.clock) :
    WrittenAt ds (events ++ [event]) second op entry := by
  constructor
  · intro place hplace hpruned
    rcases prunedAt_concat.mp hpruned with hold | ⟨-, olderThan, hevent, hprunes⟩
    · exact hwritten.kept place hplace hold
    · exact hkept olderThan hevent hprunes
  · intro column name hdata
    obtain ⟨first, hfirst, upload, hupload, hfile⟩ := hwritten.files column name hdata
    refine ⟨first, ?_, upload, ?_, hfile⟩
    · exact hfirst.imp_right fun hcopies => (copies_append (lt_of_opAt hop)).mpr hcopies
    · rwa [opAt_append (lt_of_opAt hupload)]

/-- Later requests are executed. -/
theorem ToldBy.newer (htold : ToldBy ds events point) {clock : Clock}
    (hlater : ∀ earlier ∈ requestsOf events, earlier.clock < clock) : Newer point.row clock := by
  intro row hrow current hcurrent
  obtain ⟨last, hlast, hclock, -⟩ := htold.last row hrow
  rw [hclock, Option.mem_some_iff] at hcurrent
  exact hcurrent ▸ hlater last (List.mem_of_getLast? hlast)

theorem ToldBy.notStale (htold : ToldBy ds events point) {op : PointOp V}
    (hlater : ∀ earlier ∈ requestsOf events, earlier.clock < op.clock) :
    op.NotStale point.row := by
  cases op with
  | write => trivial
  | delete deletion =>
      rintro target htarget ⟨-, -, current, hcurrent, hle⟩
      exact absurd hle (not_le.mpr (htold.newer hlater target htarget current hcurrent))

/-- What the row shows after a request was brought by it, or was there. -/
theorem ToldBy.shown_request (htold : ToldBy ds events point) (op : PointOp V) {column : Uuid}
    {name : String} (hdata : (op.resultRow ds point.row).data column = .fileName name) :
    (column, name) ∈ op.files ds ∨
      (¬ op.Sets ds column ∧ ShownSince ds events column name) := by
  rw [resultRow_data] at hdata
  split at hdata
  · exact .inl (PointOp.mem_files_of_cell hdata)
  · next hunset =>
      cases hrow : point.row with
      | none =>
          rw [hrow] at hdata
          cases hdata
      | some row =>
          rw [hrow] at hdata
          exact .inr ⟨hunset, htold.shown row hrow column name hdata⟩

theorem writtenAt_request (htold : ToldBy ds events point) {op : PointOp V} (id : DataPointId)
    (hwrite : ¬ op.IsDelete) :
    WrittenAt ds (events ++ [.request op]) events.length op (op.resultEntry ds id point.row) := by
  have hlast : op ∈ opAt (events ++ [.request op]) events.length := by
    rw [opAt_last]
    rfl
  constructor
  · intro place hplace hpruned
    rcases prunedAt_concat.mp hpruned with hold | ⟨-, olderThan, hnew, -⟩
    · exact absurd (lt_of_prunedAt hold) (Nat.not_lt.mpr hplace.le)
    · cases hnew
  · intro column name hdata
    rw [resultEntry_data] at hdata
    rcases htold.shown_request op hdata with hfile | ⟨hunset, hshown⟩
    · exact ⟨events.length, .inl rfl, op, hlast, hfile⟩
    · obtain ⟨first, upload, hupload, hfile, hlater, hgone⟩ := hshown.request hunset
      have hfirst : first < events.length := by
        rcases opAt_concat hupload with hold | ⟨rfl, hnew⟩
        · exact lt_of_opAt hold
        · cases hnew
          exact absurd (PointOp.cell_of_mem_files hfile).2.1 hunset
      refine ⟨first, .inr ⟨hfirst, ⟨op, hlast, hwrite⟩, ?_, ?_⟩, upload, hupload, hfile⟩
      · exact fun place _ hplace => hlater place hplace
      · exact fun place _ hplace => hgone place hplace

/-- The file of the last request is the one that is shown. -/
theorem shownSince_last {op : PointOp V} {column : Uuid} {name : String}
    (hfile : (column, name) ∈ op.files ds) :
    ShownSince ds (events ++ [.request op]) column name := by
  refine ⟨events.length, op, ?_, hfile, ?_, ?_⟩
  · rw [opAt_last]
    rfl
  · intro place hplace other hother
    have hlt := lt_of_opAt hother
    rw [List.length_append, List.length_singleton] at hlt
    omega
  · rintro place hplace ⟨olderThan, hbound, -⟩
    rcases lt_or_eq_of_bound hbound with hlt | ⟨rfl, -⟩
    · omega
    · omega

theorem ToldBy.shown_resultRow (htold : ToldBy ds events point) {op : PointOp V} {column : Uuid}
    {name : String} (hdata : (op.resultRow ds point.row).data column = .fileName name) :
    ShownSince ds (events ++ [.request op]) column name := by
  rcases htold.shown_request op hdata with hfile | ⟨hunset, hshown⟩
  · exact shownSince_last hfile
  · exact hshown.request hunset

/-- A deletion adds no entry that is alive. -/
theorem mem_history_of_delete {op : PointOp V} {id : DataPointId} {entry : HistRow V}
    (hdelete : op.IsDelete)
    (hentry : entry ∈ point.history ++ [op.resultEntry ds id point.row])
    (halive : entry.deleted = false) : entry ∈ point.history := by
  rcases List.mem_append.mp hentry with hold | hnew
  · exact hold
  · rw [List.mem_singleton] at hnew
    subst hnew
    rw [resultEntry_deleted, Option.isSome_eq_false_iff, Option.isNone_iff_eq_none,
      resultRow_alive] at halive
    exact absurd hdelete halive

theorem ToldBy.key_request (htold : ToldBy ds events point) {op : PointOp V} {id : DataPointId}
    {entry : HistRow V} (hentry : entry ∈ point.history ++ [op.resultEntry ds id point.row])
    (halive : entry.deleted = false) :
    ∃ key ∈ newestKey (requestsOf events ++ [op]),
      (op.resultRow ds point.row).pointInTime = key.pointInTime ∧
        (op.resultRow ds point.row).subClock = some key.subClock := by
  by_cases hdelete : op.IsDelete
  · have hold := mem_history_of_delete hdelete hentry halive
    cases hrow : point.row with
    | none =>
        rw [htold.absent hrow] at hold
        cases hold
    | some row =>
        -- A deletion leaves the point in time of the row.
        obtain ⟨key, hkey, htime, -⟩ := htold.key row hrow entry hold halive
        refine ⟨_, newestKey_delete hdelete hkey, ?_⟩
        cases op with
        | write => cases hdelete
        | delete deletion => exact ⟨htime, rfl⟩
  · refine ⟨_, newestKey_write hdelete, ?_⟩
    cases op with
    | write => cases point.row <;> exact ⟨rfl, rfl⟩
    | delete => exact absurd trivial hdelete

theorem ToldBy.entries_request (htold : ToldBy ds events point) {op : PointOp V}
    {id : DataPointId} {entry : HistRow V}
    (hentry : entry ∈ point.history ++ [op.resultEntry ds id point.row]) :
    ∃ second, ∃ other ∈ opAt (events ++ [.request op]) second,
      entry.clock = some other.clock ∧ (entry.deleted = true ↔ other.IsDelete) ∧
        (¬ other.IsDelete → WrittenAt ds (events ++ [.request op]) second other entry) := by
  rcases List.mem_append.mp hentry with hold | hnew
  · obtain ⟨second, other, hother, hclock, hdeleted, hwritten⟩ := htold.entries entry hold
    refine ⟨second, other, ?_, hclock, hdeleted, fun hwrite => ?_⟩
    · rwa [opAt_append (lt_of_opAt hother)]
    · exact (hwritten hwrite).append hother nofun
  · rw [List.mem_singleton] at hnew
    subst hnew
    refine ⟨events.length, op, ?_, resultEntry_clock ds id point.row op, ?_,
      writtenAt_request htold id⟩
    · rw [opAt_last]
      rfl
    · rw [resultEntry_deleted, Option.isSome_iff_ne_none, ne_eq, resultRow_alive, not_not]

/-- The step lemma of a request. -/
theorem ToldBy.request (hbackend : ds.backend = .dynamicSqlMaterializedFlatHistory)
    (htold : ToldBy ds events point) {op : PointOp V} (id : DataPointId)
    (hlater : ∀ earlier ∈ requestsOf events, earlier.clock < op.clock) :
    ToldBy ds (events ++ [.request op]) (pointStep ds id point op) := by
  have hops : requestsOf (events ++ [.request op]) = requestsOf events ++ [op] := requestsOf_append
  rw [pointStep_eq ds id htold.clocked (htold.notStale hlater), if_pos (htold.newer hlater),
    if_pos hbackend]
  refine ⟨?_, nofun, ?_, ?_, ?_, ?_, fun entry hentry => htold.entries_request hentry⟩
  · rintro row ⟨⟩
    exact resultRow_wellClocked ds htold.clocked op (htold.newer hlater)
  · rintro row ⟨⟩
    refine ⟨op, ?_, resultRow_clock ds point.row op, resultRow_alive ds point.row op⟩
    rw [hops, List.getLast?_concat]
    rfl
  · rintro row ⟨⟩ column name hdata
    exact htold.shown_resultRow hdata
  · rintro row ⟨⟩ halive
    refine ⟨op.resultEntry ds id point.row,
      List.mem_append_right _ (List.mem_singleton.mpr rfl), ?_, ?_, resultEntry_data ds id _ op⟩
    · rw [resultEntry_deleted, halive, Option.isSome_none]
    · rw [resultEntry_clock, resultRow_clock]
  · rintro row ⟨⟩ entry hentry halive
    rw [hops]
    exact htold.key_request hentry halive

omit [UploadedFile V] in
/-- The last of requests with growing clocks is the latest. -/
theorem clock_le_last {ops : List (PointOp V)}
    (hordered : ops.Pairwise fun a b => a.clock < b.clock) {op last : PointOp V} (hop : op ∈ ops)
    (hlast : last ∈ ops.getLast?) : op.clock ≤ last.clock := by
  obtain ⟨before, rfl⟩ := List.getLast?_eq_some_iff.mp hlast
  rcases List.mem_append.mp hop with hbefore | hsame
  · exact le_of_lt ((List.pairwise_append.mp hordered).2.2 op hbefore last List.mem_cons_self)
  · rw [List.mem_singleton] at hsame
    exact le_of_eq (congrArg PointOp.clock hsame)

omit [UploadedFile V] in
/-- Requests with growing clocks are told apart by them. -/
theorem eq_of_clock {ops : List (PointOp V)}
    (hordered : ops.Pairwise fun a b => a.clock < b.clock) {op other : PointOp V} (hop : op ∈ ops)
    (hother : other ∈ ops) (hclock : op.clock = other.clock) : op = other := by
  have hnodup : (ops.map PointOp.clock).Nodup := by
    rw [List.Nodup, List.pairwise_map]
    exact hordered.imp fun hlt => ne_of_lt hlt
  exact List.inj_on_of_nodup_map hnodup hop hother hclock

/-- The row was deleted before the bound when the last request did so. -/
theorem ToldBy.deletedBefore_iff (htold : ToldBy ds events point) {row : MatRow V}
    (hrow : row ∈ point.row) {olderThan : Int} :
    row.DeletedBefore olderThan ↔ EndsDeletedBefore olderThan (requestsOf events) := by
  obtain ⟨last, hlast, hclock, halive⟩ := htold.last row hrow
  obtain ⟨sub, -, hclock⟩ := Option.map_eq_some_iff.mp hclock
  constructor
  · rintro ⟨deletedAt, hdeleted, hbefore⟩
    rw [Option.mem_def] at hdeleted
    rw [hdeleted, Option.getD_some] at hclock
    refine ⟨last, hlast, ?_, ?_⟩
    · by_contra hwrite
      rw [halive.mpr hwrite] at hdeleted
      cases hdeleted
    · rw [← hclock]
      exact hbefore
  · rintro ⟨other, hother, hdelete, hbefore⟩
    obtain rfl : last = other := Option.some.inj (hlast.symm.trans hother)
    cases hdeleted : row.deletedAt with
    | none => exact absurd hdelete (halive.mp hdeleted)
    | some deletedAt =>
        rw [hdeleted, Option.getD_some] at hclock
        rw [← hclock] at hbefore
        exact ⟨deletedAt, hdeleted, hbefore⟩

variable {state : StorageState V} {id : DataPointId} {olderThan : Int}

omit [UploadedFile V] in
theorem lookup_prunedTable_eq_none {table : MatTable V} {row : MatRow V}
    (hrow : table.lookup id = some row) (hdeleted : row.DeletedBefore olderThan) :
    (prunedTable olderThan table).lookup id = none := by
  rw [Option.eq_none_iff_forall_ne_some]
  intro other hother
  obtain ⟨hsame, hkept⟩ := lookup_prunedTable.mp hother
  obtain rfl : row = other := Option.some.inj (hrow.symm.trans hsame)
  exact hkept hdeleted

omit [UploadedFile V] in
theorem point_pruneHistory_row {now : Int}
    (hbackend : ds.backend = .dynamicSqlMaterializedFlatHistory) {row : MatRow V} :
    row ∈ ((pruneHistory ds olderThan now state).point id).row ↔
      row ∈ (state.point id).row ∧ ¬ row.DeletedBefore olderThan := by
  simp only [pruneHistory, hbackend]
  exact lookup_prunedTable

omit [UploadedFile V] in
theorem mem_point_pruneHistory {now : Int}
    (hbackend : ds.backend = .dynamicSqlMaterializedFlatHistory) {entry : HistRow V} :
    entry ∈ ((pruneHistory ds olderThan now state).point id).history ↔
      entry ∈ (state.point id).history ∧ ¬ PruneQueryFlatHistory olderThan
        (prunedTable olderThan state.materialized) state.history entry := by
  simp only [pruneHistory, hbackend, StorageState.point, List.mem_filter, decide_eq_true_eq]
  tauto

/-- A prune removes the history row of a write as the requests say. -/
theorem ToldBy.prunes_iff (htold : ToldBy ds events (state.point id)) {entry : HistRow V}
    (hentry : entry ∈ (state.point id).history) (halive : entry.deleted = false) {clock : Clock}
    (hclock : entry.clock = some clock) :
    PruneQueryFlatHistory olderThan (prunedTable olderThan state.materialized) state.history
        entry ↔
      PrunesWrite olderThan (requestsOf events) clock := by
  obtain ⟨hmem, hid⟩ := List.mem_filter.mp hentry
  obtain rfl := of_decide_eq_true hid
  obtain ⟨sub, hsub, hkey⟩ := Option.map_eq_some_iff.mp hclock
  rw [pruneQueryFlatHistory_iff hmem hclock, HistRow.clock_pointInTime hclock, PrunesWrite,
    and_comm]
  refine and_congr_right fun _ => ?_
  rw [HistRow.SupersededIn]
  cases hrow : state.materialized.lookup entry.id with
  | none =>
      rw [htold.absent hrow] at hentry
      cases hentry
  | some row =>
      have hpoint : row ∈ (state.point entry.id).row := hrow
      obtain ⟨key, hnewest, htime, hrowSub⟩ := htold.key row hpoint entry hentry halive
      rw [← htold.deletedBefore_iff hpoint]
      by_cases hdeleted : row.DeletedBefore olderThan
      · rw [lookup_prunedTable_eq_none hrow hdeleted]
        exact iff_of_true (.inr rfl) (.inl hdeleted)
      · have hkept : (prunedTable olderThan state.materialized).lookup entry.id = some row :=
          lookup_prunedTable.mpr ⟨hrow, hdeleted⟩
        rw [hkept, Option.mem_def.mp hnewest]
        simp only [Option.mem_some_iff, exists_eq_left', Option.isNone_some, Bool.false_eq_true,
          or_false, hdeleted, false_or]
        rw [hsub, hrowSub, rowLess_some, ← hkey, htime]

/-- What an alive row shows is not pruned. -/
theorem ToldBy.not_prunes_current (htold : ToldBy ds events (state.point id)) {row : MatRow V}
    (hrow : row ∈ (state.point id).row) (halive : row.deletedAt = none) {entry : HistRow V}
    (hentry : entry ∈ (state.point id).history) (hwritten : entry.deleted = false)
    (hclock : entry.clock = row.clock) :
    ¬ PruneQueryFlatHistory olderThan (prunedTable olderThan state.materialized) state.history
      entry := by
  obtain ⟨key, hkey, htime, hsub⟩ := htold.key row hrow entry hentry hwritten
  have hown : row.clock = some key := by
    rw [MatRow.clock, hsub, Option.map_some, halive, Option.getD_none, htime]
  rw [htold.prunes_iff hentry hwritten (hclock.trans hown)]
  rintro ⟨-, hends | ⟨newest, hnewest, hlt⟩⟩
  · obtain ⟨deletedAt, hdeleted, -⟩ := (htold.deletedBefore_iff hrow).mpr hends
    rw [halive] at hdeleted
    cases hdeleted
  · obtain rfl : key = newest := Option.some.inj (hkey.symm.trans hnewest)
    exact lt_irrefl key hlt

/-- With the row a prune takes the whole history of the data point. -/
theorem ToldBy.absent_prune {now : Int}
    (hbackend : ds.backend = .dynamicSqlMaterializedFlatHistory)
    (htold : ToldBy ds events (state.point id))
    (hordered : (requestsOf events).Pairwise fun a b => a.clock < b.clock)
    (hnone : ((pruneHistory ds olderThan now state).point id).row = none) :
    ((pruneHistory ds olderThan now state).point id).history = [] := by
  rw [List.eq_nil_iff_forall_not_mem]
  intro entry hentry
  obtain ⟨hbefore, hkept⟩ := (mem_point_pruneHistory hbackend).mp hentry
  obtain ⟨hmem, hid⟩ := List.mem_filter.mp hbefore
  obtain rfl := of_decide_eq_true hid
  cases hrow : (state.point entry.id).row with
  | none =>
      rw [htold.absent hrow] at hbefore
      cases hbefore
  | some row =>
      have hdeleted : row.DeletedBefore olderThan := by
        by_contra hno
        have hstays : row ∈ ((pruneHistory ds olderThan now state).point entry.id).row :=
          (point_pruneHistory_row hbackend).mpr ⟨hrow, hno⟩
        rw [hnone] at hstays
        cases hstays
      obtain ⟨last, hlast, -, hends⟩ := (htold.deletedBefore_iff hrow).mp hdeleted
      obtain ⟨second, op, hop, hclock, -⟩ := htold.entries entry hbefore
      have hle := Clock.pointInTime_le_of_le
        (clock_le_last hordered (mem_requestsOf_of_opAt hop) hlast)
      refine hkept ((pruneQueryFlatHistory_iff hmem hclock).mpr ⟨.inr ?_, ?_⟩)
      · rw [lookup_prunedTable_eq_none hrow hdeleted]
        rfl
      · rw [HistRow.clock_pointInTime hclock]
        exact lt_of_le_of_lt hle hends

/-- The step lemma of a prune. -/
theorem ToldBy.prune {now : Int} (hbackend : ds.backend = .dynamicSqlMaterializedFlatHistory)
    (htold : ToldBy ds events (state.point id))
    (hordered : (requestsOf events).Pairwise fun a b => a.clock < b.clock) :
    ToldBy ds (events ++ [.prune olderThan]) ((pruneHistory ds olderThan now state).point id) := by
  have hops : requestsOf (events ++ [.prune olderThan]) = requestsOf events :=
    requestsOf_append.trans (List.append_nil _)
  have hrows : ∀ row ∈ ((pruneHistory ds olderThan now state).point id).row,
      row ∈ (state.point id).row ∧ ¬ row.DeletedBefore olderThan :=
    fun row hrow => (point_pruneHistory_row hbackend).mp hrow
  have hhistory : ∀ entry ∈ ((pruneHistory ds olderThan now state).point id).history,
      entry ∈ (state.point id).history ∧ ¬ PruneQueryFlatHistory olderThan
        (prunedTable olderThan state.materialized) state.history entry :=
    fun entry hentry => (mem_point_pruneHistory hbackend).mp hentry
  refine ⟨?_, ?_, ?_, ?_, ?_, ?_, ?_⟩
  · exact fun row hrow => htold.clocked row (hrows row hrow).1
  · exact htold.absent_prune hbackend hordered
  · intro row hrow
    rw [hops]
    exact htold.last row (hrows row hrow).1
  · intro row hrow column name hdata
    obtain ⟨hbefore, hkept⟩ := hrows row hrow
    rw [htold.deletedBefore_iff hbefore] at hkept
    exact (htold.shown row hbefore column name hdata).prune hkept
  · intro row hrow halive
    obtain ⟨entry, hentry, hwritten, hclock, hdata⟩ := htold.current row (hrows row hrow).1 halive
    refine ⟨entry, (mem_point_pruneHistory hbackend).mpr ⟨hentry, ?_⟩, hwritten, hclock, hdata⟩
    exact htold.not_prunes_current (hrows row hrow).1 halive hentry hwritten hclock
  · intro row hrow entry hentry
    rw [hops]
    exact htold.key row (hrows row hrow).1 entry (hhistory entry hentry).1
  · intro entry hentry
    obtain ⟨hbefore, hkept⟩ := hhistory entry hentry
    obtain ⟨second, op, hop, hclock, hdeleted, hwritten⟩ := htold.entries entry hbefore
    refine ⟨second, op, ?_, hclock, hdeleted, fun hwrite => ?_⟩
    · rwa [opAt_append (lt_of_opAt hop)]
    · refine (hwritten hwrite).append hop ?_
      rintro bound ⟨⟩ hprunes
      have halive : entry.deleted = false := by
        rw [← Bool.not_eq_true, hdeleted]
        exact hwrite
      exact hkept ((htold.prunes_iff hbefore halive hclock).mpr hprunes)

end Histories

section Operations

/-- What an operation on the data series is for a data point. -/
def Operation.eventOn (id : DataPointId) : Operation V → Option (PointEvent V)
  | .modify request => (request.on id).map .request
  | .pruneHistory olderThan _ => some (.prune olderThan)
  | .garbageCollect .. => none

def eventsOn (id : DataPointId) (operations : List (Operation V)) : List (PointEvent V) :=
  operations.filterMap (Operation.eventOn id)

def Operation.request? : Operation V → Option (Modification V)
  | .modify request => some request
  | .pruneHistory .. => none
  | .garbageCollect .. => none

def requestsIn (operations : List (Operation V)) : List (Modification V) :=
  operations.filterMap Operation.request?

theorem eventsOn_append (id : DataPointId) (operations : List (Operation V))
    (operation : Operation V) : eventsOn id (operations ++ [operation]) =
      eventsOn id operations ++ (operation.eventOn id).toList := by
  rw [eventsOn, List.filterMap_append]
  cases hevent : operation.eventOn id <;> simp [eventsOn, hevent]

theorem requestsOf_eventsOn (id : DataPointId) (operations : List (Operation V)) :
    requestsOf (eventsOn id operations) =
      (requestsIn operations).filterMap (Modification.on id) := by
  rw [requestsOf, eventsOn, requestsIn, List.filterMap_filterMap, List.filterMap_filterMap]
  congr 1
  funext operation
  cases operation with
  | modify request =>
      rw [Operation.eventOn, Operation.request?, Option.bind_some]
      cases request.on id <;> rfl
  | pruneHistory => rfl
  | garbageCollect => rfl

/-- The requests on a data point have growing clocks when those of the run have. -/
theorem requestsOf_ordered (id : DataPointId) {operations : List (Operation V)}
    (hincreasing : (requestsIn operations).Pairwise fun a b => a.clock < b.clock) :
    (requestsOf (eventsOn id operations)).Pairwise fun a b => a.clock < b.clock := by
  rw [requestsOf_eventsOn, List.pairwise_filterMap]
  refine hincreasing.imp ?_
  intro a b hlt op hop op' hop'
  rw [on_clock hop, on_clock hop']
  exact hlt

variable [UploadedFile V]

/-- An upload is registered as long as no prune removes its history row. -/
def UploadsRegistered (ds : DataSeries) (id : DataPointId) (events : List (PointEvent V))
    (registry : List FileLookup) : Prop :=
  ∀ first, ∀ upload ∈ opAt events first, ∀ column name, (column, name) ∈ upload.files ds →
    (∀ place, first < place → ¬ PrunedAt events upload.clock place) →
      ∃ entry ∈ registry, entry.Registers ds ⟨id, column, name⟩ ∧ entry.clock = upload.clock

/-- The state, told by the operations of the run. -/
structure RunTold (ds : DataSeries) (operations : List (Operation V)) (state : StorageState V) :
    Prop where
  points : ∀ id, ToldBy ds (eventsOn id operations) (state.point id)
  registered : ∀ id, UploadsRegistered ds id (eventsOn id operations) state.fileLookup
  stored : ∀ entry ∈ state.fileLookup, entry.deletedAt = none →
    entry.tenantId = ds.tenantId → entry.dataSeriesId = ds.id →
    entry.fileName ∈ state.storage

variable {ds : DataSeries} (hbackend : ds.backend = .dynamicSqlMaterializedFlatHistory)
  {operations : List (Operation V)} {state : StorageState V}
include hbackend

theorem uploadsRegistered_modify (htold : RunTold ds operations state) (request : Modification V)
    (id : DataPointId) :
    UploadsRegistered ds id (eventsOn id (operations ++ [.modify request]))
      (modify ds state request).fileLookup := by
  have hregistry : (modify ds state request).fileLookup =
      state.fileLookup ++ request.registered ds := by
    rw [modify_fileLookup (Or.inr hbackend), if_neg (by simp [hbackend])]
  rw [eventsOn_append, Operation.eventOn, hregistry]
  intro first upload hupload column name hfile hkept
  cases hop : request.on id with
  | none =>
      rw [hop, Option.map_none, Option.toList_none, List.append_nil] at hupload hkept
      obtain ⟨entry, hentry, hregisters⟩ :=
        htold.registered id first upload hupload column name hfile hkept
      exact ⟨entry, List.mem_append_left _ hentry, hregisters⟩
  | some op =>
      rw [hop, Option.map_some, Option.toList_some] at hupload hkept
      rcases opAt_concat hupload with hold | ⟨-, hnew⟩
      · have hbefore : ∀ place, first < place →
            ¬ PrunedAt (eventsOn id operations) upload.clock place :=
          fun place hplace hpruned => hkept place hplace (prunedAt_concat.mpr (.inl hpruned))
        obtain ⟨entry, hentry, hregisters⟩ :=
          htold.registered id first upload hold column name hfile hbefore
        exact ⟨entry, List.mem_append_left _ hentry, hregisters⟩
      · obtain rfl : op = upload := Option.some.inj hnew
        have hmem : ⟨id, column, name⟩ ∈ request.uploads ds :=
          Modification.mem_uploads.mpr ⟨op, hop, hfile⟩
        rw [← map_heldFile_registered] at hmem
        obtain ⟨entry, hentry, hheld⟩ := List.mem_map.mp hmem
        obtain ⟨htenant, hseries, hlive, hclock⟩ := of_mem_registered hentry
        rw [FileLookup.heldFile, HeldFile.mk.injEq] at hheld
        obtain ⟨hid, hfact, hname⟩ := hheld
        refine ⟨entry, List.mem_append_right _ hentry, ?_, hclock.trans (on_clock hop).symm⟩
        exact ⟨hlive, htenant, hseries, hfact, hid, hname⟩

theorem RunTold.modify (htold : RunTold ds operations state) {request : Modification V}
    (hlater : ∀ earlier ∈ requestsIn operations, earlier.clock < request.clock) :
    RunTold ds (operations ++ [.modify request]) (modify ds state request) := by
  refine ⟨fun id => ?_, uploadsRegistered_modify hbackend htold request, ?_⟩
  · rw [eventsOn_append, Operation.eventOn, point_modify]
    cases hop : request.on id with
    | none =>
        rw [Option.map_none, Option.toList_none, List.append_nil]
        exact htold.points id
    | some op =>
        refine (htold.points id).request hbackend id ?_
        intro earlier hearlier
        rw [requestsOf_eventsOn] at hearlier
        obtain ⟨before, hbefore, hon⟩ := List.mem_filterMap.mp hearlier
        rw [on_clock hon, on_clock hop]
        exact hlater before hbefore
  · intro entry hentry hlive htenant hseries
    rw [mem_modify_storage (Or.inr hbackend)]
    rw [modify_fileLookup (Or.inr hbackend), if_neg (by simp [hbackend]), List.mem_append]
      at hentry
    rcases hentry with hold | hnew
    · exact .inl (htold.stored entry hold hlive htenant hseries)
    · refine .inr ⟨entry.heldFile, ?_, rfl⟩
      rw [← map_heldFile_registered]
      exact List.mem_map_of_mem hnew

omit hbackend in
/-- The history row under the key of an upload is that of the upload. -/
theorem alive_of_clock {id : DataPointId} (htold : RunTold ds operations state)
    (hincreasing : (requestsIn operations).Pairwise fun a b => a.clock < b.clock)
    {entry : HistRow V} (hentry : entry ∈ (state.point id).history) {first : Nat}
    {upload : PointOp V} (hupload : upload ∈ opAt (eventsOn id operations) first)
    {column : Uuid} {name : String} (hfile : (column, name) ∈ upload.files ds)
    (hclock : entry.clock = some upload.clock) : entry.deleted = false := by
  obtain ⟨second, op, hop, hown, hdeleted, -⟩ := (htold.points id).entries entry hentry
  have hsame : op = upload := by
    refine eq_of_clock (requestsOf_ordered id hincreasing) (mem_requestsOf_of_opAt hop)
      (mem_requestsOf_of_opAt hupload) ?_
    rw [hown, Option.some.injEq] at hclock
    exact hclock
  rw [← Bool.not_eq_true, hdeleted, hsame]
  intro hdelete
  cases upload with
  | write => cases hdelete
  | delete deletion => cases hfile

theorem uploadsRegistered_prune (htold : RunTold ds operations state)
    (hincreasing : (requestsIn operations).Pairwise fun a b => a.clock < b.clock)
    (olderThan now : Int) (id : DataPointId) :
    UploadsRegistered ds id (eventsOn id (operations ++ [.pruneHistory olderThan now]))
      (pruneHistory ds olderThan now state).fileLookup := by
  rw [eventsOn_append]
  simp only [pruneHistory, hbackend]
  intro first upload hupload column name hfile hkept
  rcases opAt_concat hupload with hold | ⟨-, hnew⟩
  · have hbefore : ∀ place, first < place →
        ¬ PrunedAt (eventsOn id operations) upload.clock place :=
      fun place hplace hpruned => hkept place hplace (prunedAt_concat.mpr (.inl hpruned))
    obtain ⟨entry, hentry, hregisters, hclock⟩ :=
      htold.registered id first upload hold column name hfile hbefore
    refine ⟨entry, mem_unregisterHistory ds now hentry ?_, hregisters, hclock⟩
    intro row hrow hkey
    obtain ⟨hrow, hquery⟩ := List.mem_filter.mp hrow
    obtain ⟨sub, hsub, heq⟩ := List.mem_map.mp hkey
    rw [HistoryDataPointIdentifier.mk.injEq, hregisters.2.2.2.2.1] at heq
    obtain ⟨hid, htime, hsubClock⟩ := heq
    have hrowClock : row.clock = some upload.clock := by
      rw [← hclock, HistRow.clock, Option.mem_toList.mp hsub, Option.map_some, htime, hsubClock]
      rfl
    have hpoint : row ∈ (state.point id).history :=
      List.mem_filter.mpr ⟨hrow, decide_eq_true hid⟩
    have halive := alive_of_clock htold hincreasing hpoint hold hfile hrowClock
    have hprunes := ((htold.points id).prunes_iff hpoint halive hrowClock).mp
      (of_decide_eq_true hquery)
    exact hkept _ (lt_of_opAt hold) (prunedAt_concat.mpr (.inr ⟨rfl, olderThan, rfl, hprunes⟩))
  · cases hnew

theorem RunTold.prune (htold : RunTold ds operations state)
    (hincreasing : (requestsIn operations).Pairwise fun a b => a.clock < b.clock)
    (olderThan now : Int) :
    RunTold ds (operations ++ [.pruneHistory olderThan now])
      (pruneHistory ds olderThan now state) := by
  refine ⟨fun id => ?_, uploadsRegistered_prune hbackend htold hincreasing olderThan now, ?_⟩
  · rw [eventsOn_append]
    exact (htold.points id).prune hbackend (requestsOf_ordered id hincreasing)
  · simp only [pruneHistory, hbackend]
    intro entry hentry hlive
    exact htold.stored entry (mem_of_mem_unregisterHistory ds now hentry hlive) hlive

omit hbackend in
theorem RunTold.collect (htold : RunTold ds operations state) {currentTenant : Option Uuid}
    {olderThan : Int} (hcond : CollectSeesSeries ds state currentTenant olderThan) :
    RunTold ds (operations ++ [.garbageCollect currentTenant olderThan])
      (garbageCollect currentTenant olderThan state) := by
  have hevents : ∀ id,
      eventsOn id (operations ++ [.garbageCollect currentTenant olderThan]) =
        eventsOn id operations := by
    intro id
    rw [eventsOn_append]
    exact List.append_nil _
  refine ⟨fun id => hevents id ▸ htold.points id, ?_, stored_garbageCollect htold.stored hcond⟩
  intro id first upload hupload column name hfile hkept
  rw [hevents] at hupload hkept
  obtain ⟨entry, hentry, hregisters, hclock⟩ :=
    htold.registered id first upload hupload column name hfile hkept
  exact ⟨entry, mem_garbageCollect_fileLookup.mpr
    ⟨hentry, not_collectable_of_live hregisters.1⟩, hregisters, hclock⟩

omit hbackend in
/-- The file in a history row of a write is registered, unless a copy outlives its upload. -/
theorem RunTold.registered_of_written {id : DataPointId} (htold : RunTold ds operations state)
    {second : Nat} {op : PointOp V} (hop : op ∈ opAt (eventsOn id operations) second)
    {entry : HistRow V} (hwritten : WrittenAt ds (eventsOn id operations) second op entry)
    {column : Uuid} {name : String} (hdata : entry.data column = .fileName name)
    (hcopies : ∀ file ∈ uploads ds (requestsIn operations),
      NoCopyOutlives ds file.factId (eventsOn file.dataPointId operations)) :
    ∃ entry ∈ state.fileLookup, entry.Registers ds ⟨id, column, name⟩ := by
  obtain ⟨first, hfirst, upload, hupload, hfile⟩ := hwritten.files column name hdata
  have huploaded : ⟨id, column, name⟩ ∈ uploads ds (requestsIn operations) := by
    refine mem_uploads.mpr ⟨upload, ?_, hfile⟩
    rw [← requestsOf_eventsOn]
    exact mem_requestsOf_of_opAt hupload
  have hkept : ∀ place, first < place →
      ¬ PrunedAt (eventsOn id operations) upload.clock place := by
    intro place hplace hpruned
    rcases hfirst with rfl | hcopied
    · obtain rfl : op = upload := Option.some.inj (hop.symm.trans hupload)
      exact hwritten.kept place hplace hpruned
    · refine hcopies _ huploaded second (lt_of_opAt hop) first hcopied.1 hcopied upload hupload
        (List.mem_map_of_mem hfile) op hop ⟨place, lt_of_prunedAt hpruned, hplace, hpruned, ?_⟩
      rintro ⟨earlier, -, hlater, hearlier⟩
      exact hwritten.kept earlier hlater hearlier
  obtain ⟨found, hfound, hregisters, -⟩ :=
    htold.registered id first upload hupload column name hfile hkept
  exact ⟨found, hfound, hregisters⟩

omit hbackend in
theorem RunTold.filesRegistered (htold : RunTold ds operations state)
    (hcopies : ∀ file ∈ uploads ds (requestsIn operations),
      NoCopyOutlives ds file.factId (eventsOn file.dataPointId operations)) :
    FilesRegistered ds state := by
  refine ⟨fun file hfile => ?_, htold.stored⟩
  have hpoint := htold.points file.dataPointId
  obtain ⟨entry, hentry, halive, hshows⟩ : ∃ entry ∈ (state.point file.dataPointId).history,
      entry.deleted = false ∧ ShowsFile ds file entry.data := by
    rcases mem_heldFiles.mp hfile with ⟨row, hrow, halive, hshows⟩ | hentry
    · obtain ⟨entry, hentry, hwritten, -, hdata⟩ := hpoint.current row hrow halive
      exact ⟨entry, hentry, hwritten, hdata.symm ▸ hshows⟩
    · exact hentry
  obtain ⟨second, op, hop, -, hdeleted, hwritten⟩ := hpoint.entries entry hentry
  have hwrite : ¬ op.IsDelete := by
    rw [← hdeleted, halive]
    exact Bool.false_ne_true
  exact htold.registered_of_written hop (hwritten hwrite) hshows.2 hcopies

/-- The step lemma. -/
theorem RunTold.execute (htold : RunTold ds operations state)
    {operation : Operation V} (hcond : CollectsOwn ds state operation)
    (hincreasing : (requestsIn (operations ++ [operation])).Pairwise fun a b =>
      a.clock < b.clock) :
    RunTold ds (operations ++ [operation]) (execute ds state operation) := by
  rw [requestsIn, List.filterMap_append, List.pairwise_append] at hincreasing
  cases operation with
  | modify request =>
      refine htold.modify hbackend fun earlier hearlier => ?_
      exact hincreasing.2.2 earlier hearlier request List.mem_cons_self
  | pruneHistory olderThan now => exact htold.prune hbackend hincreasing.1 olderThan now
  | garbageCollect currentTenant olderThan => exact htold.collect hcond

omit hbackend in
theorem runTold_empty (ds : DataSeries) {registry : List FileLookup}
    (hregistry : ∀ entry ∈ registry, entry.dataSeriesId ≠ ds.id) (storage : List String) :
    RunTold ds [] (StorageState.empty registry storage : StorageState V) := by
  refine ⟨fun id => ?_, nofun, fun entry hentry _ _ hseries => ?_⟩
  · exact ⟨nofun, fun _ => rfl, nofun, nofun, nofun, nofun, nofun⟩
  · exact absurd hseries (hregistry entry hentry)

/-- The run lemma. -/
theorem runTold_run {registry : List FileLookup}
    (hregistry : ∀ entry ∈ registry, entry.dataSeriesId ≠ ds.id) {storage : List String}
    (hincreasing : (requestsIn operations).Pairwise fun a b => a.clock < b.clock)
    (hcollects : Runs.AllSteps (NFCompose.execute ds) (CollectsOwn ds)
      (StorageState.empty registry storage) operations) :
    RunTold ds operations
      (Runs.run (NFCompose.execute ds) (StorageState.empty registry storage) operations) := by
  induction operations using List.reverseRecOn with
  | nil => exact runTold_empty ds hregistry storage
  | append_singleton done operation ih =>
      rw [Runs.allSteps_append] at hcollects
      rw [Runs.run_append]
      have hbefore : (requestsIn done).Pairwise fun a b => a.clock < b.clock := by
        have hall := hincreasing
        rw [requestsIn, List.filterMap_append, List.pairwise_append] at hall
        exact hall.1
      exact (ih hbefore hcollects.1).execute hbackend hcollects.2.1 hincreasing

end Operations

/-- In every state of a run with growing clocks, in which no copy outlives its upload and the
collections see the series, the files of alive rows and of history rows are registered and
stored. -/
theorem flatHistory_filesSafe [UploadedFile V] (ds : DataSeries)
    (hbackend : ds.backend = .dynamicSqlMaterializedFlatHistory)
    (registry : List FileLookup)
    (hregistry : ∀ entry ∈ registry, entry.dataSeriesId ≠ ds.id)
    (storage : List String) (operations : List (Operation V))
    (hincreasing : (requestsIn operations).Pairwise fun a b => a.clock < b.clock)
    (hcopies : ∀ file ∈ uploads ds (requestsIn operations),
      NoCopyOutlives ds file.factId (eventsOn file.dataPointId operations))
    (hcollects : Runs.AllSteps (execute ds) (CollectsOwn ds)
      (StorageState.empty registry storage) operations) :
    ∀ done, done <+: operations →
      let reached := Runs.run (execute ds) (StorageState.empty registry storage) done
      FilesSafe (heldFiles ds reached) reached := by
  rintro done ⟨rest, rfl⟩
  have hrequests : requestsIn (done ++ rest) = requestsIn done ++ requestsIn rest :=
    List.filterMap_append
  rw [Runs.allSteps_append] at hcollects
  rw [hrequests] at hincreasing hcopies
  have htold := runTold_run hbackend hregistry (List.pairwise_append.mp hincreasing).1 hcollects.1
  refine (htold.filesRegistered fun file hfile => ?_).filesSafe
  have hlonger := hcopies file (List.mem_flatMap.mpr
    ((List.mem_flatMap.mp hfile).imp fun request hrequest =>
      ⟨List.mem_append_left _ hrequest.1, hrequest.2⟩))
  rw [eventsOn, List.filterMap_append] at hlonger
  exact noCopyOutlives_of_append hlonger

namespace FileSafetyWitness

open ModificationWitness

def series : DataSeries :=
  ModificationWitness.series .dynamicSqlMaterializedFlatHistory

/-- A file is uploaded at 1 and copied by a PATCH at 2; the history row of the
upload is pruned, then the garbage is collected. -/
def pruneUpload : List (Operation String) :=
  [.modify (write false [("picture", some "a.png")] 1),
    .modify (write true [("note", some "patched")] 2),
    .pruneHistory 2 10, .garbageCollect none 20]

/-- The alive row still shows the file that was removed from the storage. -/
theorem pruneUpload_loses_file :
    let final := Runs.run (execute series) (StorageState.empty [] [])
      pruneUpload
    ¬ FilesSafe (heldFiles series final) final := by
  decide

/-- A row deleted and revived by a PATCH, then pruned while a later full write
holds a file of its own. -/
theorem flatHistory_filesSafe_revived :
    let operations : List (Operation String) :=
      [.modify (write false [("picture", some "a.png")] 1),
        .modify (delete 2), .modify (write true [("note", some "back")] 3),
        .modify (write false [("picture", some "b.png")] 4),
        .pruneHistory 4 10, .garbageCollect (some "tenant") 20]
    let final := Runs.run (execute series) (StorageState.empty [] [])
      operations
    FilesSafe (heldFiles series final) final :=
  flatHistory_filesSafe series rfl [] (by simp) [] _ (by decide) (by decide) (by decide) _
    (List.prefix_refl _)

end FileSafetyWitness

end NFCompose
