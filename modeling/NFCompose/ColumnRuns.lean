/-
The rows after a run with growing clocks, column by column.  Every operation is
executed, so a column shows what the last operation that overwrites it brings,
and a data point is deleted exactly when its last operation deletes it.
-/
import NFCompose.LateUploads
import NFCompose.TimeTravel

namespace NFCompose

universe u

variable {V : Type u}

section Values

theorem mem_factDimOrderInSql (kind : FactDimKind) : kind ∈ factDimOrderInSql := by
  cases kind <;> simp [factDimOrderInSql]

theorem lookup_of_mem {A B : Type*} [BEq A] [LawfulBEq A] {pairs : List (A × B)}
    (hnodup : (pairs.map Prod.fst).Nodup) {key : A} {value : B} (hmem : (key, value) ∈ pairs) :
    pairs.lookup key = some value := by
  obtain ⟨before, after, rfl⟩ := List.append_of_mem hmem
  refine List.lookup_eq_some_iff.mpr ⟨before, after, rfl, ?_⟩
  intro pair hpair
  rw [List.map_append, List.nodup_append] at hnodup
  have hne := hnodup.2.2 pair.1 (List.mem_map_of_mem hpair) key (by simp)
  exact bne_iff_ne.mpr (Ne.symm hne)

variable [UploadedFile V]

/-- The column of an element takes the value of its kind. -/
theorem dataToInsert_of_mem (ds : DataSeries) (payload : List (ExternalId × Option V))
    {kind : FactDimKind} {key : StructureKey} (hkey : key ∈ ds.keys kind) :
    dataToInsert ds payload key.uuid = valueOfKind kind payload key.externalId := by
  have hnodup : ((dataValues ds payload).map Prod.fst).Nodup := by
    have heq : (dataValues ds payload).map Prod.fst = ds.keys.all.map StructureKey.uuid := by
      simp [dataValues, DataPointSerializationKeys.all, List.map_flatMap, Function.comp_def]
    exact heq ▸ ds.uuids_nodup
  have hmem : (key.uuid, valueOfKind kind payload key.externalId) ∈ dataValues ds payload :=
    List.mem_flatMap.mpr ⟨kind, mem_factDimOrderInSql kind, List.mem_map_of_mem hkey⟩
  rw [dataToInsert, lookup_of_mem hnodup hmem, Option.getD_some]

theorem dataToInsert_fileLike (ds : DataSeries) (payload : List (ExternalId × Option V))
    {key : StructureKey} (hkey : key ∈ ds.keys.fileLike) :
    dataToInsert ds payload key.uuid = fileLikeValue payload key.externalId := by
  rw [DataPointSerializationKeys.fileLike, List.mem_append] at hkey
  rcases hkey with hkey | hkey
  · exact dataToInsert_of_mem ds payload hkey
  · exact dataToInsert_of_mem ds payload hkey

/-- An uploaded file is the value of its column. -/
theorem dataToInsert_of_mem_filesToSave {ds : DataSeries}
    {payload : List (ExternalId × Option V)} {column : Uuid} {name : String}
    (hfile : (column, name) ∈ filesToSave ds payload) :
    column ∈ ds.fileColumns ∧ dataToInsert ds payload column = .fileName name := by
  rw [filesToSave, List.mem_filterMap] at hfile
  obtain ⟨key, hkey, hfile⟩ := hfile
  split at hfile
  · rename_i file hlookup
    simp only [Option.some.injEq, Prod.mk.injEq] at hfile
    obtain ⟨rfl, rfl⟩ := hfile
    refine ⟨List.mem_map_of_mem hkey, ?_⟩
    rw [dataToInsert_fileLike ds payload hkey, fileLikeValue, hlookup]
  · cases hfile

/-- A file column takes a file name or NULL. -/
theorem dataToInsert_fileColumn (ds : DataSeries) (payload : List (ExternalId × Option V))
    {column : Uuid} (hcolumn : column ∈ ds.fileColumns) :
    dataToInsert ds payload column = .null ∨
      ∃ name, dataToInsert ds payload column = .fileName name := by
  obtain ⟨key, hkey, rfl⟩ := List.mem_map.mp hcolumn
  rw [dataToInsert_fileLike ds payload hkey, fileLikeValue]
  split
  · exact Or.inr ⟨_, rfl⟩
  · exact Or.inl rfl

/-- A column that a write does not overwrite is NULL where it inserts. -/
theorem dataToInsert_eq_null {ds : DataSeries} {isPartial : Bool}
    {payload : List (ExternalId × Option V)} {column : Uuid}
    (hunset : column ∉ setColumns ds isPartial payload) :
    dataToInsert ds payload column = .null := by
  by_cases hcolumn : column ∈ ds.columns
  · obtain ⟨key, hkey, rfl⟩ := List.mem_map.mp hcolumn
    cases isPartial with
    | false => exact absurd hcolumn hunset
    | true =>
        have hlookup : payload.lookup key.externalId = none := by
          rw [← Option.not_isSome_iff_eq_none]
          intro hsome
          exact hunset (List.mem_map_of_mem (List.mem_filter.mpr ⟨hkey, hsome⟩))
        obtain ⟨kind, -, hkind⟩ := List.mem_flatMap.mp hkey
        rw [dataToInsert_of_mem ds payload hkind]
        cases kind <;> simp [valueOfKind, fileLikeValue, jsonValue, plainValue, hlookup]
  · cases hlookup : (dataValues ds payload).lookup column with
    | none => rw [dataToInsert, hlookup, Option.getD_none]
    | some cell =>
        obtain ⟨before, after, heq, -⟩ := List.lookup_eq_some_iff.mp hlookup
        have hmem : (column, cell) ∈ dataValues ds payload := by simp [heq]
        obtain ⟨kind, hkind, hmem⟩ := List.mem_flatMap.mp hmem
        obtain ⟨key, hkey, hpair⟩ := List.mem_map.mp hmem
        cases hpair
        exact absurd (List.mem_map_of_mem (List.mem_flatMap.mpr ⟨kind, hkind, hkey⟩)) hcolumn

end Values

section Operations

variable [UploadedFile V]

/-- The operation overwrites the column. -/
def PointOp.Sets (ds : DataSeries) (column : Uuid) : PointOp V → Prop
  | .write data isPartial .. => column ∈ setColumns ds isPartial data.payload
  | .delete _ => False

instance (ds : DataSeries) (column : Uuid) :
    (op : PointOp V) → Decidable (op.Sets ds column)
  | .write .. => inferInstanceAs (Decidable (_ ∈ _))
  | .delete _ => isFalse not_false

/-- What the operation brings for the column. -/
def PointOp.cell (ds : DataSeries) (column : Uuid) : PointOp V → Cell V
  | .write data .. => dataToInsert ds data.payload column
  | .delete _ => .null

/-- The files that the operation uploads, with their facts. -/
def PointOp.files (ds : DataSeries) : PointOp V → List (Uuid × String)
  | .write data .. => filesToSave ds data.payload
  | .delete _ => []

def PointOp.IsDelete : PointOp V → Prop
  | .write .. => False
  | .delete _ => True

instance : (op : PointOp V) → Decidable op.IsDelete
  | .write .. => isFalse not_false
  | .delete _ => isTrue trivial

/-- An uploaded file overwrites its column. -/
theorem PointOp.cell_of_mem_files {ds : DataSeries} {op : PointOp V} {column : Uuid}
    {name : String} (hfile : (column, name) ∈ op.files ds) :
    column ∈ ds.fileColumns ∧ op.Sets ds column ∧ op.cell ds column = .fileName name := by
  cases op with
  | write data isPartial clock userId recordSource =>
      obtain ⟨hcolumn, hcell⟩ := dataToInsert_of_mem_filesToSave hfile
      exact ⟨hcolumn, mem_setColumns_of_mem_filesToSave hfile, hcell⟩
  | delete deletion => cases hfile

theorem PointOp.mem_files_of_cell {ds : DataSeries} {op : PointOp V} {column : Uuid}
    {name : String} (hcell : op.cell ds column = .fileName name) :
    (column, name) ∈ op.files ds := by
  cases op with
  | write data isPartial clock userId recordSource =>
      exact mem_filesToSave_of_dataToInsert hcell
  | delete deletion => cases hcell

/-- An operation that brings no file for a file column empties it. -/
theorem PointOp.cell_eq_null {ds : DataSeries} (op : PointOp V) {column : Uuid}
    (hcolumn : column ∈ ds.fileColumns) (hfiles : ∀ name, (column, name) ∉ op.files ds) :
    op.cell ds column = .null := by
  cases op with
  | write data isPartial clock userId recordSource =>
      rcases dataToInsert_fileColumn ds data.payload hcolumn with hnull | ⟨name, hname⟩
      · exact hnull
      · exact absurd (mem_filesToSave_of_dataToInsert hname) (hfiles name)
  | delete deletion => rfl

/-- An executed operation leaves in a column what it brings, or what was there. -/
theorem resultRow_data (ds : DataSeries) (target : Option (MatRow V)) (op : PointOp V)
    (column : Uuid) :
    (op.resultRow ds target).data column =
      if op.Sets ds column then op.cell ds column
      else target.elim .null fun row => row.data column := by
  cases op with
  | write data isPartial clock userId recordSource =>
      cases target with
      | none =>
          change dataToInsert ds data.payload column = _
          split
          · rfl
          · rename_i hunset
            exact dataToInsert_eq_null hunset
      | some row => rfl
  | delete deletion => cases target <;> rfl

theorem resultRow_alive (ds : DataSeries) (target : Option (MatRow V)) (op : PointOp V) :
    (op.resultRow ds target).deletedAt = none ↔ ¬ op.IsDelete := by
  cases op with
  | write data isPartial clock userId recordSource =>
      cases target <;> exact iff_of_true rfl not_false
  | delete deletion =>
      cases target <;> exact iff_of_false nofun (not_not_intro trivial)

/-- What the last of the operations that overwrite the column brings. -/
def lastCell (ds : DataSeries) (column : Uuid) (ops : List (PointOp V)) : Cell V :=
  (ops.filter fun op => op.Sets ds column).getLast?.elim .null (PointOp.cell ds column)

theorem lastCell_append (ds : DataSeries) (column : Uuid) (ops : List (PointOp V))
    (op : PointOp V) :
    lastCell ds column (ops ++ [op]) =
      if op.Sets ds column then op.cell ds column else lastCell ds column ops := by
  rw [lastCell, List.filter_append]
  by_cases hsets : op.Sets ds column
  · rw [List.filter_singleton, decide_eq_true hsets, if_pos hsets, cond_true,
      List.getLast?_concat]
    rfl
  · rw [List.filter_singleton, decide_eq_false hsets, if_neg hsets, cond_false,
      List.append_nil]
    rfl

/-- The row shows what the operations on its data point leave behind. -/
structure ShowsLast (ds : DataSeries) (row : Option (MatRow V)) (ops : List (PointOp V)) :
    Prop where
  absent : row = none → ops = []
  alive : ∀ row' ∈ row, (row'.deletedAt = none ↔ ∀ op ∈ ops.getLast?, ¬ op.IsDelete)
  data : ∀ row' ∈ row, ∀ column, row'.data column = lastCell ds column ops

/-- The step lemma of the columns. -/
theorem ShowsLast.resultRow {ds : DataSeries} {row : Option (MatRow V)}
    {ops : List (PointOp V)} (hshows : ShowsLast ds row ops) (op : PointOp V) :
    ShowsLast ds (some (op.resultRow ds row)) (ops ++ [op]) := by
  have hbefore : ∀ column,
      row.elim .null (fun row => row.data column) = lastCell ds column ops := by
    intro column
    cases hrow : row with
    | none => rw [hshows.absent hrow]; rfl
    | some row' => exact hshows.data row' hrow column
  refine ⟨nofun, ?_, ?_⟩
  · intro row' hrow
    rw [Option.mem_some_iff] at hrow
    subst hrow
    rw [resultRow_alive, List.getLast?_concat]
    simp
  · intro row' hrow column
    rw [Option.mem_some_iff] at hrow
    subst hrow
    rw [resultRow_data, lastCell_append, hbefore]

end Operations

section Increasing

variable [UploadedFile V]

/-- In a run with growing clocks every row is older than the next request. -/
theorem tableOlder_of_increasing (ds : DataSeries) (registry : List FileLookup)
    (storage : List String) {requests : List (Modification V)}
    (hincreasing : requests.Pairwise fun a b => a.clock < b.clock) :
    Runs.AllSteps (modify ds) TableOlder (StorageState.empty registry storage) requests := by
  apply Runs.allSteps_of_pending (tableOlder_modify ds) (fun _ _ holder => holder) hincreasing
  intro request _ id
  exact ⟨by simp [StorageState.point, StorageState.empty], newer_none request.clock⟩

/-- A request on older rows is executed for every data point that it addresses. -/
theorem lookup_modify_of_tableOlder (ds : DataSeries) {state : StorageState V}
    {request : Modification V} (holder : TableOlder state request) (id : DataPointId) :
    (modify ds state request).materialized.lookup id =
      (request.on id).elim (state.materialized.lookup id)
        fun op => some (op.resultRow ds (state.materialized.lookup id)) := by
  have hpoint := congrArg PointState.row (point_modify ds id state request)
  refine hpoint.trans ?_
  cases hop : request.on id with
  | none => rfl
  | some op =>
      have hstale := noStaleDeleteOf_of_noStaleDelete id
        (noStaleDelete_of_tableOlder holder) op hop
      have hnewer : Newer (state.point id).row op.clock := on_clock hop ▸ (holder id).2
      rw [Option.elim_some, pointStep_eq ds id (holder id).1 hstale, if_pos hnewer]
      rfl

/-- The run lemma of the columns. -/
theorem showsLast_run (ds : DataSeries) (registry : List FileLookup) (storage : List String)
    {requests : List (Modification V)}
    (hincreasing : requests.Pairwise fun a b => a.clock < b.clock) (id : DataPointId) :
    ShowsLast ds ((Runs.run (modify ds) (StorageState.empty registry storage)
      requests).materialized.lookup id) (requests.filterMap (Modification.on id)) := by
  have hempty : ShowsLast ds (none : Option (MatRow V)) [] :=
    ⟨fun _ => rfl, by simp, by simp⟩
  refine Runs.run_along (fun state done =>
    ShowsLast ds (state.materialized.lookup id) (done.filterMap (Modification.on id)))
    ?_ hempty (tableOlder_of_increasing ds registry storage hincreasing)
  intro state done request hshows holder
  rw [lookup_modify_of_tableOlder ds holder, List.filterMap_append]
  cases hop : request.on id with
  | none => simpa [hop] using hshows
  | some op =>
      rw [List.filterMap_cons_some hop]
      exact hshows.resultRow op

end Increasing

end NFCompose
