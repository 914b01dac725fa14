/-
Writing and deleting data points: the upsert on the materialised table, the row
that RETURNING hands to the flat history table, and the registration of
uploaded files.  Seen from one data point id, a request changes that point's
rows through these rows alone.
-/
import NFCompose.FileRegistry
import NFCompose.Runs

namespace NFCompose

universe u

variable {V : Type u}

section Values

variable [UploadedFile V]

/-- The stored name of an uploaded file. -/
def fileLikeValue (payload : List (ExternalId × Option V))
    (externalId : ExternalId) : Cell V :=
  match payload.lookup externalId with
  | some (some file) => .fileName (UploadedFile.name file)
  | _ => .null

def jsonValue (payload : List (ExternalId × Option V))
    (externalId : ExternalId) : Cell V :=
  match payload.lookup externalId with
  | some value => .json value
  | none => .null

def plainValue (payload : List (ExternalId × Option V))
    (externalId : ExternalId) : Cell V :=
  match payload.lookup externalId with
  | some (some value) => .value value
  | _ => .null

/-- What one element contributes to `values`. -/
def valueOfKind (kind : FactDimKind) :
    List (ExternalId × Option V) → ExternalId → Cell V :=
  match kind with
  | .imageFacts | .fileFacts => fileLikeValue
  | .jsonFacts => jsonValue
  | _ => plainValue

/-- The data columns next to the values collected for them. -/
def dataValues (ds : DataSeries) (payload : List (ExternalId × Option V)) :
    List (Uuid × Cell V) :=
  factDimOrderInSql.flatMap fun kind => (ds.keys kind).map fun key =>
    (key.uuid, valueOfKind kind payload key.externalId)

/-- A data column of `values_to_insert`. -/
def dataToInsert (ds : DataSeries) (payload : List (ExternalId × Option V))
    (column : Uuid) : Cell V :=
  ((dataValues ds payload).lookup column).getD .null

/-- The row of `values_to_insert`, which is also EXCLUDED in the upsert. -/
def valuesToInsert (ds : DataSeries) (clock : Clock) (data : ValidatedData V) :
    MatRow V where
  externalId := data.externalId
  pointInTime := clock.pointInTime
  insertedAt := clock.pointInTime
  deletedAt := none
  subClock := some clock.subClock
  data := dataToInsert ds data.payload

end Values

def generateSetStatementsNonPartial (ds : DataSeries) : List Uuid :=
  ds.keys.all.map StructureKey.uuid

def generateSetStatementsForSingle (ds : DataSeries)
    (payload : List (ExternalId × Option V)) : List Uuid :=
  (ds.keys.all.filter fun key => (payload.lookup key.externalId).isSome).map
    StructureKey.uuid

/-- The data columns that the upsert overwrites. -/
def setColumns (ds : DataSeries) (isPartial : Bool)
    (payload : List (ExternalId × Option V)) : List Uuid :=
  if isPartial then generateSetStatementsForSingle ds payload
  else generateSetStatementsNonPartial ds

/-- The WHERE of the upsert: only a newer write may replace the row.  A deleted
row is compared by its time of deletion. -/
def UpsertWhere (target : MatRow V) (clock : Clock) : Prop :=
  match target.subClock with
  | none =>
      (target.pointInTime < clock.pointInTime ∧ target.deletedAt = none) ∨
        ∃ deletedAt ∈ target.deletedAt, deletedAt < clock.pointInTime
  | some subClock =>
      (Clock.mk target.pointInTime subClock < clock ∧
          target.deletedAt = none) ∨
        ∃ deletedAt ∈ target.deletedAt, Clock.mk deletedAt subClock < clock

instance (target : MatRow V) (clock : Clock) :
    Decidable (UpsertWhere target clock) := by
  unfold UpsertWhere
  exact match target.subClock with
    | none => inferInstanceAs (Decidable (_ ∨ _))
    | some _ => inferInstanceAs (Decidable (_ ∨ _))

/-- `ON CONFLICT (id) DO UPDATE SET`. -/
def upsertSet (columns : List Uuid) (excluded target : MatRow V) : MatRow V :=
  { target with
    insertedAt :=
      if target.deletedAt = none then target.insertedAt
      else excluded.insertedAt
    deletedAt := excluded.deletedAt
    pointInTime := excluded.pointInTime
    subClock := excluded.subClock
    data := fun column =>
      if column ∈ columns then excluded.data column else target.data column }

/-- The row that the upsert returns, if it inserts or updates one. -/
def centralInsert (columns : List Uuid) (clock : Clock) (excluded : MatRow V)
    (target : Option (MatRow V)) : Option (MatRow V) :=
  match target with
  | none => some excluded
  | some target =>
      if UpsertWhere target clock then some (upsertSet columns excluded target)
      else none

/-- The WHERE of a deletion.  It looks at the point in time of the last write,
whether the row is deleted or not. -/
def DeleteWhere (target : MatRow V) (clock : Clock) : Prop :=
  match target.subClock with
  | none => target.pointInTime < clock.pointInTime
  | some subClock => Clock.mk target.pointInTime subClock < clock

instance (target : MatRow V) (clock : Clock) :
    Decidable (DeleteWhere target clock) := by
  unfold DeleteWhere
  exact match target.subClock with
    | none => inferInstance
    | some _ => inferInstance

/-- The row that a deletion returns: a deleted entry is inserted where there
was no row. -/
def centralDelete (externalId : ExternalId) (clock : Clock)
    (target : Option (MatRow V)) : Option (MatRow V) :=
  match target with
  | none => some {
      externalId := externalId
      pointInTime := clock.pointInTime
      insertedAt := clock.pointInTime
      deletedAt := some clock.pointInTime
      subClock := some clock.subClock
      data := fun _ => .null }
  | some target =>
      if DeleteWhere target clock then
        some { target with
          deletedAt := some clock.pointInTime
          subClock := some clock.subClock }
      else none

/-- The SELECT of the history insert over one of the given rows. -/
def insertToFlatHistory (userId : Option String) (recordSource : String)
    (id : DataPointId) (row : MatRow V) : HistRow V where
  id := id
  externalId := row.externalId
  pointInTime := row.deletedAt.getD row.pointInTime
  deleted := row.deletedAt.isSome
  userId := userId
  recordSource := recordSource
  subClock := row.subClock
  data := row.data

/-- The row given to the history insert after a write: overwritten columns from
`values_to_insert`, the others from the returned row. -/
def historySelect (columns : List Uuid) (values inserted : MatRow V) :
    MatRow V :=
  { values with
    data := fun column =>
      if column ∈ columns then values.data column else inserted.data column }

/-- The row given to the history insert after a deletion. -/
def historySelectForDelete (clock : Clock) (deleted : MatRow V) : MatRow V :=
  { deleted with
    deletedAt := some clock.pointInTime
    subClock := some clock.subClock }

/-- One call of `insert_or_update_data_points`.  The serializers refuse a batch
that names an external id twice, and a PATCH carries one data point: with more
of them the second statement would list its columns twice. -/
structure Write (V : Type u) where
  validatedDatas : List (ValidatedData V)
  isPartial : Bool
  clock : Clock
  userId : Option String
  recordSource : String
  ids_nodup : (validatedDatas.map ValidatedData.id).Nodup
  partial_single : isPartial → validatedDatas.length ≤ 1

/-- One call of `delete_datapoint`. -/
structure Deletion where
  id : DataPointId
  externalId : ExternalId
  clock : Clock
  userId : Option String
  recordSource : String

/-- The rows of one data point: its materialised row and its history. -/
structure PointState (V : Type u) where
  row : Option (MatRow V)
  history : List (HistRow V)

/-- What a request does to one data point. -/
inductive PointOp (V : Type u) where
  | write (data : ValidatedData V) (isPartial : Bool) (clock : Clock)
      (userId : Option String) (recordSource : String)
  | delete (deletion : Deletion)

def PointOp.clock : PointOp V → Clock
  | .write _ _ clock _ _ => clock
  | .delete deletion => deletion.clock

section Requests

variable [UploadedFile V]

/-- The files of a payload with the facts they are uploaded for. -/
def filesToSave (ds : DataSeries) (payload : List (ExternalId × Option V)) :
    List (Uuid × String) :=
  ds.keys.fileLike.filterMap fun key =>
    match payload.lookup key.externalId with
    | some (some file) => some (key.uuid, UploadedFile.name file)
    | _ => none

def saveFiles (ds : DataSeries) (clock : Clock) (state : StorageState V)
    (data : ValidatedData V) : StorageState V :=
  if ds.backend = .dynamicSqlNoHistory ∨
      ds.backend = .dynamicSqlMaterializedFlatHistory then
    (filesToSave ds data.payload).foldl
      (fun state file =>
        save ds.tenantId ds.id file.1
          ⟨data.id, clock.pointInTime, clock.subClock⟩ file.2 state)
      state
  else state

/-- The statement executed for one element of the batch. -/
def executeInsert (ds : DataSeries) (write : Write V) (state : StorageState V)
    (data : ValidatedData V) : StorageState V :=
  let columns := setColumns ds write.isPartial data.payload
  let values := valuesToInsert ds write.clock data
  match centralInsert columns write.clock values
      (state.materialized.lookup data.id) with
  | none => state
  | some inserted =>
      { state with
        materialized := state.materialized.insert data.id inserted
        history :=
          if ds.backend = .dynamicSqlMaterializedFlatHistory then
            state.history ++ [insertToFlatHistory write.userId
              write.recordSource data.id
              (historySelect columns values inserted)]
          else state.history }

def insertOrUpdateDataPoints (ds : DataSeries) (write : Write V)
    (state : StorageState V) : StorageState V :=
  let saved := write.validatedDatas.foldl (saveFiles ds write.clock) state
  let marked :=
    if ds.backend = .dynamicSqlNoHistory then
      { saved with
        fileLookup := deleteAllButLatestForDatapoints ds.tenantId ds.id
          (write.validatedDatas.map ValidatedData.id) write.clock.pointInTime
          saved.fileLookup }
    else saved
  write.validatedDatas.foldl (executeInsert ds write) marked

def deleteDatapoint (ds : DataSeries) (deletion : Deletion)
    (state : StorageState V) : StorageState V :=
  match centralDelete deletion.externalId deletion.clock
      (state.materialized.lookup deletion.id) with
  | none => state
  | some deleted =>
      { state with
        materialized := state.materialized.insert deletion.id deleted
        history :=
          if ds.backend = .dynamicSqlMaterializedFlatHistory then
            state.history ++ [insertToFlatHistory deletion.userId
              deletion.recordSource deletion.id
              (historySelectForDelete deletion.clock deleted)]
          else state.history }

/-- The requests that modify data points. -/
inductive Modification (V : Type u) where
  | write (write : Write V)
  | delete (deletion : Deletion)

def Modification.clock : Modification V → Clock
  | .write request => request.clock
  | .delete deletion => deletion.clock

/-- What the request does to the data point, if it addresses it. -/
def Modification.on (id : DataPointId) : Modification V → Option (PointOp V)
  | .write request =>
      (request.validatedDatas.find? fun data => data.id = id).map fun data =>
        .write data request.isPartial request.clock request.userId
          request.recordSource
  | .delete deletion =>
      if deletion.id = id then some (.delete deletion) else none

def modify (ds : DataSeries) (state : StorageState V) :
    Modification V → StorageState V
  | .write write => insertOrUpdateDataPoints ds write state
  | .delete deletion => deleteDatapoint ds deletion state

/-- The rows of one data point in a state. -/
def StorageState.point (state : StorageState V) (id : DataPointId) :
    PointState V :=
  ⟨state.materialized.lookup id, state.history.filter fun row => row.id = id⟩

/-- Put a returned row in place and append the history row made from it. -/
def PointState.put (ds : DataSeries) (point : PointState V)
    (returned : Option (MatRow V)) (historyRow : MatRow V → HistRow V) :
    PointState V :=
  match returned with
  | none => point
  | some row =>
      ⟨some row,
        if ds.backend = .dynamicSqlMaterializedFlatHistory then
          point.history ++ [historyRow row]
        else point.history⟩

def pointStep (ds : DataSeries) (id : DataPointId) (point : PointState V) :
    PointOp V → PointState V
  | .write data isPartial clock userId recordSource =>
      let columns := setColumns ds isPartial data.payload
      let values := valuesToInsert ds clock data
      point.put ds (centralInsert columns clock values point.row)
        fun inserted => insertToFlatHistory userId recordSource id
          (historySelect columns values inserted)
  | .delete deletion =>
      point.put ds
        (centralDelete deletion.externalId deletion.clock point.row)
        fun deleted => insertToFlatHistory deletion.userId
          deletion.recordSource id
          (historySelectForDelete deletion.clock deleted)

end Requests

section Projection

variable [UploadedFile V]

/-- The registry rows that the files of a data point get. -/
def registrations (ds : DataSeries) (clock : Clock) (data : ValidatedData V) :
    List FileLookup :=
  (filesToSave ds data.payload).map fun file => {
    tenantId := ds.tenantId
    dataSeriesId := ds.id
    factId := file.1
    dataPointId := data.id
    pointInTime := clock.pointInTime
    subClock := clock.subClock
    fileName := file.2
    deletedAt := none }

omit [UploadedFile V] in
theorem foldl_save_eq (ds : DataSeries) (clock : Clock) (id : DataPointId)
    (state : StorageState V) (files : List (Uuid × String)) :
    files.foldl (fun state file =>
        save ds.tenantId ds.id file.1
          ⟨id, clock.pointInTime, clock.subClock⟩ file.2 state) state =
      { state with
        fileLookup := state.fileLookup ++ files.map fun file => {
          tenantId := ds.tenantId
          dataSeriesId := ds.id
          factId := file.1
          dataPointId := id
          pointInTime := clock.pointInTime
          subClock := clock.subClock
          fileName := file.2
          deletedAt := none }
        storage := files.foldl (fun storage file => storage.insert file.2)
          state.storage } := by
  induction files generalizing state with
  | nil => simp
  | cons file rest ih =>
      rw [List.foldl_cons, ih]
      simp [save, register]

/-- Saving the files of a data point only appends to the registry and to the
file storage. -/
theorem saveFiles_eq (ds : DataSeries) (clock : Clock) (state : StorageState V)
    (data : ValidatedData V) :
    saveFiles ds clock state data =
      if ds.backend = .dynamicSqlNoHistory ∨
          ds.backend = .dynamicSqlMaterializedFlatHistory then
        { state with
          fileLookup := state.fileLookup ++ registrations ds clock data
          storage := (filesToSave ds data.payload).foldl
            (fun storage file => storage.insert file.2) state.storage }
      else state := by
  rw [saveFiles, foldl_save_eq]
  rfl

/-- Registering files does not touch the tables. -/
theorem foldl_saveFiles_tables (ds : DataSeries) (clock : Clock)
    (state : StorageState V) (datas : List (ValidatedData V)) :
    (datas.foldl (saveFiles ds clock) state).materialized =
        state.materialized ∧
      (datas.foldl (saveFiles ds clock) state).history = state.history := by
  induction datas generalizing state with
  | nil => exact ⟨rfl, rfl⟩
  | cons data rest ih =>
      rw [List.foldl_cons, (ih _).1, (ih _).2, saveFiles_eq]
      split <;> exact ⟨rfl, rfl⟩

/-- The statement of one element changes the rows of its own data point. -/
theorem point_executeInsert (ds : DataSeries) (write : Write V)
    (state : StorageState V) (data : ValidatedData V) (id : DataPointId) :
    (executeInsert ds write state data).point id =
      if data.id = id then
        pointStep ds id (state.point id) (.write data write.isPartial
          write.clock write.userId write.recordSource)
      else state.point id := by
  unfold executeInsert pointStep StorageState.point
  by_cases hid : data.id = id
  · subst hid
    simp only [if_true]
    cases centralInsert (setColumns ds write.isPartial data.payload)
        write.clock (valuesToInsert ds write.clock data)
        (state.materialized.lookup data.id) with
    | none => simp [PointState.put]
    | some inserted =>
        simp only [PointState.put, AList.lookup_insert]
        congr 1
        split
        · simp [insertToFlatHistory]
        · rfl
  · simp only [if_neg hid]
    split
    · rfl
    · rename_i inserted hinserted
      rw [AList.lookup_insert_ne (Ne.symm hid)]
      congr 1
      split
      · simp [insertToFlatHistory, hid]
      · rfl

/-- A batch changes a data point through its only element with that id. -/
theorem point_foldl_executeInsert (ds : DataSeries) (write : Write V)
    (state : StorageState V) (datas : List (ValidatedData V))
    (hnodup : (datas.map ValidatedData.id).Nodup) (id : DataPointId) :
    (datas.foldl (executeInsert ds write) state).point id =
      (datas.find? fun data => data.id = id).elim (state.point id)
        fun data => pointStep ds id (state.point id) (.write data
          write.isPartial write.clock write.userId write.recordSource) := by
  induction datas generalizing state with
  | nil => rfl
  | cons data rest ih =>
      rw [List.map_cons, List.nodup_cons] at hnodup
      rw [List.foldl_cons, ih _ hnodup.2, point_executeInsert]
      by_cases hid : data.id = id
      · have hrest : rest.find? (fun data => data.id = id) = none := by
          rw [List.find?_eq_none]
          intro other hother hotherId
          apply hnodup.1
          rw [hid, ← of_decide_eq_true hotherId]
          exact List.mem_map_of_mem hother
        simp [hid, hrest]
      · simp [hid]

/-- A request changes the rows of a data point by what it does to that data
point, and by nothing else. -/
theorem point_modify (ds : DataSeries) (id : DataPointId)
    (state : StorageState V) (request : Modification V) :
    (modify ds state request).point id =
      (request.on id).elim (state.point id)
        (pointStep ds id (state.point id)) := by
  cases request with
  | write write =>
      have hmarked : ∀ saved : StorageState V,
          (if ds.backend = .dynamicSqlNoHistory then
            { saved with
              fileLookup := deleteAllButLatestForDatapoints ds.tenantId ds.id
                (write.validatedDatas.map ValidatedData.id)
                write.clock.pointInTime saved.fileLookup }
          else saved).point id = saved.point id := by
        intro saved
        split <;> rfl
      simp only [modify, insertOrUpdateDataPoints, Modification.on]
      rw [point_foldl_executeInsert ds write _ _ write.ids_nodup, hmarked]
      have htables := foldl_saveFiles_tables ds write.clock state
        write.validatedDatas
      rw [StorageState.point, htables.1, htables.2]
      cases write.validatedDatas.find? fun data => data.id = id <;> rfl
  | delete deletion =>
      simp only [modify, deleteDatapoint, Modification.on, StorageState.point]
      by_cases hid : deletion.id = id
      · subst hid
        simp only [if_true, Option.elim_some, pointStep]
        cases centralDelete deletion.externalId deletion.clock
            (state.materialized.lookup deletion.id) with
        | none => simp [PointState.put]
        | some deleted =>
            simp only [PointState.put, AList.lookup_insert]
            congr 1
            split
            · simp [insertToFlatHistory]
            · rfl
      · simp only [if_neg hid, Option.elim_none]
        split
        · rfl
        · rename_i deleted hdeleted
          rw [AList.lookup_insert_ne (Ne.symm hid)]
          congr 1
          split
          · simp [insertToFlatHistory, hid]
          · rfl

/-- The rows of a data point after a run are the outcome of what the requests
do to that data point. -/
theorem point_run_modify (ds : DataSeries) (id : DataPointId)
    (state : StorageState V) (requests : List (Modification V)) :
    (Runs.run (modify ds) state requests).point id =
      Runs.run (pointStep ds id) (state.point id)
        (requests.filterMap (Modification.on id)) :=
  Runs.run_projection (fun state => state.point id) (point_modify ds id)
    state requests

end Projection

namespace ModificationWitness

/-- A data series with one image fact and one text fact. -/
def series (backend : StorageBackendType) : DataSeries where
  tenantId := "tenant"
  id := "series"
  backend := backend
  keys
    | .imageFacts => [⟨"picture", "u1"⟩]
    | .textFacts => [⟨"note", "u2"⟩]
    | _ => []
  uuids_nodup := by decide

def write (isPartial : Bool) (payload : List (ExternalId × Option String))
    (time : Int) : Modification String :=
  .write {
    validatedDatas := [⟨"point", "external", payload⟩]
    isPartial := isPartial
    clock := ⟨time, time⟩
    userId := none
    recordSource := "REST"
    ids_nodup := by simp
    partial_single := by simp }

def delete (time : Int) : Modification String :=
  .delete ⟨"point", "external", ⟨time, time⟩, none, "REST"⟩

/-- A PATCH keeps the columns that its payload leaves out. -/
example : ((Runs.run (modify (series .dynamicSqlNoHistory))
    (StorageState.empty [] [])
    [write false [("picture", some "a.png"), ("note", some "first")] 1,
      write true [("note", some "second")] 2]).materialized.lookup
        "point").map (fun row => (row.data "u1", row.data "u2")) =
    some (.fileName "a.png", .value "second") := by decide

end ModificationWitness

end NFCompose
