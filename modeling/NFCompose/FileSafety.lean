/-
No file is lost.  A row that shows a file must find it registered, so that the
garbage collection leaves it in the storage.  A PATCH copies file names into
later rows without registering them again, while pruning un-registers under the
keys of the removed history rows.
-/
import NFCompose.Prune
import NFCompose.RowClock

namespace NFCompose

universe u

variable {V : Type u}

/-- A file name in an image or file column of a data point. -/
structure HeldFile where
  dataPointId : DataPointId
  factId : Uuid
  fileName : String
deriving DecidableEq, Repr

/-- The name in a file column. -/
def Cell.fileName? : Cell V → Option String
  | .fileName name => some name
  | _ => none

@[simp] theorem Cell.fileName?_eq_some {cell : Cell V} {name : String} :
    cell.fileName? = some name ↔ cell = .fileName name := by
  cases cell <;> simp [Cell.fileName?]

def filesOf (ds : DataSeries) (id : DataPointId) (data : Uuid → Cell V) :
    List HeldFile :=
  ds.fileColumns.filterMap fun column =>
    (data column).fileName?.map fun name => ⟨id, column, name⟩

/-- The files in alive rows of the materialised table. -/
def materializedFiles (ds : DataSeries) (table : MatTable V) : List HeldFile :=
  table.entries.flatMap fun entry =>
    if entry.2.deletedAt = none then filesOf ds entry.1 entry.2.data else []

/-- The files in history rows that are not marked as deleted. -/
def historyFiles (ds : DataSeries) (history : List (HistRow V)) :
    List HeldFile :=
  history.flatMap fun row =>
    if row.deleted = false then filesOf ds row.id row.data else []

def heldFiles (ds : DataSeries) (state : StorageState V) : List HeldFile :=
  materializedFiles ds state.materialized ++ historyFiles ds state.history

/-- Every file of the list has a registry row that is not marked as deleted,
and is still in the storage. -/
def FilesSafe (held : List HeldFile) (state : StorageState V) : Prop :=
  ∀ file ∈ held,
    (∃ entry ∈ state.fileLookup,
      entry.deletedAt = none ∧ entry.fileName = file.fileName) ∧
      file.fileName ∈ state.storage

instance (held : List HeldFile) (state : StorageState V) :
    Decidable (FilesSafe held state) :=
  inferInstanceAs (Decidable (∀ file ∈ held, _))

/-- The registry row stands for the file of this data point and column. -/
def FileLookup.Registers (ds : DataSeries) (file : HeldFile)
    (entry : FileLookup) : Prop :=
  entry.deletedAt = none ∧ entry.tenantId = ds.tenantId ∧
    entry.dataSeriesId = ds.id ∧ entry.factId = file.factId ∧
    entry.dataPointId = file.dataPointId ∧ entry.fileName = file.fileName

instance (ds : DataSeries) (file : HeldFile) (entry : FileLookup) :
    Decidable (entry.Registers ds file) :=
  inferInstanceAs (Decidable (_ ∧ _))

/-- Every held file is registered for its own data point and column, and the
files of the series' live registrations are stored. -/
structure FilesRegistered (ds : DataSeries) (state : StorageState V) : Prop where
  held : ∀ file ∈ heldFiles ds state,
    ∃ entry ∈ state.fileLookup, entry.Registers ds file
  stored : ∀ entry ∈ state.fileLookup, entry.deletedAt = none →
    entry.tenantId = ds.tenantId → entry.dataSeriesId = ds.id →
    entry.fileName ∈ state.storage

theorem FilesRegistered.filesSafe {ds : DataSeries} {state : StorageState V}
    (hfiles : FilesRegistered ds state) :
    FilesSafe (heldFiles ds state) state := by
  intro file hfile
  obtain ⟨entry, hentry, hlive, htenant, hseries, -, -, hname⟩ :=
    hfiles.held file hfile
  refine ⟨⟨entry, hentry, hlive, hname⟩, ?_⟩
  rw [← hname]
  exact hfiles.stored entry hentry hlive htenant hseries

section Holding

/-- The data of a row show the file. -/
def ShowsFile (ds : DataSeries) (file : HeldFile) (data : Uuid → Cell V) :
    Prop :=
  file.factId ∈ ds.fileColumns ∧ data file.factId = .fileName file.fileName

theorem mem_filesOf {ds : DataSeries} {id : DataPointId}
    {data : Uuid → Cell V} {file : HeldFile} :
    file ∈ filesOf ds id data ↔
      file.dataPointId = id ∧ ShowsFile ds file data := by
  simp only [filesOf, List.mem_filterMap, Option.map_eq_some_iff,
    Cell.fileName?_eq_some]
  constructor
  · rintro ⟨column, hcolumn, name, hname, rfl⟩
    exact ⟨rfl, hcolumn, hname⟩
  · rintro ⟨rfl, hcolumn, hname⟩
    exact ⟨file.factId, hcolumn, file.fileName, hname, rfl⟩

theorem mem_materializedFiles {ds : DataSeries} {table : MatTable V}
    {file : HeldFile} :
    file ∈ materializedFiles ds table ↔
      ∃ row, table.lookup file.dataPointId = some row ∧
        row.deletedAt = none ∧ ShowsFile ds file row.data := by
  rw [materializedFiles, List.mem_flatMap]
  constructor
  · rintro ⟨⟨id, row⟩, hentry, hfile⟩
    split at hfile
    · rename_i halive
      obtain ⟨rfl, hshows⟩ := mem_filesOf.mp hfile
      exact ⟨row, KeyedTable.mem_entries_iff.mp hentry, halive, hshows⟩
    · simp at hfile
  · rintro ⟨row, hlookup, halive, hshows⟩
    refine ⟨⟨file.dataPointId, row⟩,
      KeyedTable.mem_entries_iff.mpr hlookup, ?_⟩
    rw [if_pos halive]
    exact mem_filesOf.mpr ⟨rfl, hshows⟩

theorem mem_historyFiles {ds : DataSeries} {history : List (HistRow V)}
    {file : HeldFile} :
    file ∈ historyFiles ds history ↔
      ∃ row ∈ history, row.id = file.dataPointId ∧ row.deleted = false ∧
        ShowsFile ds file row.data := by
  rw [historyFiles, List.mem_flatMap]
  constructor
  · rintro ⟨row, hrow, hfile⟩
    split at hfile
    · rename_i halive
      obtain ⟨hid, hshows⟩ := mem_filesOf.mp hfile
      exact ⟨row, hrow, hid.symm, halive, hshows⟩
    · simp at hfile
  · rintro ⟨row, hrow, hid, halive, hshows⟩
    refine ⟨row, hrow, ?_⟩
    rw [if_pos halive]
    exact mem_filesOf.mpr ⟨hid.symm, hshows⟩

/-- The rows of a data point show the file. -/
def PointState.Holds (ds : DataSeries) (point : PointState V)
    (file : HeldFile) : Prop :=
  (∃ row ∈ point.row, row.deletedAt = none ∧ ShowsFile ds file row.data) ∨
    ∃ row ∈ point.history, row.deleted = false ∧ ShowsFile ds file row.data

/-- A file is held by the rows of its own data point. -/
theorem mem_heldFiles {ds : DataSeries} {state : StorageState V}
    {file : HeldFile} :
    file ∈ heldFiles ds state ↔
      (state.point file.dataPointId).Holds ds file := by
  rw [heldFiles, List.mem_append, mem_materializedFiles, mem_historyFiles]
  simp only [PointState.Holds, StorageState.point, List.mem_filter,
    decide_eq_true_eq, Option.mem_def, and_assoc]

end Holding

section Write

variable [UploadedFile V]

/-- A file name in the values of a payload belongs to an uploaded file. -/
theorem mem_filesToSave_of_dataToInsert {ds : DataSeries}
    {payload : List (ExternalId × Option V)} {column : Uuid} {name : String}
    (hcell : dataToInsert ds payload column = .fileName name) :
    (column, name) ∈ filesToSave ds payload := by
  rw [dataToInsert] at hcell
  cases hlookup : (dataValues ds payload).lookup column with
  | none => simp [hlookup] at hcell
  | some cell =>
      rw [hlookup, Option.getD_some] at hcell
      subst hcell
      have hmem := List.lookup_eq_some_iff.mp hlookup
      obtain ⟨before, after, heq, -⟩ := hmem
      have hvalue : (column, Cell.fileName name) ∈ dataValues ds payload := by
        simp [heq]
      simp only [dataValues, List.mem_flatMap, List.mem_map, Prod.mk.injEq]
        at hvalue
      obtain ⟨kind, -, key, hkey, rfl, hcell⟩ := hvalue
      have hfile : key ∈ ds.keys.fileLike ∧
          fileLikeValue payload key.externalId = .fileName name := by
        cases kind <;>
          simp_all [valueOfKind, jsonValue, plainValue,
            DataPointSerializationKeys.fileLike] <;>
          (split at hcell <;> simp at hcell)
      rw [filesToSave, List.mem_filterMap]
      refine ⟨key, hfile.1, ?_⟩
      have hvalue := hfile.2
      rw [fileLikeValue] at hvalue
      split at hvalue
      · rename_i file _
        simp only [Cell.fileName.injEq] at hvalue
        simp [hvalue]
      · simp at hvalue

theorem foldl_saveFiles_fileLookup (ds : DataSeries)
    (hbackend : ds.backend = .dynamicSqlNoHistory ∨
      ds.backend = .dynamicSqlMaterializedFlatHistory)
    (clock : Clock) (state : StorageState V) (datas : List (ValidatedData V)) :
    (datas.foldl (saveFiles ds clock) state).fileLookup =
      state.fileLookup ++ datas.flatMap (registrations ds clock) := by
  induction datas generalizing state with
  | nil => simp
  | cons data rest ih =>
      rw [List.foldl_cons, ih, saveFiles_eq, if_pos hbackend]
      simp

theorem mem_foldl_insert {files : List (Uuid × String)}
    {storage : List String} {name : String} :
    name ∈ files.foldl (fun storage file => storage.insert file.2) storage ↔
      name ∈ storage ∨ ∃ file ∈ files, file.2 = name := by
  induction files generalizing storage with
  | nil => simp
  | cons file rest ih =>
      rw [List.foldl_cons, ih, List.mem_insert_iff]
      simp only [List.exists_mem_cons_iff]
      rw [or_comm (a := name = file.2), or_assoc, eq_comm]

theorem mem_foldl_saveFiles_storage (ds : DataSeries)
    (hbackend : ds.backend = .dynamicSqlNoHistory ∨
      ds.backend = .dynamicSqlMaterializedFlatHistory)
    (clock : Clock) (state : StorageState V) (datas : List (ValidatedData V))
    {name : String} :
    name ∈ (datas.foldl (saveFiles ds clock) state).storage ↔
      name ∈ state.storage ∨
        ∃ data ∈ datas, ∃ file ∈ filesToSave ds data.payload,
          file.2 = name := by
  induction datas generalizing state with
  | nil => simp
  | cons data rest ih =>
      rw [List.foldl_cons, ih, saveFiles_eq, if_pos hbackend,
        mem_foldl_insert]
      simp only [List.exists_mem_cons_iff, or_assoc]

theorem foldl_executeInsert_files (ds : DataSeries) (write : Write V)
    (state : StorageState V) (datas : List (ValidatedData V)) :
    (datas.foldl (executeInsert ds write) state).fileLookup =
        state.fileLookup ∧
      (datas.foldl (executeInsert ds write) state).storage =
        state.storage := by
  induction datas generalizing state with
  | nil => exact ⟨rfl, rfl⟩
  | cons data rest ih =>
      rw [List.foldl_cons, (ih _).1, (ih _).2]
      unfold executeInsert
      simp only
      split <;> exact ⟨rfl, rfl⟩

/-- The registry after a write: the files of the batch are appended, and
without a history everything that a later row supersedes is marked. -/
theorem insertOrUpdateDataPoints_fileLookup (ds : DataSeries)
    (hbackend : ds.backend = .dynamicSqlNoHistory ∨
      ds.backend = .dynamicSqlMaterializedFlatHistory)
    (write : Write V) (state : StorageState V) :
    (insertOrUpdateDataPoints ds write state).fileLookup =
      let registered := state.fileLookup ++
        write.validatedDatas.flatMap (registrations ds write.clock)
      if ds.backend = .dynamicSqlNoHistory then
        deleteAllButLatestForDatapoints ds.tenantId ds.id
          (write.validatedDatas.map ValidatedData.id) write.clock.pointInTime
          registered
      else registered := by
  simp only [insertOrUpdateDataPoints]
  rw [(foldl_executeInsert_files ds write _ _).1]
  split <;> simp [foldl_saveFiles_fileLookup ds hbackend]

theorem mem_insertOrUpdateDataPoints_storage (ds : DataSeries)
    (hbackend : ds.backend = .dynamicSqlNoHistory ∨
      ds.backend = .dynamicSqlMaterializedFlatHistory)
    (write : Write V) (state : StorageState V) {name : String} :
    name ∈ (insertOrUpdateDataPoints ds write state).storage ↔
      name ∈ state.storage ∨
        ∃ data ∈ write.validatedDatas, ∃ file ∈ filesToSave ds data.payload,
          file.2 = name := by
  simp only [insertOrUpdateDataPoints]
  rw [(foldl_executeInsert_files ds write _ _).2]
  split <;> exact mem_foldl_saveFiles_storage ds hbackend write.clock state _

/-- A file of a payload is registered for its own data point and column. -/
theorem registers_of_mem_filesToSave (ds : DataSeries) (clock : Clock)
    {data : ValidatedData V} {file : HeldFile}
    (hid : file.dataPointId = data.id)
    (hfile : (file.factId, file.fileName) ∈ filesToSave ds data.payload) :
    ∃ entry ∈ registrations ds clock data,
      entry.Registers ds file ∧ entry.clock = clock := by
  rw [registrations]
  refine ⟨_, List.mem_map_of_mem hfile, ?_, rfl⟩
  exact ⟨rfl, rfl, rfl, rfl, hid.symm, rfl⟩

end Write

section Operations

/-- What can happen to the storage of a data series: requests, pruning its
history, and a garbage collection under the tenant that is current then. -/
inductive Operation (V : Type u) where
  | modify (request : Modification V)
  | pruneHistory (olderThan now : Int)
  | garbageCollect (currentTenant : Option Uuid) (olderThan : Int)

variable [UploadedFile V]

def execute (ds : DataSeries) (state : StorageState V) :
    Operation V → StorageState V
  | .modify request => modify ds state request
  | .pruneHistory olderThan now => pruneHistory ds olderThan now state
  | .garbageCollect currentTenant olderThan =>
      garbageCollect currentTenant olderThan state

/-- The garbage collection sees the registrations of the series: no tenant is
current, or its own, or nothing it removes has the name of such a file. -/
def CollectSeesSeries (ds : DataSeries) (state : StorageState V)
    (currentTenant : Option Uuid) (olderThan : Int) : Prop :=
  currentTenant = none ∨ currentTenant = some ds.tenantId ∨
    ∀ entry ∈ state.fileLookup, entry.deletedAt = none →
      entry.tenantId = ds.tenantId → entry.dataSeriesId = ds.id →
      ∀ removed ∈ state.fileLookup, removed.Collectable olderThan →
        removed.fileName ≠ entry.fileName

/-- The condition on a garbage collection; the other operations need none. -/
def CollectsOwn (ds : DataSeries) (state : StorageState V) : Operation V → Prop
  | .modify _ => True
  | .pruneHistory .. => True
  | .garbageCollect currentTenant olderThan =>
      CollectSeesSeries ds state currentTenant olderThan

instance (ds : DataSeries) (state : StorageState V) :
    (operation : Operation V) → Decidable (CollectsOwn ds state operation)
  | .modify _ => isTrue trivial
  | .pruneHistory .. => isTrue trivial
  | .garbageCollect currentTenant olderThan => by
      unfold CollectsOwn CollectSeesSeries
      infer_instance

omit [UploadedFile V] in
/-- The files of the live registrations stay stored. -/
theorem stored_garbageCollect {ds : DataSeries} {state : StorageState V}
    (hstored : ∀ entry ∈ state.fileLookup, entry.deletedAt = none →
      entry.tenantId = ds.tenantId → entry.dataSeriesId = ds.id →
      entry.fileName ∈ state.storage)
    {currentTenant : Option Uuid} {olderThan : Int}
    (hcond : CollectSeesSeries ds state currentTenant olderThan) :
    ∀ entry ∈ (garbageCollect currentTenant olderThan state).fileLookup,
      entry.deletedAt = none → entry.tenantId = ds.tenantId → entry.dataSeriesId = ds.id →
      entry.fileName ∈ (garbageCollect currentTenant olderThan state).storage := by
  intro entry hentry hlive htenant hseries
  have hmem := (mem_garbageCollect_fileLookup.mp hentry).1
  have hbefore := hstored entry hmem hlive htenant hseries
  rcases hcond with hnone | hown | hnames
  · exact mem_garbageCollect_storage_of_visible hmem
      ⟨hlive, by simp [hnone]⟩ hbefore
  · exact mem_garbageCollect_storage_of_visible hmem
      ⟨hlive, by simp [hown, htenant]⟩ hbefore
  · simp only [garbageCollect, garbageFiles, List.mem_filter]
    refine ⟨hbefore, ?_⟩
    simp only [decide_eq_true_eq, List.mem_map, not_and]
    rintro ⟨removed, hremoved, heq⟩
    simp only [List.mem_filter, decide_eq_true_eq] at hremoved
    exact absurd heq
      (hnames entry hmem hlive htenant hseries removed hremoved.1
        hremoved.2)

end Operations

end NFCompose
