/-
Uploads without a history.  Every write registers its files and un-registers
what a later registration supersedes, before the guard decides whether the row
takes the write at all.  A held file therefore keeps its registration as long as
it is the newest one of its column; a write that loses the comparison must not
bring a newer one.
-/
import NFCompose.FileSafety

namespace NFCompose

universe u

variable {V : Type u}

/-- The registry row belongs to the column of the file, under any name. -/
def FileLookup.OfColumn (ds : DataSeries) (file : HeldFile)
    (entry : FileLookup) : Prop :=
  entry.tenantId = ds.tenantId ∧ entry.dataSeriesId = ds.id ∧
    entry.factId = file.factId ∧ entry.dataPointId = file.dataPointId

instance (ds : DataSeries) (file : HeldFile) (entry : FileLookup) :
    Decidable (entry.OfColumn ds file) :=
  inferInstanceAs (Decidable (_ ∧ _))

/-- The file is registered, and nothing newer is registered for its column. -/
def NewestRegistration (ds : DataSeries) (file : HeldFile)
    (registry : List FileLookup) : Prop :=
  ∃ entry ∈ registry, entry.Registers ds file ∧
    ∀ other ∈ registry, other.OfColumn ds file → other.clock ≤ entry.clock

theorem FileLookup.Registers.ofColumn {ds : DataSeries} {file : HeldFile}
    {entry : FileLookup} (hregisters : entry.Registers ds file) :
    entry.OfColumn ds file :=
  ⟨hregisters.2.1, hregisters.2.2.1, hregisters.2.2.2.1,
    hregisters.2.2.2.2.1⟩

/-- Marking what is superseded leaves the newest registration alone. -/
theorem newestRegistration_deleteAllButLatest (ds : DataSeries)
    {file : HeldFile} {registry : List FileLookup}
    (hnewest : NewestRegistration ds file registry)
    (ids : List DataPointId) (pointInTime : Int) :
    NewestRegistration ds file
      (deleteAllButLatestForDatapoints ds.tenantId ds.id ids pointInTime
        registry) := by
  obtain ⟨entry, hentry, hregisters, hmax⟩ := hnewest
  refine ⟨entry, ?_, hregisters, ?_⟩
  · apply mem_markDeleted_of_not hentry
    rw [decide_eq_false_iff_not]
    rintro ⟨-, -, -, -, newer, hnewer, htenant, hseries, hfact, hpoint, hlt⟩
    have hcolumn := hregisters.ofColumn
    have hle := hmax newer hnewer
      ⟨htenant ▸ hcolumn.1, hseries ▸ hcolumn.2.1, hfact ▸ hcolumn.2.2.1,
        hpoint ▸ hcolumn.2.2.2⟩
    exact absurd hlt (not_lt.mpr hle)
  · intro other hother hcolumn
    obtain ⟨old, hold, rfl | ⟨-, rfl⟩⟩ := mem_markDeleted hother
    · exact hmax _ hold hcolumn
    · exact hmax old hold hcolumn

/-- New registrations of the column that are not later keep the newest one. -/
theorem newestRegistration_append {ds : DataSeries} {file : HeldFile}
    {registry added : List FileLookup}
    (hnewest : NewestRegistration ds file registry)
    (hadded : ∀ other ∈ added, other.OfColumn ds file →
      ∃ entry ∈ registry, entry.OfColumn ds file ∧
        other.clock ≤ entry.clock) :
    NewestRegistration ds file (registry ++ added) := by
  obtain ⟨entry, hentry, hregisters, hmax⟩ := hnewest
  refine ⟨entry, List.mem_append_left added hentry, hregisters, ?_⟩
  intro other hother hcolumn
  rcases List.mem_append.mp hother with hother | hother
  · exact hmax other hother hcolumn
  · obtain ⟨old, hold, holdColumn, hle⟩ := hadded other hother hcolumn
    exact le_trans hle (hmax old hold holdColumn)

variable [UploadedFile V]

/-- A write that loses the comparison brings no file for a column that shows a
file, unless the registration of the column is at least as new. -/
def KeepsUpload (ds : DataSeries) (state : StorageState V)
    (write : Write V) : Prop :=
  ∀ data ∈ write.validatedDatas,
    ∀ row ∈ state.materialized.lookup data.id, ¬ UpsertWhere row write.clock →
      ∀ file ∈ filesOf ds data.id row.data,
        ∀ upload ∈ filesToSave ds data.payload, upload.1 = file.factId →
          ∃ entry ∈ state.fileLookup, entry.OfColumn ds file ∧
            write.clock ≤ entry.clock

instance (ds : DataSeries) (state : StorageState V) (write : Write V) :
    Decidable (KeepsUpload ds state write) := by
  unfold KeepsUpload
  infer_instance

/-- The rows of a data point next to its registrations: none is later than the
row, and the one of a shown file is the newest of its column. -/
structure UploadsKept (ds : DataSeries) (registry : List FileLookup)
    (id : DataPointId) (row : Option (MatRow V)) : Prop where
  alive : ∀ row' ∈ row, row'.WellClocked ∧ row'.deletedAt = none
  bounded : ∀ entry ∈ registry, entry.tenantId = ds.tenantId →
    entry.dataSeriesId = ds.id → entry.dataPointId = id →
      ∃ row' ∈ row, ∃ current ∈ row'.clock, entry.clock ≤ current
  newest : ∀ row' ∈ row, ∀ file ∈ filesOf ds id row'.data,
    NewestRegistration ds file registry

theorem mem_registrations_of_batch {ds : DataSeries} {write : Write V}
    {entry : FileLookup}
    (hentry : entry ∈
      write.validatedDatas.flatMap (registrations ds write.clock)) :
    ∃ data ∈ write.validatedDatas, entry.dataPointId = data.id ∧
      entry.clock = write.clock ∧
      (entry.factId, entry.fileName) ∈ filesToSave ds data.payload := by
  rw [List.mem_flatMap] at hentry
  obtain ⟨data, hdata, hentry⟩ := hentry
  rw [registrations, List.mem_map] at hentry
  obtain ⟨file, hfile, rfl⟩ := hentry
  exact ⟨data, hdata, rfl, rfl, hfile⟩

/-- What the batch registers for a data point comes from its own element. -/
theorem mem_registrations_find {ds : DataSeries} {write : Write V}
    {entry : FileLookup} {data : ValidatedData V}
    (hentry : entry ∈
      write.validatedDatas.flatMap (registrations ds write.clock))
    (hdata : data ∈ write.validatedDatas)
    (hid : entry.dataPointId = data.id) :
    (entry.factId, entry.fileName) ∈ filesToSave ds data.payload := by
  obtain ⟨other, hother, hid', -, hfile⟩ := mem_registrations_of_batch hentry
  have heq : other = data := List.inj_on_of_nodup_map write.ids_nodup hother
    hdata (hid'.symm.trans hid)
  exact heq ▸ hfile

/-- A column with an upload in the payload is overwritten. -/
theorem mem_setColumns_of_mem_filesToSave {ds : DataSeries}
    {isPartial : Bool} {payload : List (ExternalId × Option V)}
    {column : Uuid} {name : String}
    (hfile : (column, name) ∈ filesToSave ds payload) :
    column ∈ setColumns ds isPartial payload := by
  rw [filesToSave, List.mem_filterMap] at hfile
  obtain ⟨key, hkey, hfile⟩ := hfile
  have hall : key ∈ ds.keys.all := by
    rw [DataPointSerializationKeys.fileLike, List.mem_append] at hkey
    rw [DataPointSerializationKeys.all, List.mem_flatMap]
    rcases hkey with hkey | hkey
    · exact ⟨.imageFacts, by simp [factDimOrderInSql], hkey⟩
    · exact ⟨.fileFacts, by simp [factDimOrderInSql], hkey⟩
  split at hfile
  · rename_i file hlookup
    simp only [Option.some.injEq, Prod.mk.injEq] at hfile
    obtain ⟨rfl, -⟩ := hfile
    unfold setColumns generateSetStatementsForSingle
      generateSetStatementsNonPartial
    split
    · exact List.mem_map_of_mem (List.mem_filter.mpr ⟨hall, by simp [hlookup]⟩)
    · exact List.mem_map_of_mem hall
  · simp at hfile

/-- The registry that a batch leaves for a data point that the batch does not
address. -/
theorem uploadsKept_other (ds : DataSeries) {registry : List FileLookup}
    {id : DataPointId} {row : Option (MatRow V)}
    (hkept : UploadsKept ds registry id row) (write : Write V)
    (hother : ∀ data ∈ write.validatedDatas, data.id ≠ id) :
    UploadsKept ds
      (registry ++ write.validatedDatas.flatMap (registrations ds write.clock))
      id row := by
  have hnone : ∀ entry ∈
      write.validatedDatas.flatMap (registrations ds write.clock),
      entry.dataPointId ≠ id := by
    intro entry hentry
    obtain ⟨data, hdata, hid, -⟩ := mem_registrations_of_batch hentry
    rw [hid]
    exact hother data hdata
  refine ⟨hkept.alive, ?_, ?_⟩
  · intro entry hentry htenant hseries hid
    rcases List.mem_append.mp hentry with hentry | hentry
    · exact hkept.bounded entry hentry htenant hseries hid
    · exact absurd hid (hnone entry hentry)
  · intro row' hrow file hfile
    apply newestRegistration_append (hkept.newest row' hrow file hfile)
    intro entry hentry hcolumn
    have hid := (mem_filesOf.mp hfile).1
    exact absurd (hcolumn.2.2.2.trans hid) (hnone entry hentry)

/-- Nothing registered for a data point is newer than the batch that its row takes. -/
theorem clock_le_of_batch (ds : DataSeries) {registry : List FileLookup} {write : Write V}
    {id : DataPointId} {row : Option (MatRow V)} (hkept : UploadsKept ds registry id row)
    (hnewer : Newer row write.clock) {entry : FileLookup}
    (hentry : entry ∈ registry ++ write.validatedDatas.flatMap (registrations ds write.clock))
    (htenant : entry.tenantId = ds.tenantId) (hseries : entry.dataSeriesId = ds.id)
    (hid : entry.dataPointId = id) : entry.clock ≤ write.clock := by
  rcases List.mem_append.mp hentry with hentry | hentry
  · obtain ⟨row', hrow, current, hcurrent, hle⟩ :=
      hkept.bounded entry hentry htenant hseries hid
    exact le_trans hle (le_of_lt (hnewer row' hrow current hcurrent))
  · obtain ⟨-, -, -, heq, -⟩ := mem_registrations_of_batch hentry
    exact le_of_eq heq

/-- The registry that a batch leaves for a data point whose row takes the
write. -/
theorem uploadsKept_written (ds : DataSeries) {registry : List FileLookup}
    {write : Write V} {data : ValidatedData V} {row : Option (MatRow V)}
    (hkept : UploadsKept ds registry data.id row)
    (hdata : data ∈ write.validatedDatas) (hnewer : Newer row write.clock) :
    UploadsKept ds
      (registry ++ write.validatedDatas.flatMap (registrations ds write.clock))
      data.id
      (some (writtenRow (setColumns ds write.isPartial data.payload)
        (valuesToInsert ds write.clock data) row)) := by
  have hresult := resultRow_wellClocked ds
    (fun row' hrow => (hkept.alive row' hrow).1)
    (.write data write.isPartial write.clock write.userId write.recordSource)
    hnewer
  have hclock := resultRow_clock ds row (.write data write.isPartial
    write.clock write.userId write.recordSource)
  constructor
  · intro row' hrow
    rw [Option.mem_some_iff] at hrow
    subst hrow
    refine ⟨hresult, ?_⟩
    cases row <;> rfl
  · intro entry hentry htenant hseries hid
    exact ⟨_, rfl, write.clock, hclock,
      clock_le_of_batch ds hkept hnewer hentry htenant hseries hid⟩
  · intro row' hrow file hfile
    rw [Option.mem_some_iff] at hrow
    subst hrow
    obtain ⟨hid, hcolumn, hcell⟩ := mem_filesOf.mp hfile
    have hbrought : (file.factId, file.fileName) ∈
        filesToSave ds data.payload →
        NewestRegistration ds file (registry ++
          write.validatedDatas.flatMap (registrations ds write.clock)) := by
      intro hupload
      obtain ⟨entry, hentry, hregisters, heq⟩ :=
        registers_of_mem_filesToSave ds write.clock hid hupload
      refine ⟨entry, ?_, hregisters, ?_⟩
      · exact List.mem_append_right _
          (List.mem_flatMap.mpr ⟨data, hdata, hentry⟩)
      · intro other hother hofColumn
        rw [heq]
        exact clock_le_of_batch ds hkept hnewer hother hofColumn.1 hofColumn.2.1
          (hofColumn.2.2.2.trans hid)
    cases row with
    | none => exact hbrought (mem_filesToSave_of_dataToInsert hcell)
    | some row =>
        simp only [writtenRow, Option.elim_some, upsertSet] at hcell
        split at hcell
        · exact hbrought (mem_filesToSave_of_dataToInsert hcell)
        · rename_i hunset
          have hheld : file ∈ filesOf ds data.id row.data :=
            mem_filesOf.mpr ⟨hid, hcolumn, hcell⟩
          apply newestRegistration_append (hkept.newest row rfl file hheld)
          intro entry hentry hofColumn
          have hupload := mem_registrations_find hentry hdata
            (hofColumn.2.2.2.trans hid)
          rw [hofColumn.2.2.1] at hupload
          exact absurd (mem_setColumns_of_mem_filesToSave hupload) hunset

/-- The registry that a batch leaves for a data point whose row refuses the
write. -/
theorem uploadsKept_refused (ds : DataSeries) {state : StorageState V}
    {write : Write V} {data : ValidatedData V} {row : MatRow V}
    (hkept : UploadsKept ds state.fileLookup data.id (some row))
    (hlookup : state.materialized.lookup data.id = some row)
    (hdata : data ∈ write.validatedDatas)
    (hnewer : ¬ Newer (some row) write.clock)
    (hcond : KeepsUpload ds state write) :
    UploadsKept ds (state.fileLookup ++
      write.validatedDatas.flatMap (registrations ds write.clock)) data.id
      (some row) := by
  obtain ⟨current, hclock⟩ := Option.ne_none_iff_exists'.mp
    (hkept.alive row rfl).1.clock_ne_none
  rw [newer_some hclock] at hnewer
  refine ⟨hkept.alive, ?_, ?_⟩
  · intro entry hentry htenant hseries hid
    rcases List.mem_append.mp hentry with hentry | hentry
    · exact hkept.bounded entry hentry htenant hseries hid
    · obtain ⟨-, -, -, heq, -⟩ := mem_registrations_of_batch hentry
      refine ⟨row, rfl, current, hclock, ?_⟩
      rw [heq]
      exact not_lt.mp hnewer
  · intro row' hrow file hfile
    rw [Option.mem_some_iff] at hrow
    subst hrow
    apply newestRegistration_append (hkept.newest row rfl file hfile)
    intro entry hentry hofColumn
    have hid := (mem_filesOf.mp hfile).1
    have hupload := mem_registrations_find hentry hdata
      (hofColumn.2.2.2.trans hid)
    have hwhere : ¬ UpsertWhere row write.clock :=
      fun h => hnewer ((upsertWhere_iff hclock write.clock).mp h)
    obtain ⟨-, -, -, heq, -⟩ := mem_registrations_of_batch hentry
    rw [heq]
    exact hcond data hdata row hlookup hwhere file hfile _ hupload
      hofColumn.2.2.1

omit [UploadedFile V] in
theorem uploadsKept_marked (ds : DataSeries) {registry : List FileLookup}
    {id : DataPointId} {row : Option (MatRow V)}
    (hkept : UploadsKept ds registry id row) (ids : List DataPointId)
    (pointInTime : Int) :
    UploadsKept ds
      (deleteAllButLatestForDatapoints ds.tenantId ds.id ids pointInTime
        registry) id row := by
  refine ⟨hkept.alive, ?_, ?_⟩
  · intro entry hentry htenant hseries hid
    obtain ⟨old, hold, rfl | ⟨-, rfl⟩⟩ := mem_markDeleted hentry
    · exact hkept.bounded _ hold htenant hseries hid
    · exact hkept.bounded old hold htenant hseries hid
  · intro row' hrow file hfile
    exact newestRegistration_deleteAllButLatest ds
      (hkept.newest row' hrow file hfile) ids pointInTime

/-- The step lemma of the uploads. -/
theorem uploadsKept_write (ds : DataSeries)
    (hbackend : ds.backend = .dynamicSqlNoHistory) (state : StorageState V)
    (write : Write V)
    (hkept : ∀ id, UploadsKept ds state.fileLookup id
      (state.materialized.lookup id))
    (hcond : KeepsUpload ds state write) (id : DataPointId) :
    UploadsKept ds (insertOrUpdateDataPoints ds write state).fileLookup id
      ((insertOrUpdateDataPoints ds write state).materialized.lookup id) := by
  have hpoint := congrArg PointState.row
    (point_modify ds id state (.write write))
  simp only [modify, StorageState.point, Modification.on] at hpoint
  rw [insertOrUpdateDataPoints_fileLookup ds (Or.inl hbackend), hpoint]
  simp only [hbackend, if_true]
  apply uploadsKept_marked
  cases hfind : write.validatedDatas.find? fun data => data.id = id with
  | none =>
      apply uploadsKept_other ds (hkept id)
      simpa using hfind
  | some data =>
      have hdata := List.mem_of_find?_eq_some hfind
      have hid : data.id = id := by simpa using List.find?_some hfind
      subst hid
      simp only [Option.map_some, Option.elim_some, pointStep,
        PointState.put_row]
      rw [centralInsert_eq fun row hrow =>
        ((hkept data.id).alive row hrow).1]
      by_cases hnewer : Newer (state.materialized.lookup data.id) write.clock
      · rw [if_pos hnewer]
        exact uploadsKept_written ds (hkept data.id) hdata hnewer
      · rw [if_neg hnewer]
        cases hrow : state.materialized.lookup data.id with
        | none => exact absurd (hrow ▸ newer_none write.clock) hnewer
        | some row =>
            rw [hrow] at hnewer
            exact uploadsKept_refused ds (hrow ▸ hkept data.id) hrow hdata
              hnewer hcond

/-- In every run of writes that meet the condition, in any order, the files of
the materialised rows stay registered. -/
theorem noHistory_filesRegistered (ds : DataSeries)
    (hbackend : ds.backend = .dynamicSqlNoHistory)
    (registry : List FileLookup)
    (hregistry : ∀ entry ∈ registry, entry.dataSeriesId ≠ ds.id)
    (storage : List String) (writes : List (Write V))
    (hsteps : Runs.AllSteps
      (fun state write => insertOrUpdateDataPoints ds write state)
      (KeepsUpload ds) (StorageState.empty registry storage) writes) :
    let final := Runs.run
      (fun state write => insertOrUpdateDataPoints ds write state)
      (StorageState.empty registry storage) writes
    ∀ file ∈ materializedFiles ds final.materialized,
      ∃ entry ∈ final.fileLookup,
        entry.deletedAt = none ∧ entry.fileName = file.fileName := by
  intro final file hfile
  have hempty : ∀ id, UploadsKept ds registry id
      ((StorageState.empty registry storage :
        StorageState V).materialized.lookup id) := by
    intro id
    refine ⟨by simp [StorageState.empty], ?_, by simp [StorageState.empty]⟩
    intro entry hentry _ hseries
    exact absurd hseries (hregistry entry hentry)
  have hkept := Runs.run_invariant
    (fun state : StorageState V => ∀ id,
      UploadsKept ds state.fileLookup id (state.materialized.lookup id))
    (fun state write hkept hcond => uploadsKept_write ds hbackend state write
      hkept hcond) hempty hsteps
  obtain ⟨row, hlookup, -, hshows⟩ := mem_materializedFiles.mp hfile
  obtain ⟨entry, hentry, hregisters, -⟩ :=
    (hkept file.dataPointId).newest row hlookup file
      (mem_filesOf.mpr ⟨rfl, hshows⟩)
  exact ⟨entry, hentry, hregisters.1, hregisters.2.2.2.2.2⟩

namespace LateUploadsWitness

def series : DataSeries :=
  ModificationWitness.series .dynamicSqlNoHistory

theorem length_write_le (isPartial : Bool) (payload : List (ExternalId × Option String)) :
    isPartial → [(⟨"point", "external", payload⟩ : ValidatedData String)].length ≤ 1 := by
  simp

def write (isPartial : Bool) (payload : List (ExternalId × Option String))
    (time : Int) : Write String where
  validatedDatas := [⟨"point", "external", payload⟩]
  isPartial := isPartial
  clock := ⟨time, time⟩
  userId := none
  recordSource := "REST"
  ids_nodup := List.nodup_singleton "point"
  partial_single := length_write_le isPartial payload

/-- A file is uploaded at 1 and a PATCH of 5 leaves it in place; then a write
of time 3 arrives with another file. -/
def lateUpload : List (Write String) :=
  [write false [("picture", some "a.png")] 1,
    write true [("note", some "patched")] 5,
    write false [("picture", some "b.png")] 3]

/-- The row refuses the late write, but the file that it shows is no longer
registered. -/
theorem lateUpload_unregisters_held_file :
    let final := Runs.run
      (fun state write => insertOrUpdateDataPoints series write state)
      (StorageState.empty [] []) lateUpload
    ¬ ∀ file ∈ materializedFiles series final.materialized,
      ∃ entry ∈ final.fileLookup,
        entry.deletedAt = none ∧ entry.fileName = file.fileName := by
  decide

/-- A late write without a file, and one older than the upload. -/
theorem noHistory_filesRegistered_reordered :
    let final := Runs.run
      (fun state write => insertOrUpdateDataPoints series write state)
      (StorageState.empty [] [])
      [write false [("picture", some "a.png")] 4,
        write true [("note", some "patched")] 9,
        write false [("note", some "late")] 7,
        write false [("picture", some "b.png")] 2]
    ∀ file ∈ materializedFiles series final.materialized,
      ∃ entry ∈ final.fileLookup,
        entry.deletedAt = none ∧ entry.fileName = file.fileName :=
  noHistory_filesRegistered series rfl [] (by simp) [] _ (by decide)

end LateUploadsWitness

end NFCompose
