/-
No file leaks.  After a prune and a garbage collection a file of the series is
stored only while its registration is not marked.  With a history every upload
is un-registered under the key of its history row; without one an upload stays
registered until the next upload of its column or the end of its data point.
-/
import NFCompose.ColumnRuns

namespace NFCompose

universe u

variable {V : Type u}

def FileLookup.heldFile (entry : FileLookup) : HeldFile :=
  ⟨entry.dataPointId, entry.factId, entry.fileName⟩

section Registry

/-- The registry next to what was uploaded for the series: its rows are the
uploads in their order, the rows of others have other names, and no mark is as
late as the bound. -/
structure RegistryOf (ds : DataSeries) (others : List String) (uploaded : List HeldFile)
    (bound : Int) (registry : List FileLookup) : Prop where
  uploads : (registry.filter fun entry => entry.dataSeriesId = ds.id).map FileLookup.heldFile =
    uploaded
  others : ∀ entry ∈ registry, entry.dataSeriesId ≠ ds.id → entry.fileName ∈ others
  tenants : ∀ entry ∈ registry, entry.dataSeriesId = ds.id → entry.tenantId = ds.tenantId
  marks : ∀ entry ∈ registry, entry.dataSeriesId = ds.id →
    ∀ deletedAt ∈ entry.deletedAt, deletedAt < bound

variable {ds : DataSeries} {others : List String} {uploaded : List HeldFile} {bound : Int}
  {registry : List FileLookup}

/-- A row of the series stands for one of its uploads. -/
theorem RegistryOf.mem_uploaded (hregistry : RegistryOf ds others uploaded bound registry)
    {entry : FileLookup} (hentry : entry ∈ registry) (hseries : entry.dataSeriesId = ds.id) :
    entry.heldFile ∈ uploaded := by
  rw [← hregistry.uploads]
  exact List.mem_map_of_mem (List.mem_filter.mpr ⟨hentry, decide_eq_true hseries⟩)

theorem RegistryOf.exists_entry (hregistry : RegistryOf ds others uploaded bound registry)
    {file : HeldFile} (hfile : file ∈ uploaded) :
    ∃ entry ∈ registry, entry.dataSeriesId = ds.id ∧ entry.heldFile = file := by
  rw [← hregistry.uploads] at hfile
  obtain ⟨entry, hentry, rfl⟩ := List.mem_map.mp hfile
  obtain ⟨hmem, hseries⟩ := List.mem_filter.mp hentry
  exact ⟨entry, hmem, of_decide_eq_true hseries, rfl⟩

theorem RegistryOf.markDeleted (hregistry : RegistryOf ds others uploaded bound registry)
    (cond : FileLookup → Bool) {deletedAt : Int} (hbefore : deletedAt < bound) :
    RegistryOf ds others uploaded bound (markDeleted cond deletedAt registry) := by
  have hold : ∀ entry ∈ NFCompose.markDeleted cond deletedAt registry, ∃ old ∈ registry,
      entry.heldFile = old.heldFile ∧ entry.dataSeriesId = old.dataSeriesId ∧
        entry.tenantId = old.tenantId ∧
        (entry.deletedAt = old.deletedAt ∨ entry.deletedAt = some deletedAt) := by
    intro entry hentry
    obtain ⟨old, hmem, rfl | ⟨-, rfl⟩⟩ := mem_markDeleted hentry
    · exact ⟨entry, hmem, rfl, rfl, rfl, Or.inl rfl⟩
    · exact ⟨old, hmem, rfl, rfl, rfl, Or.inr rfl⟩
  refine ⟨?_, ?_, ?_, ?_⟩
  · rw [← hregistry.uploads, NFCompose.markDeleted, List.filter_map, List.map_map]
    have hsame : ((fun entry : FileLookup => decide (entry.dataSeriesId = ds.id)) ∘
        fun entry => if cond entry then { entry with deletedAt := some deletedAt } else entry) =
        fun entry => decide (entry.dataSeriesId = ds.id) := by
      funext entry
      by_cases hcond : cond entry <;> simp [hcond]
    rw [hsame]
    apply List.map_congr_left
    intro entry _
    by_cases hcond : cond entry <;> simp [hcond, FileLookup.heldFile]
  · intro entry hentry hseries
    obtain ⟨old, hmem, hheld, hsame, -⟩ := hold entry hentry
    have hname : entry.fileName = old.fileName := congrArg HeldFile.fileName hheld
    rw [hname]
    exact hregistry.others old hmem (hsame ▸ hseries)
  · intro entry hentry hseries
    obtain ⟨old, hmem, -, hsame, htenant, -⟩ := hold entry hentry
    rw [htenant]
    exact hregistry.tenants old hmem (hsame ▸ hseries)
  · intro entry hentry hseries mark hmark
    obtain ⟨old, hmem, -, hsame, -, hkept | hnew⟩ := hold entry hentry
    · exact hregistry.marks old hmem (hsame ▸ hseries) mark (hkept ▸ hmark)
    · rw [hnew, Option.mem_some_iff] at hmark
      exact hmark ▸ hbefore

/-- Marking columns of several items, one after the other. -/
theorem RegistryOf.markColumns {A : Type*}
    (hregistry : RegistryOf ds others uploaded bound registry) {now : Int} (hnow : now < bound)
    (cond : A → Uuid → FileLookup → Bool) (items : List A) :
    RegistryOf ds others uploaded bound (items.foldl (fun registry item =>
      ds.fileColumns.foldl (fun registry factId =>
        NFCompose.markDeleted (cond item factId) now registry) registry) registry) := by
  refine List.foldlRecOn items _ hregistry ?_
  intro current hcurrent item _
  refine List.foldlRecOn ds.fileColumns _ hcurrent ?_
  intro current hcurrent factId _
  exact hcurrent.markDeleted _ hnow

theorem RegistryOf.unregisterDatapoints (hregistry : RegistryOf ds others uploaded bound registry)
    {now : Int} (hnow : now < bound) (ids : List DataPointId) :
    RegistryOf ds others uploaded bound (unregisterDatapoints ds now ids registry) :=
  hregistry.markColumns hnow _ ids

theorem RegistryOf.unregisterHistory (hregistry : RegistryOf ds others uploaded bound registry)
    {now : Int} (hnow : now < bound) (removed : List (HistRow V)) :
    RegistryOf ds others uploaded bound (unregisterHistory ds now removed registry) :=
  hregistry.markColumns hnow _ removed

end Registry

section Unregistering

/-- A row that is not marked does not meet the condition. -/
theorem cond_of_mem_markDeleted {cond : FileLookup → Bool} {deletedAt : Int}
    {registry : List FileLookup} {entry : FileLookup}
    (hmem : entry ∈ markDeleted cond deletedAt registry) (hlive : entry.deletedAt = none) :
    cond entry = false := by
  rw [markDeleted, List.mem_map] at hmem
  obtain ⟨old, -, heq⟩ := hmem
  by_cases hcond : cond old
  · rw [if_pos hcond] at heq
    rw [← heq] at hlive
    cases hlive
  · rw [if_neg hcond] at heq
    rw [← heq]
    exact Bool.eq_false_iff.mpr hcond

variable {A : Type*}

/-- When no step brings in rows that are not marked, such a row of the outcome was there
after every step. -/
theorem mem_step_of_mem_foldl {step : List FileLookup → A → List FileLookup}
    (hstep : ∀ registry item entry, entry ∈ step registry item → entry.deletedAt = none →
      entry ∈ registry)
    {items : List A} {registry : List FileLookup} {entry : FileLookup}
    (hmem : entry ∈ items.foldl step registry) (hlive : entry.deletedAt = none) :
    entry ∈ registry ∧ ∀ item ∈ items, ∃ before, entry ∈ step before item := by
  induction items generalizing registry with
  | nil => exact ⟨hmem, nofun⟩
  | cons item rest ih =>
      obtain ⟨hnext, hrest⟩ := ih hmem
      refine ⟨hstep registry item entry hnext hlive, ?_⟩
      exact List.forall_mem_cons.mpr ⟨⟨registry, hnext⟩, hrest⟩

variable {ds : DataSeries} {now : Int} {registry : List FileLookup} {entry : FileLookup}

/-- A row that is not marked, when the columns of several items are: none of the
conditions holds of it. -/
theorem cond_of_mem_columns {cond : A → Uuid → FileLookup → Bool} {items : List A}
    (hmem : entry ∈ items.foldl (fun registry item => ds.fileColumns.foldl
      (fun registry factId => markDeleted (cond item factId) now registry) registry) registry)
    (hlive : entry.deletedAt = none) :
    entry ∈ registry ∧
      ∀ item ∈ items, ∀ factId ∈ ds.fileColumns, cond item factId entry = false := by
  have hcolumn : ∀ item current factId other,
      other ∈ markDeleted (cond item factId) now current → other.deletedAt = none →
        other ∈ current :=
    fun item current factId other hother hlive => mem_of_mem_markDeleted hother hlive
  have hitem := fun current item other hother hlive =>
    (@mem_step_of_mem_foldl _ _ (hcolumn item) ds.fileColumns current other hother hlive).1
  obtain ⟨hbefore, hsteps⟩ := mem_step_of_mem_foldl hitem hmem hlive
  refine ⟨hbefore, ?_⟩
  intro item hitems factId hfact
  obtain ⟨current, hcurrent⟩ := hsteps item hitems
  obtain ⟨-, hcolumns⟩ := mem_step_of_mem_foldl (hcolumn item) hcurrent hlive
  obtain ⟨last, hlast⟩ := hcolumns factId hfact
  exact cond_of_mem_markDeleted hlast hlive

/-- Rows of the series that are not marked are under no column of a removed data point. -/
theorem not_mem_ids_of_live {ids : List DataPointId}
    (hmem : entry ∈ unregisterDatapoints ds now ids registry) (hlive : entry.deletedAt = none) :
    entry ∈ registry ∧ (entry.tenantId = ds.tenantId → entry.dataSeriesId = ds.id →
      entry.factId ∈ ds.fileColumns → entry.dataPointId ∉ ids) := by
  obtain ⟨hbefore, hcond⟩ := cond_of_mem_columns hmem hlive
  refine ⟨hbefore, ?_⟩
  intro htenant hseries hfact hid
  have hnot := of_decide_eq_false (hcond entry.dataPointId hid entry.factId hfact)
  exact hnot ⟨htenant, hseries, rfl, rfl, hlive⟩

/-- Nor under the key of a removed history row. -/
theorem not_mem_identifiers_of_live {removed : List (HistRow V)}
    (hmem : entry ∈ unregisterHistory ds now removed registry) (hlive : entry.deletedAt = none) :
    entry ∈ registry ∧ (entry.tenantId = ds.tenantId → entry.dataSeriesId = ds.id →
      entry.factId ∈ ds.fileColumns → ∀ row ∈ removed,
        ⟨entry.dataPointId, entry.pointInTime, entry.subClock⟩ ∉ row.identifiers) := by
  obtain ⟨hbefore, hcond⟩ := cond_of_mem_columns hmem hlive
  refine ⟨hbefore, ?_⟩
  intro htenant hseries hfact row hremoved hid
  have hnot := of_decide_eq_false (hcond row hremoved entry.factId hfact)
  exact hnot ⟨htenant, hseries, rfl, hid, hlive⟩

/-- Rows of other data points stay as they are. -/
theorem mem_unregisterDatapoints {ids : List DataPointId} (hmem : entry ∈ registry)
    (hid : entry.dataPointId ∉ ids) : entry ∈ unregisterDatapoints ds now ids registry := by
  refine List.foldlRecOn ids _ hmem ?_
  intro current hmem id hidMem
  refine List.foldlRecOn ds.fileColumns _ hmem ?_
  intro current hmem factId _
  apply mem_markDeleted_of_not hmem
  rw [decide_eq_false_iff_not]
  rintro ⟨-, -, -, hsame, -⟩
  exact hid (hsame ▸ hidMem)

end Unregistering

section Uploads

variable [UploadedFile V]

/-- The files that a request uploads. -/
def Modification.uploads (ds : DataSeries) : Modification V → List HeldFile
  | .write request => request.validatedDatas.flatMap fun data =>
      (filesToSave ds data.payload).map fun file => ⟨data.id, file.1, file.2⟩
  | .delete _ => []

def uploads (ds : DataSeries) (requests : List (Modification V)) : List HeldFile :=
  requests.flatMap (Modification.uploads ds)

/-- The registry rows of these files. -/
def Modification.registered (ds : DataSeries) : Modification V → List FileLookup
  | .write request => request.validatedDatas.flatMap (registrations ds request.clock)
  | .delete _ => []

omit [UploadedFile V] in
/-- Without a history a write marks what it supersedes. -/
def Modification.supersede (ds : DataSeries) :
    Modification V → List FileLookup → List FileLookup
  | .write request => deleteAllButLatestForDatapoints ds.tenantId ds.id
      (request.validatedDatas.map ValidatedData.id) request.clock.pointInTime
  | .delete _ => id

theorem uploads_append (ds : DataSeries) (requests : List (Modification V))
    (request : Modification V) :
    uploads ds (requests ++ [request]) = uploads ds requests ++ request.uploads ds := by
  rw [uploads, List.flatMap_append, List.flatMap_singleton]
  rfl

theorem map_heldFile_registered (ds : DataSeries) (request : Modification V) :
    (request.registered ds).map FileLookup.heldFile = request.uploads ds := by
  cases request with
  | write write =>
      rw [Modification.registered, List.map_flatMap]
      refine List.flatMap_congr fun data _ => ?_
      rw [registrations, List.map_map]
      rfl
  | delete deletion => rfl

theorem of_mem_registered {ds : DataSeries} {request : Modification V} {entry : FileLookup}
    (hentry : entry ∈ request.registered ds) :
    entry.tenantId = ds.tenantId ∧ entry.dataSeriesId = ds.id ∧ entry.deletedAt = none ∧
      entry.clock = request.clock := by
  cases request with
  | write write =>
      obtain ⟨data, -, hentry⟩ := List.mem_flatMap.mp hentry
      obtain ⟨file, -, rfl⟩ := List.mem_map.mp hentry
      exact ⟨rfl, rfl, rfl, rfl⟩
  | delete deletion => cases hentry

omit [UploadedFile V] in
/-- A batch addresses a data point by its only element with that id. -/
theorem on_write_of_mem {write : Write V} {data : ValidatedData V}
    (hdata : data ∈ write.validatedDatas) :
    (Modification.write write).on data.id = some (.write data write.isPartial write.clock
      write.userId write.recordSource) := by
  rw [Modification.on]
  cases hfind : write.validatedDatas.find? fun other => other.id = data.id with
  | none =>
      rw [List.find?_eq_none] at hfind
      exact absurd (decide_eq_true rfl) (hfind data hdata)
  | some other =>
      have hother := List.mem_of_find?_eq_some hfind
      have hid : other.id = data.id := by simpa using List.find?_some hfind
      rw [List.inj_on_of_nodup_map write.ids_nodup hother hdata hid]
      rfl

/-- A request uploads for a data point what its operation on it does. -/
theorem Modification.mem_uploads {ds : DataSeries} {request : Modification V}
    {file : HeldFile} :
    file ∈ request.uploads ds ↔
      ∃ op ∈ request.on file.dataPointId, (file.factId, file.fileName) ∈ op.files ds := by
  cases request with
  | write write =>
      rw [Modification.uploads, List.mem_flatMap]
      constructor
      · rintro ⟨data, hdata, hfile⟩
        obtain ⟨upload, hupload, rfl⟩ := List.mem_map.mp hfile
        exact ⟨_, on_write_of_mem hdata, hupload⟩
      · rintro ⟨op, hop, hfile⟩
        obtain ⟨data, hfind, rfl⟩ := Option.map_eq_some_iff.mp hop
        have hid : data.id = file.dataPointId := by simpa using List.find?_some hfind
        refine ⟨data, List.mem_of_find?_eq_some hfind, List.mem_map.mpr ⟨_, hfile, ?_⟩⟩
        rw [hid]
  | delete deletion =>
      refine iff_of_false nofun ?_
      rintro ⟨op, hop, hfile⟩
      rw [Modification.on] at hop
      split at hop
      · cases hop
        cases hfile
      · cases hop

theorem mem_uploads {ds : DataSeries} {requests : List (Modification V)} {file : HeldFile} :
    file ∈ uploads ds requests ↔
      ∃ op ∈ requests.filterMap (Modification.on file.dataPointId),
        (file.factId, file.fileName) ∈ op.files ds := by
  rw [uploads, List.mem_flatMap]
  constructor
  · rintro ⟨request, hrequest, hfile⟩
    obtain ⟨op, hop, hfile⟩ := Modification.mem_uploads.mp hfile
    exact ⟨op, List.mem_filterMap.mpr ⟨request, hrequest, hop⟩, hfile⟩
  · rintro ⟨op, hop, hfile⟩
    obtain ⟨request, hrequest, hop⟩ := List.mem_filterMap.mp hop
    exact ⟨request, hrequest, Modification.mem_uploads.mpr ⟨op, hop, hfile⟩⟩

theorem mem_fileColumns_of_mem_uploads {ds : DataSeries} {requests : List (Modification V)}
    {file : HeldFile} (hfile : file ∈ uploads ds requests) : file.factId ∈ ds.fileColumns := by
  obtain ⟨op, -, hfile⟩ := mem_uploads.mp hfile
  exact (PointOp.cell_of_mem_files hfile).1

variable {ds : DataSeries} (hbackend : ds.backend = .dynamicSqlNoHistory ∨
  ds.backend = .dynamicSqlMaterializedFlatHistory)
include hbackend

/-- A request appends the rows of its files; without a history it then marks. -/
theorem modify_fileLookup (state : StorageState V) (request : Modification V) :
    (modify ds state request).fileLookup =
      if ds.backend = .dynamicSqlNoHistory then
        request.supersede ds (state.fileLookup ++ request.registered ds)
      else state.fileLookup ++ request.registered ds := by
  cases request with
  | write write => exact insertOrUpdateDataPoints_fileLookup ds hbackend write state
  | delete deletion =>
      have hkept : (modify ds state (.delete deletion)).fileLookup = state.fileLookup := by
        rw [modify, deleteDatapoint]
        split <;> rfl
      rw [hkept, Modification.registered, List.append_nil]
      split <;> rfl

theorem mem_modify_storage (state : StorageState V) (request : Modification V)
    {name : String} :
    name ∈ (modify ds state request).storage ↔
      name ∈ state.storage ∨ ∃ file ∈ request.uploads ds, file.fileName = name := by
  cases request with
  | write write =>
      rw [modify, mem_insertOrUpdateDataPoints_storage ds hbackend]
      refine or_congr_right ?_
      simp only [Modification.uploads, List.mem_flatMap, List.mem_map]
      constructor
      · rintro ⟨data, hdata, file, hfile, hname⟩
        exact ⟨_, ⟨data, hdata, file, hfile, rfl⟩, hname⟩
      · rintro ⟨-, ⟨data, hdata, file, hfile, rfl⟩, hname⟩
        exact ⟨data, hdata, file, hfile, hname⟩
  | delete deletion =>
      have hkept : (modify ds state (.delete deletion)).storage = state.storage := by
        rw [modify, deleteDatapoint]
        split <;> rfl
      rw [hkept, Modification.uploads]
      simp

variable {others : List String} {bound : Int}

omit hbackend in
theorem RegistryOf.append {uploaded : List HeldFile} {registry : List FileLookup}
    (hregistry : RegistryOf ds others uploaded bound registry) (request : Modification V) :
    RegistryOf ds others (uploaded ++ request.uploads ds) bound
      (registry ++ request.registered ds) := by
  refine ⟨?_, ?_, ?_, ?_⟩
  · have hall : (request.registered ds).filter (fun entry => entry.dataSeriesId = ds.id) =
        request.registered ds := by
      rw [List.filter_eq_self]
      exact fun entry hentry => decide_eq_true (of_mem_registered hentry).2.1
    rw [List.filter_append, List.map_append, hregistry.uploads, hall, map_heldFile_registered]
  · intro entry hentry hseries
    rcases List.mem_append.mp hentry with hold | hnew
    · exact hregistry.others entry hold hseries
    · exact absurd (of_mem_registered hnew).2.1 hseries
  · intro entry hentry hseries
    rcases List.mem_append.mp hentry with hold | hnew
    · exact hregistry.tenants entry hold hseries
    · exact (of_mem_registered hnew).1
  · intro entry hentry hseries
    rcases List.mem_append.mp hentry with hold | hnew
    · exact hregistry.marks entry hold hseries
    · rw [(of_mem_registered hnew).2.2.1]
      nofun

/-- The run lemma of the registry. -/
theorem registryOf_run {registry : List FileLookup}
    (hothers : ∀ entry ∈ registry, entry.dataSeriesId ≠ ds.id ∧ entry.fileName ∈ others)
    (storage : List String) {requests : List (Modification V)}
    (hbefore : ∀ request ∈ requests, request.clock.pointInTime < bound) :
    RegistryOf ds others (uploads ds requests) bound
      (Runs.run (modify ds) (StorageState.empty registry storage) requests).fileLookup := by
  have hempty : RegistryOf ds others (uploads ds ([] : List (Modification V))) bound
      (StorageState.empty registry storage : StorageState V).fileLookup := by
    refine ⟨?_, fun entry hentry _ => (hothers entry hentry).2, ?_, ?_⟩
    · have hnone : registry.filter (fun entry => entry.dataSeriesId = ds.id) = [] := by
        rw [List.filter_eq_nil_iff]
        exact fun entry hentry => by simpa using (hothers entry hentry).1
      exact congrArg (List.map FileLookup.heldFile) hnone
    · exact fun entry hentry hseries => absurd hseries (hothers entry hentry).1
    · exact fun entry hentry hseries => absurd hseries (hothers entry hentry).1
  refine Runs.run_along (fun (state : StorageState V) done =>
    RegistryOf ds others (uploads ds done) bound state.fileLookup) ?_ hempty
    (Runs.allSteps_of_forall (modify ds) _ hbefore)
  intro state done request hregistry hclock
  rw [modify_fileLookup hbackend, uploads_append]
  have happended := hregistry.append request
  split
  · cases request with
    | write write => exact happended.markDeleted _ hclock
    | delete deletion => exact happended
  · exact happended

/-- Every uploaded file is stored. -/
theorem stored_run (registry : List FileLookup) (storage : List String)
    (requests : List (Modification V)) :
    ∀ file ∈ uploads ds requests, file.fileName ∈
      (Runs.run (modify ds) (StorageState.empty registry storage) requests).storage := by
  have hsteps : Runs.AllSteps (modify ds) (fun _ _ => True)
      (StorageState.empty registry storage) requests :=
    Runs.allSteps_of_forall (modify ds) _ fun _ _ => trivial
  refine Runs.run_along (fun (state : StorageState V) done => ∀ file ∈ uploads ds done,
    file.fileName ∈ state.storage) ?_ nofun hsteps
  intro state done request hstored _ file hfile
  rw [uploads_append, List.mem_append] at hfile
  rw [mem_modify_storage hbackend]
  rcases hfile with hold | hnew
  · exact Or.inl (hstored file hold)
  · exact Or.inr ⟨file, hnew, rfl⟩

end Uploads

section Collecting

variable {ds : DataSeries} {others : List String} {uploaded : List HeldFile} {bound : Int}

/-- Every uploaded file that is still stored is shown by an alive row. -/
def NoLeak (ds : DataSeries) (uploaded : List HeldFile) (state : StorageState V) : Prop :=
  ∀ file ∈ uploaded, file.fileName ∈ state.storage →
    ∃ held ∈ materializedFiles ds state.materialized, held.fileName = file.fileName

instance (ds : DataSeries) (uploaded : List HeldFile) (state : StorageState V) :
    Decidable (NoLeak ds uploaded state) :=
  inferInstanceAs (Decidable (∀ file ∈ uploaded, _))

/-- A file of the series outlives a collection past all marks only by a row that
is not marked. -/
theorem exists_live_of_collected {state : StorageState V}
    (hregistry : RegistryOf ds others uploaded bound state.fileLookup)
    {currentTenant : Option Uuid} {file : HeldFile} (hfile : file ∈ uploaded)
    (hother : file.fileName ∉ others)
    (hstored : file.fileName ∈ (garbageCollect currentTenant bound state).storage) :
    ∃ entry ∈ state.fileLookup, entry.deletedAt = none ∧ entry.dataSeriesId = ds.id ∧
      entry.fileName = file.fileName := by
  obtain ⟨entry, hentry, hseries, hheld⟩ := hregistry.exists_entry hfile
  have hname : entry.fileName = file.fileName := congrArg HeldFile.fileName hheld
  cases hdeleted : entry.deletedAt with
  | none => exact ⟨entry, hentry, hdeleted, hseries, hname⟩
  | some deletedAt =>
      have hcollectable : entry.Collectable bound :=
        ⟨deletedAt, hdeleted, hregistry.marks entry hentry hseries deletedAt hdeleted⟩
      have hkept : file.fileName ∉ garbageFiles currentTenant bound state.fileLookup := by
        rw [garbageCollect, List.mem_filter] at hstored
        exact of_decide_eq_true hstored.2
      rw [mem_garbageFiles, not_and_not_right] at hkept
      obtain ⟨visible, hvisible, hlive, hsame⟩ := hkept ⟨entry, hentry, hcollectable, hname⟩
      refine ⟨visible, hvisible, hlive.1, ?_, hsame⟩
      by_contra hne
      exact hother (hsame ▸ hregistry.others visible hvisible hne)

/-- A row that is not marked keeps its file when no other row has the name. -/
theorem collected_of_live {state : StorageState V}
    (hregistry : RegistryOf ds others uploaded bound state.fileLookup)
    (hnames : (uploaded.map HeldFile.fileName).Nodup)
    {currentTenant : Option Uuid} {entry : FileLookup} (hentry : entry ∈ state.fileLookup)
    (hlive : entry.deletedAt = none) (hseries : entry.dataSeriesId = ds.id)
    (hother : entry.fileName ∉ others) (hstored : entry.fileName ∈ state.storage) :
    entry.fileName ∈ (garbageCollect currentTenant bound state).storage := by
  have hkept : entry.fileName ∉ garbageFiles currentTenant bound state.fileLookup := by
    rw [mem_garbageFiles]
    rintro ⟨⟨removed, hremoved, hcollectable, hsame⟩, -⟩
    have hremovedSeries : removed.dataSeriesId = ds.id := by
      by_contra hne
      exact hother (hsame ▸ hregistry.others removed hremoved hne)
    have hentries : ((state.fileLookup.filter fun entry => entry.dataSeriesId = ds.id).map
        FileLookup.fileName).Nodup := by
      rw [← hregistry.uploads, List.map_map] at hnames
      exact hnames
    have heq : removed = entry := by
      apply List.inj_on_of_nodup_map hentries _ _ hsame
      · exact List.mem_filter.mpr ⟨hremoved, decide_eq_true hremovedSeries⟩
      · exact List.mem_filter.mpr ⟨hentry, decide_eq_true hseries⟩
    exact not_collectable_of_live hlive (heq ▸ hcollectable)
  rw [garbageCollect, List.mem_filter]
  exact ⟨hstored, decide_eq_true hkept⟩

end Collecting

section Pruning

variable [UploadedFile V] {ds : DataSeries} {registry : List FileLookup} {storage : List String}
  {requests : List (Modification V)} {olderThan : Int}
  (hincreasing : requests.Pairwise fun a b => a.clock < b.clock)
  (hbefore : ∀ request ∈ requests, request.clock.pointInTime < olderThan)
include hincreasing hbefore

/-- After a run before the bound the clock of a row is before it. -/
theorem clock_lt_of_run {id : DataPointId} {row : MatRow V}
    (hrow : (Runs.run (modify ds) (StorageState.empty registry storage)
      requests).materialized.lookup id = some row) :
    ∃ current, row.clock = some current ∧ current.pointInTime < olderThan := by
  have hrel := clockRel_of_increasing ds registry storage hincreasing id
  rw [hrow] at hrel
  obtain ⟨current, hcurrent⟩ := Option.ne_none_iff_exists'.mp (hrel.1 row rfl).clock_ne_none
  refine ⟨current, hcurrent, ?_⟩
  have hheld := hrel.2
  rw [Option.bind_some, hcurrent, eq_comm, Option.map_eq_some_iff] at hheld
  obtain ⟨op, hop, rfl⟩ := hheld
  obtain ⟨request, hrequest, hon⟩ := List.mem_filterMap.mp (List.mem_of_getLast? hop)
  rw [on_clock hon]
  exact hbefore request hrequest

/-- A deleted row was deleted before the bound, so only alive rows are left. -/
theorem alive_of_prunedTable {id : DataPointId} {row : MatRow V}
    (hrow : (prunedTable olderThan (Runs.run (modify ds) (StorageState.empty registry storage)
      requests).materialized).lookup id = some row) : row.deletedAt = none := by
  obtain ⟨hlookup, hkept⟩ := lookup_prunedTable.mp hrow
  obtain ⟨current, hclock, hlt⟩ := clock_lt_of_run hincreasing hbefore hlookup
  cases hdeleted : row.deletedAt with
  | none => rfl
  | some deletedAt =>
      rw [MatRow.clock, Option.map_eq_some_iff] at hclock
      obtain ⟨subClock, -, rfl⟩ := hclock
      rw [hdeleted, Option.getD_some] at hlt
      exact absurd ⟨deletedAt, hdeleted, hlt⟩ hkept

end Pruning

section FlatHistory

/-- On alive rows the comparison of the prune is that of the clocks. -/
theorem rowLess_of_clock_lt {historical : HistRow V} {row : MatRow V}
    (halive : row.deletedAt = none) {older current : Clock} (holder : older ∈ historical.clock)
    (hcurrent : current ∈ row.clock) (hlt : older < current) :
    RowLess historical.pointInTime historical.subClock row.pointInTime row.subClock := by
  obtain ⟨sub, hsub, rfl⟩ := Option.map_eq_some_iff.mp holder
  obtain ⟨rowSub, hrowSub, rfl⟩ := Option.map_eq_some_iff.mp hcurrent
  rw [halive, Option.getD_none] at hlt
  rw [hsub, hrowSub]
  exact (rowLess_some _ _ _ _).mpr hlt

theorem HistRow.mem_identifiers {row : HistRow V} {clock : Clock}
    (hclock : row.clock = some clock) :
    ⟨row.id, clock.pointInTime, clock.subClock⟩ ∈ row.identifiers := by
  obtain ⟨sub, hsub, rfl⟩ := Option.map_eq_some_iff.mp hclock
  rw [HistRow.identifiers, hsub]
  exact List.mem_singleton.mpr rfl

variable [UploadedFile V] {ds : DataSeries}
  (hbackend : ds.backend = .dynamicSqlMaterializedFlatHistory)

/-- Every row of the series stands under the key of a history row that shows its
file. -/
def HistoryShows (ds : DataSeries) (state : StorageState V) : Prop :=
  ∀ entry ∈ state.fileLookup, entry.dataSeriesId = ds.id →
    ∃ row ∈ state.history, row.id = entry.dataPointId ∧ row.clock = some entry.clock ∧
      row.data entry.factId = .fileName entry.fileName

include hbackend

/-- An executed operation leaves its history row. -/
theorem resultEntry_mem_history {state : StorageState V} {request : Modification V}
    (holder : TableOlder state request) {id : DataPointId} {op : PointOp V}
    (hop : request.on id = some op) :
    op.resultEntry ds id (state.materialized.lookup id) ∈ (modify ds state request).history := by
  have hpoint := congrArg PointState.history (point_modify ds id state request)
  have hstale := noStaleDeleteOf_of_noStaleDelete id (noStaleDelete_of_tableOlder holder) op hop
  have hnewer : Newer (state.point id).row op.clock := on_clock hop ▸ (holder id).2
  rw [hop, Option.elim_some, pointStep_eq ds id (holder id).1 hstale, if_pos hnewer] at hpoint
  have hmem : op.resultEntry ds id (state.materialized.lookup id) ∈
      ((modify ds state request).point id).history := by
    rw [hpoint, if_pos hbackend]
    exact List.mem_append_right _ (List.mem_singleton.mpr rfl)
  exact List.mem_of_mem_filter hmem

/-- The step lemma of the history. -/
theorem historyShows_modify {state : StorageState V} {request : Modification V}
    (hshows : HistoryShows ds state) (holder : TableOlder state request) :
    HistoryShows ds (modify ds state request) := by
  intro entry hentry hseries
  rw [modify_fileLookup (Or.inr hbackend), if_neg (by simp [hbackend]), List.mem_append]
    at hentry
  rcases hentry with hold | hnew
  · obtain ⟨row, hrow, hshown⟩ := hshows entry hold hseries
    obtain ⟨rows, hrows, -⟩ := modify_history ds state request
    exact ⟨row, hrows ▸ List.mem_append_left rows hrow, hshown⟩
  · have hupload : entry.heldFile ∈ request.uploads ds := by
      rw [← map_heldFile_registered]
      exact List.mem_map_of_mem hnew
    obtain ⟨op, hop, hfile⟩ := Modification.mem_uploads.mp hupload
    obtain ⟨-, hsets, hcell⟩ := PointOp.cell_of_mem_files hfile
    refine ⟨_, resultEntry_mem_history hbackend holder hop, ?_, ?_, ?_⟩
    · cases op <;> rfl
    · rw [resultEntry_clock, on_clock hop, (of_mem_registered hnew).2.2.2]
    · rw [resultEntry_data, resultRow_data]
      exact (if_pos hsets).trans hcell

variable {registry : List FileLookup} {storage : List String} {requests : List (Modification V)}
  {olderThan : Int}
  (hincreasing : requests.Pairwise fun a b => a.clock < b.clock)
  (hbefore : ∀ request ∈ requests, request.clock.pointInTime < olderThan)
include hincreasing hbefore

omit hbackend hincreasing in
/-- Before the bound the prune leaves only rows that nothing supersedes. -/
theorem not_superseded_of_not_pruned {state : StorageState V}
    (hstate : state = Runs.run (modify ds) (StorageState.empty registry storage) requests)
    {historical : HistRow V} (hmem : historical ∈ state.history)
    (hkept : ¬ PruneQueryFlatHistory olderThan (prunedTable olderThan state.materialized)
      state.history historical) :
    ¬ historical.SupersededIn (prunedTable olderThan state.materialized) := by
  obtain ⟨rows, hrows, hclocks⟩ := run_modify_history ds
    (StorageState.empty registry storage : StorageState V) requests
  rw [← hstate, StorageState.empty, List.nil_append] at hrows
  obtain ⟨request, hrequest, hclock⟩ := hclocks historical (hrows ▸ hmem)
  have hold : historical.pointInTime < olderThan := by
    rw [HistRow.clock_pointInTime hclock]
    exact hbefore request hrequest
  rw [HistRow.clock, Option.map_eq_some_iff] at hclock
  obtain ⟨subClock, hsub, -⟩ := hclock
  intro hsuperseded
  exact hkept ⟨historical, hmem, hsuperseded, hold, rfl, rfl, subClock, hsub, subClock, hsub, rfl⟩

/-- A history row that the prune leaves is what an alive row shows. -/
theorem materialized_of_not_pruned {state : StorageState V}
    (hstate : state = Runs.run (modify ds) (StorageState.empty registry storage) requests)
    {historical : HistRow V} (hmem : historical ∈ state.history)
    (hkept : ¬ PruneQueryFlatHistory olderThan (prunedTable olderThan state.materialized)
      state.history historical) :
    ∃ row, (prunedTable olderThan state.materialized).lookup historical.id = some row ∧
      row.deletedAt = none ∧ row.data = historical.data := by
  have hnewest := not_superseded_of_not_pruned hbefore hstate hmem hkept
  rw [HistRow.SupersededIn, not_or, Option.isNone_iff_eq_none] at hnewest
  obtain ⟨row, hrow⟩ := Option.ne_none_iff_exists'.mp hnewest.2
  have halive : row.deletedAt = none :=
    alive_of_prunedTable hincreasing hbefore (hstate ▸ hrow)
  refine ⟨row, hrow, halive, ?_⟩
  have hagrees : (state.point historical.id).Agrees := hstate ▸ agrees_run ds hbackend
    (agrees_empty registry storage) (noStaleDelete_of_increasing ds registry storage hincreasing) _
  rw [PointState.Agrees, StorageState.point, (lookup_prunedTable.mp hrow).1] at hagrees
  obtain ⟨-, earlier, entry, hhistory, hsame, holder⟩ := hagrees
  have hin : historical ∈ earlier ++ [entry] :=
    hhistory ▸ List.mem_filter.mpr ⟨hmem, decide_eq_true rfl⟩
  rcases List.mem_append.mp hin with hearlier | hlast
  · obtain ⟨older, holderClock, current, hcurrent, hlt⟩ := holder historical hearlier
    exact absurd ⟨row, hrow, rowLess_of_clock_lt halive holderClock hcurrent hlt⟩ hnewest.1
  · rw [List.mem_singleton] at hlast
    rw [hlast, hsame.data]

theorem noLeak_flatHistory {bound now : Int} {others : List String}
    (hothers : ∀ entry ∈ registry, entry.dataSeriesId ≠ ds.id ∧ entry.fileName ∈ others)
    (hforeign : ∀ file ∈ uploads ds requests, file.fileName ∉ others)
    (hbound : olderThan ≤ bound) (hnow : now < bound) (currentTenant : Option Uuid) :
    NoLeak ds (uploads ds requests) (garbageCollect currentTenant bound
      (pruneHistory ds olderThan now (Runs.run (modify ds)
        (StorageState.empty registry storage) requests))) := by
  intro file hfile hstored
  have hclocks : ∀ request ∈ requests, request.clock.pointInTime < bound :=
    fun request hrequest => lt_of_lt_of_le (hbefore request hrequest) hbound
  have hregistry := registryOf_run (Or.inr hbackend) hothers storage hclocks
  have hshows : HistoryShows ds (Runs.run (modify ds) (StorageState.empty registry storage)
      requests) := by
    refine Runs.run_invariant (HistoryShows ds)
      (fun state request => historyShows_modify hbackend) ?_
      (tableOlder_of_increasing ds registry storage hincreasing)
    exact fun entry hentry hseries => absurd hseries (hothers entry hentry).1
  simp only [pruneHistory, hbackend] at hstored ⊢
  obtain ⟨entry, hentry, hlive, hseries, hname⟩ := exists_live_of_collected
    (hregistry.unregisterHistory hnow _) hfile (hforeign file hfile) hstored
  obtain ⟨hbeforePrune, hkept⟩ := not_mem_identifiers_of_live hentry hlive
  have hcolumn := mem_fileColumns_of_mem_uploads (hregistry.mem_uploaded hbeforePrune hseries)
  have hkept := hkept (hregistry.tenants entry hbeforePrune hseries) hseries hcolumn
  obtain ⟨historical, hmem, hid, hclock, hcell⟩ := hshows entry hbeforePrune hseries
  have hidentifier : ⟨entry.dataPointId, entry.pointInTime, entry.subClock⟩ ∈
      historical.identifiers := hid ▸ HistRow.mem_identifiers hclock
  obtain ⟨row, hrow, halive, hdata⟩ := materialized_of_not_pruned hbackend hincreasing hbefore
    rfl hmem (fun hpruned => hkept historical
      (List.mem_filter.mpr ⟨hmem, decide_eq_true hpruned⟩) hidentifier)
  rw [hid] at hrow
  refine ⟨entry.heldFile, ?_, hname⟩
  exact mem_materializedFiles.mpr ⟨row, hrow, halive, hcolumn, hdata ▸ hcell⟩

end FlatHistory

section NoHistory

variable [UploadedFile V] {ds : DataSeries}

/-- The rows and the registrations of the series are older than the request. -/
structure Pending (ds : DataSeries) (state : StorageState V) (request : Modification V) :
    Prop where
  table : TableOlder state request
  registry : ∀ entry ∈ state.fileLookup, entry.dataSeriesId = ds.id →
    entry.tenantId = ds.tenantId ∧ entry.clock < request.clock

omit [UploadedFile V] in
/-- Marking changes nothing but the mark. -/
theorem mem_supersede {request : Modification V} {registry : List FileLookup}
    {entry : FileLookup} (hmem : entry ∈ request.supersede ds registry) :
    ∃ old ∈ registry, entry = old ∨
      ∃ deletedAt, entry = { old with deletedAt := some deletedAt } := by
  cases request with
  | write request =>
      obtain ⟨old, hold, hsame | ⟨-, hmarked⟩⟩ := mem_markDeleted hmem
      · exact ⟨old, hold, Or.inl hsame⟩
      · exact ⟨old, hold, Or.inr ⟨_, hmarked⟩⟩
  | delete deletion => exact ⟨entry, hmem, Or.inl rfl⟩

/-- What is not marked has no newer registration for its column in the batch. -/
theorem not_mem_files_of_live {request : Modification V} {registry : List FileLookup}
    {entry : FileLookup} (hmem : entry ∈ request.supersede ds (registry ++ request.registered ds))
    (hlive : entry.deletedAt = none) (htenant : entry.tenantId = ds.tenantId)
    (hseries : entry.dataSeriesId = ds.id) (hclock : entry.clock < request.clock)
    {name : String} : ⟨entry.dataPointId, entry.factId, name⟩ ∉ request.uploads ds := by
  intro hupload
  rw [← map_heldFile_registered] at hupload
  obtain ⟨newer, hnewer, hheld⟩ := List.mem_map.mp hupload
  obtain ⟨hnewerTenant, hnewerSeries, -, hnewerClock⟩ := of_mem_registered hnewer
  have hpoint : newer.dataPointId = entry.dataPointId := congrArg HeldFile.dataPointId hheld
  have hfact : newer.factId = entry.factId := congrArg HeldFile.factId hheld
  cases request with
  | write request =>
      have hid : entry.dataPointId ∈ request.validatedDatas.map ValidatedData.id := by
        obtain ⟨data, hdata, hid, -⟩ := mem_registrations_of_batch hnewer
        exact hpoint ▸ hid ▸ List.mem_map_of_mem hdata
      have hcond := cond_of_mem_markDeleted hmem hlive
      rw [decide_eq_false_iff_not] at hcond
      refine hcond ⟨hid, hlive, htenant, hseries, newer, List.mem_append_right _ hnewer, ?_⟩
      exact ⟨htenant.trans hnewerTenant.symm, hseries.trans hnewerSeries.symm, hfact.symm,
        hpoint.symm, hnewerClock ▸ hclock⟩
  | delete deletion => cases hnewer

/-- A row that is not marked belongs to a column that shows its file or nothing. -/
def ColumnsTracked (ds : DataSeries) (state : StorageState V) : Prop :=
  ∀ entry ∈ state.fileLookup, entry.deletedAt = none → entry.dataSeriesId = ds.id →
    entry.factId ∈ ds.fileColumns ∧
      ∃ row, state.materialized.lookup entry.dataPointId = some row ∧
        (row.data entry.factId = .fileName entry.fileName ∨ row.data entry.factId = .null)

/-- For every column with an upload the newest registration is not marked. -/
def UploadsTracked (ds : DataSeries) (state : StorageState V)
    (requests : List (Modification V)) : Prop :=
  ∀ file ∈ uploads ds requests, ∃ name,
    NewestRegistration ds { file with fileName := name } state.fileLookup

variable (hbackend : ds.backend = .dynamicSqlNoHistory)
include hbackend

theorem pending_modify (state : StorageState V) (request next : Modification V)
    (hpending : Pending ds state request) (hnext : Pending ds state next)
    (hlt : request.clock < next.clock) : Pending ds (modify ds state request) next := by
  refine ⟨tableOlder_modify ds state request next hpending.table hnext.table hlt, ?_⟩
  intro entry hentry hseries
  rw [modify_fileLookup (Or.inl hbackend), if_pos hbackend] at hentry
  have hadded : ∀ old ∈ state.fileLookup ++ request.registered ds, old.dataSeriesId = ds.id →
      old.tenantId = ds.tenantId ∧ old.clock < next.clock := by
    intro old hold holdSeries
    rcases List.mem_append.mp hold with hold | hnew
    · exact hnext.registry old hold holdSeries
    · obtain ⟨htenant, -, -, hclock⟩ := of_mem_registered hnew
      exact ⟨htenant, hclock ▸ hlt⟩
  obtain ⟨old, hold, rfl | ⟨deletedAt, rfl⟩⟩ := mem_supersede hentry
  · exact hadded entry hold hseries
  · exact hadded old hold hseries

theorem pending_of_increasing {registry : List FileLookup}
    (hothers : ∀ entry ∈ registry, entry.dataSeriesId ≠ ds.id) (storage : List String)
    {requests : List (Modification V)}
    (hincreasing : requests.Pairwise fun a b => a.clock < b.clock) :
    Runs.AllSteps (modify ds) (Pending ds) (StorageState.empty registry storage) requests := by
  apply Runs.allSteps_of_pending (pending_modify hbackend) (fun _ _ hpending => hpending)
    hincreasing
  intro request _
  refine ⟨?_, fun entry hentry hseries => absurd hseries (hothers entry hentry)⟩
  intro id
  exact ⟨by simp [StorageState.point, StorageState.empty], newer_none request.clock⟩

/-- The step lemma of the columns: a file that a request takes out of its column
stays registered only when nothing takes its place. -/
theorem columnsTracked_modify (state : StorageState V) (request : Modification V)
    (htracked : ColumnsTracked ds state) (hpending : Pending ds state request) :
    ColumnsTracked ds (modify ds state request) := by
  intro entry hentry hlive hseries
  rw [modify_fileLookup (Or.inl hbackend), if_pos hbackend] at hentry
  rw [lookup_modify_of_tableOlder ds hpending.table]
  have hadded : entry ∈ state.fileLookup ++ request.registered ds := by
    obtain ⟨old, hold, hsame | ⟨deletedAt, hmarked⟩⟩ := mem_supersede hentry
    · exact hsame ▸ hold
    · rw [hmarked] at hlive
      cases hlive
  rcases List.mem_append.mp hadded with hold | hnew
  · obtain ⟨hcolumn, row, hrow, hcell⟩ := htracked entry hold hlive hseries
    refine ⟨hcolumn, ?_⟩
    obtain ⟨htenant, hclock⟩ := hpending.registry entry hold hseries
    cases hop : request.on entry.dataPointId with
    | none => exact ⟨row, hrow, hcell⟩
    | some op =>
        refine ⟨_, rfl, ?_⟩
        rw [resultRow_data, hrow]
        by_cases hsets : op.Sets ds entry.factId
        · rw [if_pos hsets]
          refine Or.inr (op.cell_eq_null hcolumn fun name hfile => ?_)
          exact not_mem_files_of_live hentry hlive htenant hseries hclock
            (Modification.mem_uploads.mpr ⟨op, hop, hfile⟩)
        · rw [if_neg hsets]
          exact hcell
  · have hupload : entry.heldFile ∈ request.uploads ds := by
      rw [← map_heldFile_registered]
      exact List.mem_map_of_mem hnew
    obtain ⟨op, hop, hfile⟩ := Modification.mem_uploads.mp hupload
    obtain ⟨hcolumn, hsets, hcell⟩ := PointOp.cell_of_mem_files hfile
    refine ⟨hcolumn, _, congrArg (Option.elim · _ _) hop, Or.inl ?_⟩
    rw [resultRow_data]
    exact (if_pos hsets).trans hcell

/-- The step lemma of the newest registrations. -/
theorem uploadsTracked_modify (state : StorageState V) (done : List (Modification V))
    (request : Modification V) (htracked : UploadsTracked ds state done)
    (hpending : Pending ds state request) :
    UploadsTracked ds (modify ds state request) (done ++ [request]) := by
  intro file hfile
  have hadded : ∃ name, NewestRegistration ds { file with fileName := name }
      (state.fileLookup ++ request.registered ds) := by
    by_cases hnew : ∃ name, { file with fileName := name } ∈ request.uploads ds
    · obtain ⟨name, hupload⟩ := hnew
      rw [← map_heldFile_registered] at hupload
      obtain ⟨entry, hentry, hheld⟩ := List.mem_map.mp hupload
      obtain ⟨htenant, hseries, hlive, hclock⟩ := of_mem_registered hentry
      refine ⟨name, entry, List.mem_append_right _ hentry, ?_, ?_⟩
      · exact ⟨hlive, htenant, hseries, congrArg HeldFile.factId hheld,
          congrArg HeldFile.dataPointId hheld, congrArg HeldFile.fileName hheld⟩
      · intro other hother hcolumn
        rw [hclock]
        rcases List.mem_append.mp hother with hother | hother
        · exact le_of_lt (hpending.registry other hother hcolumn.2.1).2
        · exact le_of_eq (of_mem_registered hother).2.2.2
    · rw [uploads_append, List.mem_append] at hfile
      have hold : file ∈ uploads ds done :=
        hfile.resolve_right fun hfile => hnew ⟨file.fileName, hfile⟩
      obtain ⟨name, hnewest⟩ := htracked file hold
      refine ⟨name, newestRegistration_append hnewest ?_⟩
      intro other hother hcolumn
      refine absurd ⟨other.fileName, ?_⟩ hnew
      rw [← map_heldFile_registered, ← hcolumn.2.2.1, ← hcolumn.2.2.2]
      exact List.mem_map_of_mem hother
  obtain ⟨name, hnewest⟩ := hadded
  refine ⟨name, ?_⟩
  rw [modify_fileLookup (Or.inl hbackend), if_pos hbackend]
  cases request with
  | write request => exact newestRegistration_deleteAllButLatest ds hnewest _ _
  | delete deletion => exact hnewest

end NoHistory

section Ending

variable [UploadedFile V]

/-- The last of the operations that overwrite the column brings a file. -/
def LastBringsFile (ds : DataSeries) (column : Uuid) (ops : List (PointOp V)) : Prop :=
  ∃ op ∈ (ops.filter fun op => op.Sets ds column).getLast?,
    ∃ file ∈ op.files ds, file.1 = column

/-- The data point ends deleted, or with a file in the column. -/
def EndsWithFile (ds : DataSeries) (column : Uuid) (ops : List (PointOp V)) : Prop :=
  (∃ op ∈ ops.getLast?, op.IsDelete) ∨ LastBringsFile ds column ops

instance (ds : DataSeries) (column : Uuid) (ops : List (PointOp V)) :
    Decidable (LastBringsFile ds column ops) :=
  inferInstanceAs (Decidable (∃ op ∈ _, _))

instance (ds : DataSeries) (column : Uuid) (ops : List (PointOp V)) :
    Decidable (EndsWithFile ds column ops) :=
  inferInstanceAs (Decidable (_ ∨ _))

variable {ds : DataSeries} {column : Uuid} {ops : List (PointOp V)}

theorem lastCell_of_lastBringsFile (hlast : LastBringsFile ds column ops) :
    ∃ name, lastCell ds column ops = .fileName name := by
  obtain ⟨op, hop, ⟨factId, name⟩, hfile, rfl⟩ := hlast
  refine ⟨name, ?_⟩
  rw [lastCell, Option.mem_def.mp hop]
  exact (PointOp.cell_of_mem_files hfile).2.2

theorem lastCell_eq_null (hcolumn : column ∈ ds.fileColumns)
    (hlast : ¬ LastBringsFile ds column ops) : lastCell ds column ops = .null := by
  rw [lastCell]
  cases hop : (ops.filter fun op => op.Sets ds column).getLast? with
  | none => rfl
  | some op =>
      refine op.cell_eq_null hcolumn ?_
      intro name hfile
      exact hlast ⟨op, hop, (column, name), hfile, rfl⟩

/-- A file that a column ends with was uploaded for it. -/
theorem exists_upload_of_lastCell {name : String}
    (hcell : lastCell ds column ops = .fileName name) :
    ∃ op ∈ ops, (column, name) ∈ op.files ds := by
  rw [lastCell] at hcell
  cases hop : (ops.filter fun op => op.Sets ds column).getLast? with
  | none =>
      rw [hop] at hcell
      cases hcell
  | some op =>
      rw [hop] at hcell
      exact ⟨op, List.mem_of_mem_filter (List.mem_of_getLast? hop),
        PointOp.mem_files_of_cell hcell⟩

end Ending

theorem mem_prunedIds {olderThan : Int} {table : MatTable V} {id : DataPointId} :
    id ∈ prunedIds olderThan table ↔
      ∃ row, table.lookup id = some row ∧ row.DeletedBefore olderThan := by
  rw [prunedIds, List.mem_map]
  constructor
  · rintro ⟨⟨other, row⟩, hentry, rfl⟩
    obtain ⟨hentry, hdeleted⟩ := List.mem_filter.mp hentry
    exact ⟨row, KeyedTable.mem_entries_iff.mp hentry, of_decide_eq_true hdeleted⟩
  · rintro ⟨row, hrow, hdeleted⟩
    exact ⟨⟨id, row⟩, List.mem_filter.mpr
      ⟨KeyedTable.mem_entries_iff.mpr hrow, decide_eq_true hdeleted⟩, rfl⟩

section NoHistoryRuns

variable [UploadedFile V] {ds : DataSeries} (hbackend : ds.backend = .dynamicSqlNoHistory)
  {registry : List FileLookup} {storage : List String} {requests : List (Modification V)}
  (hincreasing : requests.Pairwise fun a b => a.clock < b.clock) {others : List String}
  (hothers : ∀ entry ∈ registry, entry.dataSeriesId ≠ ds.id ∧ entry.fileName ∈ others)
include hincreasing

/-- A file in an alive row was uploaded in the run. -/
theorem mem_uploads_of_shown {file : HeldFile} {row : MatRow V}
    (hrow : (Runs.run (modify ds) (StorageState.empty registry storage)
      requests).materialized.lookup file.dataPointId = some row)
    (hcell : row.data file.factId = .fileName file.fileName) : file ∈ uploads ds requests := by
  have hshows := showsLast_run ds registry storage hincreasing file.dataPointId
  rw [hshows.data row hrow] at hcell
  exact mem_uploads.mpr (exists_upload_of_lastCell hcell)

variable {olderThan bound now : Int}
  (hbefore : ∀ request ∈ requests, request.clock.pointInTime < olderThan)
  (hforeign : ∀ file ∈ uploads ds requests, file.fileName ∉ others)
  (hbound : olderThan ≤ bound) (hnow : now < bound) (currentTenant : Option Uuid)
include hbackend hothers hbefore hforeign hbound hnow

theorem noLeak_noHistory (hends : ∀ file ∈ uploads ds requests, EndsWithFile ds file.factId
      (requests.filterMap (Modification.on file.dataPointId))) :
    NoLeak ds (uploads ds requests) (garbageCollect currentTenant bound
      (pruneHistory ds olderThan now (Runs.run (modify ds)
        (StorageState.empty registry storage) requests))) := by
  intro file hfile hstored
  have hclocks : ∀ request ∈ requests, request.clock.pointInTime < bound :=
    fun request hrequest => lt_of_lt_of_le (hbefore request hrequest) hbound
  have hregistry := registryOf_run (Or.inl hbackend) hothers storage hclocks
  have htracked : ColumnsTracked ds (Runs.run (modify ds) (StorageState.empty registry storage)
      requests) := by
    refine Runs.run_invariant (ColumnsTracked ds) (columnsTracked_modify hbackend) ?_
      (pending_of_increasing hbackend (fun entry hentry => (hothers entry hentry).1) storage
        hincreasing)
    exact fun entry hentry _ hseries => absurd hseries (hothers entry hentry).1
  simp only [pruneHistory, hbackend] at hstored ⊢
  obtain ⟨entry, hentry, hlive, hseries, hname⟩ := exists_live_of_collected
    (hregistry.unregisterDatapoints hnow _) hfile (hforeign file hfile) hstored
  obtain ⟨hbeforePrune, hkept⟩ := not_mem_ids_of_live hentry hlive
  obtain ⟨hcolumn, row, hrow, hcell⟩ := htracked entry hbeforePrune hlive hseries
  have hkept := hkept (hregistry.tenants entry hbeforePrune hseries) hseries hcolumn
  have hpruned := lookup_prunedTable.mpr ⟨hrow, fun hdeleted =>
    hkept (mem_prunedIds.mpr ⟨row, hrow, hdeleted⟩)⟩
  have halive := alive_of_prunedTable hincreasing hbefore hpruned
  refine ⟨entry.heldFile, ?_, hname⟩
  refine mem_materializedFiles.mpr ⟨row, hpruned, halive, hcolumn, hcell.resolve_right ?_⟩
  intro hnull
  have hshows := showsLast_run ds registry storage hincreasing entry.dataPointId
  rcases hends entry.heldFile (hregistry.mem_uploaded hbeforePrune hseries) with
    ⟨op, hlast, hdelete⟩ | hlast
  · exact (hshows.alive row hrow).mp halive op hlast hdelete
  · obtain ⟨name, hlastCell⟩ := lastCell_of_lastBringsFile hlast
    rw [hshows.data row hrow] at hnull
    cases hlastCell.symm.trans hnull

/-- The newest registration of a column that ends empty is never marked. -/
theorem endsWithFile_of_noLeak (hnames : ((uploads ds requests).map HeldFile.fileName).Nodup)
    (hnoLeak : NoLeak ds (uploads ds requests) (garbageCollect currentTenant bound
      (pruneHistory ds olderThan now (Runs.run (modify ds)
        (StorageState.empty registry storage) requests)))) :
    ∀ file ∈ uploads ds requests, EndsWithFile ds file.factId
      (requests.filterMap (Modification.on file.dataPointId)) := by
  intro file hfile
  by_contra hends
  rw [EndsWithFile, not_or] at hends
  have hclocks : ∀ request ∈ requests, request.clock.pointInTime < bound :=
    fun request hrequest => lt_of_lt_of_le (hbefore request hrequest) hbound
  have hregistry := registryOf_run (Or.inl hbackend) hothers storage hclocks
  have htracked : UploadsTracked ds (Runs.run (modify ds) (StorageState.empty registry storage)
      requests) requests :=
    Runs.run_along (UploadsTracked ds) (uploadsTracked_modify hbackend) nofun
      (pending_of_increasing hbackend (fun entry hentry => (hothers entry hentry).1) storage
        hincreasing)
  have hshows := showsLast_run ds registry storage hincreasing file.dataPointId
  obtain ⟨row, hrow⟩ : ∃ row, (Runs.run (modify ds) (StorageState.empty registry storage)
      requests).materialized.lookup file.dataPointId = some row := by
    obtain ⟨op, hop, -⟩ := mem_uploads.mp hfile
    rw [← Option.ne_none_iff_exists']
    intro hnone
    rw [hshows.absent hnone] at hop
    cases hop
  have halive : row.deletedAt = none :=
    (hshows.alive row hrow).mpr fun op hop hdelete => hends.1 ⟨op, hop, hdelete⟩
  have hnull : row.data file.factId = .null := by
    rw [hshows.data row hrow]
    exact lastCell_eq_null (mem_fileColumns_of_mem_uploads hfile) hends.2
  obtain ⟨name, entry, hentry, hregisters, -⟩ := htracked file hfile
  obtain ⟨hlive, -, hseries, hfact, hpoint, -⟩ := hregisters
  have hupload := hregistry.mem_uploaded hentry hseries
  have hkept : entry.dataPointId ∉ prunedIds olderThan (Runs.run (modify ds)
      (StorageState.empty registry storage) requests).materialized := by
    rw [hpoint, mem_prunedIds]
    rintro ⟨other, hother, deletedAt, hdeleted, -⟩
    cases hother.symm.trans hrow
    rw [halive] at hdeleted
    cases hdeleted
  simp only [pruneHistory, hbackend] at hnoLeak
  have hstored := stored_run (Or.inl hbackend) registry storage requests _ hupload
  -- An alive row that shows the name shows it in the column that is empty.
  obtain ⟨held, hheld, hname⟩ := hnoLeak entry.heldFile hupload
    (collected_of_live (hregistry.unregisterDatapoints hnow _) hnames
      (mem_unregisterDatapoints hentry hkept) hlive hseries (hforeign _ hupload) hstored)
  obtain ⟨shown, hshown, -, -, hcell⟩ := mem_materializedFiles.mp hheld
  have hlookup := (lookup_prunedTable.mp hshown).1
  have hsame : held = entry.heldFile := List.inj_on_of_nodup_map hnames
    (mem_uploads_of_shown hincreasing hlookup hcell) hupload hname
  have hheldPoint : held.dataPointId = file.dataPointId := by rw [hsame]; exact hpoint
  have hheldFact : held.factId = file.factId := by rw [hsame]; exact hfact
  rw [hheldPoint, hrow, Option.some.injEq] at hlookup
  rw [← hlookup, hheldFact, hnull] at hcell
  cases hcell

end NoHistoryRuns

/-- The uploads of a run under names of their own leave no file behind, unless
without a history a data point ends alive with a file column that was emptied. -/
theorem noLeak_iff [UploadedFile V] (ds : DataSeries)
    (hbackend : ds.backend = .dynamicSqlNoHistory ∨
      ds.backend = .dynamicSqlMaterializedFlatHistory)
    (registry : List FileLookup) (storage : List String) (requests : List (Modification V))
    (hothers : ∀ entry ∈ registry, entry.dataSeriesId ≠ ds.id ∧
      ∀ file ∈ uploads ds requests, file.fileName ≠ entry.fileName)
    (hnames : ((uploads ds requests).map HeldFile.fileName).Nodup)
    (hincreasing : requests.Pairwise fun a b => a.clock < b.clock) {olderThan now bound : Int}
    (hbefore : ∀ request ∈ requests, request.clock.pointInTime < olderThan)
    (hbound : olderThan ≤ bound) (hnow : now < bound) (currentTenant : Option Uuid) :
    NoLeak ds (uploads ds requests) (garbageCollect currentTenant bound
        (pruneHistory ds olderThan now (Runs.run (modify ds)
          (StorageState.empty registry storage) requests))) ↔
      ds.backend = .dynamicSqlMaterializedFlatHistory ∨
        ∀ file ∈ uploads ds requests, EndsWithFile ds file.factId
          (requests.filterMap (Modification.on file.dataPointId)) := by
  have hseries : ∀ entry ∈ registry, entry.dataSeriesId ≠ ds.id ∧
      entry.fileName ∈ registry.map FileLookup.fileName :=
    fun entry hentry => ⟨(hothers entry hentry).1, List.mem_map_of_mem hentry⟩
  have hforeign : ∀ file ∈ uploads ds requests,
      file.fileName ∉ registry.map FileLookup.fileName := by
    intro file hfile hmem
    obtain ⟨entry, hentry, hname⟩ := List.mem_map.mp hmem
    exact (hothers entry hentry).2 file hfile hname.symm
  rcases hbackend with hnoHistory | hflat
  · have hother : ds.backend ≠ .dynamicSqlMaterializedFlatHistory := by simp [hnoHistory]
    rw [or_iff_right hother]
    constructor
    · exact endsWithFile_of_noLeak hnoHistory hincreasing hseries hbefore hforeign hbound hnow
        currentTenant hnames
    · exact noLeak_noHistory hnoHistory hincreasing hseries hbefore hforeign hbound hnow
        currentTenant
  · refine iff_of_true ?_ (Or.inl hflat)
    exact noLeak_flatHistory hflat hincreasing hbefore hseries hforeign hbound hnow currentTenant

namespace FileLeaksWitness

open ModificationWitness

/-- A picture is uploaded at 1 and taken out of its column at 2. -/
def emptied : List (Modification String) :=
  [write false [("picture", some "a.png"), ("note", some "first")] 1,
    write true [("picture", none)] 2]

def cleanedUp (backend : StorageBackendType) (requests : List (Modification String)) :
    StorageState String :=
  garbageCollect none 20 (pruneHistory (series backend) 5 10
    (Runs.run (modify (series backend)) (StorageState.empty [] []) requests))

/-- No row shows the picture, but it stays registered and stored; with a history
the same requests leave nothing behind. -/
theorem emptied_column_leaks :
    ¬ NoLeak (series .dynamicSqlNoHistory) (uploads (series .dynamicSqlNoHistory) emptied)
        (cleanedUp .dynamicSqlNoHistory emptied) ∧
      (cleanedUp .dynamicSqlNoHistory emptied).storage = ["a.png"] ∧
      (cleanedUp .dynamicSqlMaterializedFlatHistory emptied).storage = [] := by
  refine ⟨?_, by decide, by decide⟩
  decide

/-- A picture is overwritten, its data point is deleted and created again. -/
def recreated : List (Modification String) :=
  [write false [("picture", some "a.png")] 1, write true [("picture", some "b.png")] 2,
    delete 3, write true [("note", some "again")] 4]

theorem recreated_noLeak :
    NoLeak (series .dynamicSqlNoHistory) (uploads (series .dynamicSqlNoHistory) recreated)
      (cleanedUp .dynamicSqlNoHistory recreated) :=
  (noLeak_iff (series .dynamicSqlNoHistory) (Or.inl rfl) [] [] recreated (by decide) (by decide)
    (by decide) (by decide) (by decide) (by decide) none).mpr (Or.inr (by decide))

end FileLeaksWitness

end NFCompose
