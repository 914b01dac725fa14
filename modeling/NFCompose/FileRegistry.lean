/-
The file registry: which files of the file storage are still in use.  Rows are
only marked as deleted by the data operations; the garbage collection removes
marked rows and the files that nothing else registers.
-/
import NFCompose.DataModel

namespace NFCompose

universe u

variable {V : Type u}

structure HistoryDataPointIdentifier where
  dataPointId : DataPointId
  pointInTime : Int
  subClock : Int
deriving DecidableEq, Repr

def register (tenantId dataSeriesId factId : Uuid)
    (identifier : HistoryDataPointIdentifier) (fileName : String)
    (registry : List FileLookup) : List FileLookup :=
  registry ++ [{
    tenantId := tenantId
    dataSeriesId := dataSeriesId
    factId := factId
    dataPointId := identifier.dataPointId
    pointInTime := identifier.pointInTime
    subClock := identifier.subClock
    fileName := fileName
    deletedAt := none }]

/-- Register a file, then put it into the storage at once. -/
def save (tenantId dataSeriesId factId : Uuid)
    (identifier : HistoryDataPointIdentifier) (fileName : String)
    (state : StorageState V) : StorageState V :=
  { state with
    fileLookup :=
      register tenantId dataSeriesId factId identifier fileName
        state.fileLookup
    storage := state.storage.insert fileName }

/-- `UPDATE ... SET deleted_at` on the rows that meet the condition. -/
def markDeleted (cond : FileLookup → Bool) (deletedAt : Int)
    (registry : List FileLookup) : List FileLookup :=
  registry.map fun entry =>
    if cond entry then { entry with deletedAt := some deletedAt } else entry

def deleteAllForDatapoint (tenantId dataSeriesId factId : Uuid)
    (dataPointId : DataPointId) (now : Int) :
    List FileLookup → List FileLookup :=
  markDeleted
    (fun entry => decide (entry.tenantId = tenantId ∧
      entry.dataSeriesId = dataSeriesId ∧ entry.factId = factId ∧
      entry.dataPointId = dataPointId ∧ entry.deletedAt = none)) now

/-- The join condition of `to_mark`: a row of the same fact and data point with
a later clock, whether marked or not. -/
def FileLookup.Supersedes (newer entry : FileLookup) : Prop :=
  entry.tenantId = newer.tenantId ∧
    entry.dataSeriesId = newer.dataSeriesId ∧
    entry.factId = newer.factId ∧
    entry.dataPointId = newer.dataPointId ∧
    entry.clock < newer.clock

instance (newer entry : FileLookup) : Decidable (newer.Supersedes entry) :=
  inferInstanceAs (Decidable (_ ∧ _))

def deleteAllButLatestForDatapoints (tenantId dataSeriesId : Uuid)
    (dataPointIds : List DataPointId) (pointInTime : Int)
    (registry : List FileLookup) : List FileLookup :=
  markDeleted
    (fun entry => decide (entry.dataPointId ∈ dataPointIds ∧
      entry.deletedAt = none ∧ entry.tenantId = tenantId ∧
      entry.dataSeriesId = dataSeriesId ∧
      ∃ newer ∈ registry, newer.Supersedes entry)) pointInTime registry

def deleteAllMatching (tenantId dataSeriesId factId : Uuid)
    (identifiers : List HistoryDataPointIdentifier) (now : Int) :
    List FileLookup → List FileLookup :=
  markDeleted
    (fun entry => decide (entry.tenantId = tenantId ∧
      entry.dataSeriesId = dataSeriesId ∧ entry.factId = factId ∧
      ⟨entry.dataPointId, entry.pointInTime, entry.subClock⟩ ∈ identifiers ∧
      entry.deletedAt = none)) now

/-- The rows that `FileLookup.objects` shows: not marked as deleted, and of the
current tenant when one is set. -/
def FileLookup.Visible (currentTenant : Option Uuid) (entry : FileLookup) :
    Prop :=
  entry.deletedAt = none ∧ ∀ tenant ∈ currentTenant, entry.tenantId = tenant

instance (currentTenant : Option Uuid) (entry : FileLookup) :
    Decidable (entry.Visible currentTenant) :=
  inferInstanceAs (Decidable (_ ∧ _))

/-- With no tenant given, look into all rows that the manager shows. -/
def fileExists (currentTenant tenantId : Option Uuid) (fileName : String)
    (registry : List FileLookup) : Bool :=
  registry.any fun entry => decide (entry.Visible currentTenant ∧
    entry.fileName = fileName ∧ ∀ tenant ∈ tenantId, entry.tenantId = tenant)

/-- `deleted_at < older_than`, which is not true of a row that is not marked. -/
def FileLookup.Collectable (olderThan : Int) (entry : FileLookup) : Prop :=
  ∃ deletedAt ∈ entry.deletedAt, deletedAt < olderThan

instance (olderThan : Int) (entry : FileLookup) :
    Decidable (entry.Collectable olderThan) :=
  match h : entry.deletedAt with
  | none => isFalse (by simp [FileLookup.Collectable, h])
  | some deletedAt =>
      decidable_of_iff (deletedAt < olderThan)
        (by simp [FileLookup.Collectable, h])

/-- The names of removed rows that no remaining visible row has. -/
def garbageFiles (currentTenant : Option Uuid) (olderThan : Int)
    (registry : List FileLookup) : List String :=
  ((registry.filter fun entry => entry.Collectable olderThan).map
      FileLookup.fileName).filter fun name =>
    !fileExists currentTenant none name
      (registry.filter fun entry => ¬ entry.Collectable olderThan)

def garbageCollect (currentTenant : Option Uuid) (olderThan : Int)
    (state : StorageState V) : StorageState V :=
  { state with
    fileLookup :=
      state.fileLookup.filter fun entry => ¬ entry.Collectable olderThan
    storage := state.storage.filter fun name =>
      name ∉ garbageFiles currentTenant olderThan state.fileLookup }

/-- Marking keeps a row that is not marked unless the condition holds of it. -/
theorem mem_markDeleted_of_not {cond : FileLookup → Bool} {deletedAt : Int}
    {registry : List FileLookup} {entry : FileLookup}
    (hmem : entry ∈ registry) (hcond : cond entry = false) :
    entry ∈ markDeleted cond deletedAt registry := by
  rw [markDeleted, List.mem_map]
  exact ⟨entry, hmem, by simp [hcond]⟩

/-- Every row after marking is an old one, up to its mark. -/
theorem mem_markDeleted {cond : FileLookup → Bool} {deletedAt : Int}
    {registry : List FileLookup} {entry : FileLookup}
    (hmem : entry ∈ markDeleted cond deletedAt registry) :
    ∃ old ∈ registry, entry = old ∨
      cond old = true ∧ entry = { old with deletedAt := some deletedAt } := by
  rw [markDeleted, List.mem_map] at hmem
  obtain ⟨old, hold, heq⟩ := hmem
  refine ⟨old, hold, ?_⟩
  split at heq
  · exact Or.inr ⟨by assumption, heq.symm⟩
  · exact Or.inl heq.symm

/-- A row that is not marked after marking was there before. -/
theorem mem_of_mem_markDeleted {cond : FileLookup → Bool} {deletedAt : Int}
    {registry : List FileLookup} {entry : FileLookup}
    (hmem : entry ∈ markDeleted cond deletedAt registry)
    (hlive : entry.deletedAt = none) : entry ∈ registry := by
  obtain ⟨old, hold, heq | ⟨-, heq⟩⟩ := mem_markDeleted hmem
  · exact heq ▸ hold
  · simp [heq] at hlive

theorem mem_garbageCollect_fileLookup {currentTenant : Option Uuid}
    {olderThan : Int} {state : StorageState V} {entry : FileLookup} :
    entry ∈ (garbageCollect currentTenant olderThan state).fileLookup ↔
      entry ∈ state.fileLookup ∧ ¬ entry.Collectable olderThan := by
  simp [garbageCollect]

/-- A row that is not marked is never removed. -/
theorem not_collectable_of_live {olderThan : Int} {entry : FileLookup}
    (hlive : entry.deletedAt = none) : ¬ entry.Collectable olderThan := by
  simp [FileLookup.Collectable, hlive]

/-- A file is not garbage while a visible row that is not marked names it. -/
theorem mem_garbageCollect_storage_of_visible {currentTenant : Option Uuid}
    {olderThan : Int} {state : StorageState V} {entry : FileLookup}
    (hmem : entry ∈ state.fileLookup) (hvisible : entry.Visible currentTenant)
    (hstored : entry.fileName ∈ state.storage) :
    entry.fileName ∈
      (garbageCollect currentTenant olderThan state).storage := by
  have hexists : fileExists currentTenant none entry.fileName
      (state.fileLookup.filter fun entry =>
        ¬ entry.Collectable olderThan) = true := by
    rw [fileExists, List.any_eq_true]
    refine ⟨entry, ?_, by simp [hvisible]⟩
    simp [hmem, not_collectable_of_live hvisible.1]
  simp only [garbageCollect, garbageFiles, List.mem_filter]
  refine ⟨hstored, ?_⟩
  simp only [decide_eq_true_eq, not_and, hexists]
  simp

section Exactness

variable {currentTenant : Option Uuid} {olderThan : Int}

theorem fileExists_none {fileName : String} {registry : List FileLookup} :
    fileExists currentTenant none fileName registry = true ↔
      ∃ entry ∈ registry, entry.Visible currentTenant ∧ entry.fileName = fileName := by
  simp [fileExists]

/-- Removed rows are marked, so the remaining visible rows are all visible ones. -/
theorem mem_garbageFiles {registry : List FileLookup} {name : String} :
    name ∈ garbageFiles currentTenant olderThan registry ↔
      (∃ entry ∈ registry, entry.Collectable olderThan ∧ entry.fileName = name) ∧
        ¬ ∃ entry ∈ registry, entry.Visible currentTenant ∧ entry.fileName = name := by
  have hremaining : (∃ entry ∈ registry.filter fun entry => ¬ entry.Collectable olderThan,
        entry.Visible currentTenant ∧ entry.fileName = name) ↔
      ∃ entry ∈ registry, entry.Visible currentTenant ∧ entry.fileName = name := by
    constructor
    · rintro ⟨entry, hmem, hentry⟩
      exact ⟨entry, List.mem_of_mem_filter hmem, hentry⟩
    · rintro ⟨entry, hmem, hvisible, hname⟩
      refine ⟨entry, List.mem_filter.mpr ⟨hmem, ?_⟩, hvisible, hname⟩
      simpa using not_collectable_of_live hvisible.1
  rw [garbageFiles, List.mem_filter, List.mem_map, ← hremaining, ← fileExists_none]
  simp [and_assoc]

/-- The file name of a row that is removed, and of no remaining row of any
tenant that is not marked. -/
def Unneeded (olderThan : Int) (registry : List FileLookup) (name : String) : Prop :=
  (∃ entry ∈ registry, entry.Collectable olderThan ∧ entry.fileName = name) ∧
    ¬ ∃ entry ∈ registry, ¬ entry.Collectable olderThan ∧ entry.deletedAt = none ∧
      entry.fileName = name

/-- The rows that are old enough are removed, and with them the unneeded files. -/
structure CollectsExactly (currentTenant : Option Uuid) (olderThan : Int)
    (state : StorageState V) : Prop where
  rows : (garbageCollect currentTenant olderThan state).fileLookup =
    state.fileLookup.filter fun entry => ¬ entry.Collectable olderThan
  deleted : ∀ name, name ∈ garbageFiles currentTenant olderThan state.fileLookup ↔
    Unneeded olderThan state.fileLookup name
  storage : ∀ name, name ∈ (garbageCollect currentTenant olderThan state).storage ↔
    name ∈ state.storage ∧ ¬ Unneeded olderThan state.fileLookup name

/-- A file that other tenants still use is used by the current tenant as well. -/
def SharedVisibly (currentTenant : Option Uuid) (olderThan : Int)
    (registry : List FileLookup) : Prop :=
  ∀ removed ∈ registry, removed.Collectable olderThan →
    ∀ entry ∈ registry, entry.deletedAt = none → entry.fileName = removed.fileName →
      ∃ visible ∈ registry, visible.Visible currentTenant ∧
        visible.fileName = removed.fileName

instance (currentTenant : Option Uuid) (olderThan : Int) (registry : List FileLookup) :
    Decidable (SharedVisibly currentTenant olderThan registry) :=
  inferInstanceAs (Decidable (∀ removed ∈ registry, _))

/-- Without a current tenant every row that is not marked is visible. -/
theorem sharedVisibly_none (olderThan : Int) (registry : List FileLookup) :
    SharedVisibly none olderThan registry := by
  intro removed _ _ entry hentry hlive hname
  exact ⟨entry, hentry, ⟨hlive, by simp⟩, hname⟩

theorem unneeded_iff {registry : List FileLookup} {name : String} :
    Unneeded olderThan registry name ↔
      (∃ entry ∈ registry, entry.Collectable olderThan ∧ entry.fileName = name) ∧
        ¬ ∃ entry ∈ registry, entry.deletedAt = none ∧ entry.fileName = name := by
  refine and_congr_right fun _ => not_congr ⟨?_, ?_⟩
  · rintro ⟨entry, hmem, -, hentry⟩
    exact ⟨entry, hmem, hentry⟩
  · rintro ⟨entry, hmem, hlive, hname⟩
    exact ⟨entry, hmem, not_collectable_of_live hlive, hlive, hname⟩

/-- The collection looks for remaining rows of the current tenant alone. -/
theorem garbageCollect_exact_iff (currentTenant : Option Uuid) (olderThan : Int)
    (state : StorageState V) :
    CollectsExactly currentTenant olderThan state ↔
      SharedVisibly currentTenant olderThan state.fileLookup := by
  constructor
  · intro hexact removed hremoved hcollectable entry hentry hlive hname
    by_contra hnone
    have hgarbage := mem_garbageFiles.mpr ⟨⟨removed, hremoved, hcollectable, rfl⟩, hnone⟩
    have hunneeded := unneeded_iff.mp ((hexact.deleted _).mp hgarbage)
    exact hunneeded.2 ⟨entry, hentry, hlive, hname⟩
  · intro hshared
    have hdeleted : ∀ name, name ∈ garbageFiles currentTenant olderThan state.fileLookup ↔
        Unneeded olderThan state.fileLookup name := by
      intro name
      rw [mem_garbageFiles, unneeded_iff]
      refine and_congr_right fun ⟨removed, hremoved, hcollectable, hname⟩ => not_congr ⟨?_, ?_⟩
      · rintro ⟨entry, hentry, hvisible, hname⟩
        exact ⟨entry, hentry, hvisible.1, hname⟩
      · rintro ⟨entry, hentry, hlive, hentryName⟩
        rw [← hname] at hentryName ⊢
        exact hshared removed hremoved hcollectable entry hentry hlive hentryName
    refine ⟨rfl, hdeleted, ?_⟩
    intro name
    rw [← hdeleted name]
    simp [garbageCollect]

end Exactness

namespace FileRegistryWitness

def entry (tenantId : Uuid) (deletedAt : Option Int) : FileLookup where
  tenantId := tenantId
  dataSeriesId := "series"
  factId := "fact"
  dataPointId := "point"
  pointInTime := 1
  subClock := 1
  fileName := "logo.png"
  deletedAt := deletedAt

/-- Two tenants have registered one file, and one of them no longer needs it. -/
def shared : StorageState String :=
  .empty [entry "first" (some 2), entry "second" none] ["logo.png"]

/-- Under the tenant that is done with it the file is deleted for both. -/
theorem shared_file_deleted :
    ¬ CollectsExactly (some "first") 3 shared ∧
      (garbageCollect (some "first") 3 shared).storage = [] := by
  refine ⟨?_, by decide⟩
  intro hexact
  have hgarbage : "logo.png" ∈ garbageFiles (some "first") 3 shared.fileLookup := by decide
  have hunneeded := unneeded_iff.mp ((hexact.deleted _).mp hgarbage)
  exact hunneeded.2 ⟨entry "second" none, by decide, rfl, rfl⟩

end FileRegistryWitness

end NFCompose
