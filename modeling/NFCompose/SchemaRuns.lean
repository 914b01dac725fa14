/-
Runs of requests and tasks in any order.
-/
import NFCompose.Runs
import NFCompose.SchemaTasks

namespace NFCompose

namespace SchemaLifecycle

open GeneratedNames TableCatalog

section Runs

/-- The ids of new rows are random uuids, so none is in use. -/
def FreshIds (state : LifecycleState) : LifecycleAction → Prop
  | .createSeries id _ _ _ => id ∉ state.series
  | .createChild _ childId _ _ => childId ∉ state.relations
  | _ => True

instance (state : LifecycleState) : (action : LifecycleAction) → Decidable (FreshIds state action)
  | .createSeries id _ _ _ => inferInstanceAs (Decidable (id ∉ state.series))
  | .createChild _ childId _ _ => inferInstanceAs (Decidable (childId ∉ state.relations))
  | .updateBackend _ _ => isTrue trivial
  | .deleteChild _ _ => isTrue trivial
  | .deleteSeries _ _ => isTrue trivial
  | .runTask _ _ => isTrue trivial
  | .pruneMetaModel _ _ _ => isTrue trivial
  | .nukeDataSeries _ _ _ => isTrue trivial

theorem inv_lifecycleStep (state : LifecycleState) (action : LifecycleAction) (hinv : state.Inv)
    (hfresh : FreshIds state action) : (lifecycleStep state action).Inv := by
  cases action with
  | createSeries id tenant externalId backend =>
      exact inv_createSeries hinv hfresh tenant externalId backend
  | createChild id childId kind externalId => exact inv_createChild hinv hfresh id kind externalId
  | updateBackend id backend => exact inv_updateBackend hinv id backend
  | deleteChild childId now => exact inv_deleteChild hinv childId now
  | deleteSeries id now => exact inv_deleteSeries hinv id now
  | runTask position succeeds => exact inv_runTask hinv position succeeds
  | pruneMetaModel id olderThan indexesPruned =>
      cases indexesPruned with
      | false => exact hinv
      | true => exact inv_pruneMetaModel hinv id olderThan
  | nukeDataSeries id olderThan othersPruned =>
      cases othersPruned with
      | false => exact hinv
      | true => exact inv_nukeDataSeries hinv id olderThan

theorem inv_empty : LifecycleState.empty.Inv where
  rows id row hrow := by cases hrow
  owned name hname := absurd hname (AList.notMem_empty name)
  related childId relation hrelation := by cases hrelation
  tasks := ⟨List.nodup_nil, nofun, fun id row hrow => by cases hrow⟩

theorem inv_run {actions : List LifecycleAction}
    (hfresh : Runs.AllSteps lifecycleStep FreshIds .empty actions) :
    (Runs.run lifecycleStep .empty actions).Inv :=
  Runs.run_invariant LifecycleState.Inv inv_lifecycleStep inv_empty hfresh

/-- What the queries and the tasks rely on. -/
structure ServesMetaModel (state : LifecycleState) : Prop where
  current : ∀ id row, state.series.lookup id = some row → state.HasTable id row .materialized
  history : ∀ id row, state.series.lookup id = some row →
    row.backend = .dynamicSqlMaterializedFlatHistory → row.locked = false →
      state.HasTable id row .flatHistory
  exact : ∀ id row, state.series.lookup id = some row → row.locked = false →
    ∀ type, row.table id type ∈ state.tables ↔ type ∈ backendTables row.backend
  owned : Owned state.series state.tables

/-- Whatever the order of the requests, the migrations and the tasks that prune, the tables
serve the meta model. -/
theorem tables_serve_metaModel (actions : List LifecycleAction)
    (hfresh : Runs.AllSteps lifecycleStep FreshIds .empty actions) :
    ServesMetaModel (Runs.run lifecycleStep .empty actions) := by
  have hinv := inv_run hfresh
  constructor
  · exact fun id row hrow => (hinv.rows id row hrow).current
  · exact fun id row hrow => (hinv.rows id row hrow).history
  · exact fun id row hrow hunlocked => table_mem_iff hinv hrow hunlocked
  · exact hinv.owned

/-- No fact, dimension or table stops the task that removes a deleted data series, and no other
data series, element or table goes with it. -/
theorem nukeDataSeries_exact (actions : List LifecycleAction)
    (hfresh : Runs.AllSteps lifecycleStep FreshIds .empty actions) (id : UuidText)
    (row : SeriesRow) (olderThan : Int)
    (hrow : (Runs.run lifecycleStep .empty actions).series.lookup id = some row)
    (hdeleted : row.deletedAt ≠ none) :
    Nuked id row (Runs.run lifecycleStep .empty actions)
      ((Runs.run lifecycleStep .empty actions).nukeDataSeries id olderThan) :=
  nuked_nukeDataSeries (inv_run hfresh) hrow hdeleted olderThan

/-- The end of the one migration that a locked data series waits for. -/
structure Migrated (id : UuidText) (row : SeriesRow) (state done : LifecycleState) : Prop where
  series : done.series = state.series.insert id { row with locked := false }
  tables : ∀ type, row.table id type ∈ done.tables ↔ type ∈ backendTables row.backend
  serves : ∀ type ∈ backendTables row.backend, done.HasTable id row type
  waits : id ∉ done.tasks.map Prod.fst

/-- A data series is locked for exactly one task; when that goes through it is unlocked and has
the tables of its new backend. -/
theorem locked_until_migrated (actions : List LifecycleAction)
    (hfresh : Runs.AllSteps lifecycleStep FreshIds .empty actions) (id : UuidText)
    (row : SeriesRow) (hrow : (Runs.run lifecycleStep .empty actions).series.lookup id = some row)
    (hlocked : row.locked = true) :
    ∃ position, (∀ other : Nat,
        ((Runs.run lifecycleStep .empty actions).tasks[other]?).map Prod.fst = some id ↔
          other = position) ∧
      Migrated id row (Runs.run lifecycleStep .empty actions)
        ((Runs.run lifecycleStep .empty actions).runTask position true) := by
  have hinv := inv_run hfresh
  have hdoneInv : ∀ position,
      ((Runs.run lifecycleStep .empty actions).runTask position true).Inv :=
    fun position => inv_runTask hinv position true
  generalize Runs.run lifecycleStep .empty actions = state at *
  obtain ⟨position, hposition⟩ := List.mem_iff_getElem?.mp (hinv.tasks.locked id row hrow hlocked)
  rw [List.getElem?_map] at hposition
  refine ⟨position, fun other => ⟨fun hother => ?_, fun heq => heq ▸ hposition⟩, ?_⟩
  · rw [← List.getElem?_map] at hother hposition
    obtain ⟨hlt, -⟩ := List.getElem?_eq_some_iff.mp hother
    exact (List.getElem?_inj hlt hinv.tasks.nodup).mp (hother.trans hposition.symm)
  obtain ⟨⟨taskId, task⟩, htask, rfl⟩ := Option.map_eq_some_iff.mp hposition
  obtain ⟨other, hliving, htarget, -, hhere⟩ := pending_task hinv (List.mem_of_getElem? htask)
  obtain rfl : row = other := Option.some.inj (hrow.symm.trans (living_eq_some.mp hliving).1)
  obtain ⟨tables, htables, -, -, -⟩ := migrate_spec hhere
  have hdone : state.runTask position true =
      { state with
        series := state.series.insert taskId { row with locked := false }
        tasks := state.tasks.eraseIdx position
        tables := tables } := by
    simp only [LifecycleState.runTask, htask, hliving, htables, if_true]
  have hafter := hdoneInv position
  have hrowAfter : (state.runTask position true).series.lookup taskId =
      some { row with locked := false } := by
    rw [hdone]
    exact AList.lookup_insert _
  have hrowInv := hafter.rows taskId _ hrowAfter
  constructor
  · rw [hdone]
  · have htables := table_mem_iff hafter hrowAfter rfl
    exact htables
  · intro type htype
    cases type with
    | materialized => exact hrowInv.current
    | flatHistory => exact hrowInv.history (flatHistory_mem.mp htype) rfl
  · intro hmem
    obtain ⟨pending, hpending, heq⟩ := List.mem_map.mp hmem
    obtain ⟨found, hfound, -, hfoundLocked, -⟩ := hafter.tasks.pending pending hpending
    rw [heq] at hfound
    rw [hrowAfter, Option.some.injEq] at hfound
    rw [← hfound] at hfoundLocked
    cases hfoundLocked

end Runs

section References

def ChildRelation.Uses (relation : ChildRelation) (id : UuidText) : Prop :=
  relation.dataSeriesId = id ∨ relation.kind = .dimension id

/-- The relation of a living element belongs to a living data series, and that of a dimension
refers to one of the same tenant. -/
structure LifecycleState.RefersToLiving (state : LifecycleState) : Prop where
  used : ∀ childId relation, state.relations.lookup childId = some relation →
    relation.deletedAt = none → ∃ row, state.living relation.dataSeriesId = some row ∧
      ∀ reference, relation.kind = .dimension reference →
        ∃ other, state.living reference = some other ∧ other.tenant.id = row.tenant.id

/-- What takes no living data series away that is in use keeps the references. -/
theorem LifecycleState.RefersToLiving.keep {state changed : LifecycleState}
    (hrefers : state.RefersToLiving)
    (hrelations : ∀ childId relation, changed.relations.lookup childId = some relation →
      relation.deletedAt = none → state.relations.lookup childId = some relation)
    (hliving : ∀ childId relation, changed.relations.lookup childId = some relation →
      relation.deletedAt = none → ∀ id row, relation.Uses id → state.living id = some row →
        ∃ after, changed.living id = some after ∧ after.tenant = row.tenant) :
    changed.RefersToLiving where
  used childId relation hrelation hdeleted := by
    obtain ⟨row, hrow, hreference⟩ :=
      hrefers.used childId relation (hrelations childId relation hrelation hdeleted) hdeleted
    obtain ⟨after, hafter, htenant⟩ :=
      hliving childId relation hrelation hdeleted _ row (Or.inl rfl) hrow
    refine ⟨after, hafter, fun reference hkind => ?_⟩
    obtain ⟨other, hother, hsame⟩ := hreference reference hkind
    obtain ⟨otherAfter, hotherAfter, hotherTenant⟩ :=
      hliving childId relation hrelation hdeleted reference other (Or.inr hkind) hother
    exact ⟨otherAfter, hotherAfter, by rw [hotherTenant, htenant, hsame]⟩

/-- A row that takes the place of a living one. -/
theorem living_insert {state : LifecycleState} {changed : LifecycleState} {id : UuidText}
    {row : SeriesRow} (hseries : changed.series = state.series.insert id row)
    (hdeleted : row.deletedAt = none)
    (htenant : ∀ old, state.living id = some old → row.tenant = old.tenant)
    {otherId : UuidText} {other : SeriesRow} (hother : state.living otherId = some other) :
    ∃ after, changed.living otherId = some after ∧ after.tenant = other.tenant := by
  by_cases hsame : otherId = id
  · subst hsame
    refine ⟨row, living_eq_some.mpr ⟨?_, hdeleted⟩, htenant other hother⟩
    rw [hseries, AList.lookup_insert]
  · refine ⟨other, ?_, rfl⟩
    rw [living_eq_some] at hother ⊢
    rw [hseries, AList.lookup_insert_ne hsame]
    exact hother

theorem mem_of_living {state : LifecycleState} {id : UuidText} {row : SeriesRow}
    (hliving : state.living id = some row) : id ∈ state.series :=
  AList.lookup_isSome.mp (by simp [(living_eq_some.mp hliving).1])

theorem refers_createSeries {state : LifecycleState} (hrefers : state.RefersToLiving)
    {id : UuidText} (hfresh : id ∉ state.series) (tenant : Tenant) (externalId : SqlSafeId)
    (backend : StorageBackendType) :
    (state.createSeries id tenant externalId backend).RefersToLiving := by
  rw [LifecycleState.createSeries]
  split
  · exact hrefers
  split
  · exact hrefers
  refine hrefers.keep (fun _ _ hrelation _ => hrelation) ?_
  intro childId relation hrelation hdeleted otherId other huses hother
  refine living_insert rfl rfl (fun old hold => ?_) hother
  exact absurd (mem_of_living hold) hfresh

theorem refers_createChild {state : LifecycleState} (hrefers : state.RefersToLiving)
    {childId : UuidText} (id : UuidText) (kind : ChildKind) (externalId : SqlSafeId) :
    (state.createChild id childId kind externalId).RefersToLiving := by
  rw [LifecycleState.createChild]
  split
  · exact hrefers
  next row hmodifiable =>
  split
  · exact hrefers
  next hvalid =>
  dsimp only
  split
  · exact hrefers
  constructor
  intro otherId other hother hdeleted
  by_cases hsame : otherId = childId
  · subst hsame
    rw [AList.lookup_insert, Option.some.injEq] at hother
    subst hother
    obtain ⟨hrow, hliving, -⟩ := modifiable_eq_some.mp hmodifiable
    refine ⟨row, living_eq_some.mpr ⟨hrow, hliving⟩, fun reference hkind => ?_⟩
    obtain rfl : kind = .dimension reference := hkind
    rw [Bool.or_eq_true, not_or, Bool.not_eq_true', Bool.not_eq_false] at hvalid
    obtain ⟨found, hfound, htenant⟩ := (Option.any_eq_true _ _).mp hvalid.2
    exact ⟨found, hfound, of_decide_eq_true htenant⟩
  · rw [AList.lookup_insert_ne hsame] at hother
    exact hrefers.used otherId other hother hdeleted

theorem refers_updateBackend {state : LifecycleState} (hrefers : state.RefersToLiving)
    (id : UuidText) (backend : StorageBackendType) :
    (state.updateBackend id backend).RefersToLiving := by
  rw [LifecycleState.updateBackend]
  split
  · exact hrefers
  next row hmodifiable =>
  split
  · exact hrefers
  obtain ⟨hrow, hliving, -⟩ := modifiable_eq_some.mp hmodifiable
  refine hrefers.keep (fun _ _ hrelation _ => hrelation) ?_
  intro childId relation hrelation hdeleted otherId other huses hother
  refine living_insert rfl ?_ (fun old hold => ?_) hother
  · exact hliving
  · obtain rfl : row = old := Option.some.inj (hrow.symm.trans (living_eq_some.mp hold).1)
    rfl

theorem refers_runTask {state : LifecycleState} (hrefers : state.RefersToLiving)
    (position : Nat) (succeeds : Bool) :
    (state.runTask position succeeds).RefersToLiving := by
  rw [LifecycleState.runTask]
  split
  · exact hrefers
  split
  · exact hrefers
  next row hliving =>
  split
  · exact hrefers
  split
  swap
  · exact hrefers
  refine hrefers.keep (fun _ _ hrelation _ => hrelation) ?_
  intro childId relation hrelation hdeleted otherId other huses hother
  refine living_insert rfl ?_ (fun old hold => ?_) hother
  · exact (living_eq_some.mp hliving).2
  · obtain rfl : row = old := Option.some.inj (hliving.symm.trans hold)
    rfl

/-- A living row after a deletion was living before, and was not meant. -/
theorem living_softDeleteWhere {p : UuidText → ChildRelation → Bool} {withChild : Bool} {now : Int}
    {relations : AList fun _ : UuidText => ChildRelation} {childId : UuidText}
    {relation : ChildRelation}
    (hrelation : (softDeleteWhere p withChild now relations).lookup childId = some relation)
    (hliving : relation.deletedAt = none) :
    relations.lookup childId = some relation ∧ p childId relation = false := by
  obtain ⟨before, hbefore, rfl⟩ := lookup_softDeleteWhere.mp hrelation
  split at hliving
  · exact absurd hliving (softDelete_spec withChild now before).2.2.2
  · next hp =>
      rw [if_neg hp]
      exact ⟨hbefore, eq_false_of_ne_true hp⟩

theorem refers_deleteChild {state : LifecycleState} (hrefers : state.RefersToLiving)
    (childId : UuidText) (now : Int) : (state.deleteChild childId now).RefersToLiving := by
  rw [LifecycleState.deleteChild]
  split
  · exact hrefers
  split
  swap
  · exact hrefers
  refine hrefers.keep (fun _ _ hrelation hliving => ?_) ?_
  · exact (living_softDeleteWhere hrelation hliving).1
  · exact fun _ _ _ _ otherId other _ hother => ⟨other, hother, rfl⟩

/-- The view looks for the dimensions of other data series that refer to this one. -/
theorem refers_deleteSeries {state : LifecycleState} (hrefers : state.RefersToLiving)
    (id : UuidText) (now : Int) : (state.deleteSeries id now).RefersToLiving := by
  rw [LifecycleState.deleteSeries]
  split
  · exact hrefers
  next row hmodifiable =>
  split
  · exact hrefers
  next hreferenced =>
  obtain ⟨hrow, hrowLiving, -⟩ := modifiable_eq_some.mp hmodifiable
  refine hrefers.keep (fun _ _ hrelation hliving => ?_) ?_
  · exact (living_softDeleteWhere hrelation hliving).1
  intro childId relation hrelation hliving otherId other huses hother
  obtain ⟨hbefore, hid⟩ := living_softDeleteWhere hrelation hliving
  refine ⟨other, ?_, rfl⟩
  rw [living_eq_some] at hother ⊢
  rw [AList.lookup_insert_ne]
  · exact hother
  rintro rfl
  refine huses.elim (of_decide_eq_false hid) fun hkind => hreferenced ?_
  obtain ⟨user, huser, hreference⟩ := hrefers.used childId relation hbefore hliving
  obtain ⟨found, hfound, htenant⟩ := hreference otherId hkind
  obtain rfl : row = found := Option.some.inj (hrow.symm.trans (living_eq_some.mp hfound).1)
  rw [LifecycleState.referenced, List.any_eq_true]
  refine ⟨⟨childId, relation⟩, KeyedTable.mem_entries_iff.mpr hbefore, ?_⟩
  simp [hliving, of_decide_eq_false hid, huser, htenant, hkind]

theorem refers_pruneMetaModel {state : LifecycleState} (hrefers : state.RefersToLiving)
    (id : UuidText) (olderThan : Int) : (state.pruneMetaModel id olderThan).1.RefersToLiving := by
  cases hrow : state.series.lookup id with
  | none =>
      rw [LifecycleState.pruneMetaModel, hrow]
      exact hrefers
  | some row =>
      have hspared := spared_pruneMetaModel hrow olderThan
      refine hrefers.keep (fun childId relation hrelation _ =>
        hspared.old childId relation hrelation) ?_
      intro _ _ _ _ otherId other _ hother
      refine ⟨other, ?_, rfl⟩
      rw [living_eq_some] at hother ⊢
      rwa [hspared.series]

theorem refers_nukeDataSeries {state : LifecycleState} (hrefers : state.RefersToLiving)
    (hinv : state.Inv) (id : UuidText) (olderThan : Int) :
    (state.nukeDataSeries id olderThan).RefersToLiving := by
  cases hrow : state.series.lookup id with
  | none =>
      rw [LifecycleState.nukeDataSeries, hrow]
      exact hrefers
  | some row =>
      by_cases hdeleted : row.deletedAt = none
      · rw [LifecycleState.nukeDataSeries, hrow]
        simp only [if_pos hdeleted]
        exact hrefers
      have hnuked := nuked_nukeDataSeries hinv hrow hdeleted olderThan
      refine hrefers.keep (fun childId relation hrelation _ =>
        ((hnuked.relations childId relation).mp hrelation).1) ?_
      intro _ _ _ _ otherId other _ hother
      refine ⟨other, ?_, rfl⟩
      rw [living_eq_some] at hother ⊢
      refine ⟨?_, hother.2⟩
      rw [hnuked.series, AList.lookup_erase_ne, hother.1]
      rintro rfl
      obtain rfl : row = other := Option.some.inj (hrow.symm.trans hother.1)
      exact hdeleted hother.2

theorem refers_lifecycleStep (state : LifecycleState) (action : LifecycleAction)
    (hrefers : state.RefersToLiving) (hinv : state.Inv) (hfresh : FreshIds state action) :
    (lifecycleStep state action).RefersToLiving := by
  cases action with
  | createSeries id tenant externalId backend =>
      exact refers_createSeries hrefers hfresh tenant externalId backend
  | createChild id childId kind externalId => exact refers_createChild hrefers id kind externalId
  | updateBackend id backend => exact refers_updateBackend hrefers id backend
  | deleteChild childId now => exact refers_deleteChild hrefers childId now
  | deleteSeries id now => exact refers_deleteSeries hrefers id now
  | runTask position succeeds => exact refers_runTask hrefers position succeeds
  | pruneMetaModel id olderThan indexesPruned =>
      cases indexesPruned with
      | false => exact hrefers
      | true => exact refers_pruneMetaModel hrefers id olderThan
  | nukeDataSeries id olderThan othersPruned =>
      cases othersPruned with
      | false => exact hrefers
      | true => exact refers_nukeDataSeries hrefers hinv id olderThan

/-- A relation is alive as long as its element and its data series are. -/
def LifecycleState.RelationsFollow (state : LifecycleState) : Prop :=
  ∀ childId relation, state.relations.lookup childId = some relation →
    (relation.deletedAt = none ↔
      relation.childDeletedAt = none ∧ (state.living relation.dataSeriesId).isSome)

/-- What changes no relation, and for no relation whether its data series is alive. -/
theorem LifecycleState.RelationsFollow.keep {state changed : LifecycleState}
    (hfollow : state.RelationsFollow)
    (hkept : ∀ childId relation, changed.relations.lookup childId = some relation →
      state.relations.lookup childId = some relation ∧
        (changed.living relation.dataSeriesId).isSome =
          (state.living relation.dataSeriesId).isSome) :
    changed.RelationsFollow := by
  intro childId relation hrelation
  obtain ⟨hold, hsame⟩ := hkept childId relation hrelation
  rw [hsame]
  exact hfollow childId relation hold

theorem living_insert_ne {state changed : LifecycleState} {id otherId : UuidText} {row : SeriesRow}
    (hseries : changed.series = state.series.insert id row) (hne : otherId ≠ id) :
    changed.living otherId = state.living otherId := by
  rw [LifecycleState.living, LifecycleState.living, hseries, AList.lookup_insert_ne hne]

/-- A living row takes the place of a living one. -/
theorem isSome_living_insert {state changed : LifecycleState} {id : UuidText} {row : SeriesRow}
    (hseries : changed.series = state.series.insert id row) (hnew : row.deletedAt = none)
    (hold : (state.living id).isSome) (otherId : UuidText) :
    (changed.living otherId).isSome = (state.living otherId).isSome := by
  by_cases hid : otherId = id
  · subst hid
    have hliving : changed.living otherId = some row :=
      living_eq_some.mpr ⟨by rw [hseries, AList.lookup_insert], hnew⟩
    rw [hliving, hold]
    rfl
  · rw [living_insert_ne hseries hid]

theorem isSome_living_of_modifiable {state : LifecycleState} {id : UuidText} {row : SeriesRow}
    (hmodifiable : state.modifiable id = some row) : (state.living id).isSome := by
  obtain ⟨hrow, hliving, -⟩ := modifiable_eq_some.mp hmodifiable
  exact Option.isSome_of_eq_some (living_eq_some.mpr ⟨hrow, hliving⟩)

theorem follow_createSeries {state : LifecycleState} (hfollow : state.RelationsFollow)
    (hinv : state.Inv) {id : UuidText} (hfresh : id ∉ state.series) (tenant : Tenant)
    (externalId : SqlSafeId) (backend : StorageBackendType) :
    (state.createSeries id tenant externalId backend).RelationsFollow := by
  rw [LifecycleState.createSeries]
  split
  · exact hfollow
  split
  · exact hfollow
  refine hfollow.keep fun childId relation hrelation => ⟨hrelation, ?_⟩
  rw [living_insert_ne rfl]
  intro hid
  exact hfresh (hid ▸ hinv.related childId relation hrelation)

theorem follow_createChild {state : LifecycleState} (hfollow : state.RelationsFollow)
    {childId : UuidText} (id : UuidText) (kind : ChildKind) (externalId : SqlSafeId) :
    (state.createChild id childId kind externalId).RelationsFollow := by
  rw [LifecycleState.createChild]
  split
  · exact hfollow
  next row hmodifiable =>
  split
  · exact hfollow
  dsimp only
  split
  · exact hfollow
  intro otherId other hother
  by_cases hsame : otherId = childId
  · subst hsame
    rw [AList.lookup_insert, Option.some.injEq] at hother
    subst hother
    exact iff_of_true rfl ⟨rfl, isSome_living_of_modifiable hmodifiable⟩
  · rw [AList.lookup_insert_ne hsame] at hother
    exact hfollow otherId other hother

theorem follow_updateBackend {state : LifecycleState} (hfollow : state.RelationsFollow)
    (id : UuidText) (backend : StorageBackendType) :
    (state.updateBackend id backend).RelationsFollow := by
  rw [LifecycleState.updateBackend]
  split
  · exact hfollow
  next row hmodifiable =>
  split
  · exact hfollow
  refine hfollow.keep fun childId relation hrelation => ⟨hrelation, ?_⟩
  refine isSome_living_insert rfl ?_ (isSome_living_of_modifiable hmodifiable) _
  exact (modifiable_eq_some.mp hmodifiable).2.1

theorem follow_runTask {state : LifecycleState} (hfollow : state.RelationsFollow)
    (position : Nat) (succeeds : Bool) : (state.runTask position succeeds).RelationsFollow := by
  rw [LifecycleState.runTask]
  split
  · exact hfollow
  split
  · exact hfollow
  next row hliving =>
  split
  · exact hfollow
  split
  swap
  · exact hfollow
  refine hfollow.keep fun childId relation hrelation => ⟨hrelation, ?_⟩
  refine isSome_living_insert rfl ?_ (Option.isSome_of_eq_some hliving) _
  exact (living_eq_some.mp hliving).2

theorem follow_deleteChild {state : LifecycleState} (hfollow : state.RelationsFollow)
    (childId : UuidText) (now : Int) : (state.deleteChild childId now).RelationsFollow := by
  rw [LifecycleState.deleteChild]
  split
  · exact hfollow
  split
  swap
  · exact hfollow
  intro otherId other hother
  obtain ⟨before, hbefore, rfl⟩ := lookup_softDeleteWhere.mp hother
  split
  · refine iff_of_false (softDelete_spec true now before).2.2.2 (not_and_of_not_left _ ?_)
    simp only [ChildRelation.softDelete]
    split
    · exact Option.some_ne_none now
    · next hdeleted => simpa using hdeleted
  · exact hfollow otherId before hbefore

/-- The elements of a data series stay alive when it is deleted; their relations do not. -/
theorem follow_deleteSeries {state : LifecycleState} (hfollow : state.RelationsFollow)
    (id : UuidText) (now : Int) : (state.deleteSeries id now).RelationsFollow := by
  rw [LifecycleState.deleteSeries]
  split
  · exact hfollow
  next row hmodifiable =>
  split
  · exact hfollow
  intro otherId other hother
  obtain ⟨before, hbefore, rfl⟩ := lookup_softDeleteWhere.mp hother
  split
  · next hid =>
      refine iff_of_false (softDelete_spec false now before).2.2.2 (not_and_of_not_right _ ?_)
      rw [(softDelete_spec false now before).1, of_decide_eq_true hid, LifecycleState.living,
        AList.lookup_insert]
      exact Bool.false_ne_true
  · next hid =>
      rw [living_insert_ne rfl (of_decide_eq_false (eq_false_of_ne_true hid))]
      exact hfollow otherId before hbefore

theorem follow_pruneMetaModel {state : LifecycleState} (hfollow : state.RelationsFollow)
    (id : UuidText) (olderThan : Int) :
    (state.pruneMetaModel id olderThan).1.RelationsFollow := by
  cases hrow : state.series.lookup id with
  | none =>
      rw [LifecycleState.pruneMetaModel, hrow]
      exact hfollow
  | some row =>
      have hspared := spared_pruneMetaModel hrow olderThan
      refine hfollow.keep fun childId relation hrelation =>
        ⟨hspared.old childId relation hrelation, ?_⟩
      rw [LifecycleState.living, hspared.series, LifecycleState.living]

theorem follow_nukeDataSeries {state : LifecycleState} (hfollow : state.RelationsFollow)
    (hinv : state.Inv) (id : UuidText) (olderThan : Int) :
    (state.nukeDataSeries id olderThan).RelationsFollow := by
  cases hrow : state.series.lookup id with
  | none =>
      rw [LifecycleState.nukeDataSeries, hrow]
      exact hfollow
  | some row =>
      by_cases hdeleted : row.deletedAt = none
      · rw [LifecycleState.nukeDataSeries, hrow]
        simp only [if_pos hdeleted]
        exact hfollow
      have hnuked := nuked_nukeDataSeries hinv hrow hdeleted olderThan
      refine hfollow.keep fun childId relation hrelation => ?_
      obtain ⟨hold, hne⟩ := (hnuked.relations childId relation).mp hrelation
      refine ⟨hold, ?_⟩
      rw [LifecycleState.living, hnuked.series, AList.lookup_erase_ne hne, LifecycleState.living]

theorem follow_lifecycleStep (state : LifecycleState) (action : LifecycleAction)
    (hfollow : state.RelationsFollow) (hinv : state.Inv) (hfresh : FreshIds state action) :
    (lifecycleStep state action).RelationsFollow := by
  cases action with
  | createSeries id tenant externalId backend =>
      exact follow_createSeries hfollow hinv hfresh tenant externalId backend
  | createChild id childId kind externalId => exact follow_createChild hfollow id kind externalId
  | updateBackend id backend => exact follow_updateBackend hfollow id backend
  | deleteChild childId now => exact follow_deleteChild hfollow childId now
  | deleteSeries id now => exact follow_deleteSeries hfollow id now
  | runTask position succeeds => exact follow_runTask hfollow position succeeds
  | pruneMetaModel id olderThan indexesPruned =>
      cases indexesPruned with
      | false => exact hfollow
      | true => exact follow_pruneMetaModel hfollow id olderThan
  | nukeDataSeries id olderThan othersPruned =>
      cases othersPruned with
      | false => exact hfollow
      | true => exact follow_nukeDataSeries hfollow hinv id olderThan

/-- In every reachable state a relation is alive as long as its element and its data series are,
and no order of requests and tasks leaves the relation of a dimension alive that refers to a data
series that is deleted. -/
theorem dimensions_refer_to_living (actions : List LifecycleAction)
    (hfresh : Runs.AllSteps lifecycleStep FreshIds .empty actions) :
    (Runs.run lifecycleStep .empty actions).RelationsFollow ∧
      (Runs.run lifecycleStep .empty actions).RefersToLiving := by
  have hempty : (LifecycleState.empty.RelationsFollow ∧ LifecycleState.empty.RefersToLiving) ∧
      LifecycleState.empty.Inv := by
    refine ⟨⟨?_, ?_⟩, inv_empty⟩
    · intro childId relation hrelation
      cases hrelation
    · exact ⟨fun childId relation hrelation => by cases hrelation⟩
  have hall := Runs.run_invariant
    (fun state : LifecycleState => (state.RelationsFollow ∧ state.RefersToLiving) ∧ state.Inv)
    (fun state action hstate hfresh =>
      ⟨⟨follow_lifecycleStep state action hstate.1.1 hstate.2 hfresh,
          refers_lifecycleStep state action hstate.1.2 hstate.2 hfresh⟩,
        inv_lifecycleStep state action hstate.2 hfresh⟩)
    hempty hfresh
  exact hall.1

end References

namespace SchemaWitness

def customers : UuidText :=
  ⟨"00000000-0000-4000-8000-000000000005", by decide, List.all_iff_forall_prop.mp (by decide)⟩

def orders : UuidText :=
  ⟨"00000000-0000-4000-8000-000000000002", by decide, List.all_iff_forall_prop.mp (by decide)⟩

def customer : UuidText :=
  ⟨"00000000-0000-4000-8000-000000000003", by decide, List.all_iff_forall_prop.mp (by decide)⟩

def amount : UuidText :=
  ⟨"00000000-0000-4000-8000-000000000004", by decide, List.all_iff_forall_prop.mp (by decide)⟩

def shop : Tenant := ⟨"shop", "\"_3_tenant_shop\""⟩

def ordersId : SqlSafeId := ⟨"orders", by decide⟩

/-- Orders refer to customers, and are about to get a history. -/
def locking : List LifecycleAction :=
  [.createSeries customers shop ⟨"customers", by decide⟩ .dynamicSqlNoHistory,
    .createSeries orders shop ordersId .dynamicSqlNoHistory,
    .createChild orders customer (.dimension customers) ⟨"customer", by decide⟩,
    .updateBackend orders .dynamicSqlMaterializedFlatHistory]

/-- They get it, and are deleted with all that belongs to them. -/
def deleting : List LifecycleAction :=
  locking ++
    [.runTask 0 true, .createChild orders amount (.fact .float) ⟨"amount", by decide⟩,
      .deleteChild amount 3, .pruneMetaModel orders 4 true, .deleteSeries orders 5]

theorem deleting_fresh : Runs.AllSteps lifecycleStep FreshIds .empty deleting := by
  decide +kernel

theorem locking_fresh : Runs.AllSteps lifecycleStep FreshIds .empty locking := by
  decide +kernel

theorem tables_serve_orders : ServesMetaModel (Runs.run lifecycleStep .empty deleting) :=
  tables_serve_metaModel deleting deleting_fresh

theorem orders_nuked :
    Nuked orders ⟨shop, ordersId, .dynamicSqlMaterializedFlatHistory, false, some 5⟩
      (Runs.run lifecycleStep .empty deleting)
      ((Runs.run lifecycleStep .empty deleting).nukeDataSeries orders 9) :=
  nukeDataSeries_exact deleting deleting_fresh orders _ 9 (by decide +kernel) nofun

theorem orders_migrated :
    ∃ position, (∀ other : Nat,
        ((Runs.run lifecycleStep .empty locking).tasks[other]?).map Prod.fst = some orders ↔
          other = position) ∧
      Migrated orders ⟨shop, ordersId, .dynamicSqlMaterializedFlatHistory, true, none⟩
        (Runs.run lifecycleStep .empty locking)
        ((Runs.run lifecycleStep .empty locking).runTask position true) :=
  locked_until_migrated locking locking_fresh orders _ (by decide +kernel) rfl

/-- The relation of the customer is deleted with the orders, and the element is not. -/
example : ((Runs.run lifecycleStep .empty deleting).relations.lookup customer).map
    (fun relation => (relation.deletedAt, relation.childDeletedAt)) = some (some 5, none) := by
  decide +kernel

theorem orders_refer_to_customers :
    (Runs.run lifecycleStep .empty deleting).RelationsFollow ∧
      (Runs.run lifecycleStep .empty deleting).RefersToLiving :=
  dimensions_refer_to_living deleting deleting_fresh

end SchemaWitness

end SchemaLifecycle

end NFCompose
