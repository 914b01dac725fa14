/-
What the rows of the meta model promise of the tables: which tables there are, which columns
they have, and which migration a locked data series waits for.  Every request keeps it.
-/
import NFCompose.SchemaLifecycle

namespace NFCompose

namespace SchemaLifecycle

open GeneratedNames TableCatalog

section Names

theorem table_inj {row other : SeriesRow} {id otherId : UuidText}
    {type otherType : TargetTableType}
    (htable : row.table id type = other.table otherId otherType) :
    id = otherId ∧ type = otherType := by
  have hname : (NamedObject.table type id row.externalId).sqlName =
      (NamedObject.table otherType otherId other.externalId).sqlName :=
    congrArg (fun name => identifier (escape name)) (Prod.ext_iff.mp htable).2
  obtain ⟨hmarker, huuid, -⟩ := NamedObject.sqlName_eq_iff.mp hname
  refine ⟨uuidText_ext huuid, ?_⟩
  rcases ObjectKind.marker_inj.mp hmarker with hkind | ⟨_, _, hkind, -⟩
  · exact ObjectKind.table.inj hkind
  · cases hkind

theorem column_inj {relation other : ChildRelation} {childId otherId : UuidText}
    (hcolumn : relation.column childId = other.column otherId) : childId = otherId := by
  have hname : (NamedObject.column .dimension childId relation.externalId).sqlName =
      (NamedObject.column .dimension otherId other.externalId).sqlName :=
    congrArg (fun name => identifier (escape name)) hcolumn
  exact uuidText_ext (NamedObject.sqlName_eq_iff.mp hname).2.1

theorem column_not_system (relation : ChildRelation) (childId : UuidText)
    (type : TargetTableType) :
    relation.column childId ∉ (systemColumns type).map Prod.fst := by
  intro hmem
  have hshort : ∀ name ∈ (systemColumns type).map Prod.fst, name.toList.length ≤ 13 := by
    cases type <;> decide
  have hlength := hshort _ hmem
  have hlong : 37 ≤ (relation.column childId).toList.length := by
    simp only [ChildRelation.column, materializedColumnName, String.toList_ofList,
      String.toList_append, List.length_take, List.length_append, childId.length_toList]
    simp only [String.reduceToList, List.length_singleton]
    omega
  omega

end Names

section Invariant

/-- The columns of a table serve the living elements of a data series, and each of them is
there for a row that still exists. -/
structure Fits (relations : AList fun _ : UuidText => ChildRelation) (id : UuidText)
    (type : TargetTableType) (columns : Columns String String) : Prop where
  system : ∀ column ∈ systemColumns type, columns.lookup column.1 = some column.2
  living : ∀ childId relation, relations.lookup childId = some relation →
    relation.dataSeriesId = id → relation.deletedAt = none →
      columns.lookup (relation.column childId) = some (valueColumnDef relation.kind.type)
  known : ∀ name ∈ columns, name ∈ (systemColumns type).map Prod.fst ∨
    ∃ childId relation, relations.lookup childId = some relation ∧
      relation.dataSeriesId = id ∧ name = relation.column childId

def LifecycleState.HasTable (state : LifecycleState) (id : UuidText) (row : SeriesRow)
    (type : TargetTableType) : Prop :=
  ∃ columns, state.tables.lookup (row.table id type) = some columns ∧
    Fits state.relations id type columns

/-- The history table is there from the end of the one migration to the end of the other. -/
structure RowInv (state : LifecycleState) (id : UuidText) (row : SeriesRow) : Prop where
  supported : row.backend.Supported
  current : state.HasTable id row .materialized
  history : row.backend = .dynamicSqlMaterializedFlatHistory → row.locked = false →
    state.HasTable id row .flatHistory
  historyHere : row.table id .flatHistory ∈ state.tables ↔
    (row.backend = .dynamicSqlMaterializedFlatHistory ↔ row.locked = false)

/-- Of the locked data series each has the one migration that ends its lock. -/
structure TasksInv (series : AList fun _ : UuidText => SeriesRow)
    (tasks : List (UuidText × MigrationTask)) : Prop where
  nodup : (tasks.map Prod.fst).Nodup
  pending : ∀ task ∈ tasks, ∃ row, series.lookup task.1 = some row ∧ row.deletedAt = none ∧
    row.locked = true ∧ row.backend = task.2.target
  locked : ∀ id row, series.lookup id = some row → row.locked = true → id ∈ tasks.map Prod.fst

/-- Every table belongs to a data series that still has its row. -/
def Owned (series : AList fun _ : UuidText => SeriesRow) (tables : Tables) : Prop :=
  ∀ name ∈ tables, ∃ id row type, series.lookup id = some row ∧ name = row.table id type

structure LifecycleState.Inv (state : LifecycleState) : Prop where
  rows : ∀ id row, state.series.lookup id = some row → RowInv state id row
  owned : Owned state.series state.tables
  related : ∀ childId relation, state.relations.lookup childId = some relation →
    relation.dataSeriesId ∈ state.series
  tasks : TasksInv state.series state.tasks

/-- The elements of a data series in a second table have a counterpart in the first one, and
the other way round; a living one is the counterpart of a living one. -/
structure SameElements (relations changed : AList fun _ : UuidText => ChildRelation)
    (id : UuidText) : Prop where
  old : ∀ childId relation, changed.lookup childId = some relation → relation.dataSeriesId = id →
    ∃ before, relations.lookup childId = some before ∧ before.dataSeriesId = id ∧
      before.externalId = relation.externalId ∧ before.kind = relation.kind ∧
        (relation.deletedAt = none → before.deletedAt = none)
  kept : ∀ childId relation, relations.lookup childId = some relation →
    relation.dataSeriesId = id →
      ∃ after, changed.lookup childId = some after ∧ after.dataSeriesId = id ∧
        after.externalId = relation.externalId

theorem SameElements.refl (relations : AList fun _ : UuidText => ChildRelation) (id : UuidText) :
    SameElements relations relations id where
  old _ relation hlookup hid := ⟨relation, hlookup, hid, rfl, rfl, fun h => h⟩
  kept _ relation hlookup hid := ⟨relation, hlookup, hid, rfl⟩

theorem Fits.of_sameElements {relations changed : AList fun _ : UuidText => ChildRelation}
    {id : UuidText} {type : TargetTableType} {columns : Columns String String}
    (hfits : Fits relations id type columns) (hsame : SameElements relations changed id) :
    Fits changed id type columns where
  system := hfits.system
  living childId relation hlookup hid hliving := by
    obtain ⟨before, hbefore, hbeforeId, hexternalId, hkind, hdeleted⟩ :=
      hsame.old childId relation hlookup hid
    have hcolumn := hfits.living childId before hbefore hbeforeId (hdeleted hliving)
    rwa [ChildRelation.column, hexternalId, hkind] at hcolumn
  known name hname := by
    refine (hfits.known name hname).imp_right ?_
    rintro ⟨childId, relation, hlookup, hid, rfl⟩
    obtain ⟨after, hafter, hafterId, hexternalId⟩ := hsame.kept childId relation hlookup hid
    exact ⟨childId, after, hafter, hafterId, by rw [ChildRelation.column, ← hexternalId]; rfl⟩

/-- What leaves the tables and elements of a data series alone keeps what is known of it. -/
theorem RowInv.frame {state changed : LifecycleState} {id : UuidText} {row : SeriesRow}
    (hinv : RowInv state id row)
    (htables : ∀ type, changed.tables.lookup (row.table id type) =
      state.tables.lookup (row.table id type))
    (hsame : SameElements state.relations changed.relations id) : RowInv changed id row where
  supported := hinv.supported
  current := by
    obtain ⟨columns, hlookup, hfits⟩ := hinv.current
    exact ⟨columns, (htables _).trans hlookup, hfits.of_sameElements hsame⟩
  history hbackend hlocked := by
    obtain ⟨columns, hlookup, hfits⟩ := hinv.history hbackend hlocked
    exact ⟨columns, (htables _).trans hlookup, hfits.of_sameElements hsame⟩
  historyHere := by
    rw [← hinv.historyHere, ← AList.lookup_isSome, ← AList.lookup_isSome, htables]

theorem RowInv.deleted {state : LifecycleState} {id : UuidText} {row : SeriesRow}
    (deletedAt : Option Int) (hinv : RowInv state id row) :
    RowInv state id { row with deletedAt := deletedAt } :=
  ⟨hinv.supported, hinv.current, hinv.history, hinv.historyHere⟩

end Invariant

section Creation

theorem mem_tables {row : SeriesRow} {id : UuidText} {name : TableName} :
    name ∈ row.tables id ↔ ∃ type ∈ backendTables row.backend, row.table id type = name :=
  List.mem_map

theorem table_mem_tables {row : SeriesRow} {id : UuidText} {type : TargetTableType} :
    row.table id type ∈ row.tables id ↔ type ∈ backendTables row.backend := by
  rw [mem_tables]
  constructor
  · rintro ⟨other, hother, heq⟩
    exact (table_inj heq).2 ▸ hother
  · exact fun htype => ⟨type, htype, rfl⟩

theorem nodup_backendTables (backend : StorageBackendType) : (backendTables backend).Nodup := by
  cases backend <;> decide

theorem nodup_tables (row : SeriesRow) (id : UuidText) : (row.tables id).Nodup :=
  (nodup_backendTables row.backend).map fun _ _ heq => (table_inj heq).2

theorem materialized_mem {backend : StorageBackendType} (hsupported : backend.Supported) :
    .materialized ∈ backendTables backend := by
  rcases hsupported with rfl | rfl <;> decide

theorem flatHistory_mem {backend : StorageBackendType} :
    .flatHistory ∈ backendTables backend ↔ backend = .dynamicSqlMaterializedFlatHistory := by
  cases backend <;> decide

theorem lookup_newTable (type : TargetTableType) (name : String) :
    (newTable type).lookup name =
      ((systemColumns type).find? fun column => column.1 = name).map Prod.snd := by
  rw [newTable, lookup_foldl_addIfAbsent, AList.lookup_empty, Option.none_or]

theorem newTable_system (type : TargetTableType) :
    ∀ column ∈ systemColumns type, (newTable type).lookup column.1 = some column.2 := by
  cases type <;> decide

theorem mem_newTable {type : TargetTableType} {name : String} (hname : name ∈ newTable type) :
    name ∈ (systemColumns type).map Prod.fst := by
  rw [← AList.lookup_isSome, lookup_newTable, Option.isSome_map, List.find?_isSome] at hname
  obtain ⟨column, hcolumn, heq⟩ := hname
  exact List.mem_map.mpr ⟨column, hcolumn, by simpa using heq⟩

/-- A table that is created serves a data series without elements. -/
theorem fits_newTable {relations : AList fun _ : UuidText => ChildRelation} {id : UuidText}
    (hnone : ∀ childId relation, relations.lookup childId = some relation →
      relation.dataSeriesId ≠ id) (type : TargetTableType) :
    Fits relations id type (newTable type) where
  system := newTable_system type
  living childId relation hlookup hid := absurd hid (hnone childId relation hlookup)
  known _ hname := Or.inl (mem_newTable hname)

/-- A column that is added serves the element that is added with it. -/
theorem Fits.addChild {relations : AList fun _ : UuidText => ChildRelation} {id : UuidText}
    {type : TargetTableType} {columns : Columns String String}
    (hfits : Fits relations id type columns)
    {childId : UuidText} (hfresh : childId ∉ relations) (relation : ChildRelation)
    (hid : relation.dataSeriesId = id) :
    Fits (relations.insert childId relation) id type
      (addIfAbsent columns (relation.addedColumn childId)) := by
  have hnew : relation.column childId ∉ columns := by
    intro hmem
    rcases hfits.known _ hmem with hsystem | ⟨otherId, other, hother, -, heq⟩
    · exact column_not_system relation childId type hsystem
    · rw [column_inj heq] at hfresh
      exact hfresh (AList.lookup_isSome.mp (by simp [hother]))
  constructor
  · intro column hcolumn
    rw [lookup_addIfAbsent, if_neg, hfits.system column hcolumn]
    intro heq
    refine column_not_system relation childId type (List.mem_map.mpr ⟨column, hcolumn, ?_⟩)
    exact heq
  · intro otherId other hother hotherId hliving
    simp only [lookup_addIfAbsent, ChildRelation.addedColumn]
    by_cases hsame : otherId = childId
    · subst hsame
      rw [AList.lookup_insert, Option.some.injEq] at hother
      subst hother
      rw [if_pos rfl, AList.lookup_eq_none.mpr hnew]
      rfl
    · rw [AList.lookup_insert_ne hsame] at hother
      rw [if_neg fun heq => hsame (column_inj heq)]
      exact hfits.living otherId other hother hotherId hliving
  · intro name hname
    rcases mem_addIfAbsent.mp hname with rfl | hname
    · exact Or.inr ⟨childId, relation, AList.lookup_insert _, hid, rfl⟩
    · refine (hfits.known name hname).imp_right ?_
      rintro ⟨otherId, other, hother, hotherId, rfl⟩
      refine ⟨otherId, other, ?_, hotherId, rfl⟩
      rw [AList.lookup_insert_ne, hother]
      rintro rfl
      exact hfresh (AList.lookup_isSome.mp (by simp [hother]))

end Creation

section Requests

variable {state : LifecycleState} {id : UuidText} {row : SeriesRow}

theorem living_eq_some :
    state.living id = some row ↔ state.series.lookup id = some row ∧ row.deletedAt = none := by
  rw [LifecycleState.living, Option.filter_eq_some_iff, decide_eq_true_iff]

theorem modifiable_eq_some :
    state.modifiable id = some row ↔
      state.series.lookup id = some row ∧ row.deletedAt = none ∧
        backendIsDeprecated row.backend = false ∧ row.locked = false := by
  rw [LifecycleState.modifiable, Option.filter_eq_some_iff, living_eq_some]
  simp [and_assoc]

theorem supported_of_not_deprecated {backend : StorageBackendType}
    (hbackend : backendIsDeprecated backend = false) : backend.Supported := by
  cases backend <;> simp_all [backendIsDeprecated, StorageBackendType.Supported]

theorem TasksInv.insert {series : AList fun _ : UuidText => SeriesRow}
    {tasks : List (UuidText × MigrationTask)} (hinv : TasksInv series tasks)
    (hold : ∀ old, series.lookup id = some old → old.locked = false)
    (hunlocked : row.locked = false) : TasksInv (series.insert id row) tasks where
  nodup := hinv.nodup
  pending task htask := by
    obtain ⟨pending, hpending, hliving, hlocked, htarget⟩ := hinv.pending task htask
    refine ⟨pending, ?_, hliving, hlocked, htarget⟩
    rw [AList.lookup_insert_ne, hpending]
    intro heq
    rw [heq] at hpending
    rw [hold pending hpending] at hlocked
    cases hlocked
  locked otherId other hother hlocked := by
    by_cases hsame : otherId = id
    · subst hsame
      rw [AList.lookup_insert, Option.some.injEq] at hother
      subst hother
      rw [hunlocked] at hlocked
      cases hlocked
    · rw [AList.lookup_insert_ne hsame] at hother
      exact hinv.locked otherId other hother hlocked

theorem Owned.insert {series : AList fun _ : UuidText => SeriesRow} {tables : Tables}
    (howned : Owned series tables)
    (hsame : ∀ old, series.lookup id = some old → ∀ type, old.table id type = row.table id type) :
    Owned (series.insert id row) tables := by
  intro name hname
  obtain ⟨otherId, other, type, hother, rfl⟩ := howned name hname
  by_cases hid : otherId = id
  · subst hid
    exact ⟨otherId, row, type, AList.lookup_insert _, hsame other hother type⟩
  · exact ⟨otherId, other, type, by rw [AList.lookup_insert_ne hid, hother], rfl⟩

/-- A data series whose row is not there has no tables. -/
theorem lookup_table_eq_none (hinv : state.Inv) (hfresh : id ∉ state.series) (row : SeriesRow)
    (type : TargetTableType) : state.tables.lookup (row.table id type) = none := by
  rw [AList.lookup_eq_none]
  intro hmem
  obtain ⟨otherId, other, otherType, hother, heq⟩ := hinv.owned _ hmem
  rw [(table_inj heq).1] at hfresh
  exact hfresh (AList.lookup_isSome.mp (by simp [hother]))

theorem inv_createSeries (hinv : state.Inv) (hfresh : id ∉ state.series) (tenant : Tenant)
    (externalId : SqlSafeId) (backend : StorageBackendType) :
    (state.createSeries id tenant externalId backend).Inv := by
  rw [LifecycleState.createSeries]
  split
  · exact hinv
  split
  · exact hinv
  next hbackend =>
  have hsupported := supported_of_not_deprecated (eq_false_of_ne_true hbackend)
  generalize hrow : (⟨tenant, externalId, backend, false, none⟩ : SeriesRow) = row
  have hrowBackend : row.backend = backend := by rw [← hrow]
  have hunlocked : row.locked = false := by rw [← hrow]
  have hold := lookup_table_eq_none hinv hfresh row
  have hcreated : ∀ type ∈ backendTables row.backend,
      (handleCreateDataSeries id row state.tables).lookup (row.table id type) =
        some (newTable type) := by
    intro type htype
    rw [handleCreateDataSeries, lookup_foldl_createTable (row.table id) newTable
      (fun _ _ heq => (table_inj heq).2) (nodup_backendTables row.backend) htype, hold]
    rfl
  have hothers : ∀ name, name ∉ row.tables id →
      (handleCreateDataSeries id row state.tables).lookup name = state.tables.lookup name := by
    intro name hname
    refine lookup_foldl_createTable_of_ne (row.table id) newTable ?_ state.tables
    exact fun type htype heq => hname (mem_tables.mpr ⟨type, htype, heq⟩)
  have hnotThere : ∀ old, state.series.lookup id ≠ some old := by
    intro old
    simp [AList.lookup_eq_none.mpr hfresh]
  have hnone : ∀ childId relation, state.relations.lookup childId = some relation →
      relation.dataSeriesId ≠ id := by
    rintro childId relation hrelation rfl
    exact hfresh (hinv.related childId relation hrelation)
  constructor
  · intro otherId other hother
    by_cases hsame : otherId = id
    · subst hsame
      rw [AList.lookup_insert, Option.some.injEq] at hother
      subst hother
      have hhas : ∀ type ∈ backendTables row.backend,
          (handleCreateDataSeries otherId row state.tables).lookup (row.table otherId type) =
              some (newTable type) ∧
            Fits state.relations otherId type (newTable type) :=
        fun type htype => ⟨hcreated type htype, fits_newTable hnone type⟩
      constructor
      · rw [hrowBackend]
        exact hsupported
      · exact ⟨_, hhas _ (materialized_mem (hrowBackend ▸ hsupported))⟩
      · exact fun hflat _ => ⟨_, hhas _ (flatHistory_mem.mpr hflat)⟩
      · rw [← AList.lookup_isSome]
        by_cases hflat : row.backend = .dynamicSqlMaterializedFlatHistory
        · have htable := hcreated _ (flatHistory_mem.mpr hflat)
          simp [htable, hflat, hunlocked]
        · have htable := hothers (row.table otherId .flatHistory) fun hmem =>
            hflat (flatHistory_mem.mp (table_mem_tables.mp hmem))
          simp [htable, hold, hflat, hunlocked]
    · rw [AList.lookup_insert_ne hsame] at hother
      refine (hinv.rows otherId other hother).frame (fun type => ?_) (SameElements.refl _ _)
      refine hothers _ fun hmem => ?_
      obtain ⟨newType, -, heq⟩ := mem_tables.mp hmem
      exact hsame (table_inj heq).1.symm
  · intro name hname
    by_cases hmem : name ∈ row.tables id
    · obtain ⟨type, -, rfl⟩ := mem_tables.mp hmem
      exact ⟨id, row, type, AList.lookup_insert _, rfl⟩
    · rw [← AList.lookup_isSome, hothers name hmem, AList.lookup_isSome] at hname
      exact hinv.owned.insert (fun old hold _ => absurd hold (hnotThere old)) name hname
  · intro childId relation hrelation
    rw [AList.mem_insert]
    exact Or.inr (hinv.related childId relation hrelation)
  · exact hinv.tasks.insert (fun old hold => absurd hold (hnotThere old)) hunlocked

theorem sameElements_insert {relations : AList fun _ : UuidText => ChildRelation}
    {childId : UuidText} (hfresh : childId ∉ relations) {relation : ChildRelation}
    (hid : relation.dataSeriesId ≠ id) :
    SameElements relations (relations.insert childId relation) id where
  old otherId other hother hotherId := by
    by_cases hsame : otherId = childId
    · subst hsame
      rw [AList.lookup_insert, Option.some.injEq] at hother
      exact absurd (hother ▸ hotherId) hid
    · rw [AList.lookup_insert_ne hsame] at hother
      exact ⟨other, hother, hotherId, rfl, rfl, fun h => h⟩
  kept otherId other hother hotherId := by
    refine ⟨other, ?_, hotherId, rfl⟩
    rw [AList.lookup_insert_ne, hother]
    rintro rfl
    exact hfresh (AList.lookup_isSome.mp (by simp [hother]))

theorem inv_createChild (hinv : state.Inv) {childId : UuidText} (hfresh : childId ∉ state.relations)
    (id : UuidText) (kind : ChildKind) (externalId : SqlSafeId) :
    (state.createChild id childId kind externalId).Inv := by
  rw [LifecycleState.createChild]
  split
  · exact hinv
  next row hmodifiable =>
  split
  · exact hinv
  obtain ⟨hrow, -, -, hunlocked⟩ := modifiable_eq_some.mp hmodifiable
  generalize hrelation : (⟨id, kind, externalId, none, none⟩ : ChildRelation) = relation
  have hid : relation.dataSeriesId = id := by rw [← hrelation]
  dsimp only
  split
  · exact hinv
  next tables hcreated =>
  have hlookup := lookup_foldlM_addColumn (nodup_tables row id) hcreated
  have hmem : ∀ name, name ∈ tables ↔ name ∈ state.tables := by
    intro name
    rw [← AList.lookup_isSome, hlookup, ← AList.lookup_isSome]
    split <;> simp
  have hrowInv := hinv.rows id row hrow
  have hhas : ∀ type ∈ backendTables row.backend, state.HasTable id row type →
      LifecycleState.HasTable
        { state with relations := state.relations.insert childId relation, tables := tables }
        id row type := by
    rintro type htype ⟨columns, hcolumns, hfits⟩
    refine ⟨addIfAbsent columns (relation.addedColumn childId), ?_,
      hfits.addChild hfresh relation hid⟩
    rw [hlookup, if_pos (table_mem_tables.mpr htype), hcolumns, Option.map_some]
  constructor
  · intro otherId other hother
    by_cases hsame : otherId = id
    · subst hsame
      obtain rfl : row = other := Option.some.inj (hrow.symm.trans hother)
      constructor
      · exact hrowInv.supported
      · exact hhas _ (materialized_mem hrowInv.supported) hrowInv.current
      · exact fun hflat hlocked =>
          hhas _ (flatHistory_mem.mpr hflat) (hrowInv.history hflat hlocked)
      · rw [hmem, hrowInv.historyHere]
    · refine (hinv.rows otherId other hother).frame (fun type => ?_)
        (sameElements_insert hfresh fun heq => hsame (heq.symm.trans hid))
      rw [hlookup, if_neg]
      intro hname
      obtain ⟨newType, -, heq⟩ := mem_tables.mp hname
      exact hsame (table_inj heq).1.symm
  · exact fun name hname => hinv.owned name ((hmem name).mp hname)
  · intro otherId other hother
    by_cases hsame : otherId = childId
    · subst hsame
      rw [AList.lookup_insert, Option.some.injEq] at hother
      rw [← hother, hid]
      exact AList.lookup_isSome.mp (by simp [hrow])
    · rw [AList.lookup_insert_ne hsame] at hother
      exact hinv.related otherId other hother
  · exact hinv.tasks

theorem migrationTask_eq_some {original backend : StorageBackendType} {task : MigrationTask} :
    migrationTask original backend = some task ↔
      original = task.source ∧ backend = task.target := by
  cases task <;> cases original <;> cases backend <;>
    simp [migrationTask, MigrationTask.source, MigrationTask.target]

theorem inv_updateBackend (hinv : state.Inv) (id : UuidText) (backend : StorageBackendType) :
    (state.updateBackend id backend).Inv := by
  rw [LifecycleState.updateBackend]
  split
  · exact hinv
  next row hmodifiable =>
  split
  · exact hinv
  next task htask =>
  obtain ⟨hrow, hliving, -, hunlocked⟩ := modifiable_eq_some.mp hmodifiable
  obtain ⟨hsource, htarget⟩ := migrationTask_eq_some.mp htask
  have hrowInv := hinv.rows id row hrow
  have hnoTask : id ∉ state.tasks.map Prod.fst := by
    intro hmem
    obtain ⟨pending, hpending, rfl⟩ := List.mem_map.mp hmem
    obtain ⟨other, hother, -, hlocked, -⟩ := hinv.tasks.pending pending hpending
    obtain rfl : row = other := Option.some.inj (hrow.symm.trans hother)
    rw [hunlocked] at hlocked
    cases hlocked
  constructor
  · intro otherId other hother
    by_cases hsame : otherId = id
    · subst hsame
      rw [AList.lookup_insert, Option.some.injEq] at hother
      subst hother
      constructor
      · cases task <;> simp [htarget, MigrationTask.target, StorageBackendType.Supported]
      · exact hrowInv.current
      · exact fun _ hlocked => by cases hlocked
      · have hhere := hrowInv.historyHere
        rw [hunlocked, hsource] at hhere
        refine Iff.trans hhere ?_
        rw [htarget]
        cases task <;> simp [MigrationTask.target, MigrationTask.source]
    · rw [AList.lookup_insert_ne hsame] at hother
      exact (hinv.rows otherId other hother).frame (fun _ => rfl) (SameElements.refl _ _)
  · refine hinv.owned.insert fun old hold type => ?_
    obtain rfl : row = old := Option.some.inj (hrow.symm.trans hold)
    rfl
  · intro childId relation hrelation
    rw [AList.mem_insert]
    exact Or.inr (hinv.related childId relation hrelation)
  · constructor
    · rw [List.map_append, List.nodup_append]
      refine ⟨hinv.tasks.nodup, by simp, ?_⟩
      rintro other hother _ hnew rfl
      rw [List.map_singleton, List.mem_singleton] at hnew
      rw [hnew] at hother
      exact hnoTask hother
    · intro other hother
      rcases List.mem_append.mp hother with hold | hnew
      · obtain ⟨pending, hpending, hrest⟩ := hinv.tasks.pending other hold
        refine ⟨pending, ?_, hrest⟩
        rw [AList.lookup_insert_ne, hpending]
        exact fun heq => hnoTask (heq ▸ List.mem_map_of_mem hold)
      · rw [List.mem_singleton] at hnew
        subst hnew
        exact ⟨_, AList.lookup_insert _, hliving, rfl, htarget⟩
    · intro otherId other hother hlocked
      rw [List.map_append, List.mem_append]
      by_cases hsame : otherId = id
      · exact Or.inr (by simp [hsame])
      · rw [AList.lookup_insert_ne hsame] at hother
        exact Or.inl (hinv.tasks.locked otherId other hother hlocked)

theorem lookup_softDeleteWhere {p : UuidText → ChildRelation → Bool} {withChild : Bool} {now : Int}
    {relations : AList fun _ : UuidText => ChildRelation} {childId : UuidText}
    {relation : ChildRelation} :
    (softDeleteWhere p withChild now relations).lookup childId = some relation ↔
      ∃ before, relations.lookup childId = some before ∧
        relation = if p childId before then before.softDelete withChild now else before := by
  rw [softDeleteWhere, KeyedTable.lookup_mapRows, Option.map_eq_some_iff]
  simp only [eq_comm]

/-- A deletion changes times of deletion, and nothing else. -/
theorem softDelete_spec (withChild : Bool) (now : Int) (relation : ChildRelation) :
    (relation.softDelete withChild now).dataSeriesId = relation.dataSeriesId ∧
      (relation.softDelete withChild now).externalId = relation.externalId ∧
        (relation.softDelete withChild now).kind = relation.kind ∧
          (relation.softDelete withChild now).deletedAt ≠ none := by
  refine ⟨rfl, rfl, rfl, ?_⟩
  simp only [ChildRelation.softDelete]
  split
  · exact Option.some_ne_none now
  · next hdeleted => exact hdeleted

theorem sameElements_softDeleteWhere (p : UuidText → ChildRelation → Bool) (withChild : Bool)
    (now : Int) (relations : AList fun _ : UuidText => ChildRelation) (id : UuidText) :
    SameElements relations (softDeleteWhere p withChild now relations) id where
  old childId relation hrelation hid := by
    obtain ⟨before, hbefore, rfl⟩ := lookup_softDeleteWhere.mp hrelation
    obtain ⟨hsame, hexternalId, hkind, hdeleted⟩ := softDelete_spec withChild now before
    refine ⟨before, hbefore, ?_⟩
    split at hid
    · next hp =>
        rw [if_pos hp]
        exact ⟨hsame ▸ hid, hexternalId.symm, hkind.symm, fun h => absurd h hdeleted⟩
    · next hp =>
        rw [if_neg hp]
        exact ⟨hid, rfl, rfl, fun h => h⟩
  kept childId relation hrelation hid := by
    obtain ⟨hsame, hexternalId, -⟩ := softDelete_spec withChild now relation
    refine ⟨_, lookup_softDeleteWhere.mpr ⟨relation, hrelation, rfl⟩, ?_⟩
    split
    · exact ⟨hsame.trans hid, hexternalId⟩
    · exact ⟨hid, rfl⟩

theorem related_softDeleteWhere (hinv : state.Inv) (p : UuidText → ChildRelation → Bool)
    (withChild : Bool) (now : Int) (childId : UuidText) (relation : ChildRelation)
    (hrelation : (softDeleteWhere p withChild now state.relations).lookup childId =
      some relation) :
    relation.dataSeriesId ∈ state.series := by
  obtain ⟨before, hbefore, hbeforeId, -⟩ :=
    (sameElements_softDeleteWhere p withChild now state.relations _).old childId relation
      hrelation rfl
  exact hbeforeId ▸ hinv.related childId before hbefore

theorem inv_deleteChild (hinv : state.Inv) (childId : UuidText) (now : Int) :
    (state.deleteChild childId now).Inv := by
  rw [LifecycleState.deleteChild]
  split
  · exact hinv
  split
  · constructor
    · intro id row hrow
      refine (hinv.rows id row hrow).frame (fun _ => rfl) ?_
      exact sameElements_softDeleteWhere (fun other _ => decide (other = childId)) true now _ id
    · exact hinv.owned
    · exact related_softDeleteWhere hinv _ _ _
    · exact hinv.tasks
  · exact hinv

theorem inv_deleteSeries (hinv : state.Inv) (id : UuidText) (now : Int) :
    (state.deleteSeries id now).Inv := by
  rw [LifecycleState.deleteSeries]
  split
  · exact hinv
  next row hmodifiable =>
  split
  · exact hinv
  obtain ⟨hrow, -, -, hunlocked⟩ := modifiable_eq_some.mp hmodifiable
  have hold : ∀ old, state.series.lookup id = some old → row = old :=
    fun old hold => Option.some.inj (hrow.symm.trans hold)
  constructor
  · intro otherId other hother
    have hsame := sameElements_softDeleteWhere
      (fun _ relation => decide (relation.dataSeriesId = id)) false now state.relations otherId
    by_cases hid : otherId = id
    · subst hid
      rw [AList.lookup_insert, Option.some.injEq] at hother
      subst hother
      exact RowInv.deleted _ ((hinv.rows otherId row hrow).frame (fun _ => rfl) hsame)
    · rw [AList.lookup_insert_ne hid] at hother
      exact (hinv.rows otherId other hother).frame (fun _ => rfl) hsame
  · exact hinv.owned.insert fun old hlookup type => by
      rw [← hold old hlookup]
      rfl
  · intro childId relation hrelation
    rw [AList.mem_insert]
    exact Or.inr (related_softDeleteWhere hinv _ _ _ childId relation hrelation)
  · exact hinv.tasks.insert (fun old hlookup => hold old hlookup ▸ hunlocked) hunlocked

end Requests

end SchemaLifecycle

end NFCompose
