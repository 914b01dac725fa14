/-
The tasks that change the schema: the migrations between the two backends, and the pruning of
what is deleted, which commits statement by statement.
-/
import NFCompose.SchemaInvariant

namespace NFCompose

namespace SchemaLifecycle

open GeneratedNames TableCatalog

section Migrations

variable {state : LifecycleState} {id : UuidText} {row : SeriesRow}

theorem mem_children {types : List StructureType} {p : ChildRelation → Bool} {childId : UuidText}
    {relation : ChildRelation} (htypes : relation.kind.type ∈ types) :
    (childId, relation) ∈ state.children types id p ↔
      state.relations.lookup childId = some relation ∧ relation.dataSeriesId = id ∧
        p relation = true := by
  simp only [LifecycleState.children, List.mem_flatMap, List.mem_map, List.mem_filter,
    Bool.and_eq_true, decide_eq_true_iff, ← KeyedTable.mem_entries_iff]
  constructor
  · rintro ⟨type, -, entry, ⟨hentry, ⟨hid, -⟩, hp⟩, heq⟩
    cases heq
    exact ⟨hentry, hid, hp⟩
  · rintro ⟨hentry, hid, hp⟩
    exact ⟨_, htypes, ⟨childId, relation⟩, ⟨hentry, ⟨hid, rfl⟩, hp⟩, rfl⟩

theorem of_mem_children {types : List StructureType} {p : ChildRelation → Bool}
    {child : UuidText × ChildRelation} (hchild : child ∈ state.children types id p) :
    state.relations.lookup child.1 = some child.2 ∧ child.2.dataSeriesId = id ∧
      p child.2 = true := by
  obtain ⟨type, htype, hmem⟩ := List.mem_flatMap.mp hchild
  have htypes : child.2.kind.type ∈ types := by
    simp only [List.mem_map, List.mem_filter, Bool.and_eq_true, decide_eq_true_iff] at hmem
    obtain ⟨entry, ⟨-, ⟨-, hkind⟩, -⟩, rfl⟩ := hmem
    exact hkind ▸ htype
  exact (mem_children htypes).mp hchild

theorem mem_migratedTypes : ∀ type : StructureType, type ∈ migratedTypes := by
  rintro (type | _)
  · cases type <;> decide
  · decide

/-- The table that a migration builds serves the living elements. -/
theorem fits_migrated (id : UuidText) (state : LifecycleState) :
    Fits state.relations id .flatHistory
      (((state.children migratedTypes id fun relation => relation.deletedAt = none).map
        fun child => child.2.addedColumn child.1).foldl addIfAbsent (newTable .flatHistory)) := by
  generalize hchildren : (state.children migratedTypes id
    fun relation => decide (relation.deletedAt = none)) = children
  have hlookup := lookup_foldl_addIfAbsent
    (children.map fun child => child.2.addedColumn child.1) (newTable .flatHistory)
  constructor
  · intro column hcolumn
    rw [hlookup, newTable_system _ column hcolumn, Option.some_or]
  · intro childId relation hrelation hid hliving
    have hmem : (childId, relation) ∈ children := by
      rw [← hchildren, mem_children (mem_migratedTypes _)]
      exact ⟨hrelation, hid, by simpa using hliving⟩
    have hnew : (newTable .flatHistory).lookup (relation.column childId) = none := by
      rw [AList.lookup_eq_none]
      exact fun hsystem => column_not_system relation childId _ (mem_newTable hsystem)
    rw [hlookup, hnew, Option.none_or]
    cases hfind : (children.map fun child => child.2.addedColumn child.1).find?
        fun column => column.1 = relation.column childId with
    | none =>
        have hne := List.find?_eq_none.mp hfind _
          (List.mem_map_of_mem (f := fun child => child.2.addedColumn child.1) hmem)
        simp [ChildRelation.addedColumn] at hne
    | some column =>
        obtain ⟨⟨otherId, other⟩, hother, rfl⟩ :=
          List.mem_map.mp (List.mem_of_find?_eq_some hfind)
        have hfound := List.find?_some hfind
        have hcolumn : other.column otherId = relation.column childId := of_decide_eq_true hfound
        obtain rfl := column_inj hcolumn
        rw [← hchildren] at hother
        have hsame := (of_mem_children hother).1
        rw [hrelation, Option.some.injEq] at hsame
        rw [hsame]
        rfl
  · intro name hname
    rw [← AList.lookup_isSome, hlookup, Option.isSome_or, Bool.or_eq_true, AList.lookup_isSome,
      Option.isSome_map, List.find?_isSome] at hname
    rcases hname with hsystem | ⟨column, hcolumn, heq⟩
    · exact Or.inl (mem_newTable hsystem)
    · obtain ⟨⟨childId, relation⟩, hmem, rfl⟩ := List.mem_map.mp hcolumn
      rw [← hchildren] at hmem
      obtain ⟨hrelation, hid, -⟩ := of_mem_children hmem
      exact Or.inr ⟨childId, relation, hrelation, hid, (of_decide_eq_true heq).symm⟩

/-- A migration changes the history table of its data series only.  On the way to the flat
history backend it builds that table, on the way back it drops it. -/
theorem migrate_spec {task : MigrationTask}
    (hhere : row.table id .flatHistory ∈ state.tables ↔ task = .flatHistoryToNoHistory) :
    ∃ tables, task.migrate state id row = some tables ∧
      (∀ name, name ≠ row.table id .flatHistory → tables.lookup name = state.tables.lookup name) ∧
      (task = .noHistoryToFlatHistory → ∃ columns,
        tables.lookup (row.table id .flatHistory) = some columns ∧
          Fits state.relations id .flatHistory columns) ∧
      (task = .flatHistoryToNoHistory → tables.lookup (row.table id .flatHistory) = none) := by
  cases task with
  | flatHistoryToNoHistory =>
      refine ⟨_, rfl, fun name hname => ?_, nofun, fun _ => ?_⟩
      · rw [lookup_dropTable, if_neg hname]
      · rw [lookup_dropTable, if_pos rfl]
  | noHistoryToFlatHistory =>
      have hcreated : (createTable (row.table id .flatHistory) (newTable .flatHistory)
          state.tables).lookup (row.table id .flatHistory) = some (newTable .flatHistory) := by
        rw [lookup_createTable, if_pos rfl, AList.lookup_eq_none.mpr (by simp [hhere])]
        rfl
      obtain ⟨tables, htables, hlookup, hothers⟩ := foldlM_addColumn hcreated
        ((state.children migratedTypes id fun relation => relation.deletedAt = none).map
          fun child => child.2.addedColumn child.1)
      refine ⟨tables, ?_, fun name hname => ?_, fun _ => ⟨_, hlookup, fits_migrated id state⟩,
        nofun⟩
      · rw [List.foldlM_map] at htables
        exact htables
      · rw [hothers name hname, lookup_createTable, if_neg hname]

theorem TasksInv.done {series : AList fun _ : UuidText => SeriesRow}
    {tasks : List (UuidText × MigrationTask)} (hinv : TasksInv series tasks) {position : Nat}
    {task : UuidText × MigrationTask} (htask : tasks[position]? = some task)
    (hunlocked : row.locked = false) :
    TasksInv (series.insert task.1 row) (tasks.eraseIdx position) where
  nodup := hinv.nodup.sublist (List.Sublist.map _ (List.eraseIdx_sublist _ _))
  pending other hother := by
    have hne : other.1 ≠ task.1 := by
      intro heq
      have hnodup := hinv.nodup
      rw [List.getElem?_eq_some_iff] at htask
      obtain ⟨hposition, hget⟩ := htask
      obtain ⟨index, hindex, hindexNe, hotherGet⟩ := List.mem_eraseIdx_iff_getElem.mp hother
      apply hindexNe
      rw [← hotherGet, ← hget] at heq
      have hsameIndex := @List.Nodup.getElem_inj_iff _ _ hnodup index (by simpa using hindex)
        position (by simpa using hposition)
      exact hsameIndex.mp (by simpa using heq)
    obtain ⟨pending, hpending, hrest⟩ :=
      hinv.pending other (List.mem_of_mem_eraseIdx hother)
    exact ⟨pending, by rw [AList.lookup_insert_ne hne, hpending], hrest⟩
  locked id other hother hlocked := by
    by_cases hsame : id = task.1
    · subst hsame
      rw [AList.lookup_insert, Option.some.injEq] at hother
      subst hother
      rw [hunlocked] at hlocked
      cases hlocked
    · rw [AList.lookup_insert_ne hsame] at hother
      obtain ⟨kept, hkept, heq⟩ := List.mem_map.mp (hinv.locked id other hother hlocked)
      refine List.mem_map.mpr ⟨kept, ?_, heq⟩
      rw [List.mem_eraseIdx_iff_getElem?]
      obtain ⟨index, hindex⟩ := List.mem_iff_getElem?.mp hkept
      refine ⟨index, ?_, hindex⟩
      rintro rfl
      rw [htask, Option.some.injEq] at hindex
      exact hsame (heq.symm.trans (congrArg Prod.fst hindex.symm))

theorem eq_target_iff {backend : StorageBackendType} {task : MigrationTask}
    (hbackend : backend = task.target) :
    backend = .dynamicSqlMaterializedFlatHistory ↔ task = .noHistoryToFlatHistory := by
  cases task <;> simp [hbackend, MigrationTask.target]

/-- A task of a data series finds the history table where its migration starts. -/
theorem pending_task (hinv : state.Inv) {task : UuidText × MigrationTask}
    (htask : task ∈ state.tasks) :
    ∃ row, state.living task.1 = some row ∧ row.backend = task.2.target ∧ row.locked = true ∧
      (row.table task.1 .flatHistory ∈ state.tables ↔ task.2 = .flatHistoryToNoHistory) := by
  obtain ⟨row, hrow, hliving, hlocked, htarget⟩ := hinv.tasks.pending task htask
  refine ⟨row, living_eq_some.mpr ⟨hrow, hliving⟩, htarget, hlocked, ?_⟩
  rw [(hinv.rows task.1 row hrow).historyHere, hlocked, eq_target_iff htarget]
  cases task.2 <;> simp

theorem inv_runTask (hinv : state.Inv) (position : Nat) (succeeds : Bool) :
    (state.runTask position succeeds).Inv := by
  rw [LifecycleState.runTask]
  split
  · exact hinv
  next id task htask =>
  obtain ⟨row, hliving, htarget, hlocked, hhere⟩ :=
    pending_task hinv (List.mem_of_getElem? htask)
  obtain ⟨tables, htables, hothers, hbuilt, hdropped⟩ := migrate_spec hhere
  simp only [hliving, htables]
  split
  swap
  · exact hinv
  have hrow := (living_eq_some.mp hliving).1
  have hrowInv := hinv.rows id row hrow
  constructor
  · intro otherId other hother
    by_cases hsame : otherId = id
    · subst hsame
      rw [AList.lookup_insert, Option.some.injEq] at hother
      subst hother
      constructor
      · exact hrowInv.supported
      · obtain ⟨columns, hlookup, hfits⟩ := hrowInv.current
        refine ⟨columns, (hothers _ fun heq => ?_).trans hlookup, hfits⟩
        cases (table_inj heq).2
      · exact fun hflat _ => hbuilt ((eq_target_iff htarget).mp hflat)
      · rw [← AList.lookup_isSome]
        refine Iff.trans ?_ (iff_true_right rfl).symm
        rw [eq_target_iff htarget]
        cases task with
        | noHistoryToFlatHistory =>
            obtain ⟨columns, hlookup, -⟩ := hbuilt rfl
            exact iff_of_true (congrArg Option.isSome hlookup) rfl
        | flatHistoryToNoHistory =>
            have hgone := congrArg Option.isSome (hdropped rfl)
            exact iff_of_false (fun hsome => Bool.false_ne_true (hgone.symm.trans hsome)) nofun
    · rw [AList.lookup_insert_ne hsame] at hother
      refine (hinv.rows otherId other hother).frame (fun type => ?_) (SameElements.refl _ _)
      exact hothers _ fun heq => hsame (table_inj heq).1
  · intro name hname
    have hsameTable : ∀ old, state.series.lookup id = some old → ∀ type,
        old.table id type = SeriesRow.table { row with locked := false } id type := by
      intro old hold type
      obtain rfl : row = old := Option.some.inj (hrow.symm.trans hold)
      rfl
    by_cases hhistory : name = row.table id .flatHistory
    · exact ⟨id, _, .flatHistory, AList.lookup_insert _, hhistory⟩
    · rw [← AList.lookup_isSome, hothers name hhistory, AList.lookup_isSome] at hname
      exact hinv.owned.insert hsameTable name hname
  · intro childId relation hrelation
    rw [AList.mem_insert]
    exact Or.inr (hinv.related childId relation hrelation)
  · exact hinv.tasks.done htask rfl

end Migrations

section Pruning

variable {state : LifecycleState} {id : UuidText} {row : SeriesRow}

/-- The column of an element that is deleted may go. -/
theorem Fits.dropColumn {relations : AList fun _ : UuidText => ChildRelation}
    {type : TargetTableType} {columns : Columns String String}
    (hfits : Fits relations id type columns)
    {childId : UuidText} {relation : ChildRelation}
    (hdead : ∀ found, relations.lookup childId = some found → found.deletedAt ≠ none) :
    Fits relations id type (columns.erase (relation.column childId)) where
  system column hcolumn := by
    rw [AList.lookup_erase_ne, hfits.system column hcolumn]
    intro heq
    exact column_not_system relation childId type (heq ▸ List.mem_map_of_mem hcolumn)
  living otherId other hother hid hliving := by
    rw [AList.lookup_erase_ne, hfits.living otherId other hother hid hliving]
    intro heq
    rw [column_inj heq] at hother
    exact hdead other hother hliving
  known name hname := hfits.known name (AList.mem_erase.mp hname).2

/-- An element without a column may go. -/
theorem Fits.eraseChild {relations : AList fun _ : UuidText => ChildRelation}
    {type : TargetTableType} {columns : Columns String String}
    (hfits : Fits relations id type columns)
    {childId : UuidText} {relation : ChildRelation}
    (hsame : ∀ found, relations.lookup childId = some found → found = relation)
    (hcolumn : relation.column childId ∉ columns) :
    Fits (relations.erase childId) id type columns where
  system := hfits.system
  living otherId other hother hid hliving := by
    by_cases heq : otherId = childId
    · subst heq
      simp at hother
    · rw [AList.lookup_erase_ne heq] at hother
      exact hfits.living otherId other hother hid hliving
  known name hname := by
    refine (hfits.known name hname).imp_right ?_
    rintro ⟨otherId, other, hother, hid, rfl⟩
    refine ⟨otherId, other, ?_, hid, rfl⟩
    rw [AList.lookup_erase_ne, hother]
    rintro rfl
    exact hcolumn (hsame other hother ▸ hname)

theorem sameElements_erase {relations : AList fun _ : UuidText => ChildRelation}
    {childId : UuidText}
    (hother : ∀ found, relations.lookup childId = some found → found.dataSeriesId ≠ id) :
    SameElements relations (relations.erase childId) id where
  old otherId other hlookup hid := by
    by_cases heq : otherId = childId
    · subst heq
      simp at hlookup
    · rw [AList.lookup_erase_ne heq] at hlookup
      exact ⟨other, hlookup, hid, rfl, rfl, fun h => h⟩
  kept otherId other hlookup hid := by
    refine ⟨other, ?_, hid, rfl⟩
    rw [AList.lookup_erase_ne, hlookup]
    rintro rfl
    exact hother other hlookup hid

/-- What is known of an element that was found dead and may be gone by now. -/
structure Doomed (state : LifecycleState) (id : UuidText) (child : UuidText × ChildRelation) :
    Prop where
  same : ∀ found, state.relations.lookup child.1 = some found → found = child.2
  ofSeries : child.2.dataSeriesId = id
  dead : child.2.deletedAt ≠ none

theorem mem_dropColumns {column : String} {names : List TableName} {tables : Tables}
    {name : TableName} :
    name ∈ (dropColumns column names tables).1 ↔ name ∈ tables := by
  obtain ⟨dropped, hlookup, -⟩ := lookup_dropColumns column names tables name
  rw [← AList.lookup_isSome, hlookup, Option.isSome_map, AList.lookup_isSome]

theorem inv_dropColumns (hinv : state.Inv) {childId : UuidText} (relation : ChildRelation)
    (hdead : ∀ found, state.relations.lookup childId = some found → found.deletedAt ≠ none) :
    LifecycleState.Inv { state with
      tables := (dropColumns (relation.column childId) (row.tables id) state.tables).1 } := by
  have hlookup := lookup_dropColumns (relation.column childId) (row.tables id) state.tables
  have hkept : ∀ otherId other type, state.HasTable otherId other type →
      LifecycleState.HasTable { state with
        tables := (dropColumns (relation.column childId) (row.tables id) state.tables).1 }
        otherId other type := by
    rintro otherId other type ⟨columns, hcolumns, hfits⟩
    obtain ⟨dropped, hdropped, -⟩ := hlookup (other.table otherId type)
    refine ⟨_, hdropped.trans (congrArg (Option.map _) hcolumns), ?_⟩
    cases dropped with
    | false => exact hfits
    | true => exact hfits.dropColumn hdead
  constructor
  · intro otherId other hother
    have hrowInv := hinv.rows otherId other hother
    constructor
    · exact hrowInv.supported
    · exact hkept _ _ _ hrowInv.current
    · exact fun hflat hunlocked => hkept _ _ _ (hrowInv.history hflat hunlocked)
    · exact mem_dropColumns.trans hrowInv.historyHere
  · exact fun name hname => hinv.owned name (mem_dropColumns.mp hname)
  · exact hinv.related
  · exact hinv.tasks

theorem inv_eraseChild (hinv : state.Inv) (hrow : state.series.lookup id = some row)
    {childId : UuidText} {relation : ChildRelation} (hdoomed : Doomed state id (childId, relation))
    (hgone : ∀ type ∈ backendTables row.backend, ∀ columns,
      state.tables.lookup (row.table id type) = some columns →
        relation.column childId ∉ columns) :
    LifecycleState.Inv { state with relations := state.relations.erase childId } := by
  constructor
  · intro otherId other hother
    by_cases hsame : otherId = id
    · subst hsame
      obtain rfl : row = other := Option.some.inj (hrow.symm.trans hother)
      have hrowInv := hinv.rows otherId row hrow
      have hkept : ∀ type ∈ backendTables row.backend, state.HasTable otherId row type →
          LifecycleState.HasTable { state with relations := state.relations.erase childId }
            otherId row type := by
        rintro type htype ⟨columns, hlookup, hfits⟩
        exact ⟨columns, hlookup, hfits.eraseChild hdoomed.same (hgone type htype columns hlookup)⟩
      constructor
      · exact hrowInv.supported
      · exact hkept _ (materialized_mem hrowInv.supported) hrowInv.current
      · exact fun hflat hunlocked =>
          hkept _ (flatHistory_mem.mpr hflat) (hrowInv.history hflat hunlocked)
      · exact hrowInv.historyHere
    · refine (hinv.rows otherId other hother).frame (fun _ => rfl)
        (sameElements_erase fun found hfound heq => hsame ?_)
      rw [← heq, hdoomed.same found hfound, hdoomed.ofSeries]
  · exact hinv.owned
  · intro otherId other hother
    by_cases heq : otherId = childId
    · subst heq
      simp at hother
    · rw [AList.lookup_erase_ne heq] at hother
      exact hinv.related otherId other hother
  · exact hinv.tasks

theorem inv_pruneChild (hinv : state.Inv) (hrow : state.series.lookup id = some row)
    {childId : UuidText} {relation : ChildRelation}
    (hdoomed : Doomed state id (childId, relation)) :
    (state.pruneChild id row childId relation).1.Inv := by
  have hdead : ∀ found, state.relations.lookup childId = some found → found.deletedAt ≠ none :=
    fun found hfound => hdoomed.same found hfound ▸ hdoomed.dead
  have hdropped : LifecycleState.Inv { state with
      tables := (dropColumns (relation.column childId) (row.tables id) state.tables).1 } :=
    inv_dropColumns hinv relation hdead
  rw [LifecycleState.pruneChild]
  split
  · next hall =>
      refine inv_eraseChild hdropped hrow ⟨hdoomed.same, hdoomed.ofSeries, hdoomed.dead⟩ ?_
      intro type htype columns hcolumns
      obtain ⟨dropped, hlookup, -, hgone⟩ := lookup_dropColumns (relation.column childId)
        (row.tables id) state.tables (row.table id type)
      rw [hgone hall (table_mem_tables.mpr htype)] at hlookup
      obtain ⟨before, -, rfl⟩ := Option.map_eq_some_iff.mp (hlookup.symm.trans hcolumns)
      simp [AList.mem_erase]
  · exact hdropped

/-- What pruning a data series leaves alone. -/
structure Spared (id : UuidText) (row : SeriesRow) (state pruned : LifecycleState) : Prop where
  series : pruned.series = state.series
  tasks : pruned.tasks = state.tasks
  mem_tables : ∀ name, name ∈ pruned.tables ↔ name ∈ state.tables
  tables : ∀ name, name ∉ row.tables id → pruned.tables.lookup name = state.tables.lookup name
  relations : ∀ childId relation, relation.dataSeriesId ≠ id →
    (pruned.relations.lookup childId = some relation ↔
      state.relations.lookup childId = some relation)
  old : ∀ childId relation, pruned.relations.lookup childId = some relation →
    state.relations.lookup childId = some relation

theorem Spared.refl (id : UuidText) (row : SeriesRow) (state : LifecycleState) :
    Spared id row state state :=
  ⟨rfl, rfl, fun _ => Iff.rfl, fun _ _ => rfl, fun _ _ _ => Iff.rfl, fun _ _ h => h⟩

theorem Spared.trans {first second third : LifecycleState} (hfirst : Spared id row first second)
    (hsecond : Spared id row second third) : Spared id row first third where
  series := hsecond.series.trans hfirst.series
  tasks := hsecond.tasks.trans hfirst.tasks
  mem_tables name := (hsecond.mem_tables name).trans (hfirst.mem_tables name)
  tables name hname := (hsecond.tables name hname).trans (hfirst.tables name hname)
  relations childId relation hid :=
    (hsecond.relations childId relation hid).trans (hfirst.relations childId relation hid)
  old childId relation hrelation :=
    hfirst.old childId relation (hsecond.old childId relation hrelation)

theorem spared_pruneChild {childId : UuidText} {relation : ChildRelation}
    (hdoomed : Doomed state id (childId, relation)) :
    Spared id row state (state.pruneChild id row childId relation).1 := by
  have htables : ∀ name, name ∉ row.tables id →
      (dropColumns (relation.column childId) (row.tables id) state.tables).1.lookup name =
        state.tables.lookup name := by
    intro name hname
    obtain ⟨dropped, hlookup, hmem, -⟩ := lookup_dropColumns (relation.column childId)
      (row.tables id) state.tables name
    cases dropped with
    | false => simpa using hlookup
    | true => exact absurd (hmem rfl) hname
  rw [LifecycleState.pruneChild]
  split
  · have hold : ∀ otherId other, (state.relations.erase childId).lookup otherId = some other →
        state.relations.lookup otherId = some other := by
      intro otherId other hother
      by_cases heq : otherId = childId
      · subst heq
        simp at hother
      · rwa [AList.lookup_erase_ne heq] at hother
    refine ⟨rfl, rfl, fun name => mem_dropColumns, htables, fun otherId other hid => ?_, hold⟩
    refine ⟨hold otherId other, fun hother => ?_⟩
    rw [AList.lookup_erase_ne, hother]
    rintro rfl
    rw [hdoomed.same other hother] at hid
    exact hid hdoomed.ofSeries
  · exact ⟨rfl, rfl, fun name => mem_dropColumns, htables, fun _ _ _ => Iff.rfl, fun _ _ h => h⟩

theorem Doomed.pruneChild {child other : UuidText × ChildRelation}
    (hdoomed : Doomed state id other) :
    Doomed (state.pruneChild id row child.1 child.2).1 id other where
  same found hfound := by
    rw [LifecycleState.pruneChild] at hfound
    split at hfound
    · by_cases heq : other.1 = child.1
      · rw [heq, AList.lookup_erase] at hfound
        cases hfound
      · rw [AList.lookup_erase_ne heq] at hfound
        exact hdoomed.same found hfound
    · exact hdoomed.same found hfound
  ofSeries := hdoomed.ofSeries
  dead := hdoomed.dead

theorem inv_pruneChildren {children : List (UuidText × ChildRelation)} (hinv : state.Inv)
    (hrow : state.series.lookup id = some row)
    (hdoomed : ∀ child ∈ children, Doomed state id child) :
    (LifecycleState.pruneChildren id row children state).1.Inv := by
  induction children generalizing state with
  | nil => exact hinv
  | cons child rest ih =>
      obtain ⟨hchild, hrest⟩ := List.forall_mem_cons.mp hdoomed
      have hpruned := inv_pruneChild hinv hrow hchild
      rw [LifecycleState.pruneChildren]
      split
      · next pruned hresult =>
          obtain rfl := congrArg Prod.fst hresult
          refine ih hpruned ?_ fun other hother => (hrest other hother).pruneChild
          rw [(spared_pruneChild hchild).series, hrow]
      · next pruned hresult =>
          obtain rfl := congrArg Prod.fst hresult
          exact hpruned

theorem doomed_of_mem_children {olderThan : Int} {child : UuidText × ChildRelation}
    (hchild : child ∈ state.children prunedTypes id (ChildRelation.deadBefore olderThan)) :
    Doomed state id child := by
  obtain ⟨hlookup, hid, hdead⟩ := of_mem_children hchild
  refine ⟨fun found hfound => Option.some.inj (hfound.symm.trans hlookup), hid, fun hnone => ?_⟩
  rw [ChildRelation.deadBefore, hnone] at hdead
  cases hdead

theorem inv_pruneMetaModel (hinv : state.Inv) (id : UuidText) (olderThan : Int) :
    (state.pruneMetaModel id olderThan).1.Inv := by
  rw [LifecycleState.pruneMetaModel]
  split
  · exact hinv
  · next row hrow =>
      exact inv_pruneChildren hinv hrow fun child hchild => doomed_of_mem_children hchild

theorem spared_pruneChildren {children : List (UuidText × ChildRelation)}
    (hdoomed : ∀ child ∈ children, Doomed state id child) :
    Spared id row state (LifecycleState.pruneChildren id row children state).1 := by
  induction children generalizing state with
  | nil => exact Spared.refl id row state
  | cons child rest ih =>
      obtain ⟨hchild, hrest⟩ := List.forall_mem_cons.mp hdoomed
      have hspared : Spared id row state (state.pruneChild id row child.1 child.2).1 :=
        spared_pruneChild hchild
      rw [LifecycleState.pruneChildren]
      split
      · next pruned hresult =>
          obtain rfl := congrArg Prod.fst hresult
          exact hspared.trans (ih fun other hother => (hrest other hother).pruneChild)
      · next pruned hresult =>
          obtain rfl := congrArg Prod.fst hresult
          exact hspared

/-- Nothing stops the pruning of a data series whose tables are all there. -/
theorem pruneChildren_goes_through {children : List (UuidText × ChildRelation)}
    (htables : ∀ name ∈ row.tables id, name ∈ state.tables) :
    (LifecycleState.pruneChildren id row children state).2 = true := by
  induction children generalizing state with
  | nil => rfl
  | cons child rest ih =>
      have hall := dropColumns_goes_through (child.2.column child.1) (row.tables id) state.tables
        htables
      have hpruned : state.pruneChild id row child.1 child.2 =
          ({ state with
              relations := state.relations.erase child.1
              tables := (dropColumns (child.2.column child.1) (row.tables id) state.tables).1 },
            true) := by
        rw [LifecycleState.pruneChild]
        exact if_pos hall
      rw [LifecycleState.pruneChildren, hpruned]
      exact ih fun name hname => mem_dropColumns.mpr (htables name hname)

/-- A data series that is deleted is not being migrated, so it has the tables of its backend
and no other. -/
theorem table_mem_iff (hinv : state.Inv) (hrow : state.series.lookup id = some row)
    (hunlocked : row.locked = false) (type : TargetTableType) :
    row.table id type ∈ state.tables ↔ type ∈ backendTables row.backend := by
  have hrowInv := hinv.rows id row hrow
  cases type with
  | materialized =>
      obtain ⟨columns, hlookup, -⟩ := hrowInv.current
      exact iff_of_true (AList.lookup_isSome.mp (by simp [hlookup]))
        (materialized_mem hrowInv.supported)
  | flatHistory =>
      rw [hrowInv.historyHere, flatHistory_mem]
      exact iff_true_right hunlocked

theorem unlocked_of_deleted (hinv : state.Inv) (hrow : state.series.lookup id = some row)
    (hdeleted : row.deletedAt ≠ none) : row.locked = false := by
  by_contra hlocked
  rw [Bool.not_eq_false] at hlocked
  obtain ⟨task, htask, rfl⟩ := List.mem_map.mp (hinv.tasks.locked id row hrow hlocked)
  obtain ⟨other, hother, hliving, -⟩ := hinv.tasks.pending task htask
  obtain rfl : row = other := Option.some.inj (hrow.symm.trans hother)
  exact hdeleted hliving

theorem spared_pruneMetaModel (hrow : state.series.lookup id = some row) (olderThan : Int) :
    Spared id row state (state.pruneMetaModel id olderThan).1 := by
  rw [LifecycleState.pruneMetaModel, hrow]
  exact spared_pruneChildren fun child hchild => doomed_of_mem_children hchild

/-- What is left when a deleted data series is removed for good. -/
structure Nuked (id : UuidText) (row : SeriesRow) (state nuked : LifecycleState) : Prop where
  series : nuked.series = state.series.erase id
  tasks : nuked.tasks = state.tasks
  relations : ∀ childId relation, nuked.relations.lookup childId = some relation ↔
    state.relations.lookup childId = some relation ∧ relation.dataSeriesId ≠ id
  gone : ∀ type, row.table id type ∉ nuked.tables
  tables : ∀ name, (∀ type, name ≠ row.table id type) →
    nuked.tables.lookup name = state.tables.lookup name

theorem nuked_nukeDataSeries (hinv : state.Inv) (hrow : state.series.lookup id = some row)
    (hdeleted : row.deletedAt ≠ none) (olderThan : Int) :
    Nuked id row state (state.nukeDataSeries id olderThan) := by
  have hunlocked := unlocked_of_deleted hinv hrow hdeleted
  have hmem := table_mem_iff hinv hrow hunlocked
  have hspared := spared_pruneMetaModel hrow olderThan
  have hall : (state.pruneMetaModel id olderThan).2 = true := by
    rw [LifecycleState.pruneMetaModel, hrow]
    refine pruneChildren_goes_through fun name hname => ?_
    obtain ⟨type, htype, rfl⟩ := mem_tables.mp hname
    exact (hmem type).mpr htype
  rw [LifecycleState.nukeDataSeries, hrow]
  simp only [if_neg hdeleted]
  split
  · next hresult => rw [hresult] at hall; cases hall
  next pruned hresult =>
  obtain rfl := congrArg Prod.fst hresult
  constructor
  · rw [hspared.series]
  · rw [hspared.tasks, List.filter_eq_self]
    intro task htask
    rw [decide_eq_true_iff]
    rintro rfl
    obtain ⟨other, hother, -, hlocked, -⟩ := hinv.tasks.pending task htask
    obtain rfl : row = other := Option.some.inj (hrow.symm.trans hother)
    rw [hunlocked] at hlocked
    cases hlocked
  · intro childId relation
    rw [KeyedTable.lookup_deleteWhere, decide_eq_false_iff_not]
    exact and_congr_left fun hid => hspared.relations childId relation hid
  · intro type
    rw [← AList.lookup_isSome, lookup_foldl_dropTable]
    split
    · simp
    · next hname =>
        rw [AList.lookup_isSome, hspared.mem_tables, hmem, ← table_mem_tables]
        exact hname
  · intro name hname
    have hother : name ∉ row.tables id := by
      intro hmem
      obtain ⟨type, -, rfl⟩ := mem_tables.mp hmem
      exact hname type rfl
    rw [lookup_foldl_dropTable, if_neg hother, hspared.tables name hother]

theorem inv_nukeDataSeries (hinv : state.Inv) (id : UuidText) (olderThan : Int) :
    (state.nukeDataSeries id olderThan).Inv := by
  cases hrow : state.series.lookup id with
  | none =>
      rw [LifecycleState.nukeDataSeries, hrow]
      exact hinv
  | some row =>
  by_cases hdeleted : row.deletedAt = none
  · rw [LifecycleState.nukeDataSeries, hrow]
    simp only [if_pos hdeleted]
    exact hinv
  have hnuked := nuked_nukeDataSeries hinv hrow hdeleted olderThan
  have hunlocked := unlocked_of_deleted hinv hrow hdeleted
  have hkept : ∀ otherId other, (state.series.erase id).lookup otherId = some other →
      otherId ≠ id ∧ state.series.lookup otherId = some other := by
    intro otherId other hother
    by_cases hsame : otherId = id
    · subst hsame
      simp at hother
    · rw [AList.lookup_erase_ne hsame] at hother
      exact ⟨hsame, hother⟩
  constructor
  · intro otherId other hother
    rw [hnuked.series] at hother
    obtain ⟨hsame, hother⟩ := hkept otherId other hother
    refine (hinv.rows otherId other hother).frame (fun type => ?_) ⟨?_, ?_⟩
    · exact hnuked.tables _ fun otherType heq => hsame (table_inj heq).1
    · intro childId relation hrelation hid
      exact ⟨relation, ((hnuked.relations childId relation).mp hrelation).1, hid, rfl, rfl,
        fun h => h⟩
    · intro childId relation hrelation hid
      refine ⟨relation, (hnuked.relations childId relation).mpr ⟨hrelation, ?_⟩, hid, rfl⟩
      exact fun heq => hsame (hid.symm.trans heq)
  · intro name hname
    have hne : ∀ type, name ≠ row.table id type := by
      rintro type rfl
      exact hnuked.gone type hname
    rw [← AList.lookup_isSome, hnuked.tables name hne, AList.lookup_isSome] at hname
    obtain ⟨otherId, other, type, hother, rfl⟩ := hinv.owned name hname
    refine ⟨otherId, other, type, ?_, rfl⟩
    rw [hnuked.series, AList.lookup_erase_ne, hother]
    rintro rfl
    obtain rfl : row = other := Option.some.inj (hrow.symm.trans hother)
    exact hne type rfl
  · intro childId relation hrelation
    obtain ⟨hrelation, hid⟩ := (hnuked.relations childId relation).mp hrelation
    rw [hnuked.series, AList.mem_erase]
    exact ⟨hid, hinv.related childId relation hrelation⟩
  · rw [hnuked.series, hnuked.tasks]
    constructor
    · exact hinv.tasks.nodup
    · intro task htask
      obtain ⟨other, hother, hliving, hlocked, htarget⟩ := hinv.tasks.pending task htask
      refine ⟨other, ?_, hliving, hlocked, htarget⟩
      rw [AList.lookup_erase_ne, hother]
      rintro rfl
      obtain rfl : row = other := Option.some.inj (hrow.symm.trans hother)
      exact hdeleted hliving
    · intro otherId other hother
      exact hinv.tasks.locked otherId other (hkept otherId other hother).2

end Pruning

end SchemaLifecycle

end NFCompose
