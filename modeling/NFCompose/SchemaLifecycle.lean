/-
The life of the data series: requests that create, change and delete them and their elements,
the tasks that migrate a backend, and the tasks that prune what was deleted.  The tables and
their columns follow the rows of the meta model, but not all at once.
-/
import NFCompose.GeneratedNames
import NFCompose.TableCatalog

namespace NFCompose

namespace SchemaLifecycle

open GeneratedNames TableCatalog

theorem uuidText_ext {id other : UuidText} (hvalue : id.value = other.value) : id = other := by
  obtain ⟨value, hlength, hchars⟩ := id
  subst hvalue
  rfl

instance : DecidableEq UuidText := fun id other =>
  decidable_of_iff (id.value = other.value) ⟨uuidText_ext, congrArg UuidText.value⟩

structure Tenant where
  id : Uuid
  schema : String
deriving DecidableEq

/-- A fact of some type, or a dimension with the data series it refers to. -/
inductive ChildKind where
  | fact (type : FactType)
  | dimension (reference : UuidText)
deriving DecidableEq

def ChildKind.type : ChildKind → StructureType
  | .fact type => .fact type
  | .dimension _ => .dimension

/-- A row of `DataSeries` without what has no part in its tables. -/
structure SeriesRow where
  tenant : Tenant
  externalId : SqlSafeId
  backend : StorageBackendType
  locked : Bool
  deletedAt : Option Int
deriving DecidableEq

/-- The row that relates an element to its data series, next to the element's own row. The two
are created and removed together, but each has a time of deletion of its own. -/
structure ChildRelation where
  dataSeriesId : UuidText
  kind : ChildKind
  externalId : SqlSafeId
  deletedAt : Option Int
  childDeletedAt : Option Int
deriving DecidableEq

inductive MigrationTask where
  | noHistoryToFlatHistory
  | flatHistoryToNoHistory
deriving DecidableEq

/-- A schema and the name of a table in it. -/
abbrev TableName := String × String

abbrev Tables := Catalog TableName String String

structure LifecycleState where
  series : AList fun _ : UuidText => SeriesRow
  relations : AList fun _ : UuidText => ChildRelation
  /-- The rows of `MetaModelTaskData`. -/
  tasks : List (UuidText × MigrationTask)
  tables : Tables

def LifecycleState.empty : LifecycleState := ⟨∅, ∅, [], ∅⟩

section Tables

def SeriesRow.table (row : SeriesRow) (id : UuidText) (type : TargetTableType) : TableName :=
  (row.tenant.schema, type.tableName id.value row.externalId.val)

def ChildRelation.column (relation : ChildRelation) (childId : UuidText) : String :=
  materializedColumnName childId.value relation.externalId.val

def dataPointIdColumnDef : String := "character varying(512) COLLATE pg_catalog.\"default\""

def externalIdColumnDef : String := "character varying(256) COLLATE pg_catalog.\"default\""

/-- The type of the column for the values of an element. -/
def valueColumnDef : StructureType → String
  | .fact .float => "double precision"
  | .fact .string => "character varying(256) COLLATE \"pg_catalog\".\"default\""
  | .fact .text => "text"
  | .fact .timestamp => "timestamp with time zone"
  | .fact .image => "TEXT COLLATE \"pg_catalog\".\"default\""
  | .fact .json => "jsonb"
  | .fact .boolean => "BOOLEAN"
  | .fact .file => "TEXT COLLATE \"pg_catalog\".\"default\""
  | .dimension => dataPointIdColumnDef

/-- The columns that a table is created with. -/
def systemColumns : TargetTableType → List (String × String)
  | .materialized =>
      [("id", dataPointIdColumnDef ++ " NOT NULL"),
        ("external_id", externalIdColumnDef ++ " NOT NULL"),
        ("point_in_time", "timestamp with time zone NOT NULL"),
        ("inserted_at", "timestamp with time zone NOT NULL"),
        ("deleted_at", "timestamp with time zone"),
        ("sub_clock", "bigint NULL")]
  | .flatHistory =>
      [("id", dataPointIdColumnDef ++ " NOT NULL"),
        ("external_id", externalIdColumnDef ++ " NOT NULL"),
        ("point_in_time", "timestamp with time zone NOT NULL"),
        ("deleted", "boolean NOT NULL"),
        ("user_id", "varchar(256)"),
        ("record_source", "varchar(256)"),
        ("sub_clock", "bigint NULL")]

def newTable (type : TargetTableType) : Columns String String :=
  (systemColumns type).foldl addIfAbsent ∅

/-- The tables that a backend keeps, the current data first. -/
def backendTables : StorageBackendType → List TargetTableType
  | .dynamicSqlMaterializedFlatHistory => [.materialized, .flatHistory]
  | .dynamicSqlNoHistory => [.materialized]
  | _ => []

def SeriesRow.tables (row : SeriesRow) (id : UuidText) : List TableName :=
  (backendTables row.backend).map (row.table id)

def ChildRelation.addedColumn (relation : ChildRelation) (childId : UuidText) : String × String :=
  (relation.column childId, valueColumnDef relation.kind.type)

def handleCreateDataSeries (id : UuidText) (row : SeriesRow) (tables : Tables) : Tables :=
  (backendTables row.backend).foldl
    (fun tables type => createTable (row.table id type) (newTable type) tables) tables

/-- `handle_create_fact` and `handle_create_dimension`. -/
def handleCreateChild (id : UuidText) (row : SeriesRow) (childId : UuidText)
    (relation : ChildRelation) (tables : Tables) : Option Tables :=
  (row.tables id).foldlM
    (fun tables table => addColumn table (relation.addedColumn childId) tables) tables

end Tables

section Elements

/-- The elements of a data series that meet a condition, type by type. -/
def LifecycleState.children (state : LifecycleState) (types : List StructureType) (id : UuidText)
    (p : ChildRelation → Bool) : List (UuidText × ChildRelation) :=
  types.flatMap fun type =>
    (state.relations.entries.filter fun entry =>
      entry.2.dataSeriesId = id && entry.2.kind.type = type && p entry.2).map fun entry =>
        (entry.1, entry.2)

/-- The order in which a migration adds the columns. -/
def migratedTypes : List StructureType :=
  [.fact .float, .fact .boolean, .fact .image, .fact .file, .fact .json, .fact .string,
    .fact .text, .fact .timestamp, .dimension]

/-- The order of `dead_facts`, the dimensions last. -/
def prunedTypes : List StructureType :=
  [.fact .float, .fact .string, .fact .text, .fact .timestamp, .fact .image, .fact .json,
    .fact .boolean, .fact .file, .dimension]

/-- The data series that the managers show to requests and to migrations. -/
def LifecycleState.living (state : LifecycleState) (id : UuidText) : Option SeriesRow :=
  (state.series.lookup id).filter fun row => row.deletedAt = none

/-- `ensure_http_method_globally_allowed`, for the methods that modify. -/
def LifecycleState.modifiable (state : LifecycleState) (id : UuidText) : Option SeriesRow :=
  (state.living id).filter fun row => !backendIsDeprecated row.backend && !row.locked

/-- The serializer does not look at the file facts; that their external ids are
unique is left to the database. -/
def LifecycleState.externalIdTaken (state : LifecycleState) (id : UuidText) (kind : ChildKind)
    (externalId : SqlSafeId) : Bool :=
  state.relations.entries.any fun entry =>
    entry.2.dataSeriesId = id && entry.2.deletedAt = none &&
      entry.2.externalId.val = externalId.val &&
        (entry.2.kind.type ≠ .fact .file || kind.type = .fact .file)

/-- A dimension refers to a data series of its tenant. -/
def LifecycleState.referenceExists (state : LifecycleState) (row : SeriesRow) :
    ChildKind → Bool
  | .fact _ => true
  | .dimension reference => (state.living reference).any fun other =>
      other.tenant.id = row.tenant.id

/-- Whether another living data series of the tenant has a living dimension that
refers to this one. -/
def LifecycleState.referenced (state : LifecycleState) (id : UuidText) (row : SeriesRow) : Bool :=
  state.relations.entries.any fun entry =>
    entry.2.deletedAt = none && entry.2.dataSeriesId ≠ id &&
      (state.living entry.2.dataSeriesId).any (fun other => other.tenant.id = row.tenant.id) &&
        match entry.2.kind with
        | .fact _ => false
        | .dimension reference => reference = id

end Elements

section Tasks

def MigrationTask.source : MigrationTask → StorageBackendType
  | .noHistoryToFlatHistory => .dynamicSqlNoHistory
  | .flatHistoryToNoHistory => .dynamicSqlMaterializedFlatHistory

def MigrationTask.target : MigrationTask → StorageBackendType
  | .noHistoryToFlatHistory => .dynamicSqlMaterializedFlatHistory
  | .flatHistoryToNoHistory => .dynamicSqlNoHistory

/-- `handle_migrate_data_series_backend`. -/
def migrationTask (original backend : StorageBackendType) : Option MigrationTask :=
  if original = .dynamicSqlNoHistory ∧ backend = .dynamicSqlMaterializedFlatHistory then
    some .noHistoryToFlatHistory
  else if original = .dynamicSqlMaterializedFlatHistory ∧ backend = .dynamicSqlNoHistory then
    some .flatHistoryToNoHistory
  else none

/-- What a migration does to the tables.  The way to the flat history backend simulates the
creation of the data series and of its living elements. -/
def MigrationTask.migrate (task : MigrationTask) (state : LifecycleState) (id : UuidText)
    (row : SeriesRow) : Option Tables :=
  let history := row.table id .flatHistory
  match task with
  | .noHistoryToFlatHistory =>
      (state.children migratedTypes id fun relation => relation.deletedAt = none).foldlM
        (fun tables child => addColumn history (child.2.addedColumn child.1) tables)
        (createTable history (newTable .flatHistory) state.tables)
  | .flatHistoryToNoHistory => some (dropTable history state.tables)

/-- `run_meta_model_task`, in one transaction.  Apart from the columns and tables a migration
moves rows and indexes, and may fail there; the task row then stays. -/
def LifecycleState.runTask (state : LifecycleState) (position : Nat) (succeeds : Bool) :
    LifecycleState :=
  match state.tasks[position]? with
  | none => state
  | some (id, task) =>
      match state.living id with
      | none => state
      | some row =>
          match task.migrate state id row with
          | none => state
          | some tables =>
              if succeeds then
                { state with
                  series := state.series.insert id { row with locked := false }
                  tasks := state.tasks.eraseIdx position
                  tables := tables }
              else state

/-- What `prune_meta_model` does for one element.  The columns go first, each for itself, and
when there is no table to drop one from the element stays. -/
def LifecycleState.pruneChild (state : LifecycleState) (id : UuidText) (row : SeriesRow)
    (childId : UuidText) (relation : ChildRelation) : LifecycleState × Bool :=
  let dropped := dropColumns (relation.column childId) (row.tables id) state.tables
  if dropped.2 then
    ({ state with relations := state.relations.erase childId, tables := dropped.1 }, true)
  else ({ state with tables := dropped.1 }, false)

def LifecycleState.pruneChildren (id : UuidText) (row : SeriesRow) :
    List (UuidText × ChildRelation) → LifecycleState → LifecycleState × Bool
  | [], state => (state, true)
  | (childId, relation) :: rest, state =>
      match state.pruneChild id row childId relation with
      | (pruned, true) => LifecycleState.pruneChildren id row rest pruned
      | (pruned, false) => (pruned, false)

def ChildRelation.deadBefore (olderThan : Int) (relation : ChildRelation) : Bool :=
  relation.deletedAt.any fun deletedAt => deletedAt < olderThan

/-- `prune_meta_model` for the facts and dimensions, and whether it gets to the end of them.
Nothing but a DROP that fails ends the loop here. -/
def LifecycleState.pruneMetaModel (state : LifecycleState) (id : UuidText) (olderThan : Int) :
    LifecycleState × Bool :=
  match state.series.lookup id with
  | none => (state, false)
  | some row =>
      LifecycleState.pruneChildren id row
        (state.children prunedTypes id (ChildRelation.deadBefore olderThan)) state

/-- `nuke_data_series`, in one transaction.  With the row of the data series go those that
refer to it. -/
def LifecycleState.nukeDataSeries (state : LifecycleState) (id : UuidText) (olderThan : Int) :
    LifecycleState :=
  match state.series.lookup id with
  | none => state
  | some row =>
      if row.deletedAt = none then state
      else
        match state.pruneMetaModel id olderThan with
        | (_, false) => state
        | (pruned, true) =>
            { series := pruned.series.erase id
              relations := KeyedTable.deleteWhere (fun _ relation => relation.dataSeriesId = id)
                pruned.relations
              tasks := pruned.tasks.filter fun task => task.1 ≠ id
              tables := (row.tables id).foldl (fun tables name => dropTable name tables)
                pruned.tables }

end Tasks

/-- A request that the permissions and the serializer fields let through, or a task.  A
request to delete an element that an index refers to is not among them. -/
inductive LifecycleAction where
  | createSeries (id : UuidText) (tenant : Tenant) (externalId : SqlSafeId)
      (backend : StorageBackendType)
  | createChild (id : UuidText) (childId : UuidText) (kind : ChildKind) (externalId : SqlSafeId)
  | updateBackend (id : UuidText) (backend : StorageBackendType)
  | deleteChild (childId : UuidText) (now : Int)
  | deleteSeries (id : UuidText) (now : Int)
  | runTask (position : Nat) (succeeds : Bool)
  /-- The loop over the indexes comes first, and may fail. -/
  | pruneMetaModel (id : UuidText) (olderThan : Int) (indexesPruned : Bool)
  /-- So may the loops over the indexes and the consumers here. -/
  | nukeDataSeries (id : UuidText) (olderThan : Int) (othersPruned : Bool)

def LifecycleState.createSeries (state : LifecycleState) (id : UuidText) (tenant : Tenant)
    (externalId : SqlSafeId) (backend : StorageBackendType) : LifecycleState :=
  if state.series.entries.any fun entry =>
      entry.2.deletedAt = none && entry.2.tenant.id = tenant.id &&
        entry.2.externalId.val = externalId.val then state
  else if backendIsDeprecated backend then state
  else
    let row : SeriesRow := ⟨tenant, externalId, backend, false, none⟩
    { state with
      series := state.series.insert id row
      tables := handleCreateDataSeries id row state.tables }

def LifecycleState.createChild (state : LifecycleState) (id childId : UuidText) (kind : ChildKind)
    (externalId : SqlSafeId) : LifecycleState :=
  match state.modifiable id with
  | none => state
  | some row =>
      if state.externalIdTaken id kind externalId || !state.referenceExists row kind then state
      else
        let relation : ChildRelation := ⟨id, kind, externalId, none, none⟩
        match handleCreateChild id row childId relation state.tables with
        | none => state
        | some tables =>
            { state with
              relations := state.relations.insert childId relation
              tables := tables }

/-- The row gets its new backend and its lock before the task can run. -/
def LifecycleState.updateBackend (state : LifecycleState) (id : UuidText)
    (backend : StorageBackendType) : LifecycleState :=
  match state.modifiable id with
  | none => state
  | some row =>
      match migrationTask row.backend backend with
      | none => state
      | some task =>
          { state with
            series := state.series.insert id { row with backend := backend, locked := true }
            tasks := state.tasks ++ [(id, task)] }

/-- What the triggers do to the relation, whether its element is deleted or its data series. A
row that is deleted once more keeps its time. -/
def ChildRelation.softDelete (withChild : Bool) (now : Int) (relation : ChildRelation) :
    ChildRelation :=
  { relation with
    deletedAt := if relation.deletedAt = none then some now else relation.deletedAt
    childDeletedAt :=
      if withChild ∧ relation.childDeletedAt = none then some now else relation.childDeletedAt }

def softDeleteWhere (p : UuidText → ChildRelation → Bool) (withChild : Bool) (now : Int)
    (relations : AList fun _ : UuidText => ChildRelation) :
    AList fun _ : UuidText => ChildRelation :=
  KeyedTable.mapRows
    (fun childId relation =>
      if p childId relation then relation.softDelete withChild now else relation)
    relations

/-- A trigger deletes the relation of an element with it. -/
def LifecycleState.deleteChild (state : LifecycleState) (childId : UuidText) (now : Int) :
    LifecycleState :=
  match state.relations.lookup childId with
  | none => state
  | some relation =>
      if relation.childDeletedAt = none ∧ (state.modifiable relation.dataSeriesId).isSome then
        { state with
          relations := softDeleteWhere (fun other _ => other = childId) true now
            state.relations }
      else state

/-- Another trigger deletes the relations of a data series with it; the elements stay. -/
def LifecycleState.deleteSeries (state : LifecycleState) (id : UuidText) (now : Int) :
    LifecycleState :=
  match state.modifiable id with
  | none => state
  | some row =>
      if state.referenced id row then state
      else
        { state with
          series := state.series.insert id { row with deletedAt := some now }
          relations := softDeleteWhere (fun _ relation => relation.dataSeriesId = id) false now
            state.relations }

def lifecycleStep (state : LifecycleState) : LifecycleAction → LifecycleState
  | .createSeries id tenant externalId backend => state.createSeries id tenant externalId backend
  | .createChild id childId kind externalId => state.createChild id childId kind externalId
  | .updateBackend id backend => state.updateBackend id backend
  | .deleteChild childId now => state.deleteChild childId now
  | .deleteSeries id now => state.deleteSeries id now
  | .runTask position succeeds => state.runTask position succeeds
  | .pruneMetaModel id olderThan indexesPruned =>
      if indexesPruned then (state.pruneMetaModel id olderThan).1 else state
  | .nukeDataSeries id olderThan othersPruned =>
      if othersPruned then state.nukeDataSeries id olderThan else state

end SchemaLifecycle

end NFCompose
