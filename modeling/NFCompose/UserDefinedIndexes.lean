/-
User defined indexes: the database indexes that are made for them, the registry
of these, and the pruning of indexes that were deleted.  An index has one
database index, or two when the data series keeps a flat history.
-/
import Mathlib.Data.List.Nodup
import NFCompose.Runs
import NFCompose.StructureServer

namespace NFCompose

/-- The uuid of an index, as text. -/
structure IndexId where
  value : Uuid
  length_eq : value.length = 36
deriving DecidableEq

inductive TargetTableType where
  | materialized
  | flatHistory
deriving DecidableEq, Repr

/-- A row of `IndexByUUID`; its source type has one value only. -/
structure IndexByUuid where
  sourceId : IndexId
  dbName : String
  targetTable : String
  targetTableType : TargetTableType
deriving DecidableEq

/-- What no two rows of the registry share. -/
def IndexByUuid.key (row : IndexByUuid) : IndexId × TargetTableType :=
  (row.sourceId, row.targetTableType)

structure DatabaseIndex where
  schema : String
  name : String
  table : String
  columns : List String
deriving DecidableEq

/-- A row of `DataSeries_UserDefinedIndex`. -/
structure IndexRelation where
  indexId : IndexId
  dataSeriesId : Uuid
  deletedAt : Option Int
deriving DecidableEq

structure IndexStore where
  relations : List IndexRelation
  registry : List IndexByUuid
  databaseIndexes : List DatabaseIndex
deriving DecidableEq

def IndexStore.empty : IndexStore := ⟨[], [], []⟩

/-- What the names of tables and indexes of a data series depend on, next to its
id. -/
structure SeriesLocation where
  externalId : ExternalId
  schema : String

/-- The value columns of the structure elements, by their ids. -/
abbrev ValueColumns := StructureType → List (Uuid × String)

structure TargetColumn where
  targetType : StructureType
  targetId : Uuid

/-- The backends that can be chosen. -/
abbrev SupportedBackend :=
  { backend : StorageBackendType //
    backend = .dynamicSqlNoHistory ∨ backend = .dynamicSqlMaterializedFlatHistory }

def limitLength (input : String) : String := String.ofList (input.toList.take 63)

def indexRelName (indexId : IndexId) : String := limitLength ("_mat_userindex_" ++ indexId.value)

def indexRelNameFlatHistory (indexId : IndexId) : String :=
  limitLength ("_mfhist_userindex_" ++ indexId.value)

/-- The name of the index on either table. -/
def TargetTableType.relName : TargetTableType → IndexId → String
  | .materialized => indexRelName
  | .flatHistory => indexRelNameFlatHistory

def materializedTableName (id : Uuid) (externalId : ExternalId) : String :=
  String.ofList (("_mat_" ++ id ++ "_" ++ externalId).toList.take 60)

def materializedFlatHistoryTableName (id : Uuid) (externalId : ExternalId) : String :=
  String.ofList (("_mfhist_" ++ id ++ "_" ++ externalId).toList.take 60)

def TargetTableType.tableName : TargetTableType → Uuid → ExternalId → String
  | .materialized => materializedTableName
  | .flatHistory => materializedFlatHistoryTableName

/-- The column of a target; of several entries with its id the last one counts. -/
def TargetColumn.find (columns : ValueColumns) (target : TargetColumn) : Except String String :=
  match ((columns target.targetType).filter fun entry => entry.1 = target.targetId).getLast? with
  | some (_, column) =>
      if column = "" then .error "An Index target column was not found, aborting..."
      else .ok column
  | none => .error "An Index target column was not found, aborting..."

/-- The rows of the registry for an index. -/
def IndexStore.registered (store : IndexStore) (indexId : IndexId) : List IndexByUuid :=
  store.registry.filter fun row => row.sourceId = indexId

section Ddl

variable (catalog : Uuid → SeriesLocation)

/-- `handle_create_user_defined_index_on_materialized_or_flat_table`. -/
def handleCreateOnTable (dataSeriesId : Uuid) (type : TargetTableType) (columns : List String)
    (indexId : IndexId) (store : IndexStore) : Except String IndexStore :=
  let location := catalog dataSeriesId
  let name := type.relName indexId
  let table := type.tableName dataSeriesId location.externalId
  let databaseIndexes :=
    if store.databaseIndexes.any fun index => index.schema = location.schema ∧ index.name = name
    then store.databaseIndexes
    else store.databaseIndexes ++ [⟨location.schema, name, table, columns⟩]
  if store.registry.any fun row => row.sourceId = indexId ∧ row.targetTableType = type then
    .ok { store with databaseIndexes := databaseIndexes }
  else if store.registry.any fun row => row.dbName = name then
    .error "unique_index_db_name"
  else
    .ok { store with
      databaseIndexes := databaseIndexes
      registry := store.registry ++ [⟨indexId, name, table, type⟩] }

/-- `handle_create_user_defined_index_actual`. -/
def handleCreateUserDefinedIndex (dataSeriesId : Uuid) (valueColumns : ValueColumns)
    (targets : List TargetColumn) (backend : StorageBackendType) (indexId : IndexId)
    (store : IndexStore) : Except String IndexStore := do
  let columns ← targets.mapM (TargetColumn.find valueColumns)
  let store ←
    if backend = .dynamicSqlMaterializedFlatHistory ∨ backend = .dynamicSqlNoHistory then
      handleCreateOnTable catalog dataSeriesId .materialized columns indexId store
    else .ok store
  if backend = .dynamicSqlMaterializedFlatHistory then
    handleCreateOnTable catalog dataSeriesId .flatHistory columns indexId store
  else .ok store

/-- `DROP INDEX` for a row of the registry, which is deleted then. -/
def dropIndex (schema : String) (store : IndexStore) (row : IndexByUuid) :
    Except String IndexStore :=
  if store.databaseIndexes.any fun index => index.schema = schema ∧ index.name = row.dbName then
    .ok { store with
      databaseIndexes := store.databaseIndexes.filter fun index =>
        ¬ (index.schema = schema ∧ index.name = row.dbName)
      registry := store.registry.filter fun other => other ≠ row }
  else .error ("index " ++ row.dbName ++ " does not exist")

/-- The drop helpers expect a number of rows before they drop them all. -/
def dropRegistered (expected : Nat) (message schema : String) (rows : List IndexByUuid)
    (store : IndexStore) : Except String IndexStore :=
  if rows.length ≠ expected then .error message
  else rows.foldlM (dropIndex schema) store

def handleDropUserDefinedIndexMaterialized (indexId : IndexId) (schema : String)
    (store : IndexStore) : Except String IndexStore :=
  dropRegistered 1
    ("Unexpected amount of indexes registered in IndexByUUID with is UUID: " ++ indexId.value)
    schema (store.registered indexId) store

def handleDropUserDefinedIndexFlatHistory (indexId : IndexId) (schema : String)
    (store : IndexStore) : Except String IndexStore :=
  dropRegistered 2
    ("Unexpected amount of indexes registered in IndexByUUID with this ID: " ++ indexId.value)
    schema (store.registered indexId) store

/-- The helper of the migration back from flat history. -/
def handleDropUserDefinedIndexByTargetTableType (indexId : IndexId) (schema : String)
    (type : TargetTableType) (store : IndexStore) : Except String IndexStore :=
  dropRegistered 1
    ("Unexpected amount of indexes registered in IndexByUUID with this ID: " ++ indexId.value)
    schema ((store.registered indexId).filter fun row => row.targetTableType = type) store

/-- One turn of the first loop of `prune_meta_model`. -/
def pruneUserDefinedIndex (schema : String) (backend : StorageBackendType) (store : IndexStore)
    (relation : IndexRelation) : Except String IndexStore := do
  let store ←
    if backend = .dynamicSqlMaterializedFlatHistory then
      handleDropUserDefinedIndexFlatHistory relation.indexId schema store
    else .ok store
  let store ←
    if backend = .dynamicSqlNoHistory ∨ backend = .dynamicSqlMaterializedFlatHistory then
      handleDropUserDefinedIndexMaterialized relation.indexId schema store
    else .ok store
  return { store with relations := store.relations.filter fun other => other ≠ relation }

def IndexRelation.DeadBefore (relation : IndexRelation) (dataSeriesId : Uuid) (olderThan : Int) :
    Prop :=
  relation.dataSeriesId = dataSeriesId ∧ ∃ deletedAt ∈ relation.deletedAt, deletedAt < olderThan

instance (relation : IndexRelation) (dataSeriesId : Uuid) (olderThan : Int) :
    Decidable (relation.DeadBefore dataSeriesId olderThan) :=
  inferInstanceAs (Decidable (_ ∧ _))

def IndexStore.dead (store : IndexStore) (dataSeriesId : Uuid) (olderThan : Int) :
    List IndexRelation :=
  store.relations.filter fun relation => relation.DeadBefore dataSeriesId olderThan

/-- `prune_meta_model` for the indexes; its other loops are about facts,
dimensions and consumers. -/
def pruneMetaModel (dataSeriesId : Uuid) (backend : StorageBackendType) (olderThan : Int)
    (store : IndexStore) : Except String IndexStore :=
  (store.dead dataSeriesId olderThan).foldlM
    (pruneUserDefinedIndex (catalog dataSeriesId).schema backend) store

inductive IndexAction where
  /-- The creation of an index, or its creation once more by a migration. -/
  | create (dataSeriesId : Uuid) (valueColumns : ValueColumns) (targets : List TargetColumn)
      (backend : SupportedBackend) (indexId : IndexId)
  | softDelete (indexId : IndexId) (now : Int)
  /-- What a migration back to no history does for an index. -/
  | dropFlatHistory (indexId : IndexId)
  /-- The table that such a migration drops takes its indexes with it. -/
  | dropFlatHistoryTable (dataSeriesId : Uuid)

/-- An index whose creation fails is not there; the migrations see live indexes
only.  In the code the task that creates the index in the database runs after the
request, and when it fails the row of the index stays without rows of the registry:
such indexes are not covered. -/
def indexStep (store : IndexStore) : IndexAction → IndexStore
  | .create dataSeriesId valueColumns targets backend indexId =>
      match store.relations.find? fun relation => relation.indexId = indexId with
      | none =>
          match handleCreateUserDefinedIndex catalog dataSeriesId valueColumns targets backend
              indexId { store with
                relations := store.relations ++ [⟨indexId, dataSeriesId, none⟩] } with
          | .ok store => store
          | .error _ => store
      | some relation =>
          if relation.dataSeriesId = dataSeriesId ∧ relation.deletedAt = none then
            match handleCreateUserDefinedIndex catalog dataSeriesId valueColumns targets backend
                indexId store with
            | .ok store => store
            | .error _ => store
          else store
  | .softDelete indexId now =>
      { store with
        relations := store.relations.map fun relation =>
          if relation.indexId = indexId ∧ relation.deletedAt = none then
            { relation with deletedAt := some now }
          else relation }
  | .dropFlatHistory indexId =>
      match store.relations.find? fun relation => relation.indexId = indexId with
      | some relation =>
          if relation.deletedAt = none then
            match handleDropUserDefinedIndexByTargetTableType indexId
                (catalog relation.dataSeriesId).schema .flatHistory store with
            | .ok store => store
            | .error _ => store
          else store
      | none => store
  | .dropFlatHistoryTable dataSeriesId =>
      let location := catalog dataSeriesId
      { store with
        databaseIndexes := store.databaseIndexes.filter fun index =>
          ¬ (index.schema = location.schema ∧
            index.table = materializedFlatHistoryTableName dataSeriesId location.externalId) }

end Ddl

section Names

theorem limitLength_of_le {input : String} (hlength : input.length ≤ 63) :
    limitLength input = input := by
  rw [limitLength, List.take_of_length_le (by rwa [String.length_toList]), String.ofList_toList]

theorem indexRelName_eq (indexId : IndexId) :
    indexRelName indexId = "_mat_userindex_" ++ indexId.value := by
  apply limitLength_of_le
  have hprefix : "_mat_userindex_".length = 15 := rfl
  rw [String.length_append, hprefix, indexId.length_eq]
  omega

theorem indexRelNameFlatHistory_eq (indexId : IndexId) :
    indexRelNameFlatHistory indexId = "_mfhist_userindex_" ++ indexId.value := by
  apply limitLength_of_le
  have hprefix : "_mfhist_userindex_".length = 18 := rfl
  rw [String.length_append, hprefix, indexId.length_eq]
  omega

/-- No two database indexes of user defined indexes have the same name. -/
theorem relName_inj {type other : TargetTableType} {indexId otherId : IndexId} :
    type.relName indexId = other.relName otherId ↔ type = other ∧ indexId = otherId := by
  constructor
  · intro hname
    cases type <;> cases other <;>
      simp only [TargetTableType.relName, indexRelName_eq, indexRelNameFlatHistory_eq] at hname
    · refine ⟨rfl, ?_⟩
      cases indexId
      cases otherId
      simpa using hname
    · have hlist := congrArg String.toList hname
      simp at hlist
    · have hlist := congrArg String.toList hname
      simp at hlist
    · refine ⟨rfl, ?_⟩
      cases indexId
      cases otherId
      simpa using hname
  · rintro ⟨rfl, rfl⟩
    rfl

theorem materializedTableName_ne (id other : Uuid) (externalId otherId : ExternalId) :
    materializedTableName id externalId ≠ materializedFlatHistoryTableName other otherId := by
  intro hname
  have hlist := congrArg String.toList hname
  simp [materializedTableName, materializedFlatHistoryTableName] at hlist

end Names

section Drop

variable {schema : String}

theorem dropIndex_eq_ok {store dropped : IndexStore} {row : IndexByUuid} :
    dropIndex schema store row = .ok dropped ↔
      (∃ index ∈ store.databaseIndexes, index.schema = schema ∧ index.name = row.dbName) ∧
        dropped = { store with
          databaseIndexes := store.databaseIndexes.filter fun index =>
            ¬ (index.schema = schema ∧ index.name = row.dbName)
          registry := store.registry.filter fun other => other ≠ row } := by
  have hany : (store.databaseIndexes.any fun index =>
      index.schema = schema ∧ index.name = row.dbName) = true ↔
      ∃ index ∈ store.databaseIndexes, index.schema = schema ∧ index.name = row.dbName := by
    simp only [List.any_eq_true, decide_eq_true_eq]
  rw [dropIndex, ← hany]
  split
  · next hpresent =>
      rw [Except.ok.injEq]
      constructor
      · rintro rfl
        exact ⟨hpresent, rfl⟩
      · rintro ⟨-, rfl⟩
        rfl
  · next habsent => simp only [habsent, false_and, reduceCtorEq]

end Drop

section Invariant

variable {catalog : Uuid → SeriesLocation}

/-- The database index of a registry row, with the relation the row is for. -/
def IndexStore.RegistersFor (catalog : Uuid → SeriesLocation) (store : IndexStore)
    (row : IndexByUuid) (index : DatabaseIndex) : Prop :=
  ∃ relation ∈ store.relations, relation.indexId = row.sourceId ∧
    index.schema = (catalog relation.dataSeriesId).schema ∧ index.name = row.dbName ∧
    index.table = row.targetTableType.tableName relation.dataSeriesId
      (catalog relation.dataSeriesId).externalId

/-- The registry has one row for each index and kind of table, a row for each
database index, and a database index for each row of the materialised table. -/
structure IndexStore.Consistent (catalog : Uuid → SeriesLocation) (store : IndexStore) : Prop where
  relations_nodup : (store.relations.map IndexRelation.indexId).Nodup
  keys_nodup : (store.registry.map IndexByUuid.key).Nodup
  names : ∀ row ∈ store.registry, row.dbName = row.targetTableType.relName row.sourceId
  present : ∀ row ∈ store.registry, row.targetTableType = .materialized →
    ∃ index ∈ store.databaseIndexes, store.RegistersFor catalog row index
  registered : ∀ index ∈ store.databaseIndexes, ∃ row ∈ store.registry,
    store.RegistersFor catalog row index

/-- A row for an index and a kind of table. -/
def IndexStore.HasRow (store : IndexStore) (indexId : IndexId) (type : TargetTableType) : Prop :=
  ∃ row ∈ store.registry, row.sourceId = indexId ∧ row.targetTableType = type

theorem relation_eq {store : IndexStore} (hconsistent : store.Consistent catalog)
    {relation other : IndexRelation} (hrelation : relation ∈ store.relations)
    (hother : other ∈ store.relations) (hindexId : relation.indexId = other.indexId) :
    relation = other :=
  List.inj_on_of_nodup_map hconsistent.relations_nodup hrelation hother hindexId

/-- One more database index for a row of the registry. -/
theorem consistent_addDatabaseIndex {store : IndexStore} (hconsistent : store.Consistent catalog)
    {row : IndexByUuid} (hrow : row ∈ store.registry) {index : DatabaseIndex}
    (hregisters : store.RegistersFor catalog row index) :
    ({ store with databaseIndexes := store.databaseIndexes ++ [index] } : IndexStore).Consistent
      catalog := by
  refine ⟨hconsistent.relations_nodup, hconsistent.keys_nodup, hconsistent.names, ?_, ?_⟩
  · intro other hother htype
    obtain ⟨present, hpresent, hfor⟩ := hconsistent.present other hother htype
    exact ⟨present, List.mem_append_left _ hpresent, hfor⟩
  · intro other hother
    rcases List.mem_append.mp hother with hold | hnew
    · exact hconsistent.registered other hold
    · rw [List.mem_singleton.mp hnew]
      exact ⟨row, hrow, hregisters⟩

/-- A row under a new key, with its database index. -/
theorem consistent_register {store : IndexStore} (hconsistent : store.Consistent catalog)
    {row : IndexByUuid} (hname : row.dbName = row.targetTableType.relName row.sourceId)
    (habsent : ¬ store.HasRow row.sourceId row.targetTableType) {index : DatabaseIndex}
    (hregisters : store.RegistersFor catalog row index) :
    ({ store with
      databaseIndexes := store.databaseIndexes ++ [index]
      registry := store.registry ++ [row] } : IndexStore).Consistent catalog := by
  refine ⟨hconsistent.relations_nodup, ?_, ?_, ?_, ?_⟩
  · rw [List.map_append, List.map_singleton, List.nodup_append]
    refine ⟨hconsistent.keys_nodup, List.nodup_singleton _, ?_⟩
    intro key hkey other hother heq
    obtain ⟨taken, htaken, rfl⟩ := List.mem_map.mp hkey
    rw [List.mem_singleton.mp hother] at heq
    exact habsent ⟨taken, htaken, Prod.mk.inj heq⟩
  · intro other hother
    rcases List.mem_append.mp hother with hold | hnew
    · exact hconsistent.names other hold
    · rw [List.mem_singleton.mp hnew]
      exact hname
  · intro other hother htype
    rcases List.mem_append.mp hother with hold | hnew
    · obtain ⟨present, hpresent, hfor⟩ := hconsistent.present other hold htype
      exact ⟨present, List.mem_append_left _ hpresent, hfor⟩
    · rw [List.mem_singleton.mp hnew]
      exact ⟨index, List.mem_append_right _ (List.mem_singleton_self _), hregisters⟩
  · intro other hother
    rcases List.mem_append.mp hother with hold | hnew
    · obtain ⟨registered, hregistered, hfor⟩ := hconsistent.registered other hold
      exact ⟨registered, List.mem_append_left _ hregistered, hfor⟩
    · rw [List.mem_singleton.mp hnew]
      exact ⟨row, List.mem_append_right _ (List.mem_singleton_self _), hregisters⟩

/-- The name of a database index leads back to its row. -/
theorem hasRow_of_relName {store : IndexStore} (hconsistent : store.Consistent catalog)
    {index : DatabaseIndex} (hindex : index ∈ store.databaseIndexes) {indexId : IndexId}
    {type : TargetTableType} (hname : index.name = type.relName indexId) :
    store.HasRow indexId type := by
  obtain ⟨row, hrow, -, -, -, -, hrowName, -⟩ := hconsistent.registered index hindex
  rw [hname, hconsistent.names row hrow] at hrowName
  obtain ⟨htype, hid⟩ := relName_inj.mp hrowName
  exact ⟨row, hrow, hid.symm, htype.symm⟩

/-- Creating the index on one table keeps registry and database consistent. -/
theorem handleCreateOnTable_spec {dataSeriesId : Uuid} {type : TargetTableType}
    {columns : List String} {indexId : IndexId} {store created : IndexStore}
    (hconsistent : store.Consistent catalog) {relation : IndexRelation}
    (hrelation : relation ∈ store.relations) (hindexId : relation.indexId = indexId)
    (hseries : relation.dataSeriesId = dataSeriesId)
    (hok : handleCreateOnTable catalog dataSeriesId type columns indexId store = .ok created) :
    created.Consistent catalog ∧ created.relations = store.relations ∧
      created.HasRow indexId type ∧
      ∀ otherId other, store.HasRow otherId other → created.HasRow otherId other := by
  subst hindexId hseries
  simp only [handleCreateOnTable] at hok
  by_cases hknown : store.registry.any fun row =>
      row.sourceId = relation.indexId ∧ row.targetTableType = type
  · rw [if_pos hknown, Except.ok.injEq] at hok
    obtain ⟨row, hrow, hkey⟩ := List.any_eq_true.mp hknown
    rw [decide_eq_true_eq] at hkey
    split at hok
    · subst hok
      exact ⟨hconsistent, rfl, ⟨row, hrow, hkey⟩, fun _ _ => id⟩
    · -- the table was dropped with the index, and the row is still there
      subst hok
      refine ⟨consistent_addDatabaseIndex hconsistent hrow ?_, rfl, ⟨row, hrow, hkey⟩,
        fun _ _ => id⟩
      refine ⟨relation, hrelation, hkey.1.symm, rfl, ?_, ?_⟩
      · rw [hconsistent.names row hrow, hkey.1, hkey.2]
      · rw [hkey.2]
  · rw [if_neg hknown] at hok
    split at hok
    · cases hok
    · rw [Except.ok.injEq] at hok
      have habsent : ¬ store.HasRow relation.indexId type := by
        rintro ⟨row, hrow, hkey⟩
        exact hknown (List.any_eq_true.mpr ⟨row, hrow, decide_eq_true hkey⟩)
      have hnoIndex : ¬ store.databaseIndexes.any fun index =>
          index.schema = (catalog relation.dataSeriesId).schema ∧
            index.name = type.relName relation.indexId := by
        intro hany
        obtain ⟨index, hindex, hname⟩ := List.any_eq_true.mp hany
        rw [decide_eq_true_eq] at hname
        exact habsent (hasRow_of_relName hconsistent hindex hname.2)
      rw [if_neg hnoIndex] at hok
      subst hok
      refine ⟨consistent_register hconsistent rfl habsent ?_, rfl, ?_, ?_⟩
      · exact ⟨relation, hrelation, rfl, rfl, rfl, rfl⟩
      · exact ⟨_, List.mem_append_right _ (List.mem_singleton_self _), rfl, rfl⟩
      · rintro otherId other ⟨row, hrow, hkey⟩
        exact ⟨row, List.mem_append_left _ hrow, hkey⟩

/-- Creating an index with a supported backend keeps registry and database
consistent and registers the index on the materialised table. -/
theorem handleCreateUserDefinedIndex_spec {dataSeriesId : Uuid} {valueColumns : ValueColumns}
    {targets : List TargetColumn} {backend : SupportedBackend} {indexId : IndexId}
    {store created : IndexStore} (hconsistent : store.Consistent catalog)
    {relation : IndexRelation} (hrelation : relation ∈ store.relations)
    (hindexId : relation.indexId = indexId) (hseries : relation.dataSeriesId = dataSeriesId)
    (hok : handleCreateUserDefinedIndex catalog dataSeriesId valueColumns targets backend indexId
      store = .ok created) :
    created.Consistent catalog ∧ created.relations = store.relations ∧
      created.HasRow indexId .materialized ∧
      ∀ otherId other, store.HasRow otherId other → created.HasRow otherId other := by
  simp only [handleCreateUserDefinedIndex, bind, Except.bind] at hok
  split at hok
  · cases hok
  · next columns _ =>
      rw [if_pos backend.2.symm] at hok
      split at hok
      · cases hok
      · next middle hmiddle =>
          obtain ⟨hmiddleConsistent, hmiddleRelations, hmiddleRow, hmiddleKept⟩ :=
            handleCreateOnTable_spec hconsistent hrelation hindexId hseries hmiddle
          split at hok
          · rw [← hmiddleRelations] at hrelation
            obtain ⟨hcreated, hrelations, -, hkept⟩ :=
              handleCreateOnTable_spec hmiddleConsistent hrelation hindexId hseries hok
            exact ⟨hcreated, hrelations.trans hmiddleRelations, hkept _ _ hmiddleRow,
              fun otherId other hrow => hkept _ _ (hmiddleKept _ _ hrow)⟩
          · cases hok
            exact ⟨hmiddleConsistent, hmiddleRelations, hmiddleRow, hmiddleKept⟩

/-- Every index of a relation has its row for the materialised table. -/
structure IndexStore.Inv (catalog : Uuid → SeriesLocation) (store : IndexStore) : Prop where
  consistent : store.Consistent catalog
  materialized : ∀ relation ∈ store.relations, store.HasRow relation.indexId .materialized

theorem inv_softDelete {store : IndexStore} (hinv : store.Inv catalog) (indexId : IndexId)
    (now : Int) : (indexStep catalog store (.softDelete indexId now)).Inv catalog := by
  let mark : IndexRelation → IndexRelation := fun relation =>
    if relation.indexId = indexId ∧ relation.deletedAt = none then
      { relation with deletedAt := some now }
    else relation
  have hmarkId (relation : IndexRelation) : (mark relation).indexId = relation.indexId := by
    simp only [mark]
    split <;> rfl
  have hmarkSeries (relation : IndexRelation) :
      (mark relation).dataSeriesId = relation.dataSeriesId := by
    simp only [mark]
    split <;> rfl
  have hregisters {row : IndexByUuid} {index : DatabaseIndex}
      (hfor : store.RegistersFor catalog row index) :
      (indexStep catalog store (.softDelete indexId now)).RegistersFor catalog row index := by
    obtain ⟨relation, hrelation, hid, hschema, hname, htable⟩ := hfor
    refine ⟨mark relation, List.mem_map_of_mem hrelation, ?_, ?_, hname, ?_⟩
    · rw [hmarkId, hid]
    · rw [hmarkSeries, hschema]
    · rw [hmarkSeries, htable]
  refine ⟨⟨?_, hinv.consistent.keys_nodup, hinv.consistent.names, ?_, ?_⟩, ?_⟩
  · have hids : (store.relations.map mark).map IndexRelation.indexId =
        store.relations.map IndexRelation.indexId := by
      rw [List.map_map]
      apply List.map_congr_left
      intro relation _
      exact hmarkId relation
    change ((store.relations.map mark).map IndexRelation.indexId).Nodup
    rw [hids]
    exact hinv.consistent.relations_nodup
  · intro row hrow htype
    obtain ⟨index, hindex, hfor⟩ := hinv.consistent.present row hrow htype
    exact ⟨index, hindex, hregisters hfor⟩
  · intro index hindex
    obtain ⟨row, hrow, hfor⟩ := hinv.consistent.registered index hindex
    exact ⟨row, hrow, hregisters hfor⟩
  · intro marked hmarked
    obtain ⟨relation, hrelation, rfl⟩ := List.mem_map.mp hmarked
    change store.HasRow (mark relation).indexId .materialized
    rw [hmarkId]
    exact hinv.materialized relation hrelation

/-- A relation for a new index changes nothing that is registered. -/
theorem consistent_addRelation {store : IndexStore} (hconsistent : store.Consistent catalog)
    {relation : IndexRelation}
    (hnew : ∀ other ∈ store.relations, other.indexId ≠ relation.indexId) :
    ({ store with relations := store.relations ++ [relation] } : IndexStore).Consistent
      catalog := by
  have hregisters {row : IndexByUuid} {index : DatabaseIndex}
      (hfor : store.RegistersFor catalog row index) :
      ({ store with relations := store.relations ++ [relation] } : IndexStore).RegistersFor
        catalog row index := by
    obtain ⟨other, hother, hrest⟩ := hfor
    exact ⟨other, List.mem_append_left _ hother, hrest⟩
  refine ⟨?_, hconsistent.keys_nodup, hconsistent.names, ?_, ?_⟩
  · rw [List.map_append, List.map_singleton, List.nodup_append]
    refine ⟨hconsistent.relations_nodup, List.nodup_singleton _, ?_⟩
    intro indexId hindexId otherId hotherId
    obtain ⟨other, hother, rfl⟩ := List.mem_map.mp hindexId
    rw [List.mem_singleton.mp hotherId]
    exact hnew other hother
  · intro row hrow htype
    obtain ⟨index, hindex, hfor⟩ := hconsistent.present row hrow htype
    exact ⟨index, hindex, hregisters hfor⟩
  · intro index hindex
    obtain ⟨row, hrow, hfor⟩ := hconsistent.registered index hindex
    exact ⟨row, hrow, hregisters hfor⟩

/-- Dropping the database index of a flat history row with the row. -/
theorem inv_dropRow {store : IndexStore} (hinv : store.Inv catalog) {relation : IndexRelation}
    (hrelation : relation ∈ store.relations) {row : IndexByUuid} (hrow : row ∈ store.registry)
    (hsource : row.sourceId = relation.indexId) (htype : row.targetTableType = .flatHistory) :
    ({ store with
      databaseIndexes := store.databaseIndexes.filter fun index =>
        ¬ (index.schema = (catalog relation.dataSeriesId).schema ∧ index.name = row.dbName)
      registry := store.registry.filter fun other => other ≠ row } : IndexStore).Inv catalog := by
  refine ⟨⟨hinv.consistent.relations_nodup, ?_, ?_, ?_, ?_⟩, ?_⟩
  · exact List.Nodup.sublist (List.filter_sublist.map _) hinv.consistent.keys_nodup
  · intro other hother
    exact hinv.consistent.names other (List.mem_of_mem_filter hother)
  · intro other hother hotherType
    have hotherMem := List.mem_of_mem_filter hother
    obtain ⟨index, hindex, hregisters⟩ := hinv.consistent.present other hotherMem hotherType
    refine ⟨index, List.mem_filter.mpr ⟨hindex, decide_eq_true ?_⟩, hregisters⟩
    rintro ⟨-, hname⟩
    obtain ⟨-, -, -, -, hindexName, -⟩ := hregisters
    rw [hname, hinv.consistent.names row hrow,
      hinv.consistent.names other hotherMem] at hindexName
    have hsame := (relName_inj.mp hindexName).1
    rw [htype, hotherType] at hsame
    cases hsame
  · intro index hindex
    obtain ⟨hindexMem, hkept⟩ := List.mem_filter.mp hindex
    obtain ⟨other, hother, hregisters⟩ := hinv.consistent.registered index hindexMem
    refine ⟨other, List.mem_filter.mpr ⟨hother, decide_eq_true ?_⟩, hregisters⟩
    rintro rfl
    obtain ⟨owner, howner, hownerId, hschema, hname, -⟩ := hregisters
    obtain rfl : owner = relation :=
      relation_eq hinv.consistent howner hrelation (hownerId.trans hsource)
    exact of_decide_eq_true hkept ⟨hschema, hname⟩
  · intro other hother
    obtain ⟨kept, hkept, hkeptSource, hkeptType⟩ := hinv.materialized other hother
    refine ⟨kept, List.mem_filter.mpr ⟨hkept, decide_eq_true ?_⟩, hkeptSource, hkeptType⟩
    rintro rfl
    rw [htype] at hkeptType
    cases hkeptType

/-- Dropping the index on the flat history table leaves the one on the
materialised table. -/
theorem inv_dropFlatHistory {store dropped : IndexStore} (hinv : store.Inv catalog)
    {relation : IndexRelation} (hrelation : relation ∈ store.relations)
    (hok : handleDropUserDefinedIndexByTargetTableType relation.indexId
      (catalog relation.dataSeriesId).schema .flatHistory store = .ok dropped) :
    dropped.Inv catalog := by
  rw [handleDropUserDefinedIndexByTargetTableType, dropRegistered] at hok
  split at hok
  · cases hok
  · next hlength =>
      obtain ⟨row, hrows⟩ := List.length_eq_one_iff.mp (not_not.mp hlength)
      rw [hrows, List.foldlM_cons] at hok
      have hmem : row ∈ (store.registered relation.indexId).filter fun row =>
          row.targetTableType = .flatHistory := by
        rw [hrows]
        exact List.mem_singleton_self row
      simp only [IndexStore.registered, List.mem_filter, decide_eq_true_eq] at hmem
      obtain ⟨⟨hrow, hsource⟩, htype⟩ := hmem
      cases hdrop : dropIndex (catalog relation.dataSeriesId).schema store row with
      | error message =>
          rw [hdrop] at hok
          cases hok
      | ok next =>
          rw [hdrop] at hok
          obtain ⟨-, rfl⟩ := dropIndex_eq_ok.mp hdrop
          cases hok
          exact inv_dropRow hinv hrelation hrow hsource htype

/-- Dropping a flat history table leaves the indexes on materialised tables. -/
theorem inv_dropFlatHistoryTable {store : IndexStore} (hinv : store.Inv catalog)
    (dataSeriesId : Uuid) :
    (indexStep catalog store (.dropFlatHistoryTable dataSeriesId)).Inv catalog := by
  refine ⟨⟨hinv.consistent.relations_nodup, hinv.consistent.keys_nodup, hinv.consistent.names,
    ?_, ?_⟩, hinv.materialized⟩
  · intro row hrow htype
    obtain ⟨index, hindex, hregisters⟩ := hinv.consistent.present row hrow htype
    refine ⟨index, List.mem_filter.mpr ⟨hindex, decide_eq_true ?_⟩, hregisters⟩
    rintro ⟨-, htable⟩
    obtain ⟨relation, -, -, -, -, hindexTable⟩ := hregisters
    rw [htable, htype] at hindexTable
    exact materializedTableName_ne _ _ _ _ hindexTable.symm
  · intro index hindex
    exact hinv.consistent.registered index (List.mem_of_mem_filter hindex)

/-- The step lemma of the invariant. -/
theorem inv_indexStep (store : IndexStore) (action : IndexAction) (hinv : store.Inv catalog) :
    (indexStep catalog store action).Inv catalog := by
  cases action with
  | softDelete indexId now => exact inv_softDelete hinv indexId now
  | dropFlatHistoryTable dataSeriesId => exact inv_dropFlatHistoryTable hinv dataSeriesId
  | dropFlatHistory indexId =>
      rw [indexStep]
      split
      · next relation hfind =>
          split
          · split
            · next dropped hok =>
                have hindexId : relation.indexId = indexId := by
                  simpa using List.find?_some hfind
                subst hindexId
                exact inv_dropFlatHistory hinv (List.mem_of_find?_eq_some hfind) hok
            · exact hinv
          · exact hinv
      · exact hinv
  | create dataSeriesId valueColumns targets backend indexId =>
      rw [indexStep]
      cases hfind : store.relations.find? fun relation => relation.indexId = indexId with
      | none =>
          simp only
          split
          · next created hok =>
              have hnew : ∀ other ∈ store.relations, other.indexId ≠ indexId := by
                intro other hother
                simpa using List.find?_eq_none.mp hfind other hother
              obtain ⟨hcreated, hrelations, hrow, hkept⟩ := handleCreateUserDefinedIndex_spec
                (consistent_addRelation hinv.consistent hnew)
                (List.mem_append_right _ (List.mem_singleton_self _)) rfl rfl hok
              refine ⟨hcreated, ?_⟩
              intro relation hrelation
              rw [hrelations] at hrelation
              rcases List.mem_append.mp hrelation with hold | hnewRelation
              · exact hkept _ _ (hinv.materialized relation hold)
              · rw [List.mem_singleton.mp hnewRelation]
                exact hrow
          · exact hinv
      | some relation =>
          simp only
          split
          · next hlive =>
              split
              · next created hok =>
                  have hrelation := List.mem_of_find?_eq_some hfind
                  have hindexId : relation.indexId = indexId := by
                    simpa using List.find?_some hfind
                  obtain ⟨hcreated, hrelations, -, hkept⟩ := handleCreateUserDefinedIndex_spec
                    hinv.consistent hrelation hindexId hlive.1 hok
                  refine ⟨hcreated, ?_⟩
                  intro other hother
                  rw [hrelations] at hother
                  exact hkept _ _ (hinv.materialized other hother)
              · exact hinv
          · exact hinv

theorem inv_run (actions : List IndexAction) :
    (Runs.run (indexStep catalog) IndexStore.empty actions).Inv catalog := by
  refine Runs.run_keeps (IndexStore.Inv catalog) inv_indexStep ?_ actions
  constructor
  · constructor <;> simp [IndexStore.empty]
  · simp [IndexStore.empty]

end Invariant

section Prune

variable {catalog : Uuid → SeriesLocation} {schema : String}

/-- What is dropped is no longer registered. -/
theorem foldlM_dropIndex_registry {rows : List IndexByUuid} {store dropped : IndexStore}
    (hok : rows.foldlM (dropIndex schema) store = .ok dropped) :
    ∀ row ∈ dropped.registry, row ∈ store.registry ∧ row ∉ rows := by
  induction rows generalizing store with
  | nil =>
      cases hok
      intro row hrow
      exact ⟨hrow, List.not_mem_nil⟩
  | cons head tail ih =>
      rw [List.foldlM_cons] at hok
      cases hhead : dropIndex schema store head with
      | error message =>
          rw [hhead] at hok
          cases hok
      | ok next =>
          rw [hhead] at hok
          obtain ⟨-, rfl⟩ := dropIndex_eq_ok.mp hhead
          intro row hrow
          obtain ⟨hmem, htail⟩ := ih hok row hrow
          obtain ⟨hstore, hne⟩ := List.mem_filter.mp hmem
          refine ⟨hstore, ?_⟩
          rw [List.mem_cons, not_or]
          exact ⟨of_decide_eq_true hne, htail⟩

/-- With a flat history the second drop helper finds nothing left to drop. -/
theorem pruneUserDefinedIndex_flatHistory (store pruned : IndexStore)
    (relation : IndexRelation) :
    pruneUserDefinedIndex schema .dynamicSqlMaterializedFlatHistory store relation ≠
      .ok pruned := by
  intro hok
  simp only [pruneUserDefinedIndex, bind, Except.bind, if_true, or_true] at hok
  cases hflat : handleDropUserDefinedIndexFlatHistory relation.indexId schema store with
  | error message =>
      rw [hflat] at hok
      cases hok
  | ok next =>
      have hnone : next.registered relation.indexId = [] := by
        rw [handleDropUserDefinedIndexFlatHistory, dropRegistered] at hflat
        split at hflat
        · cases hflat
        · rw [IndexStore.registered, List.filter_eq_nil_iff]
          intro row hrow hsource
          obtain ⟨hstore, hdropped⟩ := foldlM_dropIndex_registry hflat row hrow
          exact hdropped (List.mem_filter.mpr ⟨hstore, hsource⟩)
      simp [hflat, handleDropUserDefinedIndexMaterialized, dropRegistered, hnone] at hok

/-- Without history an index is pruned when it has one row and its database
index is there. -/
theorem pruneUserDefinedIndex_noHistory {store pruned : IndexStore} {relation : IndexRelation} :
    pruneUserDefinedIndex schema .dynamicSqlNoHistory store relation = .ok pruned ↔
      ∃ row, store.registered relation.indexId = [row] ∧
        (∃ index ∈ store.databaseIndexes, index.schema = schema ∧ index.name = row.dbName) ∧
        pruned = {
          relations := store.relations.filter fun other => other ≠ relation
          registry := store.registry.filter fun other => other ≠ row
          databaseIndexes := store.databaseIndexes.filter fun index =>
            ¬ (index.schema = schema ∧ index.name = row.dbName) } := by
  simp only [pruneUserDefinedIndex, bind, Except.bind, reduceCtorEq, if_false, true_or, if_true,
    handleDropUserDefinedIndexMaterialized, dropRegistered]
  by_cases hlength : (store.registered relation.indexId).length = 1
  · obtain ⟨row, hrow⟩ := List.length_eq_one_iff.mp hlength
    simp only [hrow, List.length_singleton, ne_eq, not_true_eq_false, if_false, List.foldlM_cons,
      List.foldlM_nil, bind, Except.bind, List.cons.injEq, and_true]
    cases hdrop : dropIndex schema store row with
    | error message =>
        constructor
        · intro hok
          cases hok
        · rintro ⟨other, rfl, hindex, -⟩
          rw [dropIndex_eq_ok.mpr ⟨hindex, rfl⟩] at hdrop
          cases hdrop
    | ok dropped =>
        obtain ⟨hindex, rfl⟩ := dropIndex_eq_ok.mp hdrop
        constructor
        · intro hok
          cases hok
          exact ⟨row, rfl, hindex, rfl⟩
        · rintro ⟨other, rfl, -, rfl⟩
          rfl
  · rw [if_pos hlength]
    constructor
    · intro hok
      cases hok
    · rintro ⟨row, hrow, -⟩
      rw [hrow] at hlength
      exact absurd rfl hlength

theorem registered_filter_ne {store : IndexStore} {row : IndexByUuid} {indexId : IndexId}
    (hsource : row.sourceId ≠ indexId) :
    (store.registry.filter fun other => other ≠ row).filter (fun row => row.sourceId = indexId) =
      store.registered indexId := by
  rw [IndexStore.registered, List.filter_filter]
  apply List.filter_congr
  intro other _
  by_cases hother : other = row
  · subst hother
    simp [hsource]
  · simp [hother]

/-- A loop that gets through has found one row for each index. -/
theorem registered_of_pruned {dead : List IndexRelation} {store pruned : IndexStore}
    (hnodup : (dead.map IndexRelation.indexId).Nodup)
    (hok : dead.foldlM (pruneUserDefinedIndex schema .dynamicSqlNoHistory) store = .ok pruned) :
    ∀ relation ∈ dead, ∃ row, store.registered relation.indexId = [row] := by
  induction dead generalizing store with
  | nil =>
      intro relation hrelation
      cases hrelation
  | cons head tail ih =>
      rw [List.map_cons, List.nodup_cons] at hnodup
      rw [List.foldlM_cons] at hok
      cases hhead : pruneUserDefinedIndex schema .dynamicSqlNoHistory store head with
      | error message =>
          rw [hhead] at hok
          cases hok
      | ok next =>
          rw [hhead] at hok
          obtain ⟨row, hrow, -, rfl⟩ := pruneUserDefinedIndex_noHistory.mp hhead
          have hsource : row.sourceId = head.indexId := by
            have hmem : row ∈ store.registered head.indexId := by
              rw [hrow]
              exact List.mem_singleton_self row
            exact of_decide_eq_true (List.mem_filter.mp hmem).2
          intro relation hrelation
          rcases List.mem_cons.mp hrelation with rfl | htail
          · exact ⟨row, hrow⟩
          · have hne : row.sourceId ≠ relation.indexId := by
              intro heq
              apply hnodup.1
              rw [← hsource, heq]
              exact List.mem_map_of_mem htail
            obtain ⟨other, hother⟩ := ih hnodup.2 hok relation htail
            rw [IndexStore.registered, registered_filter_ne hne] at hother
            exact ⟨other, hother⟩

/-- An index that is registered once, with its database index on the
materialised table. -/
def IndexStore.Prunable (schema : String) (store : IndexStore) (relation : IndexRelation) : Prop :=
  ∃ row, store.registered relation.indexId = [row] ∧
    row.dbName = indexRelName relation.indexId ∧
    ∃ index ∈ store.databaseIndexes,
      index.schema = schema ∧ index.name = indexRelName relation.indexId

/-- Pruning another index leaves an index prunable. -/
theorem prunable_filter {store : IndexStore} {relation other : IndexRelation} {row : IndexByUuid}
    (hprunable : store.Prunable schema relation) (hne : relation.indexId ≠ other.indexId)
    (hsource : row.sourceId = other.indexId) (hname : row.dbName = indexRelName other.indexId) :
    ({ relations := store.relations.filter fun kept => kept ≠ other
       registry := store.registry.filter fun kept => kept ≠ row
       databaseIndexes := store.databaseIndexes.filter fun index =>
         ¬ (index.schema = schema ∧ index.name = row.dbName) } : IndexStore).Prunable
      schema relation := by
  obtain ⟨own, hown, hownName, index, hindex, hindexSchema, hindexName⟩ := hprunable
  have hsourceNe : row.sourceId ≠ relation.indexId := by
    rw [hsource]
    exact hne.symm
  refine ⟨own, ?_, hownName, index, ?_, hindexSchema, hindexName⟩
  · rw [IndexStore.registered, registered_filter_ne hsourceNe]
    exact hown
  · rw [List.mem_filter, decide_eq_true_eq]
    refine ⟨hindex, ?_⟩
    rintro ⟨-, hsame⟩
    rw [hname, hindexName] at hsame
    have hnames : TargetTableType.materialized.relName relation.indexId =
        TargetTableType.materialized.relName other.indexId := hsame
    exact hne (relName_inj.mp hnames).2

/-- The loop removes one row and one database index for each index when they are
there and no two have the same name. -/
theorem foldlM_pruneUserDefinedIndex {dead : List IndexRelation} {store : IndexStore}
    (hnodup : (dead.map IndexRelation.indexId).Nodup)
    (hdead : ∀ relation ∈ dead, store.Prunable schema relation) :
    ∃ pruned, dead.foldlM (pruneUserDefinedIndex schema .dynamicSqlNoHistory) store = .ok pruned ∧
      pruned.registry = store.registry.filter (fun row =>
        ∀ relation ∈ dead, row.sourceId ≠ relation.indexId) ∧
      pruned.databaseIndexes = store.databaseIndexes.filter (fun index =>
        ∀ relation ∈ dead,
          ¬ (index.schema = schema ∧ index.name = indexRelName relation.indexId)) := by
  induction dead generalizing store with
  | nil => exact ⟨store, rfl, by simp, by simp⟩
  | cons head tail ih =>
      rw [List.map_cons, List.nodup_cons] at hnodup
      obtain ⟨row, hrow, hname, hindex⟩ := hdead head List.mem_cons_self
      have hhead := pruneUserDefinedIndex_noHistory.mpr ⟨row, hrow, hname ▸ hindex, rfl⟩
      have hsources : ∀ other ∈ store.registry, other = row ↔ other.sourceId = head.indexId := by
        intro other hother
        have hiff : other ∈ store.registered head.indexId ↔ other = row := by
          rw [hrow, List.mem_singleton]
        rw [← hiff, IndexStore.registered, List.mem_filter, decide_eq_true_eq]
        exact and_iff_right hother
      have hmem : row ∈ store.registry := by
        have hregistered : row ∈ store.registered head.indexId := by
          rw [hrow]
          exact List.mem_singleton_self row
        exact List.mem_of_mem_filter hregistered
      have htail : ∀ relation ∈ tail, relation.indexId ≠ head.indexId := by
        intro relation hrelation heq
        apply hnodup.1
        rw [← heq]
        exact List.mem_map_of_mem hrelation
      obtain ⟨pruned, hok, hregistry, hindexes⟩ := ih hnodup.2 fun relation hrelation =>
        prunable_filter (hdead relation (List.mem_cons_of_mem head hrelation))
          (htail relation hrelation) ((hsources row hmem).mp rfl) hname
      refine ⟨pruned, ?_, ?_, ?_⟩
      · rw [List.foldlM_cons, hhead]
        exact hok
      · rw [hregistry, List.filter_filter]
        apply List.filter_congr
        intro other hother
        simp only [List.forall_mem_cons, ne_eq, hsources other hother]
        simp [Bool.and_comm]
      · rw [hindexes, List.filter_filter]
        apply List.filter_congr
        intro other hother
        simp only [List.forall_mem_cons, hname]
        simp [Bool.and_comm]

/-- A database index that is made for the index of a relation. -/
def DatabaseIndex.BelongsTo (catalog : Uuid → SeriesLocation) (index : DatabaseIndex)
    (relation : IndexRelation) : Prop :=
  index.schema = (catalog relation.dataSeriesId).schema ∧
    (index.name = indexRelName relation.indexId ∨
      index.name = indexRelNameFlatHistory relation.indexId)

instance (index : DatabaseIndex) (relation : IndexRelation) :
    Decidable (index.BelongsTo catalog relation) :=
  inferInstanceAs (Decidable (_ ∧ _))

/-- Pruning gets through and removes exactly what belongs to the dead indexes. -/
def PruneExact (catalog : Uuid → SeriesLocation) (dataSeriesId : Uuid)
    (backend : StorageBackendType) (olderThan : Int) (store : IndexStore) : Prop :=
  ∃ pruned, pruneMetaModel catalog dataSeriesId backend olderThan store = .ok pruned ∧
    pruned.registry = store.registry.filter (fun row =>
      ∀ relation ∈ store.dead dataSeriesId olderThan, row.sourceId ≠ relation.indexId) ∧
    pruned.databaseIndexes = store.databaseIndexes.filter (fun index =>
      ∀ relation ∈ store.dead dataSeriesId olderThan, ¬ index.BelongsTo catalog relation)

/-- An index that is registered for the materialised table only is prunable. -/
theorem prunable_of_inv {store : IndexStore} (hinv : store.Inv catalog)
    {relation : IndexRelation} (hrelation : relation ∈ store.relations)
    (hhistory : ¬ store.HasRow relation.indexId .flatHistory) :
    store.Prunable (catalog relation.dataSeriesId).schema relation := by
  obtain ⟨row, hrow, hsource, htype⟩ := hinv.materialized relation hrelation
  have hname : row.dbName = indexRelName relation.indexId := by
    rw [hinv.consistent.names row hrow, htype, hsource]
    rfl
  refine ⟨row, ?_, hname, ?_⟩
  · -- rows of the index are for the materialised table, and there is one of these
    have honly : ∀ other ∈ store.registered relation.indexId, other = row := by
      intro other hother
      obtain ⟨hmem, hotherSource⟩ := List.mem_filter.mp hother
      have hotherSource := of_decide_eq_true hotherSource
      by_contra hne
      cases hotherType : other.targetTableType with
      | flatHistory => exact hhistory ⟨other, hmem, hotherSource, hotherType⟩
      | materialized =>
          apply hne
          apply List.inj_on_of_nodup_map hinv.consistent.keys_nodup hmem hrow
          rw [IndexByUuid.key, IndexByUuid.key, hotherSource, hsource, hotherType, htype]
    have hnodup : (store.registered relation.indexId).Nodup :=
      hinv.consistent.keys_nodup.of_map.filter _
    refine List.perm_singleton.mp ((List.perm_ext_iff_of_nodup hnodup
      (List.nodup_singleton row)).mpr ?_)
    intro other
    rw [List.mem_singleton]
    constructor
    · exact honly other
    · rintro rfl
      exact List.mem_filter.mpr ⟨hrow, decide_eq_true hsource⟩
  · obtain ⟨index, hindex, other, hother, hotherId, hschema, hindexName, -⟩ :=
      hinv.consistent.present row hrow htype
    obtain rfl : other = relation :=
      relation_eq hinv.consistent hother hrelation (hotherId.trans hsource)
    exact ⟨index, hindex, hschema, hindexName.trans hname⟩

/-- An index with one row has none for a flat history table. -/
theorem not_hasRow_flatHistory {store : IndexStore} (hinv : store.Inv catalog)
    {relation : IndexRelation} (hrelation : relation ∈ store.relations) {only : IndexByUuid}
    (honly : store.registered relation.indexId = [only]) :
    ¬ store.HasRow relation.indexId .flatHistory := by
  rintro ⟨row, hrow, hsource, htype⟩
  obtain ⟨materialized, hmaterialized, hmaterializedSource, hmaterializedType⟩ :=
    hinv.materialized relation hrelation
  have heq : ∀ other ∈ store.registry, other.sourceId = relation.indexId → other = only := by
    intro other hother hotherSource
    have hregistered : other ∈ store.registered relation.indexId :=
      List.mem_filter.mpr ⟨hother, decide_eq_true hotherSource⟩
    rw [honly] at hregistered
    exact List.mem_singleton.mp hregistered
  rw [heq row hrow hsource] at htype
  rw [heq materialized hmaterialized hmaterializedSource, htype] at hmaterializedType
  cases hmaterializedType

/-- With a flat history the loop gets through only when there is nothing to prune. -/
theorem eq_nil_of_pruned_flatHistory {dead : List IndexRelation} {store pruned : IndexStore}
    (hok : dead.foldlM (pruneUserDefinedIndex schema .dynamicSqlMaterializedFlatHistory) store =
      .ok pruned) : dead = [] := by
  cases dead with
  | nil => rfl
  | cons relation rest =>
      rw [List.foldlM_cons] at hok
      cases hhead : pruneUserDefinedIndex schema .dynamicSqlMaterializedFlatHistory store
          relation with
      | error message =>
          rw [hhead] at hok
          cases hok
      | ok next => exact absurd hhead (pruneUserDefinedIndex_flatHistory store next relation)

/-- When pruning the dead indexes of a data series works. -/
theorem pruneExact_iff (catalog : Uuid → SeriesLocation) (actions : List IndexAction)
    (dataSeriesId : Uuid) (backend : SupportedBackend) (olderThan : Int) :
    let store := Runs.run (indexStep catalog) IndexStore.empty actions
    PruneExact catalog dataSeriesId backend olderThan store ↔
      store.dead dataSeriesId olderThan = [] ∨
        backend.1 = .dynamicSqlNoHistory ∧
          ∀ relation ∈ store.dead dataSeriesId olderThan,
            ¬ store.HasRow relation.indexId .flatHistory := by
  intro store
  have hinv : store.Inv catalog := inv_run actions
  have hrelations : ∀ relation ∈ store.dead dataSeriesId olderThan,
      relation ∈ store.relations ∧ relation.dataSeriesId = dataSeriesId := by
    intro relation hrelation
    obtain ⟨hmem, hdead⟩ := List.mem_filter.mp hrelation
    exact ⟨hmem, (of_decide_eq_true hdead).1⟩
  have hnodup : ((store.dead dataSeriesId olderThan).map IndexRelation.indexId).Nodup :=
    List.Nodup.sublist (List.filter_sublist.map _) hinv.consistent.relations_nodup
  constructor
  · rintro ⟨pruned, hok, -, -⟩
    rw [pruneMetaModel] at hok
    rcases backend with ⟨backend, rfl | rfl⟩
    · right
      refine ⟨rfl, ?_⟩
      intro relation hrelation
      obtain ⟨only, honly⟩ := registered_of_pruned hnodup hok relation hrelation
      exact not_hasRow_flatHistory hinv (hrelations relation hrelation).1 honly
    · exact Or.inl (eq_nil_of_pruned_flatHistory hok)
  · rintro (hnone | ⟨hbackend, hhistory⟩)
    · refine ⟨store, ?_, by simp [hnone], by simp [hnone]⟩
      rw [pruneMetaModel, hnone]
      rfl
    · have hdead : ∀ relation ∈ store.dead dataSeriesId olderThan,
          store.Prunable (catalog dataSeriesId).schema relation := by
        intro relation hrelation
        obtain ⟨hmem, hseries⟩ := hrelations relation hrelation
        rw [← hseries]
        exact prunable_of_inv hinv hmem (hhistory relation hrelation)
      obtain ⟨pruned, hok, hregistry, hindexes⟩ := foldlM_pruneUserDefinedIndex hnodup hdead
      refine ⟨pruned, ?_, hregistry, ?_⟩
      · rw [pruneMetaModel, hbackend]
        exact hok
      · rw [hindexes]
        apply List.filter_congr
        intro index hindex
        rw [decide_eq_decide]
        refine forall₂_congr fun relation hrelation => not_congr ?_
        rw [DatabaseIndex.BelongsTo, (hrelations relation hrelation).2]
        refine and_congr_right fun _ => ⟨Or.inl, ?_⟩
        rintro (hname | hname)
        · exact hname
        · have hflat : index.name = TargetTableType.flatHistory.relName relation.indexId := hname
          exact absurd (hasRow_of_relName hinv.consistent hindex hflat)
            (hhistory relation hrelation)

end Prune

namespace IndexWitness

def catalog (_ : Uuid) : SeriesLocation := ⟨"shop", "_3_tenant_shop"⟩

def indexId : IndexId := ⟨"00000000-0000-0000-0000-000000000001", by decide⟩

/-- An index of a data series with a flat history is created and deleted. -/
def actions : List IndexAction :=
  [.create "series" (fun _ => [("fact", "fact_a")]) [⟨.fact .float, "fact"⟩]
    ⟨.dynamicSqlMaterializedFlatHistory, Or.inr rfl⟩ indexId,
    .softDelete indexId 5]

theorem flatHistory_index_not_pruned :
    ¬ PruneExact catalog "series" .dynamicSqlMaterializedFlatHistory 9
      (Runs.run (indexStep catalog) IndexStore.empty actions) := by
  rintro ⟨pruned, hok, -, -⟩
  have hprune : pruneMetaModel catalog "series" .dynamicSqlMaterializedFlatHistory 9
      (Runs.run (indexStep catalog) IndexStore.empty actions) =
    .error ("Unexpected amount of indexes registered in IndexByUUID with is UUID: " ++
      indexId.value) := rfl
  rw [hprune] at hok
  cases hok

end IndexWitness

end NFCompose
