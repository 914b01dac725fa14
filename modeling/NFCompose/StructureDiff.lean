/-
The client side of a structural migration: the definitions of data series, their
diff and the pusher that turns a diff into requests.
-/
import NFCompose.KeyedDiff
import NFCompose.KeyedTable
import NFCompose.PartialRuns
import NFCompose.StructureServer

namespace NFCompose

open KeyedDiff KeyedTable PartialRuns

variable {C X P : Type}

/-- A definition of a data series; its facts, dimensions, consumers and indexes
are lists of their own. -/
structure DataSeriesDefinition (C X : Type) where
  dataSeries : Identifiable (SeriesHeader X)
  children : (type : ChildType) → List (Identifiable (Content C type))

def DataSeriesDefinition.externalId (definition : DataSeriesDefinition C X) : ExternalId :=
  definition.dataSeries.externalId

/-- The fields of `DataSeriesStructure`, in their order. -/
def structureTypes : List StructureType :=
  [.fact .float, .fact .string, .fact .text, .fact .timestamp, .fact .image, .fact .file,
    .fact .json, .fact .boolean, .dimension]

/-- The elements of a table as definitions. -/
def dump (table : AList fun _ : ExternalId => P) : List (Identifiable P) :=
  table.entries.map fun entry => ⟨entry.1, entry.2⟩

/-- The definitions of what is on a server. -/
def Server.definitions (server : Server C X) : List (DataSeriesDefinition C X) :=
  server.entries.map fun entry =>
    { dataSeries := ⟨entry.1, entry.2.header⟩
      children := fun type => dump (entry.2.children type) }

section Diff

variable [DecidableEq C] [DecidableEq X] [DecidableEq P]

/-- `list_diff_dataseries_child`. -/
def listDiffDataseriesChild (sets : SetOrder ExternalId)
    (base target : List (Identifiable P)) (deleteMissing : Bool)
    (recreateInsteadOfUpdate : Identifiable P → Identifiable P → Bool) :
    List (KeyOperation ExternalId (Identifiable P)) :=
  diff sets deleteMissing (recreateOrUpdate recreateInsteadOfUpdate)
    (toDict Identifiable.externalId base) (toDict Identifiable.externalId target)

omit [DecidableEq C] in
/-- The targets of an index cannot be updated, nor the reference of a
dimension. -/
def recreateInsteadOfUpdate : (type : ChildType) → Content C type → Content C type → Bool
  | .element .dimension, base, target => base.reference ≠ target.reference
  | .index, base, target => base.targets ≠ target.targets
  | .element (.fact _), _, _ => false
  | .consumer, _, _ => false

structure DataSeriesDefinitionDiff (C X : Type) where
  externalId : ExternalId
  dataSeries : Option (OperationType × SeriesHeader X)
  children : (type : ChildType) → List (KeyOperation ExternalId (Identifiable (Content C type)))

/-- The parts of a diff below the data series itself. -/
def childrenDiff (sets : SetOrder ExternalId)
    (base target : (type : ChildType) → List (Identifiable (Content C type)))
    (type : ChildType) : List (KeyOperation ExternalId (Identifiable (Content C type))) :=
  listDiffDataseriesChild sets (base type) (target type) true fun base target =>
    recreateInsteadOfUpdate type base.content target.content

/-- `diff_data_series`, with the options for missing children at their defaults.
It raises when both sides are missing. -/
def diffDataSeries (sets : SetOrder ExternalId) (deleteInBase : Bool)
    (base target : Option (DataSeriesDefinition C X)) :
    Option (DataSeriesDefinitionDiff C X) :=
  match base, target with
  | none, none => none
  | none, some target => some
      { externalId := target.externalId
        dataSeries := some (.create, target.dataSeries.content)
        children := childrenDiff sets (fun _ => []) target.children }
  | some base, none =>
      if deleteInBase then some
        { externalId := base.externalId
          dataSeries := some (.delete, base.dataSeries.content)
          children := childrenDiff sets base.children fun _ => [] }
      else some
        { externalId := base.externalId, dataSeries := none, children := fun _ => [] }
  | some base, some target => some
      { externalId := base.externalId
        dataSeries := if base.dataSeries ≠ target.dataSeries then
            some (.update, target.dataSeries.content) else none
        children := childrenDiff sets base.children target.children }

/-- `diff_all_data_series`. -/
def diffAllDataSeries (sets : SetOrder ExternalId)
    (base target : List (DataSeriesDefinition C X)) (deleteInBase : Bool) :
    List (DataSeriesDefinitionDiff C X) :=
  let baseByExternalId := toDict DataSeriesDefinition.externalId base
  let targetByExternalId := toDict DataSeriesDefinition.externalId target
  let allExternalIds :=
    sets.order (baseByExternalId.keys ++ targetByExternalId.keys).dedup
  allExternalIds.filterMap fun externalId =>
    diffDataSeries sets deleteInBase (baseByExternalId.lookup externalId)
      (targetByExternalId.lookup externalId)

end Diff

namespace DataSeriesDefinitionDiff

def ofType (diff : DataSeriesDefinitionDiff C X) (operationType : OperationType)
    (type : ChildType) : List (KeyOperation ExternalId (Identifiable (Content C type))) :=
  (diff.children type).filter fun operation => operation.operationType = operationType

def deletes (diff : DataSeriesDefinitionDiff C X) (type : ChildType) :
    List (ChildRequest C) :=
  (diff.ofType .delete type).map fun operation => .delete type operation.key

def creates (diff : DataSeriesDefinitionDiff C X) (type : ChildType) :
    List (ChildRequest C) :=
  (diff.ofType .create type).map fun operation => .create type operation.payload

def updates (diff : DataSeriesDefinitionDiff C X) (type : ChildType) :
    List (ChildRequest C) :=
  (diff.ofType .update type).map fun operation => .update type operation.key operation.payload

/-- Indexes are deleted before the facts they may refer to. -/
def deleteRequests (diff : DataSeriesDefinitionDiff C X) : List (ChildRequest C) :=
  diff.deletes .index ++ (structureTypes.flatMap fun type => diff.deletes (.element type)) ++
    diff.deletes .consumer

/-- Indexes are created and updated after the facts. -/
def createUpdateRequests (diff : DataSeriesDefinitionDiff C X) : List (ChildRequest C) :=
  (structureTypes.flatMap fun type => diff.creates (.element type)) ++
    (structureTypes.flatMap fun type => diff.updates (.element type)) ++
    diff.creates .consumer ++ diff.updates .consumer ++
    diff.creates .index ++ diff.updates .index

def hasOperation (diff : DataSeriesDefinitionDiff C X) (operationType : OperationType) : Bool :=
  match diff.dataSeries with
  | some (type, _) => type = operationType
  | none => false

end DataSeriesDefinitionDiff

namespace DataSeriesDefinitionDiffPusher

/-- The requests of one diff go to one data series, which the pusher first reads
to see whether the server has an index endpoint.  `urls` are the data series
whose URLs are known; a URL is written as the external id. -/
def pushChildren (config : ServerConfig C X) (urls : ExternalId → Bool)
    (requests : DataSeriesDefinitionDiff C X → List (ChildRequest C))
    (diffs : List (DataSeriesDefinitionDiff C X)) (server : Server C X) :
    Option (Server C X) :=
  modifyEach (diffs.map fun diff =>
    (diff.externalId, fun series => attempt (SeriesState.request config urls) series
      (requests diff))) server

/-- `_migrate_bare_data_series`: deletions, then creations, then updates. -/
def migrateBareDataSeries (config : ServerConfig C X)
    (diffs : List (DataSeriesDefinitionDiff C X)) (server : Server C X) :
    Option (Server C X) := do
  let ofType := fun operationType => diffs.filter (·.hasOperation operationType)
  let deleted ← attempt Server.deleteSeries server
    ((ofType .delete).map fun diff => diff.externalId)
  let created ← attempt (Server.createSeries config) deleted
    ((ofType .create).filterMap fun diff =>
      diff.dataSeries.map fun operation => ⟨diff.externalId, operation.2⟩)
  modifyEach ((ofType .update).filterMap fun diff =>
    diff.dataSeries.map fun operation => (diff.externalId, fun series =>
      Server.updateSeries config series diff.externalId ⟨diff.externalId, operation.2⟩)) created

/-- `push`, up to the permissions of groups.  No request of the first and of the
last phase creates or deletes a data series, so the URLs are the same all the
time. -/
def push (config : ServerConfig C X) (diffs : List (DataSeriesDefinitionDiff C X))
    (server : Server C X) : Option (Server C X) := do
  let cleared ← pushChildren config (fun externalId => externalId ∈ server)
    DataSeriesDefinitionDiff.deleteRequests
    (diffs.filter fun diff => !diff.hasOperation .create) server
  let migrated ← migrateBareDataSeries config diffs cleared
  pushChildren config (fun externalId => externalId ∈ migrated)
    DataSeriesDefinitionDiff.createUpdateRequests
    (diffs.filter fun diff => !diff.hasOperation .delete) migrated

end DataSeriesDefinitionDiffPusher

theorem mem_structureTypes (type : StructureType) : type ∈ structureTypes := by
  cases type with
  | fact type => cases type <;> decide
  | dimension => decide

theorem structureTypes_nodup : structureTypes.Nodup := by decide

/-- The content that a list of definitions has under an external id. -/
def contentAt (definitions : List (Identifiable P)) (externalId : ExternalId) : Option P :=
  ((toDict Identifiable.externalId definitions).lookup externalId).map Identifiable.content

theorem lookup_toDict_eq (definitions : List (Identifiable P)) (externalId : ExternalId) :
    (toDict Identifiable.externalId definitions).lookup externalId =
      (contentAt definitions externalId).map (Identifiable.mk externalId) := by
  cases hlookup : (toDict Identifiable.externalId definitions).lookup externalId with
  | none => simp [contentAt, hlookup]
  | some found =>
      obtain ⟨-, hkey⟩ := mem_of_lookup_toDict hlookup
      simp [contentAt, hlookup, ← hkey]

theorem contentAt_eq_some {definitions : List (Identifiable P)}
    (hnodup : (definitions.map Identifiable.externalId).Nodup) {externalId : ExternalId}
    {content : P} :
    contentAt definitions externalId = some content ↔ ⟨externalId, content⟩ ∈ definitions := by
  rw [contentAt, Option.map_eq_some_iff]
  constructor
  · rintro ⟨found, hfound, rfl⟩
    obtain ⟨hmem, rfl⟩ := (lookup_toDict hnodup).mp hfound
    exact hmem
  · intro hmem
    exact ⟨⟨externalId, content⟩, (lookup_toDict hnodup).mpr ⟨hmem, rfl⟩, rfl⟩

theorem contentAt_nil (externalId : ExternalId) :
    contentAt ([] : List (Identifiable P)) externalId = none := rfl

/-- A dumped table has its rows as content. -/
theorem contentAt_dump (table : AList fun _ : ExternalId => P) (externalId : ExternalId) :
    contentAt (dump table) externalId = table.lookup externalId := by
  have hnodup : ((dump table).map Identifiable.externalId).Nodup := by
    rw [dump, List.map_map]
    exact table.nodupKeys
  apply Option.ext
  intro content
  rw [contentAt_eq_some hnodup, ← mem_entries_iff, dump, List.mem_map]
  constructor
  · rintro ⟨entry, hentry, heq⟩
    cases heq
    exact hentry
  · intro hentry
    exact ⟨_, hentry, rfl⟩

section Requests

variable [DecidableEq C] [DecidableEq X]

/-- Whether the content of a child is dropped, added or changed, by what the
base and the target have for it. -/
def Deleted (type : ChildType) (base target : Option (Content C type)) : Prop :=
  ∃ old, base = some old ∧
    ∀ next, target = some next → next ≠ old ∧ recreateInsteadOfUpdate type old next = true

def Created (type : ChildType) (base target : Option (Content C type))
    (next : Content C type) : Prop :=
  target = some next ∧
    ∀ old, base = some old → next ≠ old ∧ recreateInsteadOfUpdate type old next = true

def Updated (type : ChildType) (base target : Option (Content C type))
    (next : Content C type) : Prop :=
  target = some next ∧
    ∃ old, base = some old ∧ next ≠ old ∧ recreateInsteadOfUpdate type old next = false

variable {sets : SetOrder ExternalId}
  {base target : (type : ChildType) → List (Identifiable (Content C type))}
  {difference : DataSeriesDefinitionDiff C X}

omit [DecidableEq X] in
theorem mem_deletes (hchildren : difference.children = childrenDiff sets base target)
    {type : ChildType} {request : ChildRequest C} :
    request ∈ difference.deletes type ↔ ∃ externalId, request = .delete type externalId ∧
      Deleted type (contentAt (base type) externalId) (contentAt (target type) externalId) := by
  simp only [DataSeriesDefinitionDiff.deletes, DataSeriesDefinitionDiff.ofType, hchildren,
    childrenDiff, listDiffDataseriesChild, List.mem_map, List.mem_filter, decide_eq_true_eq]
  constructor
  · rintro ⟨⟨operationType, key, payload⟩, ⟨hmem, rfl⟩, rfl⟩
    rw [mem_diff_delete] at hmem
    obtain ⟨hbase, htarget⟩ := hmem
    rw [lookup_toDict_eq, Option.map_eq_some_iff] at hbase
    obtain ⟨old, hold, rfl⟩ := hbase
    refine ⟨key, rfl, old, hold, fun next hnext => ?_⟩
    rw [lookup_toDict_eq, hnext] at htarget
    simpa using htarget
  · rintro ⟨externalId, rfl, old, hold, hnext⟩
    refine ⟨⟨.delete, externalId, ⟨externalId, old⟩⟩, ⟨?_, rfl⟩, rfl⟩
    rw [mem_diff_delete, lookup_toDict_eq, lookup_toDict_eq, hold]
    refine ⟨rfl, ?_⟩
    cases htarget : contentAt (target type) externalId with
    | none => exact Or.inl ⟨rfl, rfl⟩
    | some next => simpa using hnext next htarget

omit [DecidableEq X] in
theorem mem_creates (hchildren : difference.children = childrenDiff sets base target)
    {type : ChildType} {request : ChildRequest C} :
    request ∈ difference.creates type ↔
      ∃ externalId next, request = .create type ⟨externalId, next⟩ ∧
        Created type (contentAt (base type) externalId)
          (contentAt (target type) externalId) next := by
  simp only [DataSeriesDefinitionDiff.creates, DataSeriesDefinitionDiff.ofType, hchildren,
    childrenDiff, listDiffDataseriesChild, List.mem_map, List.mem_filter, decide_eq_true_eq]
  constructor
  · rintro ⟨⟨operationType, key, payload⟩, ⟨hmem, rfl⟩, rfl⟩
    rw [mem_diff_create] at hmem
    obtain ⟨htarget, hbase⟩ := hmem
    rw [lookup_toDict_eq, Option.map_eq_some_iff] at htarget
    obtain ⟨next, hnext, rfl⟩ := htarget
    refine ⟨key, next, rfl, hnext, fun old hold => ?_⟩
    rw [lookup_toDict_eq, hold] at hbase
    simpa using hbase
  · rintro ⟨externalId, next, rfl, hnext, hold⟩
    refine ⟨⟨.create, externalId, ⟨externalId, next⟩⟩, ⟨?_, rfl⟩, rfl⟩
    rw [mem_diff_create, lookup_toDict_eq, lookup_toDict_eq, hnext]
    refine ⟨rfl, ?_⟩
    cases hbase : contentAt (base type) externalId with
    | none => simp
    | some old => simpa using hold old hbase

omit [DecidableEq X] in
theorem mem_updates (hchildren : difference.children = childrenDiff sets base target)
    {type : ChildType} {request : ChildRequest C} :
    request ∈ difference.updates type ↔
      ∃ externalId next, request = .update type externalId ⟨externalId, next⟩ ∧
        Updated type (contentAt (base type) externalId)
          (contentAt (target type) externalId) next := by
  simp only [DataSeriesDefinitionDiff.updates, DataSeriesDefinitionDiff.ofType, hchildren,
    childrenDiff, listDiffDataseriesChild, List.mem_map, List.mem_filter, decide_eq_true_eq]
  constructor
  · rintro ⟨⟨operationType, key, payload⟩, ⟨hmem, rfl⟩, rfl⟩
    rw [mem_diff_update] at hmem
    obtain ⟨htarget, hbase⟩ := hmem
    rw [lookup_toDict_eq, Option.map_eq_some_iff] at htarget
    obtain ⟨next, hnext, rfl⟩ := htarget
    refine ⟨key, next, rfl, hnext, ?_⟩
    rw [lookup_toDict_eq] at hbase
    cases hold : contentAt (base type) key with
    | none => simp [hold] at hbase
    | some old => exact ⟨old, rfl, by simpa [hold] using hbase⟩
  · rintro ⟨externalId, next, rfl, hnext, old, hold, hne, hupdate⟩
    refine ⟨⟨.update, externalId, ⟨externalId, next⟩⟩, ⟨?_, rfl⟩, rfl⟩
    rw [mem_diff_update, lookup_toDict_eq, lookup_toDict_eq, hnext, hold]
    exact ⟨rfl, ⟨externalId, old⟩, rfl, by simpa using hne, hupdate⟩

omit [DecidableEq C] in
theorem not_created_and_updated {type : ChildType} {base target : Option (Content C type)}
    {next next' : Content C type} (hcreated : Created type base target next)
    (hupdated : Updated type base target next') : False := by
  obtain ⟨htarget, hcreated⟩ := hcreated
  obtain ⟨htarget', old, hold, -, hupdate⟩ := hupdated
  obtain rfl : next = next' := Option.some.inj (htarget.symm.trans htarget')
  rw [(hcreated old hold).2] at hupdate
  exact Bool.noConfusion hupdate

/-- The child that a request is about. -/
def ChildRequest.key : ChildRequest C → ChildType × ExternalId
  | .delete type externalId => (type, externalId)
  | .create type child => (type, child.externalId)
  | .update type externalId _ => (type, externalId)

omit [DecidableEq C] in
theorem keys_nodup_of_type {operations : List (KeyOperation ExternalId P)}
    (hnodup : (operations.map KeyOperation.key).Nodup) (type : ChildType)
    {request : KeyOperation ExternalId P → ChildRequest C}
    (hkey : ∀ operation ∈ operations, (request operation).key = (type, operation.key)) :
    ((operations.map request).map ChildRequest.key).Nodup := by
  have hmap : (operations.map request).map ChildRequest.key =
      (operations.map KeyOperation.key).map fun externalId => (type, externalId) := by
    rw [List.map_map, List.map_map]
    exact List.map_congr_left hkey
  rw [hmap]
  exact hnodup.map fun left right heq => (Prod.mk.inj heq).2

omit [DecidableEq C] in
/-- Requests for different element types have different keys. -/
theorem keys_nodup_flatMap {types : List StructureType} (htypes : types.Nodup)
    {requests : ChildType → List (ChildRequest C)}
    (hnodup : ∀ type, ((requests type).map ChildRequest.key).Nodup)
    (htype : ∀ type, ∀ request ∈ requests type, request.key.1 = type) :
    ((types.flatMap fun type => requests (.element type)).map ChildRequest.key).Nodup := by
  induction types with
  | nil => simp
  | cons type rest ih =>
      rw [List.nodup_cons] at htypes
      rw [List.flatMap_cons, List.map_append, List.nodup_append]
      refine ⟨hnodup _, ih htypes.2, ?_⟩
      intro key hkey key' hkey' heq
      subst heq
      obtain ⟨request, hrequest, rfl⟩ := List.mem_map.mp hkey
      obtain ⟨request', hrequest', hkeys⟩ := List.mem_map.mp hkey'
      obtain ⟨type', htype', hrequest'⟩ := List.mem_flatMap.mp hrequest'
      have hsame : ChildType.element type' = .element type := by
        rw [← htype _ _ hrequest', hkeys, htype _ _ hrequest]
      exact htypes.1 (ChildType.element.inj hsame ▸ htype')

omit [DecidableEq X] in
theorem ofType_keys_nodup (hchildren : difference.children = childrenDiff sets base target)
    (operationType : OperationType) (type : ChildType) :
    ((difference.ofType operationType type).map KeyOperation.key).Nodup := by
  simp only [DataSeriesDefinitionDiff.ofType, hchildren]
  exact diff_keys_nodup _ _ _ _ _ _

omit [DecidableEq X] in
theorem deletes_keys_nodup (hchildren : difference.children = childrenDiff sets base target)
    (type : ChildType) : ((difference.deletes type).map ChildRequest.key).Nodup := by
  refine keys_nodup_of_type (ofType_keys_nodup hchildren .delete type) type ?_
  intro operation _
  rfl

omit [DecidableEq X] in
theorem creates_keys_nodup (hchildren : difference.children = childrenDiff sets base target)
    (type : ChildType) : ((difference.creates type).map ChildRequest.key).Nodup := by
  refine keys_nodup_of_type (ofType_keys_nodup hchildren .create type) type ?_
  intro operation hoperation
  -- the payload of a creation carries the key of its operation
  have hmem : operation ∈ (difference.children type).filter
    fun operation => operation.operationType = .create := hoperation
  rw [hchildren, List.mem_filter, decide_eq_true_eq] at hmem
  obtain ⟨hmem, htype⟩ := hmem
  obtain ⟨operationType, key, payload⟩ := operation
  subst htype
  obtain ⟨hlookup, -⟩ := mem_diff_create.mp hmem
  obtain ⟨-, hkey⟩ := mem_of_lookup_toDict hlookup
  exact congrArg (Prod.mk type) hkey

omit [DecidableEq X] in
theorem updates_keys_nodup (hchildren : difference.children = childrenDiff sets base target)
    (type : ChildType) : ((difference.updates type).map ChildRequest.key).Nodup := by
  refine keys_nodup_of_type (ofType_keys_nodup hchildren .update type) type ?_
  intro operation _
  rfl

omit [DecidableEq X] in
theorem mem_deleteRequests (hchildren : difference.children = childrenDiff sets base target)
    {request : ChildRequest C} :
    request ∈ difference.deleteRequests ↔ ∃ type externalId,
      request = .delete type externalId ∧
        Deleted type (contentAt (base type) externalId)
          (contentAt (target type) externalId) := by
  simp only [DataSeriesDefinitionDiff.deleteRequests, List.mem_append, List.mem_flatMap,
    mem_deletes hchildren]
  constructor
  · rintro ((⟨externalId, h⟩ | ⟨type, -, externalId, h⟩) | ⟨externalId, h⟩)
    · exact ⟨_, externalId, h⟩
    · exact ⟨_, externalId, h⟩
    · exact ⟨_, externalId, h⟩
  · rintro ⟨type, externalId, h⟩
    cases type with
    | index => exact Or.inl (Or.inl ⟨externalId, h⟩)
    | element type => exact Or.inl (Or.inr ⟨type, mem_structureTypes type, externalId, h⟩)
    | consumer => exact Or.inr ⟨externalId, h⟩

omit [DecidableEq X] in
theorem mem_createUpdateRequests
    (hchildren : difference.children = childrenDiff sets base target)
    {request : ChildRequest C} :
    request ∈ difference.createUpdateRequests ↔ ∃ type externalId next,
      request = .create type ⟨externalId, next⟩ ∧
          Created type (contentAt (base type) externalId)
            (contentAt (target type) externalId) next ∨
        request = .update type externalId ⟨externalId, next⟩ ∧
          Updated type (contentAt (base type) externalId)
            (contentAt (target type) externalId) next := by
  simp only [DataSeriesDefinitionDiff.createUpdateRequests, List.mem_append,
    List.mem_flatMap, mem_creates hchildren, mem_updates hchildren]
  constructor
  · rintro (((((⟨type, -, externalId, next, h⟩ | ⟨type, -, externalId, next, h⟩) |
      ⟨externalId, next, h⟩) | ⟨externalId, next, h⟩) | ⟨externalId, next, h⟩) |
      ⟨externalId, next, h⟩)
    · exact ⟨_, externalId, next, Or.inl h⟩
    · exact ⟨_, externalId, next, Or.inr h⟩
    · exact ⟨_, externalId, next, Or.inl h⟩
    · exact ⟨_, externalId, next, Or.inr h⟩
    · exact ⟨_, externalId, next, Or.inl h⟩
    · exact ⟨_, externalId, next, Or.inr h⟩
  · rintro ⟨type, externalId, next, h | h⟩
    · cases type with
      | element type =>
          exact Or.inl (Or.inl (Or.inl (Or.inl (Or.inl
            ⟨type, mem_structureTypes type, externalId, next, h⟩))))
      | consumer => exact Or.inl (Or.inl (Or.inl (Or.inr ⟨externalId, next, h⟩)))
      | index => exact Or.inl (Or.inr ⟨externalId, next, h⟩)
    · cases type with
      | element type =>
          exact Or.inl (Or.inl (Or.inl (Or.inl (Or.inr
            ⟨type, mem_structureTypes type, externalId, next, h⟩))))
      | consumer => exact Or.inl (Or.inl (Or.inr ⟨externalId, next, h⟩))
      | index => exact Or.inr ⟨externalId, next, h⟩

/-- The stages in which a push sends the requests of one diff: indexes, elements
and consumers are deleted, then elements, consumers and indexes are created and
updated. -/
def ChildRequest.stage : ChildRequest C → Nat
  | .delete .index _ => 0
  | .delete (.element _) _ => 1
  | .delete .consumer _ => 2
  | .create (.element _) _ => 3
  | .update (.element _) _ _ => 4
  | .create .consumer _ => 5
  | .update .consumer _ _ => 6
  | .create .index _ => 7
  | .update .index _ _ => 8

/-- The requests come in stages and go to different children. -/
def Staged (requests : List (ChildRequest C)) : Prop :=
  requests.Pairwise fun request request' =>
    request.stage ≤ request'.stage ∧ request.key ≠ request'.key

omit [DecidableEq C] in
theorem staged_part {requests : List (ChildRequest C)} {stage : Nat}
    (hnodup : (requests.map ChildRequest.key).Nodup)
    (hstage : ∀ request ∈ requests, request.stage = stage) : Staged requests := by
  have hkeys : requests.Pairwise fun request request' => request.key ≠ request'.key :=
    List.pairwise_map.mp hnodup
  refine List.Pairwise.imp_of_mem ?_ hkeys
  intro request request' hrequest hrequest' hne
  exact ⟨le_of_eq ((hstage _ hrequest).trans (hstage _ hrequest').symm), hne⟩

omit [DecidableEq X] in
theorem deleteRequests_staged
    (hchildren : difference.children = childrenDiff sets base target) :
    Staged difference.deleteRequests := by
  have htype : ∀ type, ∀ request ∈ difference.deletes type,
      ∃ externalId, request = .delete type externalId := by
    intro type request hrequest
    obtain ⟨externalId, rfl, -⟩ := (mem_deletes hchildren).mp hrequest
    exact ⟨externalId, rfl⟩
  have hkey : ∀ type, ∀ request ∈ difference.deletes type, request.key.1 = type := by
    intro type request hrequest
    obtain ⟨externalId, rfl⟩ := htype type request hrequest
    rfl
  let parts : List (Nat × List (ChildRequest C)) :=
    [(0, difference.deletes .index),
      (1, structureTypes.flatMap fun type => difference.deletes (.element type)),
      (2, difference.deletes .consumer)]
  have hparts : difference.deleteRequests = parts.flatMap Prod.snd := by
    simp [parts, DataSeriesDefinitionDiff.deleteRequests]
  have hstage : ∀ part ∈ parts, ∀ request ∈ part.2, request.stage = part.1 := by
    simp only [parts, List.forall_mem_cons, List.mem_flatMap]
    refine ⟨?_, ?_, ?_, by simp⟩
    · intro request hrequest
      obtain ⟨externalId, rfl⟩ := htype _ _ hrequest
      rfl
    · rintro request ⟨type, -, hrequest⟩
      obtain ⟨externalId, rfl⟩ := htype _ _ hrequest
      rfl
    · intro request hrequest
      obtain ⟨externalId, rfl⟩ := htype _ _ hrequest
      rfl
  have hnodup : ∀ part ∈ parts, (part.2.map ChildRequest.key).Nodup := by
    simp only [parts, List.forall_mem_cons]
    exact ⟨deletes_keys_nodup hchildren _,
      keys_nodup_flatMap structureTypes_nodup (deletes_keys_nodup hchildren) hkey,
      deletes_keys_nodup hchildren _, by simp⟩
  have hdelete : ∀ part ∈ parts, ∀ request ∈ part.2, ∃ type externalId,
      request = .delete type externalId := by
    intro part hpart request hrequest
    have hmem : request ∈ difference.deleteRequests := by
      rw [hparts]
      exact List.mem_flatMap.mpr ⟨part, hpart, hrequest⟩
    obtain ⟨type, externalId, h, -⟩ := (mem_deleteRequests hchildren).mp hmem
    exact ⟨type, externalId, h⟩
  rw [hparts]
  refine pairwise_stages (by simp [parts]) hstage
    (fun part hpart => staged_part (hnodup part hpart) (hstage part hpart)) ?_
  intro part hpart request hrequest part' hpart' request' hrequest' hlt
  refine ⟨le_of_lt hlt, fun heq => ?_⟩
  obtain ⟨type, externalId, rfl⟩ := hdelete part hpart request hrequest
  obtain ⟨type', externalId', rfl⟩ := hdelete part' hpart' request' hrequest'
  obtain ⟨rfl, rfl⟩ := Prod.mk.inj heq
  exact lt_irrefl _ hlt

omit [DecidableEq X] in
theorem createUpdateRequests_staged
    (hchildren : difference.children = childrenDiff sets base target) :
    Staged difference.createUpdateRequests := by
  have hcreates : ∀ type, ∀ request ∈ difference.creates type,
      ∃ child, request = .create type child := by
    intro type request hrequest
    obtain ⟨externalId, next, rfl, -⟩ := (mem_creates hchildren).mp hrequest
    exact ⟨_, rfl⟩
  have hupdates : ∀ type, ∀ request ∈ difference.updates type,
      ∃ externalId child, request = .update type externalId child := by
    intro type request hrequest
    obtain ⟨externalId, next, rfl, -⟩ := (mem_updates hchildren).mp hrequest
    exact ⟨_, _, rfl⟩
  have hkeyCreates : ∀ type, ∀ request ∈ difference.creates type, request.key.1 = type := by
    intro type request hrequest
    obtain ⟨child, rfl⟩ := hcreates type request hrequest
    rfl
  have hkeyUpdates : ∀ type, ∀ request ∈ difference.updates type, request.key.1 = type := by
    intro type request hrequest
    obtain ⟨externalId, child, rfl⟩ := hupdates type request hrequest
    rfl
  let parts : List (Nat × List (ChildRequest C)) :=
    [(3, structureTypes.flatMap fun type => difference.creates (.element type)),
      (4, structureTypes.flatMap fun type => difference.updates (.element type)),
      (5, difference.creates .consumer), (6, difference.updates .consumer),
      (7, difference.creates .index), (8, difference.updates .index)]
  have hparts : difference.createUpdateRequests = parts.flatMap Prod.snd := by
    simp [parts, DataSeriesDefinitionDiff.createUpdateRequests]
  have hstage : ∀ part ∈ parts, ∀ request ∈ part.2, request.stage = part.1 := by
    simp only [parts, List.forall_mem_cons, List.mem_flatMap]
    refine ⟨?_, ?_, ?_, ?_, ?_, ?_, by simp⟩
    · rintro request ⟨type, -, hrequest⟩
      obtain ⟨child, rfl⟩ := hcreates _ _ hrequest
      rfl
    · rintro request ⟨type, -, hrequest⟩
      obtain ⟨externalId, child, rfl⟩ := hupdates _ _ hrequest
      rfl
    all_goals intro request hrequest
    · obtain ⟨child, rfl⟩ := hcreates _ _ hrequest
      rfl
    · obtain ⟨externalId, child, rfl⟩ := hupdates _ _ hrequest
      rfl
    · obtain ⟨child, rfl⟩ := hcreates _ _ hrequest
      rfl
    · obtain ⟨externalId, child, rfl⟩ := hupdates _ _ hrequest
      rfl
  have hnodup : ∀ part ∈ parts, (part.2.map ChildRequest.key).Nodup := by
    simp only [parts, List.forall_mem_cons]
    exact ⟨keys_nodup_flatMap structureTypes_nodup (creates_keys_nodup hchildren) hkeyCreates,
      keys_nodup_flatMap structureTypes_nodup (updates_keys_nodup hchildren) hkeyUpdates,
      creates_keys_nodup hchildren _, updates_keys_nodup hchildren _,
      creates_keys_nodup hchildren _, updates_keys_nodup hchildren _, by simp⟩
  have hmem : ∀ part ∈ parts, ∀ request ∈ part.2, request ∈ difference.createUpdateRequests := by
    intro part hpart request hrequest
    rw [hparts]
    exact List.mem_flatMap.mpr ⟨part, hpart, hrequest⟩
  rw [hparts]
  refine pairwise_stages (by simp [parts]) hstage
    (fun part hpart => staged_part (hnodup part hpart) (hstage part hpart)) ?_
  intro part hpart request hrequest part' hpart' request' hrequest' hlt
  refine ⟨le_of_lt hlt, fun heq => ?_⟩
  -- of two requests for one child, one would be a creation and one an update
  obtain ⟨type, externalId, next, hplan⟩ :=
    (mem_createUpdateRequests hchildren).mp (hmem part hpart request hrequest)
  obtain ⟨type', externalId', next', hplan'⟩ :=
    (mem_createUpdateRequests hchildren).mp (hmem part' hpart' request' hrequest')
  rcases hplan with ⟨rfl, hplan⟩ | ⟨rfl, hplan⟩ <;>
    rcases hplan' with ⟨rfl, hplan'⟩ | ⟨rfl, hplan'⟩ <;>
    obtain ⟨rfl, rfl⟩ := Prod.mk.inj heq
  · cases type <;> exact lt_irrefl _ hlt
  · exact not_created_and_updated hplan hplan'
  · exact not_created_and_updated hplan' hplan
  · cases type <;> exact lt_irrefl _ hlt

end Requests

end NFCompose
