/-
The structure endpoints of the server: data series with their facts, dimensions,
consumers and indexes, and the requests that create, update and delete them.
Every child endpoint is the same view, with a child type as its parameter.  A
request that the server rejects leaves no server to go on with.
-/
import Mathlib.Logic.Function.Basic
import NFCompose.DataModel

namespace NFCompose

inductive FactType where
  | float
  | string
  | text
  | timestamp
  | image
  | file
  | json
  | boolean
deriving DecidableEq, Repr

/-- `IndexableDataSeriesChildType`. -/
inductive StructureType where
  | fact (type : FactType)
  | dimension
deriving DecidableEq, Repr

inductive ChildType where
  | element (type : StructureType)
  | consumer
  | index
deriving DecidableEq, Repr

structure Fact where
  name : String
  optional : Bool
deriving DecidableEq, Repr

structure Dimension where
  name : String
  optional : Bool
  reference : ExternalId
deriving DecidableEq, Repr

/-- The server stores the uuid of the target; while an index has a target, that
target cannot be deleted, so its external id names the same element. -/
structure IndexTarget where
  targetExternalId : ExternalId
  targetType : StructureType
deriving DecidableEq, Repr

structure Index where
  name : String
  targets : List IndexTarget
deriving DecidableEq, Repr

variable {C X : Type}

/-- What a child of a type consists of, next to its external id.  `C` is the
configuration of a consumer. -/
@[reducible] def Content (C : Type) : ChildType → Type
  | .element (.fact _) => Fact
  | .element .dimension => Dimension
  | .consumer => C
  | .index => Index

instance decidableEqContent [DecidableEq C] :
    (type : ChildType) → DecidableEq (Content C type)
  | .element (.fact _) => inferInstanceAs (DecidableEq Fact)
  | .element .dimension => inferInstanceAs (DecidableEq Dimension)
  | .consumer => inferInstanceAs (DecidableEq C)
  | .index => inferInstanceAs (DecidableEq Index)

/-- A definition and the external id it is known by. -/
structure Identifiable (P : Type) where
  externalId : ExternalId
  content : P
deriving DecidableEq, Repr

/-- A data series without its children; `X` is the extra configuration. -/
structure SeriesHeader (X : Type) where
  name : String
  backend : StorageBackendType
  extraConfig : X
  allowExtraFields : Bool
deriving DecidableEq, Repr

abbrev ChildTable (C : Type) (type : ChildType) := AList fun _ : ExternalId => Content C type

structure SeriesState (C X : Type) where
  header : SeriesHeader X
  locked : Bool
  children : (type : ChildType) → ChildTable C type

/-- The data series of a tenant. -/
abbrev Server (C X : Type) := AList fun _ : ExternalId => SeriesState C X

/-- What lies outside of the structure views: what the serializer fields make of
a value (`none` when they refuse it), and whether a backend migration is done
before the next request. -/
structure ServerConfig (C X : Type) where
  charField : String → Option String
  extraConfig : X → Bool
  consumer : C → Option C
  migratesAtOnce : Bool

inductive ChildRequest (C : Type) where
  | delete (type : ChildType) (externalId : ExternalId)
  | create (type : ChildType) (child : Identifiable (Content C type))
  | update (type : ChildType) (externalId : ExternalId)
      (child : Identifiable (Content C type))

theorem not_mem_of_safe {externalId : ExternalId}
    (hsafe : validateExternalIdSqlSafe externalId = true) {c : Char}
    (hc : (c.isAlphanum || c = '_') = false) : c ∉ externalId.toList := by
  intro hmem
  simp only [validateExternalIdSqlSafe, Bool.and_eq_true, List.all_eq_true] at hsafe
  rw [hsafe.1.1 c hmem] at hc
  cases hc

def ChildType.externalIdSafe : ChildType → ExternalId → Bool
  | .consumer => validateExternalIdUrlSafe
  | _ => validateExternalIdSqlSafe

def backendIsDeprecated (backend : StorageBackendType) : Bool :=
  backend = .dynamicSqlMaterialized || backend = .dynamicSqlV1

/-- The backends between which a data series can be migrated. -/
def canMigrate (original backend : StorageBackendType) : Bool :=
  original = .dynamicSqlNoHistory && backend = .dynamicSqlMaterializedFlatHistory ||
    original = .dynamicSqlMaterializedFlatHistory && backend = .dynamicSqlNoHistory

namespace SeriesState

/-- `ensure_http_method_globally_allowed`, for a method that writes. -/
def isOpen (series : SeriesState C X) : Bool :=
  !backendIsDeprecated series.header.backend && !series.locked

def setChildren (series : SeriesState C X) (type : ChildType) (table : ChildTable C type) :
    SeriesState C X :=
  { series with children := Function.update series.children type table }

/-- The types whose external ids `validate_external_id` looks at.  Files are not
among them. -/
def checkedTypes : List StructureType :=
  [.dimension, .fact .json, .fact .image, .fact .string, .fact .text, .fact .float,
    .fact .boolean, .fact .timestamp]

/-- No child has the external id of a new one: the serializer looks through the
structure elements, the database has a constraint for each type. -/
def externalIdFree (series : SeriesState C X) (type : ChildType) (externalId : ExternalId) :
    Bool :=
  externalId ∉ series.children type &&
    match type with
    | .element _ => checkedTypes.all fun type => externalId ∉ series.children (.element type)
    | _ => true

/-- `get_indexes_by_target_id` finds an index. -/
def isTargeted (series : SeriesState C X) (target : IndexTarget) : Bool :=
  (series.children .index).entries.any fun entry => target ∈ entry.2.targets

/-- The references of a child resolve. -/
def referencesResolve (seriesExists : ExternalId → Bool) (series : SeriesState C X) :
    (type : ChildType) → Content C type → Bool
  | .element .dimension, dimension => seriesExists dimension.reference
  | .index, index => index.targets.all fun target =>
      target.targetExternalId ∈ series.children (.element target.targetType)
  | .element (.fact _), _ => true
  | .consumer, _ => true

end SeriesState

/-- What the fields of the serializer of a type make of a child. -/
def ServerConfig.cleanContent (config : ServerConfig C X) :
    (type : ChildType) → Content C type → Option (Content C type)
  | .element (.fact _), fact => (config.charField fact.name).map fun name =>
      { fact with name := name }
  | .element .dimension, dimension => (config.charField dimension.name).map fun name =>
      { dimension with name := name }
  | .consumer, consumer => config.consumer consumer
  | .index, index =>
      if index.targets.Nodup then (config.charField index.name).map fun name =>
        { index with name := name }
      else none

/-- A new index needs a target. -/
def mayCreate : (type : ChildType) → Content C type → Bool
  | .index, index => index.targets ≠ []
  | .element _, _ => true
  | .consumer, _ => true

/-- A dimension keeps its reference and an index its targets. -/
def mayUpdate : (type : ChildType) → Content C type → Content C type → Bool
  | .element .dimension, original, dimension => original.reference = dimension.reference
  | .index, original, index => original.targets = index.targets
  | .element (.fact _), _, _ => true
  | .consumer, _, _ => true

/-- The requests of `relation_dataseries_child_view_set`. -/
def SeriesState.request (config : ServerConfig C X) (seriesExists : ExternalId → Bool)
    (series : SeriesState C X) : ChildRequest C → Option (SeriesState C X)
  | .delete type externalId =>
      if series.isOpen && externalId ∈ series.children type &&
          (match type with
            | .element target => !series.isTargeted ⟨externalId, target⟩
            | _ => true) then
        some (series.setChildren type ((series.children type).erase externalId))
      else none
  | .create type child =>
      if series.isOpen && series.externalIdFree type child.externalId &&
          type.externalIdSafe child.externalId && mayCreate type child.content &&
          series.referencesResolve seriesExists type child.content then
        (config.cleanContent type child.content).map fun content =>
          series.setChildren type ((series.children type).insert child.externalId content)
      else none
  | .update type externalId child =>
      ((series.children type).lookup externalId).bind fun original =>
        if series.isOpen && child.externalId = externalId &&
            type.externalIdSafe externalId && mayUpdate type original child.content &&
            series.referencesResolve seriesExists type child.content then
          (config.cleanContent type child.content).map fun content =>
            series.setChildren type ((series.children type).insert externalId content)
        else none

namespace Server

/-- Another data series has a dimension that refers to this one. -/
def isReferenced (server : Server C X) (externalId : ExternalId) : Bool :=
  server.entries.any fun entry => entry.1 ≠ externalId &&
    (entry.2.children (.element .dimension)).entries.any fun dimension =>
      dimension.2.reference = externalId

/-- `DataSeriesViewSet.destroy`. -/
def deleteSeries (server : Server C X) (externalId : ExternalId) : Option (Server C X) :=
  (server.lookup externalId).bind fun series =>
    if series.isOpen && !server.isReferenced externalId then some (server.erase externalId)
    else none

/-- The fields of `DataSeriesSerializer`, apart from the change of a backend. -/
def cleanHeader (config : ServerConfig C X) (series : Identifiable (SeriesHeader X)) :
    Option (SeriesHeader X) :=
  if validateExternalIdSqlSafe series.externalId && config.extraConfig series.content.extraConfig &&
      !backendIsDeprecated series.content.backend then
    (config.charField series.content.name).map fun name => { series.content with name := name }
  else none

def createSeries (config : ServerConfig C X) (server : Server C X)
    (series : Identifiable (SeriesHeader X)) : Option (Server C X) :=
  if series.externalId ∉ server then
    (cleanHeader config series).map fun header =>
      server.insert series.externalId
        { header := header, locked := false, children := fun _ => ∅ }
  else none

/-- A PATCH of a data series.  A new backend locks it until it is migrated. -/
def updateSeries (config : ServerConfig C X) (original : SeriesState C X)
    (externalId : ExternalId) (series : Identifiable (SeriesHeader X)) :
    Option (SeriesState C X) :=
  if original.isOpen && series.externalId = externalId &&
      (original.header.backend = series.content.backend ||
        canMigrate original.header.backend series.content.backend) then
    (cleanHeader config series).map fun header =>
      { original with
        header := header
        locked := if original.header.backend = header.backend then original.locked
          else !config.migratesAtOnce }
  else none

end Server

end NFCompose
