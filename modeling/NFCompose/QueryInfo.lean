/-
What the queries know of a data series: its tables, and the columns of its
dimensions and facts under their external ids.
-/
import NFCompose.ExternalIds

namespace NFCompose

/-- `sql.Identifier`, for a string that passes `validate_sql_string`. -/
def escape (name : String) : String := "\"" ++ name ++ "\""

/-- What a dimension refers to. -/
structure ReadOnlyDataSeries where
  id : Uuid
  schemaName : String
  mainQueryTableName : String
  materializedFlatHistoryTableName : String
  backend : StorageBackendType
deriving DecidableEq, Repr

/-- A fact with its relation to the data series. -/
structure DataSeriesFactQueryInfo where
  id : Uuid
  relationId : Uuid
  unescapedDisplayId : ExternalId
  valueColumn : String
  pointInTime : Int
deriving DecidableEq, Repr

structure DataSeriesDimensionQueryInfo extends DataSeriesFactQueryInfo where
  reference : ReadOnlyDataSeries
deriving DecidableEq, Repr

@[reducible] def ChildQueryInfo : StructureType → Type
  | .fact _ => DataSeriesFactQueryInfo
  | .dimension => DataSeriesDimensionQueryInfo

def ChildQueryInfo.common : (type : StructureType) → ChildQueryInfo type → DataSeriesFactQueryInfo
  | .fact _, info => info
  | .dimension, info => info.toDataSeriesFactQueryInfo

/-- `main_alive_filter`; only a query for the full history has no condition. -/
inductive AliveFilter where
  | deletedAtIsNull
  | always
deriving DecidableEq, Repr

/-- `main_extra_fields`; only a query for the full history has any. -/
inductive MainExtraField where
  | subClock
  | deleted
deriving DecidableEq, Repr

def MainExtraField.column : MainExtraField → String
  | .subClock => "sub_clock"
  | .deleted => "deleted"

/-- The tables and columns of a data series; there is a dictionary for each type
of child. -/
structure DataSeriesQueryInfo where
  dataSeriesId : Uuid
  schemaName : String
  mainQueryTableName : String
  materializedFlatHistoryTableName : String
  backend : StorageBackendType
  locked : Bool
  mainAliveFilter : AliveFilter
  mainExtraFields : List MainExtraField
  children : (type : StructureType) → AList fun _ : ExternalId => ChildQueryInfo type

def canUseMaterializedTable (info : DataSeriesQueryInfo) (pointInTime : Bool) : Bool :=
  info.backend = .dynamicSqlNoHistory ||
    (info.backend = .dynamicSqlMaterializedFlatHistory && !pointInTime) ||
    (info.backend = .dynamicSqlMaterialized && !info.locked && !pointInTime)

/-- The types that a filter can compare, in the order of `primitive_filter`. -/
def comparableTypes : List StructureType :=
  [.fact .float, .fact .string, .fact .text, .fact .timestamp, .fact .boolean, .dimension]

namespace DataSeriesQueryInfo

/-- An external id belongs to one child, as far as a filter can compare it. -/
def ComparableDistinct (info : DataSeriesQueryInfo) : Prop :=
  ∀ type ∈ comparableTypes, ∀ other ∈ comparableTypes, ∀ key,
    key ∈ info.children type → key ∈ info.children other → type = other

/-- The query info has been computed for this data series. -/
def Describes {C X : Type} (info : DataSeriesQueryInfo) (series : SeriesState C X) : Prop :=
  ∀ type key, key ∈ info.children type ↔ key ∈ series.children (.element type)

/-- The type of the child that a filter compares under a key. -/
def comparedType (info : DataSeriesQueryInfo) (key : ExternalId) : Option StructureType :=
  comparableTypes.find? fun type => key ∈ info.children type

theorem comparedType_eq_some {info : DataSeriesQueryInfo} (hdistinct : info.ComparableDistinct)
    {key : ExternalId} {type : StructureType} :
    info.comparedType key = some type ↔ type ∈ comparableTypes ∧ key ∈ info.children type := by
  constructor
  · intro hfound
    have hmem := List.mem_of_find?_eq_some hfound
    have hkey := List.find?_some hfound
    exact ⟨hmem, of_decide_eq_true hkey⟩
  · rintro ⟨hmem, hkey⟩
    cases hfound : info.comparedType key with
    | none =>
        have hnone := List.find?_eq_none.mp hfound type hmem
        exact absurd (decide_eq_true hkey) hnone
    | some other =>
        have hother := List.mem_of_find?_eq_some hfound
        have hotherKey := List.find?_some hfound
        rw [hdistinct type hmem other hother key hkey (of_decide_eq_true hotherKey)]

end DataSeriesQueryInfo

namespace SeriesState

variable {C X : Type}

/-- No external id is used by elements of two kinds other than files. -/
def ElementsDistinctButFiles (series : SeriesState C X) : Prop :=
  ∀ type other externalId, type ≠ .fact .file → other ≠ .fact .file →
    externalId ∈ series.children (.element type) →
      externalId ∈ series.children (.element other) → type = other

theorem distinctButFiles_handle {config : ServerConfig C X} {series : SeriesState C X}
    (op : ElementRequest C) (hdistinct : series.ElementsDistinctButFiles) :
    (series.handle config op).ElementsDistinctButFiles := by
  intro type other externalId htype hother hmem hmem'
  rcases mem_handle hmem with hold | ⟨-, child, hcreate, hid, hfree⟩
  · rcases mem_handle hmem' with hold' | ⟨-, child', hcreate', hid', hfree'⟩
    · exact hdistinct type other externalId htype hother hold hold'
    · exact absurd hold (not_mem_of_externalIdFree hfree' htype)
  · rcases mem_handle hmem' with hold' | ⟨-, child', hcreate', hid', hfree'⟩
    · exact absurd hold' (not_mem_of_externalIdFree hfree hother)
    · rw [hcreate] at hcreate'
      injection hcreate' with heq
      injection heq

/-- Whatever requests a new data series has seen, a filter compares one child
under each key. -/
theorem comparableDistinct_of_describes {config : ServerConfig C X} {header : SeriesHeader X}
    {locked : Bool} {ops : List (ElementRequest C)} {info : DataSeriesQueryInfo}
    (hdescribes : info.Describes (Runs.run (handle config) (new header locked) ops)) :
    info.ComparableDistinct := by
  have hdistinct : (Runs.run (handle config) (new header locked) ops).ElementsDistinctButFiles := by
    apply Runs.run_keeps ElementsDistinctButFiles fun _ op => distinctButFiles_handle op
    intro type other externalId _ _ hmem
    exact absurd hmem (AList.notMem_empty externalId)
  have hfile : ∀ type ∈ comparableTypes, type ≠ .fact .file := by decide
  intro type htype other hother key hkey hkey'
  exact hdistinct type other key (hfile type htype) (hfile other hother)
    ((hdescribes type key).mp hkey) ((hdescribes other key).mp hkey')

end SeriesState

end NFCompose
