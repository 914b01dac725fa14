/-
The queries that read data points: the central query over the tables of a data
series, the resolution of its dimensions around it, and the count.
-/
import Mathlib.Data.List.Infix
import NFCompose.SqlQueries
import NFCompose.UserDefinedFilter

namespace NFCompose

open SqlQueries

def materializedColumnName (id : Uuid) (externalId : ExternalId) : String :=
  String.ofList ((id ++ "_" ++ externalId).toList.take 60)

structure SelectInfo where
  pointInTime : Int
  unescapedDisplayId : ExternalId
  actualId : Uuid
  selectAlias : String
  factOrDimId : String
  valueColumn : String
  materializedValueColumn : String
  payloadVariableName : String
  actualTableName : String
  versionAliasName : String
  type : StructureType
deriving DecidableEq, Repr

def payloadVariableName (relationId : Uuid) : String :=
  "payload_elem_" ++ relationId.map fun c => if c = '-' then '_' else c

def dataSeriesDimensionToSelectInfo (info : DataSeriesDimensionQueryInfo) : SelectInfo where
  pointInTime := info.pointInTime
  unescapedDisplayId := info.unescapedDisplayId
  actualId := info.id
  selectAlias := escape ("dim_" ++ info.unescapedDisplayId)
  factOrDimId := "dimension_id"
  valueColumn := "value"
  materializedValueColumn := escape (materializedColumnName info.id info.unescapedDisplayId)
  payloadVariableName := payloadVariableName info.relationId
  actualTableName := "_3_data_point_dimension"
  versionAliasName := escape ("version_" ++ info.unescapedDisplayId)
  type := .dimension

/-- `alias_prefix`. -/
def FactType.aliasPrefix : FactType → String
  | .float => "float_fact"
  | .string => "string_fact"
  | .text => "text_fact"
  | .timestamp => "timestamp_fact"
  | .image => "image_fact"
  | .file => "file_fact"
  | .json => "json_fact"
  | .boolean => "boolean_fact"

/-- One round of `_handle_facts`. -/
def factToSelectInfo (type : FactType) (info : DataSeriesFactQueryInfo) : SelectInfo where
  pointInTime := info.pointInTime
  unescapedDisplayId := info.unescapedDisplayId
  actualId := info.id
  selectAlias := escape (type.aliasPrefix ++ "_" ++ info.unescapedDisplayId)
  factOrDimId := "fact_id"
  valueColumn := "value"
  materializedValueColumn := escape (materializedColumnName info.id info.unescapedDisplayId)
  payloadVariableName := payloadVariableName info.relationId
  actualTableName := "_3_data_point_" ++ type.aliasPrefix
  versionAliasName := escape ("version_" ++ info.unescapedDisplayId)
  type := .fact type

namespace DataSeriesQueryInfo

/-- The values of the dictionary of a type. -/
def values (info : DataSeriesQueryInfo) (type : StructureType) : List (ChildQueryInfo type) :=
  (info.children type).entries.map Sigma.snd

def dimensions (info : DataSeriesQueryInfo) : List DataSeriesDimensionQueryInfo :=
  info.values .dimension

end DataSeriesQueryInfo

def unsortedSelectInfos (info : DataSeriesQueryInfo) : List SelectInfo :=
  info.dimensions.map dataSeriesDimensionToSelectInfo ++
    [.float, .string, .text, .json, .timestamp, .image, .file, .boolean].flatMap
      fun type => (info.values (.fact type)).map (factToSelectInfo type)

def SelectInfo.sortsBefore (first second : SelectInfo) : Bool :=
  first.pointInTime < second.pointInTime || (first.pointInTime = second.pointInTime &&
    first.unescapedDisplayId ≤ second.unescapedDisplayId)

def selectInfos (info : DataSeriesQueryInfo) : List SelectInfo :=
  (unsortedSelectInfos info).mergeSort SelectInfo.sortsBefore

inductive ReadError (N : Type) where
  | validationError (message : String)
  | apiException (detail : String)
  | typeError
  | filter (error : FilterError N)

def chunks {A : Type} (size : Nat) (items : List A) : List (List A) :=
  (List.range ((items.length + size - 1) / size)).map fun index =>
    (items.drop (index * size)).take size

/-- The JSON objects that the values of select infos are put together from. -/
def jsonObjects (value : SelectInfo → Fragment) (selectInfos : List SelectInfo) : Fragment :=
  .text "'\x7b\x7d'::jsonb" :: (chunks 30 selectInfos).flatMap fun chunk =>
    .text "||(jsonb_build_object(" ::
      List.intercalate [.text ",\n"] (chunk.map fun selectInfo =>
        .text ("%(" ++ selectInfo.payloadVariableName ++ ")s,") :: value selectInfo) ++
      [.text ")::jsonb)"]

/-- The payload is one JSON object, or it has a column for each select info. -/
def payloadItems (value : SelectInfo → Fragment) (selectInfos : List SelectInfo)
    (payloadAsJson : Bool) : List SelectItem :=
  if payloadAsJson then [.named (jsonObjects value selectInfos) "payload"]
  else selectInfos.map fun selectInfo => .named (value selectInfo) selectInfo.selectAlias

section Common

-- The name under which the partition of a table is registered.
variable (partitionTable : String → Uuid → String)

def atTimeZoneUtc (selectInfo : SelectInfo) : Fragment :=
  if selectInfo.type = .fact .timestamp then [.text " AT TIME ZONE 'utc'"] else []

def pointInTimePart (pointInTime : Bool) (table : String) : Fragment :=
  if pointInTime then
    [.text " AND ", .column table "point_in_time", .text " <= %(point_in_time)s"]
  else []

def changesSincePart (changesSince : Bool) (table : String) : Fragment :=
  if changesSince then
    [.text " AND ", .column table "point_in_time", .text " > %(changes_since)s"]
  else []

/-- The first table has an older version than the second one. -/
def olderThan (first second : String) : Fragment :=
  [.text " AND (", .column first "point_in_time", .text ", ", .column first "sub_clock",
    .text ") < (", .column second "point_in_time", .text ", ", .column second "sub_clock",
    .text ")"]

def renderJoinPart (children : List DataSeriesFactQueryInfo)
    (relationTable factOrDimId : String) (pointInTime : Bool) : List Join :=
  children.flatMap fun child =>
    let finalRelationTable := partitionTable relationTable child.id
    let relationTableNameAlias := escape ("relation_" ++ child.unescapedDisplayId)
    let histTableNameAlias := escape ("hist_" ++ child.unescapedDisplayId)
    [⟨.base finalRelationTable relationTableNameAlias,
      [.column relationTableNameAlias "data_point_id", .text " = ", .column "ds_dp" "id",
        .text " AND ", .column relationTableNameAlias factOrDimId,
        .text (" = '" ++ child.id ++ "'")] ++
        pointInTimePart pointInTime relationTableNameAlias⟩,
      ⟨.base finalRelationTable histTableNameAlias,
        [.column relationTableNameAlias factOrDimId, .text " = ",
          .column histTableNameAlias factOrDimId, .text " AND ",
          .column relationTableNameAlias "data_point_id", .text " = ",
          .column histTableNameAlias "data_point_id"] ++
          olderThan relationTableNameAlias histTableNameAlias ++
          pointInTimePart pointInTime histTableNameAlias⟩]

def renderWheres (children : List DataSeriesFactQueryInfo) : Fragment :=
  children.flatMap fun child =>
    [.text " AND ", .column (escape ("hist_" ++ child.unescapedDisplayId)) "data_point_id",
      .text " IS NULL"]

def renderMainExtraFieldsColumns (mainTblAlias : String) (mainExtraFields : List MainExtraField) :
    List SelectItem :=
  mainExtraFields.map fun field => .column mainTblAlias field.column

def AliveFilter.condition : AliveFilter → Fragment
  | .deletedAtIsNull => [.column "ds_dp" "deleted_at", .text " IS NULL"]
  | .always => [.text "1=1"]

/-- The children of a data series in the order of their joins, with the table and
the column of their relation. -/
def splitTables (info : DataSeriesQueryInfo) :
    List (List DataSeriesFactQueryInfo × String × String) :=
  (info.dimensions.map (·.toDataSeriesFactQueryInfo), "_3_data_point_dimension", "dimension_id") ::
    [FactType.float, .string, .text, .timestamp, .image, .file, .json, .boolean].map fun type =>
      (info.values (.fact type), "_3_data_point_" ++ type.aliasPrefix, "fact_id")

def splitJoins (info : DataSeriesQueryInfo) (pointInTime : Bool) : List Join :=
  (splitTables info).flatMap fun entry =>
    renderJoinPart partitionTable entry.1 entry.2.1 entry.2.2 pointInTime

def splitWheres (info : DataSeriesQueryInfo) : Fragment :=
  (splitTables info).flatMap fun entry => renderWheres entry.1

end Common

section Versions

variable {N : Type} (partitionTable : String → Uuid → String) (includeVersions : Bool)
  (versionDsDp : String) (info : DataSeriesQueryInfo) (selectInfos : List SelectInfo)

def versionsAggregate : Fragment :=
  [.text ("jsonb_agg(jsonb_build_object('point_in_time', point_in_time AT TIME ZONE 'utc', " ++
    "'sub_clock', sub_clock, 'user_id', user_id, 'record_source', record_source) " ++
    "ORDER BY (point_in_time, sub_clock))")]

/-- A query for all versions in a table. -/
def versionsQuery (id output table condition : String) : Query :=
  .mk [] [.named [.text id] id, .named versionsAggregate output] (.base table "") []
    [.text (condition ++ "GROUP BY 1")]

def versionsRenderWithParts : Except (ReadError N) (List (String × Query)) :=
  if !includeVersions then return []
  else if info.backend = .dynamicSqlNoHistory then
    throw (.validationError
      "DYNAMIC_SQL_NO_HISTORY backend does not allow for querying for versions")
  else if info.backend = .dynamicSqlMaterializedFlatHistory then
    return [(versionDsDp, versionsQuery "id" "data_point_versions"
      (info.schemaName ++ "." ++ info.materializedFlatHistoryTableName) "")]
  else
    return (versionDsDp, versionsQuery "id" "data_point_versions"
        (partitionTable "_3_data_point" info.dataSeriesId)
        ("WHERE data_series_id='" ++ info.dataSeriesId ++ "'\n")) ::
      selectInfos.map fun selectInfo => (selectInfo.versionAliasName,
        versionsQuery "data_point_id" "versions"
          (partitionTable selectInfo.actualTableName selectInfo.actualId)
          ("WHERE " ++ selectInfo.factOrDimId ++ "='" ++ selectInfo.actualId ++ "'\n"))

def versionsRenderWithJoinParts : Except (ReadError N) (List Join) :=
  if !includeVersions then return []
  else if info.backend = .dynamicSqlNoHistory then
    throw (.validationError
      "DYNAMIC_SQL_NO_HISTORY backend does not allow for querying for versions")
  else
    return ⟨.common versionDsDp, [.column versionDsDp "id", .text " = ", .column "ds_dp" "id"]⟩ ::
      if info.backend ≠ .dynamicSqlMaterializedFlatHistory then
        selectInfos.map fun selectInfo => ⟨.common selectInfo.versionAliasName,
          [.column selectInfo.versionAliasName "data_point_id", .text " = ",
            .column "ds_dp" "id"]⟩
      else []

def versionsRenderSelect : List SelectItem :=
  if !includeVersions then []
  else if info.backend = .dynamicSqlMaterializedFlatHistory then
    [.named [.text "jsonb_build_object('data_point', jsonb_strip_nulls(",
      .column versionDsDp "data_point_versions", .text "))::jsonb"] "versions"]
  else
    [.named ([.text "jsonb_build_object('data_point', jsonb_strip_nulls(",
      .column versionDsDp "data_point_versions", .text "), 'payload', jsonb_strip_nulls(("] ++
        jsonObjects (fun selectInfo => [.column selectInfo.versionAliasName "versions"])
          selectInfos ++ [.text ")))::jsonb"]) "versions"]

end Versions

section SingleDataSeries

variable {N : Type} (partitionTable : String → Uuid → String) (info : DataSeriesQueryInfo)
  (useMaterialized pointInTime changesSince : Bool)

def renderPointInTime (payloadAsJson : Bool) : SelectItem :=
  if payloadAsJson then
    .named [.text "to_char(", .column "ds_dp" "point_in_time",
      .text " AT TIME ZONE 'utc', 'YYYY-MM-DD\"T\"HH24:MI:SS.US')"] "point_in_time"
  else .named [.column "ds_dp" "point_in_time", .text " AT TIME ZONE 'utc'"] "point_in_time"

def renderPaginationDataSelect (includePaginationData : Bool) : List SelectItem :=
  if !includePaginationData then []
  else if useMaterialized then
    [.named [.text "(jsonb_build_object('id', ", .column "ds_dp" "id", .text ", 'inserted_at', ",
      .column "ds_dp" "inserted_at", .text ")::jsonb)"] "pagination_data"]
  else
    [.named [.text "(jsonb_build_object('id', ", .column "ds_dp" "id", .text ")::jsonb)"]
      "pagination_data"]

def renderPayloadSelectsSingularTable (selectInfos : List SelectInfo) (payloadAsJson : Bool) :
    List SelectItem :=
  payloadItems (fun selectInfo =>
    .column "ds_dp" selectInfo.materializedValueColumn :: atTimeZoneUtc selectInfo)
    selectInfos payloadAsJson

def renderPayloadSelectsSplitTables (selectInfos : List SelectInfo) (payloadAsJson : Bool) :
    List SelectItem :=
  payloadItems (fun selectInfo =>
    .column (escape ("relation_" ++ selectInfo.unescapedDisplayId)) selectInfo.valueColumn ::
      atTimeZoneUtc selectInfo) selectInfos payloadAsJson

def renderPayloadSelects (selectInfos : List SelectInfo) (payloadAsJson : Bool) :
    List SelectItem :=
  if useMaterialized ∨ info.backend = .dynamicSqlMaterializedFlatHistory then
    renderPayloadSelectsSingularTable selectInfos payloadAsJson
  else renderPayloadSelectsSplitTables selectInfos payloadAsJson

def materializedNotAllowed : ReadError N :=
  .apiException "materialized table is not allowed to be queried for historical data directly!"

def renderWherePartMaterialized : Except (ReadError N) Fragment :=
  if pointInTime then throw materializedNotAllowed
  else return .text "WHERE " :: info.mainAliveFilter.condition ++
    changesSincePart changesSince "ds_dp"

def renderWherePartFlatHistory : Fragment :=
  [.text "WHERE ", .column "ds_dp2" "id", .text " IS NULL AND ", .column "ds_dp" "deleted",
    .text " = false"] ++ pointInTimePart pointInTime "ds_dp" ++
    changesSincePart changesSince "ds_dp"

def renderWherePartSplit : Fragment :=
  [.text "WHERE ", .column "ds_dp" "data_series_id", .text ("='" ++ info.dataSeriesId ++ "'")] ++
    pointInTimePart pointInTime "ds_dp" ++
    [.text " AND ", .column "ds_dp2" "id", .text " IS NULL AND ", .column "ds_dp" "deleted",
      .text " = false"] ++ splitWheres info ++ changesSincePart changesSince "ds_dp"

def renderWherePart : Except (ReadError N) Fragment :=
  if useMaterialized then renderWherePartMaterialized info pointInTime changesSince
  else if info.backend = .dynamicSqlMaterializedFlatHistory then
    return renderWherePartFlatHistory pointInTime changesSince
  else return renderWherePartSplit info pointInTime changesSince

def renderMaterializedBaseSources : Source × List Join :=
  (.base (info.schemaName ++ "." ++ info.mainQueryTableName) "ds_dp", [])

def renderMaterializedFlatHistoryBaseSources : Source × List Join :=
  let table := info.schemaName ++ "." ++ info.materializedFlatHistoryTableName
  (.base table "ds_dp",
    [⟨.base table "ds_dp2",
      [.column "ds_dp" "id", .text " = ", .column "ds_dp2" "id"] ++ olderThan "ds_dp" "ds_dp2" ++
        pointInTimePart pointInTime "ds_dp2" ++ changesSincePart changesSince "ds_dp2"⟩])

def renderHistoricalSplitBaseSources : Source × List Join :=
  let table := partitionTable "_3_data_point" info.dataSeriesId
  (.base table "ds_dp",
    ⟨.base table "ds_dp2",
      [.column "ds_dp" "data_series_id", .text " = ", .column "ds_dp2" "data_series_id",
        .text " AND ", .column "ds_dp" "id", .text " = ", .column "ds_dp2" "id"] ++
        olderThan "ds_dp" "ds_dp2" ++ pointInTimePart pointInTime "ds_dp2" ++
        changesSincePart changesSince "ds_dp2"⟩ ::
      splitJoins partitionTable info pointInTime)

def renderBaseSources : Source × List Join :=
  if useMaterialized then renderMaterializedBaseSources info
  else if info.backend = .dynamicSqlMaterializedFlatHistory then
    renderMaterializedFlatHistoryBaseSources info pointInTime changesSince
  else renderHistoricalSplitBaseSources partitionTable info pointInTime changesSince

def singleDataSeriesAsSqlTable (allSelectInfos : List SelectInfo)
    (payloadAsJson includeVersions includePaginationData : Bool) (filterStr : Fragment) :
    Except (ReadError N) Query := do
  let versionDsDp := escape ("version_ds_dp_" ++ info.dataSeriesId)
  let withs ←
    versionsRenderWithParts partitionTable includeVersions versionDsDp info allSelectInfos
  let (source, joins) := renderBaseSources partitionTable info useMaterialized pointInTime
    changesSince
  let versionJoins ← versionsRenderWithJoinParts includeVersions versionDsDp info allSelectInfos
  let wherePart ← renderWherePart info useMaterialized pointInTime changesSince
  return .mk withs
    ([.column "ds_dp" "id", .named [.text ("('" ++ info.dataSeriesId ++ "')")] "data_series_id"] ++
      renderPayloadSelects info useMaterialized allSelectInfos payloadAsJson ++
      versionsRenderSelect includeVersions versionDsDp info allSelectInfos ++
      [renderPointInTime payloadAsJson] ++
      renderPaginationDataSelect useMaterialized includePaginationData ++
      renderMainExtraFieldsColumns "ds_dp" info.mainExtraFields ++
      [.column "ds_dp" "external_id"])
    source (joins ++ versionJoins) (wherePart ++ filterStr)

end SingleDataSeries


section Display

variable {N : Type} (partitionTable : String → Uuid → String)

def centralTable : String := escape "__central_table"

def resolveTable (actualId : Uuid) : String := escape ("__resolve_" ++ actualId)

def renderSelects (selectInfos : List SelectInfo) (payloadAsJson : Bool)
    (aggDimensions : List Uuid) : List SelectItem :=
  payloadItems (fun selectInfo =>
    if selectInfo.actualId ∈ aggDimensions then
      [.column (resolveTable selectInfo.actualId) "external_id"]
    else [.column centralTable selectInfo.selectAlias]) selectInfos payloadAsJson

def renderVersionSelect (includeVersions : Bool) : List SelectItem :=
  if includeVersions then [.column centralTable "versions"] else []

def renderCurrentVersionSelect (payloadAsJson : Bool) : SelectItem :=
  if payloadAsJson then
    .named [.text "to_char(", .column centralTable "point_in_time",
      .text " AT TIME ZONE 'utc', 'YYYY-MM-DD\"T\"HH24:MI:SS.US')"] "point_in_time"
  else
    .named [.column centralTable "point_in_time", .text " AT TIME ZONE 'utc'"] "point_in_time"

def renderCentralPaginationDataSelect (includePaginationData : Bool) : List SelectItem :=
  if includePaginationData then [.column centralTable "pagination_data"] else []

/-- The query that finds the external ids of the data points of a dimension. -/
def dimensionResolution (useMaterialized pointInTime : Bool) (reference : ReadOnlyDataSeries) :
    Except (ReadError N) Query :=
  let select : List SelectItem :=
    [.named [.column "ds_dp" "id"] "data_point_id",
      .named [.column "ds_dp" "external_id"] "external_id"]
  let mainTable := reference.schemaName ++ "." ++ reference.mainQueryTableName
  if useMaterialized then
    if pointInTime then throw materializedNotAllowed
    else
      return .mk [] select (.base mainTable "ds_dp") []
        (.text "WHERE " :: AliveFilter.deletedAtIsNull.condition)
  else if reference.backend = .dynamicSqlNoHistory then
    return .mk [] select (.base mainTable "ds_dp") []
      [.text "WHERE ", .column "ds_dp" "deleted_at", .text " IS NULL OR ",
        .column "ds_dp" "deleted_at", .text " >= %(point_in_time)s AND ",
        .column "ds_dp" "inserted_at", .text " <= %(point_in_time)s"]
  else if reference.backend = .dynamicSqlMaterializedFlatHistory then
    let table := reference.schemaName ++ "." ++ reference.materializedFlatHistoryTableName
    return .mk [] select (.base table "ds_dp")
      [⟨.base table "ds_dp2", [.column "ds_dp" "id", .text " = ", .column "ds_dp2" "id"] ++
        olderThan "ds_dp" "ds_dp2" ++ pointInTimePart pointInTime "ds_dp2"⟩]
      ([.text "WHERE ", .column "ds_dp2" "id", .text " IS NULL AND ", .column "ds_dp" "deleted",
        .text " = false"] ++ pointInTimePart pointInTime "ds_dp")
  else
    let table := partitionTable "_3_data_point" reference.id
    return .mk [] select (.base table "ds_dp")
      [⟨.base table "ds_dp2",
        [.column "ds_dp" "data_series_id", .text " = ", .column "ds_dp2" "data_series_id",
          .text " AND ", .column "ds_dp" "id", .text " = ", .column "ds_dp2" "id"] ++
          olderThan "ds_dp" "ds_dp2" ++ pointInTimePart pointInTime "ds_dp2"⟩]
      ([.text "WHERE ", .column "ds_dp" "data_series_id", .text ("='" ++ reference.id ++ "' AND "),
        .column "ds_dp2" "id", .text " IS NULL AND ", .column "ds_dp" "deleted",
        .text " = false"] ++ pointInTimePart pointInTime "ds_dp")

/-- The dimensions are resolved in the order of their dictionary. -/
def dimensionResolutions (useMaterialized pointInTime : Bool)
    (dimensions : List DataSeriesDimensionQueryInfo) :
    Except (ReadError N) (List (String × Query)) :=
  dimensions.mapM fun dimension => do
    let query ← dimensionResolution partitionTable useMaterialized pointInTime dimension.reference
    return (resolveTable dimension.id, query)

def resolutionJoins (dimensions : List DataSeriesDimensionQueryInfo) : List Join :=
  dimensions.map fun dimension =>
    ⟨.common (resolveTable dimension.id),
      [.column centralTable (dataSeriesDimensionToSelectInfo dimension).selectAlias, .text " = ",
        .column (resolveTable dimension.id) "data_point_id"]⟩

/-- The select infos of the payload. -/
def payloadSelectInfos (info : DataSeriesQueryInfo)
    (includeInPayload : Option (List ExternalId)) : List SelectInfo :=
  match includeInPayload with
  | some included =>
      (selectInfos info).filter fun selectInfo => selectInfo.unescapedDisplayId ∈ included
  | none => selectInfos info

def dataSeriesAsSqlTable (includeInPayload : Option (List ExternalId))
    (payloadAsJson pointInTime changesSince includeVersions : Bool) (filterStr : Fragment)
    (resolveDimensionExternalIds : Bool) (info : DataSeriesQueryInfo)
    (useMaterialized : Option Bool) : Except (ReadError N) Query := do
  let useMaterialized := useMaterialized.getD (canUseMaterializedTable info pointInTime)
  let actuallyResolve := resolveDimensionExternalIds && !info.dimensions.isEmpty
  let allSelectInfos := payloadSelectInfos info includeInPayload
  let central ← singleDataSeriesAsSqlTable partitionTable info useMaterialized pointInTime
    changesSince allSelectInfos (payloadAsJson && !actuallyResolve) includeVersions payloadAsJson
    filterStr
  if !actuallyResolve then return central
  let resolutions ← dimensionResolutions partitionTable useMaterialized pointInTime info.dimensions
  return .mk ((centralTable, central) :: resolutions)
    ([.column centralTable "id", .column centralTable "data_series_id"] ++
      renderSelects allSelectInfos payloadAsJson (info.dimensions.map (·.id)) ++
      renderVersionSelect includeVersions ++ [renderCurrentVersionSelect payloadAsJson] ++
      renderCentralPaginationDataSelect payloadAsJson ++
      renderMainExtraFieldsColumns centralTable info.mainExtraFields ++
      [.column centralTable "external_id"])
    (.common centralTable) (resolutionJoins info.dimensions) []

end Display

-- `count.py` has copies of the sources and conditions of the central query.
namespace CountQuery

variable {N : Type} (partitionTable : String → Uuid → String) (info : DataSeriesQueryInfo)
  (useMaterializedTable pointInTime changesSince : Bool)

def renderBaseSources : Source × List Join :=
  if useMaterializedTable then renderMaterializedBaseSources info
  else if info.backend = .dynamicSqlMaterializedFlatHistory then
    renderMaterializedFlatHistoryBaseSources info pointInTime changesSince
  else renderHistoricalSplitBaseSources partitionTable info pointInTime changesSince

def renderWherePartMaterialized : Except (ReadError N) Fragment :=
  if pointInTime then throw materializedNotAllowed
  else return [.text "WHERE ", .column "ds_dp" "deleted_at", .text " IS NULL"] ++
    changesSincePart changesSince "ds_dp"

def renderWherePartSplit : Fragment :=
  [.text "WHERE ", .column "ds_dp" "data_series_id",
    .text ("='" ++ info.dataSeriesId ++ "' AND "), .column "ds_dp2" "id",
    .text " IS NULL AND ", .column "ds_dp" "deleted", .text " = false"] ++
    pointInTimePart pointInTime "ds_dp" ++ splitWheres info ++ changesSincePart changesSince "ds_dp"

def renderWherePart : Except (ReadError N) Fragment :=
  if useMaterializedTable then renderWherePartMaterialized pointInTime changesSince
  else if info.backend = .dynamicSqlMaterializedFlatHistory then
    return renderWherePartFlatHistory pointInTime changesSince
  else return renderWherePartSplit info pointInTime changesSince

def dataSeriesDataPointCount (filterStr : Fragment) : Except (ReadError N) Query := do
  let useMaterialized := canUseMaterializedTable info pointInTime
  let (source, joins) :=
    renderBaseSources partitionTable info useMaterialized pointInTime changesSince
  let wherePart ← renderWherePart info useMaterialized pointInTime changesSince
  return .mk [] [.named [.text "count(", .column "ds_dp" "id", .text ")"] "count"] source joins
    (wherePart ++ filterStr)

end CountQuery

section FilterSql

open SqlConditions

def Lhs.piece : Lhs → Piece
  | .dsDp column => .column "ds_dp" column
  | .relation table => .column table "value"

def SqlOperator.sql : SqlOperator → String
  | .eq => "="
  | .lt => "<"
  | .lte => "<="
  | .ne => "!="
  | .gte => ">="
  | .gt => ">"

def castSql (cast : Option String) : String := (cast.map fun type => "::" ++ type).getD ""

def FilterAtom.fragment : FilterAtom → Fragment
  | .always => [.text "1 = 1"]
  | .isNull lhs => [lhs.piece, .text " IS NULL"]
  | .isNotNull lhs => [lhs.piece, .text " IS NOT NULL"]
  | .compare lhs operator param cast =>
      [lhs.piece, .text (" " ++ operator.sql ++ " %(" ++ param ++ ")s" ++ castSql cast)]
  | .inTuple lhs negated param =>
      [lhs.piece, .text ((if negated then " NOT IN" else " IN") ++ " %(" ++ param ++ ")s")]
  | .hasPrefix lhs param cast complete =>
      [lhs.piece, .text (" LIKE " ++ (if complete then "(%(" ++ param ++ ")s" ++ castSql cast ++ ")"
        else "%(" ++ param ++ ")") ++ " || '%%'")]

def tokenFragment : Token FilterAtom → Fragment
  | .leftParen => [.text "("]
  | .rightParen => [.text ")"]
  | .and => [.text " AND "]
  | .or => [.text " OR "]
  | .not => [.text "NOT "]
  | .atom atom => atom.fragment

def filterFragment (text : FilterText) : Fragment := text.flatMap tokenFragment

end FilterSql

section DataPoints

variable {N D : Type} (partitionTable : String → Uuid → String) (parseDatetime : Json N → Option D)
  (info : DataSeriesQueryInfo)

/-- `key in value`; only the keys of a dictionary can be looked up afterwards. -/
def Json.contains (key : String) : Json N → Option Bool
  | .object members => some (members.any fun entry => entry.1 = key)
  | .array items => some (items.any fun item =>
      match item with
      | .string value => value = key
      | _ => false)
  | .string value => some (decide (key.toList <:+: value.toList))
  | _ => none

def checkContains (key : String) (value : Json N) : Except (ReadError N) Unit :=
  match value.contains key with
  | some true => return ()
  | some false => throw (.validationError (key ++ " was not part of last query parameter!"))
  | none => throw .typeError

def pageStartAt (useMaterializedTable reverse : Bool) : Json N → Except (ReadError N) Fragment
  | .object _ =>
      let paginationOperator := if reverse then "<=" else ">="
      if useMaterializedTable then
        return [.text " AND (", .column "ds_dp" "inserted_at", .text ", ", .column "ds_dp" "id",
          .text (") " ++ paginationOperator ++ " (%(inserted_at)s, %(start_id)s)")]
      else
        return [.text " AND ", .column "ds_dp" "id",
          .text (" " ++ paginationOperator ++ " %(start_id)s")]
  | _ => throw .typeError

/-- The page starts at `start_object`, if there is one; a text that is no JSON is
`some none`. -/
def pageStartCondition (useMaterializedTable reverse : Bool) :
    Option (Option (Json N)) → Except (ReadError N) Fragment
  | none => return []
  | some none =>
      throw (.validationError "could not parse last query parameter. Is it valid json?")
  | some (some pageStart) => do
      checkContains "id" pageStart
      if useMaterializedTable then checkContains "inserted_at" pageStart
      pageStartAt useMaterializedTable reverse pageStart

/-- The columns after ORDER BY. -/
def orderBy (useMaterializedTable reverse : Bool) : Fragment :=
  let direction := if reverse then " DESC" else " ASC"
  .text " ORDER BY " ::
    (if useMaterializedTable then
      [.column "ds_dp" "inserted_at", .text (direction ++ ", ")] else []) ++
    [.column "ds_dp" "id", .text direction]

/-- What a view passes on of a request for data points.  Of the points in time it
is enough whether they are given. -/
structure ReadRequest (N : Type) where
  includeInPayload : Option (List ExternalId)
  filterValue : Json N
  externalIdAsDimensionIdentifier : Bool
  externalIds : Option (List ExternalId)
  pointInTime : Bool
  changesSince : Bool
  shouldIncludeVersions : Bool

def filterError {A : Type} (result : Except (FilterError N) A) : Except (ReadError N) A :=
  result.mapError .filter

def rawDisplayDataPointQuery (request : ReadRequest N) (dataPointId : Option Uuid)
    (startObject : Option (Option (Json N))) (reverse : Bool) (limit : Option Nat) :
    Except (ReadError N) Query := do
  let lookup : Fragment :=
    if dataPointId.isSome then
      [.text " AND ", .column "ds_dp" "id", .text " = %(data_point_lookup_id)s"] else []
  let useMaterializedTable := canUseMaterializedTable info request.pointInTime
  let pageStart ← pageStartCondition useMaterializedTable reverse startObject
  let part ← filterError (precomputeFilterPart request.externalIds request.filterValue info
    useMaterializedTable parseDatetime)
  let filterStr := lookup ++ pageStart ++ filterFragment part.filterQueryStr ++
    orderBy useMaterializedTable reverse ++
    if limit.isSome then [.text " LIMIT %(limit)s"] else []
  dataSeriesAsSqlTable partitionTable request.includeInPayload true request.pointInTime
    request.changesSince request.shouldIncludeVersions filterStr
    request.externalIdAsDimensionIdentifier info none

def dataPointCount (request : ReadRequest N) : Except (ReadError N) Query := do
  let useMaterializedTable := canUseMaterializedTable info request.pointInTime
  let part ← filterError (precomputeFilterPart request.externalIds request.filterValue info
    useMaterializedTable parseDatetime)
  CountQuery.dataSeriesDataPointCount partitionTable part.usedDataSeriesChildren
    request.pointInTime request.changesSince (filterFragment part.filterQueryStr)

end DataPoints

end NFCompose
