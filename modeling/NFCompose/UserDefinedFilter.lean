/-
User defined filters.  A filter is a JSON object; it is compiled to the text of
an SQL condition, with a parameter for each operand.  A text is kept as its list
of tokens.
-/
import NFCompose.QueryInfo
import NFCompose.SqlConditions

namespace NFCompose

open SqlConditions

/-- What `json.loads` returns; `N` has the numbers. -/
inductive Json (N : Type) where
  | null
  | boolean (value : Bool)
  | number (value : N)
  | string (value : String)
  | array (items : List (Json N))
  | object (members : List (String × Json N))

/-- A value as the driver gets it; `D` has the timestamps. -/
inductive Scalar (N D : Type) where
  | boolean (value : Bool)
  | number (value : N)
  | text (value : String)
  | timestamp (value : D)
deriving DecidableEq, Repr

inductive ParamValue (N D : Type) where
  | scalar (value : Scalar N D)
  | tuple (values : List (Scalar N D))
deriving DecidableEq, Repr

/-- The left side of a comparison: a column of the table that is read, or the
value of a table that is joined for one child. -/
inductive Lhs where
  | dsDp (column : String)
  | relation (table : String)
deriving DecidableEq, Repr

inductive SqlOperator where
  | eq
  | lt
  | lte
  | ne
  | gte
  | gt
deriving DecidableEq, Repr

/-- The conditions that a text is made of.  A comparison has the name of its
parameter and the type it is cast to; the placeholder of a prefix can lack its
conversion. -/
inductive FilterAtom where
  | always
  | isNull (lhs : Lhs)
  | isNotNull (lhs : Lhs)
  | compare (lhs : Lhs) (operator : SqlOperator) (param : String) (cast : Option String)
  | inTuple (lhs : Lhs) (negated : Bool) (param : String)
  | hasPrefix (lhs : Lhs) (param : String) (cast : Option String) (complete : Bool)
deriving DecidableEq, Repr

abbrev FilterText := List (Token FilterAtom)

inductive FilterError (N : Type) where
  | validationError (message : String)
  | noValidDatetime (value : Json N)
  | unrecognizedFields (keys : List String)
  | valueError (message : String)
  | typeError
  | attributeError

/-- The variables of `compute_user_defined_filter_for_raw_query`. -/
structure FilterState (N D : Type) where
  queryParamIdx : Nat
  queryParams : AList fun _ : String => ParamValue N D
  usedDataSeriesChildren : DataSeriesQueryInfo
  handledKeys : List String
  keysOverall : List String

abbrev FilterM (N D : Type) := StateT (FilterState N D) (Except (FilterError N))

variable {N D : Type}

def Json.isNull : Json N → Bool
  | .null => true
  | _ => false

def singleValuedSqlOperators : List (String × SqlOperator) :=
  [("$eq", .eq), ("$lt", .lt), ("$lte", .lte), ("$ne", .ne), ("$gte", .gte), ("$gt", .gt)]

/-- `IN` and `NOT IN`. -/
def multiValuedSqlOperators : List (String × Bool) := [("$in", false), ("$nin", true)]

/-- How strings are compared with a prefix. -/
structure PrefixSyntax where
  cast : Option String
  complete : Bool

/-- What distinguishes the handlers of the types of children. -/
structure FieldHandler (N D : Type) where
  type : StructureType
  scalar : Json N → Option (Scalar N D)
  cast : Option String
  prefixSyntax : Option PrefixSyntax
  noScalar : String → Json N → FilterError N
  expectedList : String

def FieldHandler.checkScalar (handler : FieldHandler N D) (key : String) (value : Json N) :
    Except (FilterError N) (Scalar N D) :=
  match handler.scalar value with
  | some scalar => .ok scalar
  | none => .error (handler.noScalar key value)

def FieldHandler.checkElements (handler : FieldHandler N D) (operator key : String)
    (value : Json N) : Except (FilterError N) (List (Scalar N D)) :=
  let expected := .validationError ("expected list of " ++ handler.expectedList ++
    " for operator " ++ operator ++ " on field " ++ key)
  match value with
  | .array items =>
      match items.mapM handler.scalar with
      | some scalars => .ok scalars
      | none => .error expected
  | _ => .error expected

/-- The condition of an operator, with what is bound to its parameter. -/
def FieldHandler.condition (handler : FieldHandler N D) (lhs : Lhs)
    (queryParamName key : String) (value : Json N) (operator : String) :
    Except (FilterError N) (FilterAtom × Option (ParamValue N D)) :=
  if operator = "$eq" ∧ value.isNull then return (.isNull lhs, none)
  else if operator = "$ne" ∧ value.isNull then return (.isNotNull lhs, none)
  else match singleValuedSqlOperators.lookup operator with
    | some sqlOperator => do
        let scalar ← handler.checkScalar key value
        return (.compare lhs sqlOperator queryParamName handler.cast, some (.scalar scalar))
    | none =>
        match handler.prefixSyntax.filter fun _ => operator = "$prefix" with
        | some prefixSyntax => do
            let scalar ← handler.checkScalar key value
            return (.hasPrefix lhs queryParamName prefixSyntax.cast prefixSyntax.complete,
              some (.scalar scalar))
        | none =>
            match multiValuedSqlOperators.lookup operator with
            | some negated => do
                let scalars ← handler.checkElements operator key value
                return (.inTuple lhs negated queryParamName, some (.tuple scalars))
            | none => throw (.validationError
                ("unsupported operator " ++ operator ++ " for field " ++ key))

section Handlers

variable (useMaterializedTable : Bool) (info : DataSeriesQueryInfo)

def lhsOf (type : StructureType) (key : String) (queryInfo : ChildQueryInfo type) : Lhs :=
  if useMaterializedTable then .dsDp (ChildQueryInfo.common type queryInfo).valueColumn
  else .relation (escape ("relation_" ++ key))

def DataSeriesQueryInfo.setChild (used : DataSeriesQueryInfo) (type : StructureType)
    (key : String) (queryInfo : ChildQueryInfo type) : DataSeriesQueryInfo :=
  { used with
    children := Function.update used.children type ((used.children type).insert key queryInfo) }

def FilterState.record (state : FilterState N D) (type : StructureType) (key : String)
    (queryInfo : ChildQueryInfo type) (queryParamName : String)
    (param : Option (ParamValue N D)) : FilterState N D :=
  { state with
    queryParams := match param with
      | some value => state.queryParams.insert queryParamName value
      | none => state.queryParams
    usedDataSeriesChildren := state.usedDataSeriesChildren.setChild type key queryInfo
    handledKeys := state.handledKeys.insert key }

/-- The `_handle_if_` functions: the query parts that are appended. -/
def handleIfChild (handler : FieldHandler N D) (queryParamName key : String) (value : Json N)
    (operator : String) : FilterM N D (List FilterAtom) := fun state =>
  match (info.children handler.type).lookup key with
  | none => .ok ([], state)
  | some queryInfo => do
      let (atom, param) ← handler.condition (lhsOf useMaterializedTable handler.type key queryInfo)
        queryParamName key value operator
      return ([atom], state.record handler.type key queryInfo queryParamName param)

def textScalar : Json N → Option (Scalar N D)
  | .string value => some (.text value)
  | _ => none

/-- A boolean is an integer, too. -/
def numericScalar : Json N → Option (Scalar N D)
  | .number value => some (.number value)
  | .boolean value => some (.boolean value)
  | _ => none

def booleanScalar : Json N → Option (Scalar N D)
  | .boolean value => some (.boolean value)
  | _ => none

def expectedValue (expected key : String) : FilterError N :=
  .validationError ("expected " ++ expected ++ " value for field " ++ key)

def floatHandler : FieldHandler N D where
  type := .fact .float
  scalar := numericScalar
  cast := some "double precision"
  prefixSyntax := none
  noScalar := fun key _ => expectedValue "numeric" key
  expectedList := "numeric values"

/-- The placeholder of a prefix lacks its conversion. -/
def stringHandler : FieldHandler N D where
  type := .fact .string
  scalar := textScalar
  cast := none
  prefixSyntax := some ⟨none, false⟩
  noScalar := fun key _ => expectedValue "string" key
  expectedList := "strings"

def textHandler : FieldHandler N D where
  type := .fact .text
  scalar := textScalar
  cast := some "text"
  prefixSyntax := some ⟨some "text", true⟩
  noScalar := fun key _ => expectedValue "string" key
  expectedList := "strings"

/-- `parseDatetime` is `dateparse.parse_datetime` of the value as a string. -/
def timestampHandler (parseDatetime : Json N → Option D) : FieldHandler N D where
  type := .fact .timestamp
  scalar := fun value => (parseDatetime value).map .timestamp
  cast := none
  prefixSyntax := none
  noScalar := fun _ value => .noValidDatetime value
  expectedList := "timestamps"

def booleanHandler : FieldHandler N D where
  type := .fact .boolean
  scalar := booleanScalar
  cast := none
  prefixSyntax := none
  noScalar := fun key _ => expectedValue "boolean" key
  expectedList := "boolean values"

def dimensionHandler : FieldHandler N D where
  type := .dimension
  scalar := textScalar
  cast := none
  prefixSyntax := none
  noScalar := fun key _ => expectedValue "string" key
  expectedList := "strings"

def handleIfFloatFact (queryParamName key : String) (value : Json N) (operator : String) :
    FilterM N D (List FilterAtom) :=
  handleIfChild useMaterializedTable info floatHandler queryParamName key value operator

def handleIfStringFact (queryParamName key : String) (value : Json N) (operator : String) :
    FilterM N D (List FilterAtom) :=
  handleIfChild useMaterializedTable info stringHandler queryParamName key value operator

def handleIfTextFact (queryParamName key : String) (value : Json N) (operator : String) :
    FilterM N D (List FilterAtom) :=
  handleIfChild useMaterializedTable info textHandler queryParamName key value operator

def handleIfTimestampFact (parseDatetime : Json N → Option D) (queryParamName key : String)
    (value : Json N) (operator : String) : FilterM N D (List FilterAtom) :=
  handleIfChild useMaterializedTable info (timestampHandler parseDatetime) queryParamName key
    value operator

def handleIfBooleanFact (queryParamName key : String) (value : Json N) (operator : String) :
    FilterM N D (List FilterAtom) :=
  handleIfChild useMaterializedTable info booleanHandler queryParamName key value operator

def handleIfDimension (queryParamName key : String) (value : Json N) (operator : String) :
    FilterM N D (List FilterAtom) :=
  handleIfChild useMaterializedTable info dimensionHandler queryParamName key value operator

end Handlers

def filterParamName (index : Nat) : String := "filter_" ++ index.repr

def parenthesized (text : FilterText) : FilterText := .leftParen :: text ++ [.rightParen]

section Columns

variable (useMaterializedTable : Bool) (info : DataSeriesQueryInfo)
  (parseDatetime : Json N → Option D)

def primitiveFilter (key : String) (value : Json N) (operator : String) :
    FilterM N D FilterText := do
  let state ← get
  let queryParamName := filterParamName state.queryParamIdx
  set { state with
    keysOverall := state.keysOverall.insert key
    queryParamIdx := state.queryParamIdx + 1 }
  let handlers := [
    handleIfFloatFact useMaterializedTable info,
    handleIfStringFact useMaterializedTable info,
    handleIfTextFact useMaterializedTable info,
    handleIfTimestampFact useMaterializedTable info parseDatetime,
    handleIfBooleanFact useMaterializedTable info,
    handleIfDimension useMaterializedTable info]
  let queryParts ← handlers.mapM fun handle => handle queryParamName key value operator
  return List.intercalate [.and] (queryParts.flatten.map fun atom => [.atom atom])

mutual

def handleColumn (column operator : String) : Json N → FilterM N D FilterText
  | .object members => do
      if members.isEmpty then return [.atom .always]
      let andClauses ← handleOperators column members
      return List.intercalate [.and] andClauses
  | value => primitiveFilter useMaterializedTable info parseDatetime column value operator

def handleOperators (column : String) : List (String × Json N) → FilterM N D (List FilterText)
  | [] => return []
  | (operator, value) :: rest => do
      let clause ← handleColumn column operator value
      let clauses ← handleOperators column rest
      return parenthesized clause :: clauses

end

end Columns

section Filters

variable (handleColumn : String → Json N → FilterM N D FilterText) (maxDepth : Nat)

/-- The loop over a dictionary, with what it makes of the keys.  The last AND is
removed. -/
def joinMembers (depth : Nat) (members : List (String × Json N))
    (parts : FilterM N D (List FilterText)) : FilterM N D FilterText := do
  if depth > maxDepth then
    throw (.validationError "Maximum nesting complexity of query reached")
  if members.isEmpty then return [.atom .always]
  return ((← parts).flatMap fun part => part ++ [.and]).dropLast

/-- Strings and lists have a length as well, but no items. -/
def noDictionary (depth : Nat) (isEmpty : Bool) (error : FilterError N) :
    FilterM N D FilterText := do
  if depth > maxDepth then
    throw (.validationError "Maximum nesting complexity of query reached")
  if isEmpty then return [.atom .always]
  throw error

mutual

def complexFilterToSqlFilter (depth : Nat) : Json N → FilterM N D FilterText
  | .object members => joinMembers maxDepth depth members (filterMembers depth members)
  | .array items => noDictionary maxDepth depth items.isEmpty .attributeError
  | .string value => noDictionary maxDepth depth value.isEmpty .attributeError
  | _ => noDictionary maxDepth depth false .typeError

def filterMembers (depth : Nat) : List (String × Json N) → FilterM N D (List FilterText)
  | [] => return []
  | (key, value) :: rest => do
      let part ← filterMember depth key value
      let parts ← filterMembers depth rest
      return part :: parts

def filterMember (depth : Nat) (key : String) (value : Json N) : FilterM N D FilterText :=
  if key = "$and" then
    match value with
    | .array items => do
        if items.isEmpty then
          throw (.validationError "argument to $and must be a non empty array")
        let andClauses ← filterItems (depth + 1) items
        return parenthesized (List.intercalate [.and] andClauses)
    | _ => throw (.validationError "$and operator requires a list as argument")
  else if key = "$or" then
    match value with
    | .array items => do
        if items.isEmpty then
          throw (.validationError "argument to $or must be a non empty array")
        let orClauses ← filterItems (depth + 1) items
        return parenthesized (List.intercalate [.or] orClauses)
    | _ => throw (.validationError "$or operator requires a list as argument")
  else if key = "$not" then
    match value with
    | .object members => do
        if members.isEmpty then
          throw (.validationError "argument to $not must be a non empty dictionary")
        let childClause ←
          joinMembers maxDepth (depth + 1) members (filterMembers (depth + 1) members)
        return parenthesized (.not :: parenthesized childClause)
    | _ => throw (.validationError "$not operator requires a dictionary as argument")
  else if key.toList.head? = some '$' then
    throw (.valueError ("Unsupported operator: " ++ key))
  else handleColumn key value

def filterItems (depth : Nat) : List (Json N) → FilterM N D (List FilterText)
  | [] => return []
  | item :: rest => do
      let clause ← complexFilterToSqlFilter depth item
      let clauses ← filterItems depth rest
      return parenthesized clause :: clauses

end

end Filters

/-- The condition starts with an AND. -/
structure UserDefinedFilter (N D : Type) where
  filterQueryStr : FilterText
  queryParams : AList fun _ : String => ParamValue N D
  usedDataSeriesChildren : DataSeriesQueryInfo

def FilterState.initial (info : DataSeriesQueryInfo) : FilterState N D where
  queryParamIdx := 0
  queryParams := ∅
  usedDataSeriesChildren :=
    { info with mainAliveFilter := .deletedAtIsNull, children := fun _ => ∅ }
  handledKeys := []
  keysOverall := []

/-- `maxDepth` is the default of `complex_filter_to_sql_filter`. -/
def computeUserDefinedFilterForRawQuery (useMaterializedTable : Bool) (info : DataSeriesQueryInfo)
    (parseDatetime : Json N → Option D) (filterParams : Json N) :
    Except (FilterError N) (UserDefinedFilter N D) := do
  let (filterQueryStr, state) ← complexFilterToSqlFilter
    (fun column value =>
      handleColumn useMaterializedTable info parseDatetime column "$eq" value)
    10 0 filterParams (.initial info)
  let notFound := state.keysOverall.filter fun key => key ∉ state.handledKeys
  if notFound ≠ [] then throw (.unrecognizedFields notFound)
  return {
    filterQueryStr := if filterQueryStr ≠ [] then .and :: filterQueryStr else []
    queryParams := state.queryParams
    usedDataSeriesChildren := state.usedDataSeriesChildren }

def externalIdParamName (index : Nat) : String := "external_id_" ++ index.repr

def externalIdParams (externalIds : List ExternalId) : AList fun _ : String => ParamValue N D :=
  externalIds.zipIdx.foldl
    (fun params entry => params.insert (externalIdParamName entry.2) (.scalar (.text entry.1))) ∅

def externalIdClauses (externalIds : List ExternalId) : List FilterText :=
  externalIds.zipIdx.map fun entry =>
    [.atom (.compare (.dsDp "external_id") .eq (externalIdParamName entry.2) none)]

def externalIdQueryStr (externalIds : List ExternalId) : FilterText :=
  if externalIds ≠ [] then
    .and :: parenthesized (List.intercalate [.or] (externalIdClauses externalIds))
  else []

def precomputeFilterPart (externalIds : Option (List ExternalId)) (filterValue : Json N)
    (info : DataSeriesQueryInfo) (useMaterializedTable : Bool)
    (parseDatetime : Json N → Option D) : Except (FilterError N) (UserDefinedFilter N D) := do
  let externalIds := externalIds.getD []
  let userDefinedFilter ←
    computeUserDefinedFilterForRawQuery useMaterializedTable info parseDatetime filterValue
  return {
    filterQueryStr := externalIdQueryStr externalIds ++ userDefinedFilter.filterQueryStr
    queryParams := userDefinedFilter.queryParams ∪ externalIdParams externalIds
    usedDataSeriesChildren := userDefinedFilter.usedDataSeriesChildren }

end NFCompose
