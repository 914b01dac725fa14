/-
The validation of a data point.  Its dimensions and its facts are checked one kind
after the other, each on what the checks before have left in the payload.
-/
import NFCompose.KeyedDiff
import NFCompose.UserDefinedFilter

namespace NFCompose

open KeyedDiff

/-- A number of Python; `X` has its floats. -/
inductive PyNumber (X : Type) where
  | int (value : Int)
  | float (value : X)
deriving DecidableEq, Repr

/-- A value of a payload.  It comes from JSON, or it is a timestamp or a file. -/
inductive PyValue (X T F : Type) where
  | json (value : Json (PyNumber X))
  | datetime (value : T)
  | file (value : F)

namespace PyValue

variable {X T F : Type}

def isNone : PyValue X T F → Bool
  | .json .null => true
  | _ => false

def isEmptyString : PyValue X T F → Bool
  | .json (.string text) => text = ""
  | _ => false

end PyValue

/-- What validations use of Python: how a value is formatted, the floats of integers,
SHA-256 and the order of sets. -/
structure PythonRuntime (X T F : Type) where
  format : PyValue X T F → String
  floatOfInt : Int → X
  hexdigest : String → String
  sets : SetOrder ExternalId

/-- An integer that is rounded to `2 ^ 1024` or more has no float. -/
def floatOverflows (value : Int) : Bool := Nat.pow 2 1024 - Nat.pow 2 970 ≤ value.natAbs

inductive ValidationRaised where
  | validationError (detail : String)
  | apiException (detail : String)
  | errors (payload : AList fun _ : ExternalId => List String) (externalId : Option String)
  | notFound (detail : String)
  | overflowError
  | doesNotExist
  | assertionError (detail : String)

abbrev FieldErrors := AList fun _ : ExternalId => List String

abbrev Attrs (X T F : Type) := AList fun _ : ExternalId => PyValue X T F

def appendError (errors : FieldErrors) (key : ExternalId) (error : String) : FieldErrors :=
  errors.insert key ((errors.lookup key).getD [] ++ [error])

structure FactInfo where
  externalId : ExternalId
  optional : Bool
deriving DecidableEq, Repr

structure DimensionInfo where
  externalId : ExternalId
  optional : Bool
  reference : ReadOnlyDataSeries
deriving DecidableEq, Repr

/-- The order in which the facts are validated. -/
def validatedFactTypes : List FactType :=
  [.float, .string, .text, .timestamp, .json, .image, .file, .boolean]

/-- The structure elements of a data series.  No two of them share an external id. -/
structure PayloadStructure where
  dataSeriesId : Uuid
  facts : FactType → List FactInfo
  dimensions : List DimensionInfo
  externalIds_nodup : (dimensions.map DimensionInfo.externalId ++
    validatedFactTypes.flatMap fun type => (facts type).map FactInfo.externalId).Nodup

structure ReadOnlyDataPoint where
  id : DataPointId
  dataSeriesId : Uuid
  externalId : ExternalId
deriving DecidableEq, Repr

abbrev DataPointAccessor :=
  DataPointId → Uuid → Except ValidationRaised (Option ReadOnlyDataPoint)

/-- What a request has as its payload.  A form has a dictionary of many values. -/
inductive PayloadArgument (X T F : Type) where
  | dict (attrs : Attrs X T F)
  | multiValueDict
  | other (value : PyValue X T F)

structure DataPointData (X T F : Type) where
  payload : Option (PayloadArgument X T F)
  externalId : Option (PyValue X T F)

structure ValidationRequest where
  dataPointId : Option DataPointId
  info : PayloadStructure
  isPartial : Bool
  bulkInsert : Bool
  externalIdAsDimensionIdentifier : Bool
  dataPointAccessor : DataPointAccessor

structure ValidDataPoint (X T F : Type) where
  id : DataPointId
  externalId : Option ExternalId
  payload : Attrs X T F

section Validation

variable {X T F : Type} (runtime : PythonRuntime X T F)

def genUuid (dataSeriesId : Uuid) (externalId : ExternalId) : DataPointId :=
  dataSeriesId ++ "-" ++ runtime.hexdigest externalId

def ensurePayload (data : DataPointData X T F) : Except ValidationRaised (Attrs X T F) :=
  match data.payload with
  | none => throw (.validationError "payload is expected to be set")
  | some (.dict attrs) => pure attrs
  | some .multiValueDict => throw (.apiException "payload should not be a multi-value dict")
  | some (.other _) => throw (.validationError "payload is expected to be an object/dictionary")

/-- The required keys that a payload does not have. -/
def missingKeys (required : List ExternalId) (attrs : Attrs X T F) : List ExternalId :=
  runtime.sets.order (required.dedup.filter fun key => key ∉ attrs)

def appendEach (errors : FieldErrors) (keys : List ExternalId) (error : ExternalId → String) :
    FieldErrors :=
  keys.foldl (fun errors key => appendError errors key (error key)) errors

/-- The checks of the values that are given.  A check returns its errors, and the value
that it leaves in the payload. -/
def eachGiven {A : Type} (externalId : A → ExternalId)
    (check : A → PyValue X T F → Except ValidationRaised (List String × PyValue X T F)) :
    List A → FieldErrors × Attrs X T F → Except ValidationRaised (FieldErrors × Attrs X T F)
  | [], state => pure state
  | item :: items, state =>
      match state.2.lookup (externalId item) with
      | none => eachGiven externalId check items state
      | some value =>
          if value.isNone then eachGiven externalId check items state
          else do
            let (additional, checked) ← check item value
            eachGiven externalId check items
              (additional.foldl (fun errors error => appendError errors (externalId item) error)
                state.1, state.2.insert (externalId item) checked)

def requiredDimensionIds (info : PayloadStructure) : List ExternalId :=
  (info.dimensions.filter fun dimension =>
    dimension.reference.id ≠ info.dataSeriesId && !dimension.optional).map
      DimensionInfo.externalId

def validateDimIds (info : PayloadStructure) (isPartial : Bool) (attrs : Attrs X T F) :
    FieldErrors :=
  if isPartial then ∅
  else appendEach ∅ (missingKeys runtime (requiredDimensionIds info) attrs) fun element =>
    "dimension " ++ element ++ " was not set, but is required"

def checkDimension (useExternalId : Bool) (accessor : DataPointAccessor)
    (dimension : DimensionInfo) (value : PyValue X T F) :
    Except ValidationRaised (List String × PyValue X T F) :=
  -- an empty external id is the same as it being set to null/None
  if value.isEmptyString then pure ([], .json .null)
  else
    let used := "DataPoint with " ++ (if useExternalId then "external id " else "id ") ++
      runtime.format value ++ " used in dimension " ++ dimension.externalId
    match value with
    | .json (.string identifier) => do
        let dpId := if useExternalId then genUuid runtime dimension.reference.id identifier
          else identifier
        match ← accessor dpId dimension.reference.id with
        | none => pure ([used ++ " does not exist"], .json (.string dpId))
        | some datapoint =>
            if datapoint.dataSeriesId ≠ dimension.reference.id then
              pure ([used ++ "does not belong to the expected DataSeries " ++
                dimension.reference.id], .json (.string dpId))
            else pure ([], .json (.string dpId))
    | value => pure ([used ++ " was no string"], value)

def validateDimensions (request : ValidationRequest) (attrs : Attrs X T F) :
    Except ValidationRaised (FieldErrors × Attrs X T F) :=
  eachGiven DimensionInfo.externalId
    (checkDimension runtime request.externalIdAsDimensionIdentifier request.dataPointAccessor)
    request.info.dimensions (validateDimIds runtime request.info request.isPartial attrs, attrs)

/-- The facts that are given, but must not be null. -/
def factsWithWrongNull (facts : List FactInfo) (attrs : Attrs X T F) : List ExternalId :=
  (facts.filter fun fact =>
    !fact.optional && (attrs.lookup fact.externalId).any PyValue.isNone).map FactInfo.externalId

def requiredFactIds (facts : List FactInfo) : List ExternalId :=
  (facts.filter fun fact => !fact.optional).map FactInfo.externalId

def validateFactIds (isPartial : Bool) (name : String) (facts : List FactInfo)
    (attrs : Attrs X T F) : FieldErrors :=
  let errors := if isPartial then ∅
    else appendEach ∅ (missingKeys runtime (requiredFactIds facts) attrs) fun element =>
      name ++ " " ++ element ++ " was not set, but is required"
  appendEach errors (factsWithWrongNull facts attrs) fun element =>
    name ++ " " ++ element ++ " was set to null, but is required"

abbrev FactTypeValidation (X T F : Type) :=
  PyValue X T F → Except ValidationRaised (List String × PyValue X T F)

/-- A value with errors stays as it is. -/
def checkFact (factTypeValidation : FactTypeValidation X T F) (value : PyValue X T F) :
    Except ValidationRaised (List String × PyValue X T F) := do
  let (additional, checked) ← factTypeValidation value
  return if additional.isEmpty then ([], checked) else (additional, value)

def validateFact (factTypeValidation : FactTypeValidation X T F) (name : String)
    (facts : List FactInfo) (isPartial : Bool) (attrs : Attrs X T F) :
    Except ValidationRaised (FieldErrors × Attrs X T F) :=
  eachGiven FactInfo.externalId (fun _ => checkFact factTypeValidation) facts
    (validateFactIds runtime isPartial name facts attrs, attrs)

def isFloat : FactTypeValidation X T F
  -- booleans are integers
  | .json (.boolean _) => pure (["value is no float"], .json .null)
  | .json (.number (.float value)) => pure ([], .json (.number (.float value)))
  | .json (.number (.int value)) =>
      if floatOverflows value then throw .overflowError
      else pure ([], .json (.number (.float (runtime.floatOfInt value))))
  | _ => pure (["value is no float"], .json .null)

def isString : FactTypeValidation X T F
  | .json (.string value) => pure ([], .json (.string value))
  | _ => pure (["value is no string"], .json .null)

def isText : FactTypeValidation X T F
  | .json (.string value) => pure ([], .json (.string value))
  | _ => pure (["value is no text"], .json .null)

def isTimestamp : FactTypeValidation X T F
  | .datetime value => pure ([], .datetime value)
  | _ => pure (["value is no timestamp"], .json .null)

def isJson : FactTypeValidation X T F
  | .json .null => pure (["value is no json"], .json .null)
  | .json value => pure ([], .json value)
  | _ => pure (["value is no json"], .json .null)

/-- What is no JSON value is taken for a file. -/
def isUpload (error : String) : FactTypeValidation X T F
  | .json .null => pure ([], .json .null)
  | .json _ => pure ([error], .json .null)
  | value => pure ([], value)

def isImage : FactTypeValidation X T F := isUpload "value is no image"

def isFile : FactTypeValidation X T F := isUpload "value is no file"

def isBoolean : FactTypeValidation X T F
  | .json (.boolean value) => pure ([], .json (.boolean value))
  | _ => pure (["value is no bool"], .json .null)

section Facts

variable (info : PayloadStructure)

def validateFloatFacts := validateFact runtime (isFloat runtime) "float fact" (info.facts .float)

def validateStringFacts := validateFact runtime isString "string fact" (info.facts .string)

def validateTextFacts := validateFact runtime isText "text fact" (info.facts .text)

def validateTimestampFacts :=
  validateFact runtime isTimestamp "timestamp fact" (info.facts .timestamp)

def validateJsonFacts := validateFact runtime isJson "json fact" (info.facts .json)

def validateImageFacts := validateFact runtime isImage "image fact" (info.facts .image)

def validateFileFacts := validateFact runtime isFile "file fact" (info.facts .file)

def validateBooleanFacts := validateFact runtime isBoolean "boolean fact" (info.facts .boolean)

def validateFacts : FactType → Bool → Attrs X T F →
    Except ValidationRaised (FieldErrors × Attrs X T F)
  | .float => validateFloatFacts runtime info
  | .string => validateStringFacts runtime info
  | .text => validateTextFacts runtime info
  | .timestamp => validateTimestampFacts runtime info
  | .json => validateJsonFacts runtime info
  | .image => validateImageFacts runtime info
  | .file => validateFileFacts runtime info
  | .boolean => validateBooleanFacts runtime info

end Facts

def validateExternalId (request : ValidationRequest) (data : DataPointData X T F) :
    Except ValidationRaised ExternalId :=
  match data.externalId with
  | none => throw (.validationError "external_id is not set")
  | some (.json (.string externalId)) => do
      match request.dataPointId with
      | none =>
          if !request.bulkInsert then
            let found ← request.dataPointAccessor
              (genUuid runtime request.info.dataSeriesId externalId) request.info.dataSeriesId
            if found.isSome then
              throw (.validationError ("external id '" ++ externalId ++
                "' is already in use by a another data_point in this dataseries"))
      | some dataPointId =>
          match ← request.dataPointAccessor dataPointId request.info.dataSeriesId with
          | none => throw (.notFound "did not find datapoint")
          | some datapoint =>
              if externalId ≠ datapoint.externalId then
                throw (.validationError "changing of external_id for DataPoints is not supported!")
      return externalId
  | some _ => throw (.validationError "external_id is no string")

/-- The errors of one kind of facts join those that have been found before. -/
def runSubValidation (request : ValidationRequest) (state : FieldErrors × Attrs X T F)
    (type : FactType) : Except ValidationRaised (FieldErrors × Attrs X T F) := do
  let (errors, attrs) ← validateFacts runtime request.info type request.isPartial state.2
  return (errors ∪ state.1, attrs)

/-- The external id, or why it is refused.  Patches may leave it out. -/
def checkedExternalId (request : ValidationRequest) (data : DataPointData X T F) :
    Except ValidationRaised (Option ExternalId × Option String) :=
  if request.isPartial && data.externalId.isNone then pure (none, none)
  else
    match validateExternalId runtime request data with
    | .ok externalId => pure (some externalId, none)
    | .error (.validationError detail) => pure (none, some detail)
    | .error raised => throw raised

def validate (data : DataPointData X T F) (request : ValidationRequest) :
    Except ValidationRaised (ValidDataPoint X T F) := do
  let given ← ensurePayload data
  let dimensions ← validateDimensions runtime request given
  let (payloadErrors, attrs) ← validatedFactTypes.foldlM (runSubValidation runtime request)
    dimensions
  let (externalId, externalIdError) ← checkedExternalId runtime request data
  if !payloadErrors.entries.isEmpty || externalIdError.isSome then
    throw (.errors payloadErrors externalIdError)
  match request.dataPointId, externalId with
  | some dataPointId, externalId => return ⟨dataPointId, externalId, attrs⟩
  | none, some externalId =>
      return ⟨genUuid runtime request.info.dataSeriesId externalId, some externalId, attrs⟩
  | none, none =>
      throw (.assertionError "external_id may not be null if id does not exist already")

end Validation

section Repository

variable {V : Type}

/-- What is stored for a data series.  A partition has the data points of the backends
that are no longer supported. -/
structure SeriesContent (V : Type) where
  backend : StorageBackendType
  storage : StorageState V
  dataPoints : List ReadOnlyDataPoint

def getDataPoint (dataSeriesId : Uuid) (content : SeriesContent V) (identifier : DataPointId) :
    Option ReadOnlyDataPoint :=
  if content.backend = .dynamicSqlNoHistory ∨
      content.backend = .dynamicSqlMaterializedFlatHistory then
    ((content.storage.materialized.lookup identifier).filter fun row =>
      row.deletedAt.isNone).map fun row => ⟨identifier, dataSeriesId, row.externalId⟩
  else
    content.dataPoints.find? fun datapoint =>
      datapoint.dataSeriesId = dataSeriesId && datapoint.id = identifier

/-- The data points of the data series that are there. -/
def dataPointAccessor (contents : Uuid → Option (SeriesContent V)) : DataPointAccessor :=
  fun identifier dataSeriesId =>
    match contents dataSeriesId with
    | none => throw .doesNotExist
    | some content => pure (getDataPoint dataSeriesId content identifier)

end Repository

end NFCompose
