/-
The client pushes the operations of diffs to a server.  Their payloads are dictionaries
in the memory of the client, which a push reads and may write.
-/
import NFCompose.EffectRules
import NFCompose.KeyedDiff
import NFCompose.StructureServer
import NFCompose.UrlForms
import NFCompose.UserDefinedFilter

namespace NFCompose

namespace DiffPush

open KeyedDiff

abbrev PayloadRef := Nat

abbrev Payload (N : Type) := AList fun _ : String => Json N

/-- The dictionaries that the operations have as their payloads. -/
abbrev Heap (N : Type) := PayloadRef → Payload N

structure ExternalIdOperation where
  operationType : OperationType
  externalId : Option String
  payload : PayloadRef
deriving DecidableEq, Repr

structure NameOperation where
  operationType : OperationType
  name : Option String
  payload : PayloadRef
deriving DecidableEq, Repr

structure DataSeriesDefinitionDiff where
  externalId : String
  dataSeries : Option ExternalIdOperation
  structureDiff : StructureType → List ExternalIdOperation
  groupPermissions : List NameOperation
  consumers : List ExternalIdOperation
  indexes : List ExternalIdOperation

structure HttpEndpointDefinitionDiff where
  externalId : String
  httpEndpoint : Option ExternalIdOperation
  groupPermissions : List NameOperation

/-- The fields of `DataSeriesStructureDiff` in their order. -/
def structureTypes : List StructureType :=
  [.fact .float, .fact .string, .fact .text, .fact .timestamp, .fact .image, .fact .file,
    .fact .json, .fact .boolean, .dimension]

def structureTypeToPathElem : StructureType → String
  | .fact .float => "floatfact"
  | .fact .string => "stringfact"
  | .fact .text => "textfact"
  | .fact .timestamp => "timestampfact"
  | .fact .image => "imagefact"
  | .fact .file => "filefact"
  | .fact .json => "jsonfact"
  | .fact .boolean => "booleanfact"
  | .dimension => "dimension"

def basePathDataSeriesByExternalId : String := "/api/dataseries/by-external-id/dataseries/"

/-- An external id in a url. -/
def formatId (externalId : Option String) : String := externalId.getD "None"

/-- `urlencode` of one parameter. -/
def urlencode (name value : String) : String :=
  name ++ "=" ++ String.ofList (value.toList.flatMap fun c =>
    if c = ' ' then ['+'] else UrlForms.quote [c])

inductive ApiRequest (N : Type) where
  | get (url : String)
  | delete (url : String)
  | post (url : String) (data : Payload N)
  | patch (url : String) (data : Payload N)
  | put (url : String) (data : Payload N)

/-- The connection to a server.  A request that is not answered raises. -/
structure ApiClient (N W : Type) where
  baseUrl : String
  send : ApiRequest N → W → Option (Json N) × W

inductive PushError where
  | httpError
  | keyError
  | typeError
  | indexError
  | assertionError
  | interrupted
deriving DecidableEq, Repr

structure PushState (N W : Type) where
  heap : Heap N
  world : W
  requests : List (ApiRequest N)

abbrev PushM (N W : Type) := EStateM PushError (PushState N W)

/-- Operations of one type. -/
def ofType (operationType : OperationType) (operations : List ExternalIdOperation) :
    List ExternalIdOperation :=
  operations.filter fun operation => operation.operationType = operationType

def structureOps (operationType : OperationType)
    (structureDiff : StructureType → List ExternalIdOperation) :
    List (StructureType × ExternalIdOperation) :=
  structureTypes.flatMap fun type =>
    (ofType operationType (structureDiff type)).map fun operation => (type, operation)

section Answers

variable {N : Type}

def field (name : String) : Json N → Except PushError (Json N)
  | .object members =>
      match members.lookup name with
      | some value => pure value
      | none => throw .keyError
  | _ => throw .typeError

def stringField (name : String) (answer : Json N) : Except PushError String := do
  match ← field name answer with
  | .string text => pure text
  | _ => throw .typeError

structure RawWithUrl where
  url : String
  externalId : String

/-- `RawDataSeries.from_dict` and `RawEngine.from_dict`, as far as the push reads them: the other
fields of the data classes are neither required nor typed here. -/
def rawWithUrl (json : Json N) : Except PushError RawWithUrl := do
  let url ← stringField "url" json
  let externalId ← stringField "external_id" json
  return ⟨url, externalId⟩

structure RawGroup (N : Type) where
  name : String
  id : Json N

/-- `RawGroup.from_dict`, as far as the push reads it.  The id is optional, and the other fields
of the data class are neither required nor typed here. -/
def rawGroup (json : Json N) : Except PushError (RawGroup N) := do
  let name ← stringField "name" json
  return ⟨name, ((field "id" json).toOption).getD .null⟩

def parsePage {A : Type} (converter : Json N → Except PushError A) (pageData : Json N) :
    Except PushError (List A × Json N) := do
  match field "results" pageData with
  | .error .keyError => throw .assertionError
  | .error error => throw error
  | .ok results =>
      let next ← field "next" pageData
      match results with
      | .array items => return (← items.mapM converter, next)
      | _ => throw .typeError

/-- `'indexes' in ds_json`. -/
def containsIndexes : Json N → Except PushError Bool
  | .object members => pure (members.lookup "indexes").isSome
  | .array items => pure (items.any fun item =>
      match item with
      | .string text => text = "indexes"
      | _ => false)
  | .string text => pure (decide ("indexes".toList <:+: text.toList))
  | _ => throw .typeError

/-- `json['results'][0]['url']`. -/
def firstUrl (answer : Json N) : Except PushError String := do
  match ← field "results" answer with
  | .array (first :: _) => stringField "url" first
  | .array [] => throw .indexError
  | _ => throw .typeError

end Answers

section Push

variable {N W : Type} (client : ApiClient N W) (format : Json N → String)

def send (request : ApiRequest N) : PushM N W (Json N) := fun state =>
  match client.send request state.world with
  | (some answer, world) => .ok answer
      { state with world := world, requests := state.requests ++ [request] }
  | (none, world) => .error .httpError
      { state with world := world, requests := state.requests ++ [request] }

def raising {A : Type} : Except PushError A → PushM N W A
  | .ok value => pure value
  | .error error => throw error

def readPayload (payload : PayloadRef) : PushM N W (Payload N) := fun state =>
  .ok (state.heap payload) state

/-- `_payload[name] = urls[_payload[name]]`. -/
def resolveInPlace (name : String) (urls : AList fun _ : String => String)
    (payload : PayloadRef) : PushM N W Unit := fun state =>
  match (state.heap payload).lookup name with
  | none => .error .keyError state
  | some (.array _) => .error .typeError state
  | some (.object _) => .error .typeError state
  | some (.string externalId) =>
      match urls.lookup externalId with
      | none => .error .keyError state
      | some url => .ok () { state with
          heap := Function.update state.heap payload
            ((state.heap payload).insert name (.string url)) }
  | some _ => .error .keyError state

/-- At most this many pages are read before the run is interrupted. -/
def readPaginatedAll {A : Type} (converter : Json N → Except PushError A) :
    Nat → String → PushM N W (List A)
  | 0, _ => throw .interrupted
  | pages + 1, url => do
      let pageData ← send client (.get url)
      let (items, next) ← raising (parsePage converter pageData)
      match next with
      | .null => return items
      | .string url => do
          let rest ← readPaginatedAll converter pages url
          return items ++ rest
      | _ => throw .typeError

def url (path : String) : String := client.baseUrl ++ path

def dataSeriesUrl (dsExternalId path : String) : String :=
  url client (basePathDataSeriesByExternalId ++ dsExternalId ++ "/" ++ path)

def deletes (dsExternalId childType : String) (operation : ExternalIdOperation) :
    PushM N W Unit := do
  let _ ← send client (.delete (dataSeriesUrl client dsExternalId
    (childType ++ "/" ++ formatId operation.externalId ++ "/")))

def posts (dsExternalId childType : String) (operation : ExternalIdOperation) :
    PushM N W Unit := do
  let payload ← readPayload operation.payload
  let _ ← send client (.post (dataSeriesUrl client dsExternalId (childType ++ "/")) payload)

def patches (dsExternalId childType : String) (operation : ExternalIdOperation) :
    PushM N W Unit := do
  let payload ← readPayload operation.payload
  let _ ← send client (.patch (dataSeriesUrl client dsExternalId
    (childType ++ "/" ++ formatId operation.externalId ++ "/")) payload)

def simpleChildMigrateDelete (dsExternalId childType : String)
    (data : List ExternalIdOperation) : PushM N W Unit :=
  (ofType .delete data).forM (deletes client dsExternalId childType)

def simpleChildMigrateCreateUpdate (dsExternalId childType : String)
    (data : List ExternalIdOperation) : PushM N W Unit := do
  (ofType .create data).forM (posts client dsExternalId childType)
  (ofType .update data).forM (patches client dsExternalId childType)

def deleteStructureElements (diff : DataSeriesDefinitionDiff) : PushM N W Unit :=
  (structureOps .delete diff.structureDiff).forM fun entry =>
    deletes client diff.externalId (structureTypeToPathElem entry.1) entry.2

/-- The server is asked first whether it has indexes. -/
def withIndexes (diff : DataSeriesDefinitionDiff) (migrate : PushM N W Unit) : PushM N W Unit := do
  let dsJson ← send client (.get (dataSeriesUrl client diff.externalId ""))
  let hasIndexes ← raising (containsIndexes dsJson)
  if hasIndexes then migrate else pure ()

def deleteIndexes (diff : DataSeriesDefinitionDiff) : PushM N W Unit :=
  withIndexes client diff (simpleChildMigrateDelete client diff.externalId "index" diff.indexes)

def createUpdateIndexes (diff : DataSeriesDefinitionDiff) : PushM N W Unit :=
  withIndexes client diff
    (simpleChildMigrateCreateUpdate client diff.externalId "index" diff.indexes)

/-- The reference of a dimension is replaced by its url before the request is sent. -/
def writeElement (urls : AList fun _ : String => String)
    (sends : String → ExternalIdOperation → PushM N W Unit)
    (entry : StructureType × ExternalIdOperation) : PushM N W Unit := do
  if entry.1 = .dimension then resolveInPlace "reference" urls entry.2.payload else pure ()
  sends (structureTypeToPathElem entry.1) entry.2

def createUpdateStructureElements (urls : AList fun _ : String => String)
    (diff : DataSeriesDefinitionDiff) : PushM N W Unit := do
  (structureOps .create diff.structureDiff).forM
    (writeElement urls (posts client diff.externalId))
  (structureOps .update diff.structureDiff).forM
    (writeElement urls (patches client diff.externalId))

def bareOperations (operationType : OperationType) (diffs : List DataSeriesDefinitionDiff) :
    List ExternalIdOperation :=
  ofType operationType (diffs.filterMap DataSeriesDefinitionDiff.dataSeries)

/-- The urls that this returns are not used by a push. -/
def migrateBareDataSeries (diffs : List DataSeriesDefinitionDiff) : PushM N W Unit := do
  (bareOperations .delete diffs).forM fun operation => do
    let _ ← send client (.delete (url client
      (basePathDataSeriesByExternalId ++ formatId operation.externalId ++ "/")))
  (bareOperations .create diffs).forM fun operation => do
    let payload ← readPayload operation.payload
    let answer ← send client (.post (url client "/api/dataseries/dataseries/") payload)
    let _ ← raising (rawWithUrl answer)
  (bareOperations .update diffs).forM fun operation => do
    let payload ← readPayload operation.payload
    let answer ← send client (.patch (url client
      (basePathDataSeriesByExternalId ++ formatId operation.externalId ++ "/")) payload)
    let _ ← raising (rawWithUrl answer)

def toUrls (rows : List RawWithUrl) : AList fun _ : String => String :=
  rows.foldl (fun urls row => urls.insert row.externalId row.url) ∅

def toGroupIds (groups : List (RawGroup N)) : AList fun _ : String => Json N :=
  groups.foldl (fun ids group => ids.insert group.name group.id) ∅

/-- Deleting does not make sense for permissions, they can only be put. -/
def putPermission (baseUrl : String) (groupIds : AList fun _ : String => Json N)
    (change : NameOperation) : PushM N W Unit :=
  if change.operationType = .delete then pure ()
  else
    match change.name.bind groupIds.lookup with
    | none => throw .keyError
    | some id => do
        let payload ← readPayload change.payload
        let _ ← send client
          (.put (baseUrl ++ "permission/group/" ++ format id ++ "/") payload)

def DataSeriesDefinitionDiff.hasOperation (diff : DataSeriesDefinitionDiff)
    (operationType : OperationType) : Bool :=
  diff.dataSeries.any fun operation => operation.operationType = operationType

/-- `DataSeriesDefinitionDiffPusher.push`. -/
def pushDataSeries (pages : Nat) (diffs : List DataSeriesDefinitionDiff) : PushM N W Unit := do
  -- created data series are not allowed to have deletions in them
  (diffs.filter fun diff => !diff.hasOperation .create).forM fun diff => do
    deleteIndexes client diff
    deleteStructureElements client diff
    simpleChildMigrateDelete client diff.externalId "consumer" diff.consumers
  migrateBareDataSeries client diffs
  let allRawDataSeries ← readPaginatedAll client rawWithUrl pages
    (url client "/api/dataseries/dataseries/")
  -- no ops on deleted data series
  (diffs.filter fun diff => !diff.hasOperation .delete).forM fun diff => do
    createUpdateStructureElements client (toUrls allRawDataSeries) diff
    simpleChildMigrateCreateUpdate client diff.externalId "consumer" diff.consumers
    createUpdateIndexes client diff
  let allGroups ← readPaginatedAll client rawGroup pages (url client "/api/common/auth/group/")
  diffs.forM fun diff => diff.groupPermissions.forM
    (putPermission client format (dataSeriesUrl client diff.externalId "") (toGroupIds allGroups))

def getHttpEndpoint (externalId : String) : PushM N W String := do
  let answer ← send client (.get (url client
    ("/api/flow/httpendpoint/?" ++ urlencode "external_id" externalId)))
  raising (firstUrl answer)

/-- An endpoint that is created or updated gets the url of its engine. -/
def migrateHttpEndpoint (engineUrls : AList fun _ : String => String)
    (diff : HttpEndpointDefinitionDiff) : PushM N W Unit :=
  match diff.httpEndpoint with
  | none => pure ()
  | some operation =>
      match operation.operationType with
      | .delete => do
          let endpointUrl ← getHttpEndpoint client diff.externalId
          let _ ← send client (.delete endpointUrl)
      | .create => do
          resolveInPlace "engine" engineUrls operation.payload
          let payload ← readPayload operation.payload
          let _ ← send client (.post (url client "/api/flow/httpendpoint/") payload)
      | .update => do
          resolveInPlace "engine" engineUrls operation.payload
          let endpointUrl ← getHttpEndpoint client diff.externalId
          let payload ← readPayload operation.payload
          let _ ← send client (.patch endpointUrl payload)

def HttpEndpointDefinitionDiff.isDeleted (diff : HttpEndpointDefinitionDiff) : Bool :=
  diff.httpEndpoint.any fun operation => operation.operationType = .delete

/-- `HttpEndpointDefinitionDiffPusher.push`. -/
def pushHttpEndpoints (pages : Nat) (diffs : List HttpEndpointDefinitionDiff) :
    PushM N W Unit := do
  let allGroups ← readPaginatedAll client rawGroup pages (url client "/api/common/auth/group/")
  let allRawEngines ← readPaginatedAll client rawWithUrl pages (url client "/api/flow/engine/")
  diffs.forM fun diff => do
    migrateHttpEndpoint client (toUrls allRawEngines) diff
    if diff.isDeleted then pure ()
    else do
      let endpointUrl ← getHttpEndpoint client diff.externalId
      diff.groupPermissions.forM
        (putPermission client format endpointUrl (toGroupIds allGroups))

end Push

end DiffPush

end NFCompose
