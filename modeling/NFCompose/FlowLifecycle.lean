/-
Engines and http endpoints: the requests that create, change and delete them, and what a routed
request is given of an engine.
-/
import NFCompose.FlowRouting
import NFCompose.KeyedTable

namespace NFCompose

namespace FlowLifecycle

open FlowRouting (FlowRequest FlowView HttpEndpoint Tenant httpMethods validatePath)
open PythonRe (CharacterDatabase)

structure EngineRow (N : Type) where
  externalId : N
  tenant : Uuid
  upstream : String
  secret : String
  deletedAt : Option Nat

structure FlowState (database : CharacterDatabase) (N : Type) where
  tenants : List Tenant
  engines : AList fun _ : Uuid => EngineRow N
  endpoints : AList fun _ : Uuid => HttpEndpoint database N

/-- What the serializers call and do not define, the text of an external id, and what the system
itself gives to its endpoints. -/
structure FlowSettings (N : Type) where
  text : N → List Char
  urlValidator : String → Bool
  validatePassword : String → Bool
  flowUpstreamImpl : String
  flowSystemSecret : String

/-- A secret of `gen_engine_secret`. -/
structure GeneratedSecret where
  text : String
  length_eq : text.length = 64

inductive FieldProblem where
  | required
  | blank
  | maxLength (limit : Nat)
  | minLength (limit : Nat)
  | invalidUrl
  | passwordRefused
  | invalidChoice
  | objectDoesNotExist
  | pathRegexInvalid
  | message (text : String)
deriving DecidableEq, Repr

inductive FlowError where
  | permissionDenied
  | notFound
  | invalid (field : String) (problem : FieldProblem)
  /-- An `AssertionError`. -/
  | assertion (text : String)
  /-- A row that the database refuses, or a relation to a row that is not there. -/
  | database
deriving DecidableEq, Repr

/-- The fields that a request gives of an http endpoint. -/
structure EndpointFields (N : Type) where
  engine : Option Uuid
  externalId : Option N
  path : Option (List Char)
  method : Option String
  isPublic : Option Bool

inductive FlowAction (N : Type) where
  | createEngine (id : Uuid) (externalId : Option N) (upstream : Option String)
  | updateEngine (id : Uuid) (isPartial : Bool) (externalId : Option N) (upstream : Option String)
  | destroyEngine (id : Uuid) (cascadeDelete : Bool)
  | putSecret (id : Uuid) (secret : Option String)
  | deleteSecret (id : Uuid)
  | createEndpoint (id : Uuid) (fields : EndpointFields N)
  | updateEndpoint (id : Uuid) (isPartial : Bool) (fields : EndpointFields N)
  | destroyEndpoint (id : Uuid)

/-- A request of a user of a tenant.  `allowed` is what the global permissions say, `reaches`
which objects `get_objects_for_user_custom` leaves to the action, and `seesEngine` which engines
it leaves to `GET`. -/
structure FlowApiRequest (N : Type) where
  tenant : Uuid
  now : Nat
  generated : GeneratedSecret
  allowed : Bool
  reaches : Uuid → Bool
  seesEngine : Uuid → Bool
  action : FlowAction N

section Serializers

variable {database : CharacterDatabase} {N : Type} (settings : FlowSettings N)

/-- The field of the serializer of engines has the validators of the model. -/
def engineExternalId (externalId : N) : Except FlowError N :=
  if settings.text externalId = [] then .error (.invalid "external_id" .blank)
  else if validateExternalIdUrlSafe (String.ofList (settings.text externalId)) then .ok externalId
  else .error (.invalid "external_id" (.message
    (String.ofList (settings.text externalId) ++ " is not a valid external_id")))

/-- The field of the serializer of http endpoints, which is declared without them. -/
def endpointExternalId (externalId : N) : Except FlowError N :=
  if settings.text externalId = [] then .error (.invalid "external_id" .blank)
  else .ok externalId

/-- `validate_external_id` of both serializers: a new external id is not in use, and an old one
does not change. -/
def validateExternalId [DecidableEq N] (kind : String) (isUsed : N → Bool) (old : Option N)
    (externalId : N) : Except FlowError N :=
  let checked : Except FlowError N :=
    if validateExternalIdUrlSafe (String.ofList (settings.text externalId)) then .ok externalId
    else .error (.invalid "external_id" (.message
      "Only letters, numbers, '-', and '_' are allowed in external_ids, 1-50 chars"))
  match old with
  | none =>
      if isUsed externalId then
        .error (.invalid "external_id" (.message ("external id '" ++
          String.ofList (settings.text externalId) ++ "' is already in use by another " ++ kind)))
      else checked
  | some old =>
      if externalId ≠ old then
        .error (.invalid "external_id" (.message "changing of external_id is not supported!"))
      else checked

/-- The value of a field: a `PATCH` keeps what it leaves out. -/
def fieldOr {α β : Type} (field : String) (kept : Option β) (check : α → Except FlowError β) :
    Option α → Except FlowError β
  | some value => check value
  | none =>
      match kept with
      | some old => .ok old
      | none => .error (.invalid field .required)

def validateUpstream (upstream : String) : Except FlowError String :=
  if upstream.isEmpty then .error (.invalid "upstream" .blank)
  else if 256 < upstream.length then .error (.invalid "upstream" (.maxLength 256))
  else if settings.urlValidator upstream then .ok upstream
  else .error (.invalid "upstream" .invalidUrl)

def validateSecret (secret : String) : Except FlowError String :=
  if secret.isEmpty then .error (.invalid "secret" .blank)
  else if settings.validatePassword secret = false then
    .error (.invalid "secret" .passwordRefused)
  else if secret.length < 32 then .error (.invalid "secret" (.minLength 32))
  else .ok secret

def validateEndpointPath (path : List Char) :
    Except FlowError { path // validatePath database path = true } :=
  if path = [] then .error (.invalid "path" .blank)
  else if hpath : validatePath database path = true then .ok ⟨path, hpath⟩
  else .error (.invalid "path" .pathRegexInvalid)

def validateMethod (method : String) : Except FlowError { method // method ∈ httpMethods } :=
  if hmethod : method ∈ httpMethods then .ok ⟨method, hmethod⟩
  else .error (.invalid "method" .invalidChoice)

end Serializers

section Requests

variable {database : CharacterDatabase} {N : Type} [DecidableEq N] (settings : FlowSettings N)
  (state : FlowState database N)

/-- `Engine.objects` of a tenant. -/
def engineIn (tenant : Uuid) (engine : EngineRow N) : Bool :=
  engine.tenant = tenant ∧ engine.deletedAt = none

/-- `HttpEndpoint.objects` of a tenant. -/
def endpointIn (tenant : Uuid) (endpoint : HttpEndpoint database N) : Bool :=
  endpoint.tenant = tenant ∧ endpoint.deletedAt = none

/-- `get_object`, for the objects that are listed and that the permissions leave to the user.  A
user to whom they leave none is denied an object that is there. -/
def getObject {α : Type} (isObject isListed : α → Bool) (reaches : Uuid → Bool)
    (table : AList fun _ : Uuid => α) (id : Uuid) : Except FlowError α :=
  match (table.lookup id).filter isObject with
  | none => .error .notFound
  | some object =>
      if isListed object && reaches id then .ok object
      else if table.entries.any fun entry =>
          isObject entry.2 && isListed entry.2 && reaches entry.1 then .error .notFound
      else .error .permissionDenied

def getEngine (request : FlowApiRequest N) (id : Uuid) : Except FlowError (EngineRow N) :=
  getObject (engineIn request.tenant) (fun _ => true) request.reaches state.engines id

/-- The endpoints of the system are not listed. -/
def getEndpoint (request : FlowApiRequest N) (id : Uuid) :
    Except FlowError (HttpEndpoint database N) :=
  getObject (endpointIn request.tenant) (fun endpoint => !endpoint.system) request.reaches
    state.endpoints id

/-- `Engine.save`: there is always a secret. -/
def saveEngine (generated : GeneratedSecret) (id : Uuid) (engine : EngineRow N) :
    FlowState database N :=
  let secret := if engine.secret.isEmpty then generated.text else engine.secret
  { state with engines := state.engines.insert id { engine with secret := secret } }

/-- `HttpEndpoint.save` -/
def saveEndpoint (endpoint : HttpEndpoint database N) : Except FlowError (FlowState database N) :=
  match endpoint.engineId with
  | none =>
      if endpoint.system then
        .ok { state with endpoints := state.endpoints.insert endpoint.id endpoint }
      else .error (.invalid "engine" (.message "engine is required when system=False"))
  | some engineId =>
      if engineId ∉ state.engines then .error .database
      else if 256 < endpoint.path.length then .error .database
      else .ok { state with endpoints := state.endpoints.insert endpoint.id endpoint }

def createEngine (request : FlowApiRequest N) (id : Uuid) (externalId : Option N)
    (upstream : Option String) : Except FlowError (FlowState database N) := do
  let isUsed := fun externalId => state.engines.entries.any fun entry =>
    engineIn request.tenant entry.2 && entry.2.externalId = externalId
  let externalId ← fieldOr "external_id" none (fun externalId => do
    validateExternalId settings "Engine" isUsed none (← engineExternalId settings externalId))
    externalId
  let upstream ← fieldOr "upstream" none (validateUpstream settings) upstream
  if id ∈ state.engines then throw .database
  return saveEngine state request.generated id
    ⟨externalId, request.tenant, upstream, request.generated.text, none⟩

def updateEngine (request : FlowApiRequest N) (id : Uuid) (isPartial : Bool)
    (externalId : Option N) (upstream : Option String) :
    Except FlowError (FlowState database N) := do
  let engine ← getEngine state request id
  let externalId ← fieldOr "external_id" (if isPartial then some engine.externalId else none)
    (fun externalId => do
      validateExternalId settings "Engine" (fun _ => false) (some engine.externalId)
        (← engineExternalId settings externalId)) externalId
  let upstream ← fieldOr "upstream" (if isPartial then some engine.upstream else none)
    (validateUpstream settings) upstream
  return saveEngine state request.generated id
    { engine with externalId := externalId, upstream := upstream }

/-- The endpoints of a tenant that refer to an engine. -/
def refersTo (tenant engineId : Uuid) (endpoint : HttpEndpoint database N) : Bool :=
  endpointIn tenant endpoint && endpoint.engineId = some engineId

def destroyEngine (request : FlowApiRequest N) (id : Uuid) (cascadeDelete : Bool) :
    Except FlowError (FlowState database N) := do
  let engine ← getEngine state request id
  let deleted := { engine with deletedAt := some request.now }
  if cascadeDelete then
    let endpoints := KeyedTable.mapRows (fun _ endpoint =>
      if refersTo request.tenant id endpoint then
        { endpoint with deletedAt := some request.now }
      else endpoint) state.endpoints
    return saveEngine { state with endpoints := endpoints } request.generated id deleted
  else if state.endpoints.entries.any fun entry => refersTo request.tenant id entry.2 then
    throw (.invalid "" (.message "can't delete Engines that are referenced in endpoints"))
  else return saveEngine state request.generated id deleted

def putSecret (request : FlowApiRequest N) (id : Uuid) (secret : Option String) :
    Except FlowError (FlowState database N) := do
  let engine ← getEngine state request id
  let secret ← fieldOr "secret" none (validateSecret settings) secret
  return saveEngine state request.generated id { engine with secret := secret }

def deleteSecret (request : FlowApiRequest N) (id : Uuid) :
    Except FlowError (FlowState database N) := do
  let engine ← getEngine state request id
  return saveEngine state request.generated id { engine with secret := request.generated.text }

/-- The related field: an engine that the user may see. -/
def engineField (request : FlowApiRequest N) (engineId : Uuid) : Except FlowError (Option Uuid) :=
  if ((state.engines.lookup engineId).filter (engineIn request.tenant)).isSome ∧
      request.seesEngine engineId then
    .ok (some engineId)
  else .error (.invalid "engine" .objectDoesNotExist)

def createEndpoint (request : FlowApiRequest N) (id : Uuid) (fields : EndpointFields N) :
    Except FlowError (FlowState database N) := do
  let isUsed := fun externalId => state.endpoints.entries.any fun entry =>
    endpointIn request.tenant entry.2 && entry.2.externalId = externalId
  let engineId ← fieldOr "engine" none (engineField state request) fields.engine
  let externalId ← fieldOr "external_id" none (fun externalId => do
    validateExternalId settings "HttpEndpoint" isUsed none
      (← endpointExternalId settings externalId)) fields.externalId
  let path ← fieldOr "path" none validateEndpointPath fields.path
  let method ← fieldOr "method" none validateMethod fields.method
  let isPublic ← fieldOr "public" none Except.ok fields.isPublic
  if id ∈ state.endpoints then throw .database
  saveEndpoint state ⟨id, externalId, request.tenant, path.1, method.1, isPublic, engineId, false,
    none, path.2, method.2⟩

def updateEndpoint (request : FlowApiRequest N) (id : Uuid) (isPartial : Bool)
    (fields : EndpointFields N) : Except FlowError (FlowState database N) := do
  let endpoint ← getEndpoint state request id
  let engineId ← fieldOr "engine" (if isPartial then some endpoint.engineId else none)
    (engineField state request) fields.engine
  let externalId ← fieldOr "external_id" (if isPartial then some endpoint.externalId else none)
    (fun externalId => do
      validateExternalId settings "HttpEndpoint" (fun _ => false) (some endpoint.externalId)
        (← endpointExternalId settings externalId)) fields.externalId
  let path ← fieldOr "path"
    (if isPartial then some ⟨endpoint.path, endpoint.path_valid⟩ else none) validateEndpointPath
    fields.path
  let method ← fieldOr "method"
    (if isPartial then some ⟨endpoint.method, endpoint.method_mem⟩ else none) validateMethod
    fields.method
  let isPublic ← fieldOr "public" (if isPartial then some endpoint.isPublic else none) Except.ok
    fields.isPublic
  saveEndpoint state ⟨endpoint.id, externalId, endpoint.tenant, path.1, method.1, isPublic,
    engineId, false, endpoint.deletedAt, path.2, method.2⟩

def destroyEndpoint (request : FlowApiRequest N) (id : Uuid) :
    Except FlowError (FlowState database N) := do
  let endpoint ← getEndpoint state request id
  saveEndpoint state { endpoint with deletedAt := some request.now }

def handle (request : FlowApiRequest N) : Except FlowError (FlowState database N) :=
  if request.allowed then
    match request.action with
    | .createEngine id externalId upstream =>
        createEngine settings state request id externalId upstream
    | .updateEngine id isPartial externalId upstream =>
        updateEngine settings state request id isPartial externalId upstream
    | .destroyEngine id cascadeDelete => destroyEngine state request id cascadeDelete
    | .putSecret id secret => putSecret settings state request id secret
    | .deleteSecret id => deleteSecret state request id
    | .createEndpoint id fields => createEndpoint settings state request id fields
    | .updateEndpoint id isPartial fields =>
        updateEndpoint settings state request id isPartial fields
    | .destroyEndpoint id => destroyEndpoint state request id
  else .error .permissionDenied

/-- A request that is refused changes nothing. -/
def flowStep (request : FlowApiRequest N) : FlowState database N :=
  match handle settings state request with
  | .ok next => next
  | .error _ => state

end Requests

section Upstreams

variable {database : CharacterDatabase} {N : Type} (settings : FlowSettings N)
  (state : FlowState database N)

/-- `_engine_prop`, for an endpoint that is asked with or without a user and a request. -/
def engineProp (hasUser hasRequest : Bool) (property : EngineRow N → String)
    (systemProperty : String) (endpoint : HttpEndpoint database N) : Except FlowError String :=
  match endpoint.engineId with
  | some engineId =>
      match state.engines.lookup engineId with
      | none =>
          .error (.assertion "referenced engine seems to not exist or was hard deleted")
      | some engine =>
          if engine.deletedAt ≠ none then
            .error (.assertion "referenced engine seems to be deleted")
          else if engine.tenant ≠ endpoint.tenant then
            .error (.assertion "Engines tenant does not match HttpEndpoint tenant")
          else .ok (property engine)
  | none =>
      if endpoint.system = false then
        .error (.assertion "engine must be set or HttpEndpoint must be marked as system")
      else if endpoint.isPublic then
        if hasRequest then .ok systemProperty
        else .error (.assertion ("request is required to get an upstream property from a " ++
          "public system flow if no engine is set"))
      else if hasUser && hasRequest then .ok systemProperty
      else .error (.assertion ("user and request are required to get an upstream property from " ++
        "a system flow if no engine is set"))

def getSecret (hasUser hasRequest : Bool) (endpoint : HttpEndpoint database N) :
    Except FlowError String := do
  let secret ← engineProp state hasUser hasRequest EngineRow.secret settings.flowSystemSecret
    endpoint
  if secret.isEmpty then throw (.assertion "engine secret is not properly defined for Engine")
  return secret

def getUpstream (hasUser hasRequest : Bool) (endpoint : HttpEndpoint database N) :
    Except FlowError String :=
  engineProp state hasUser hasRequest EngineRow.upstream settings.flowUpstreamImpl endpoint

/-- The upstream and the secret in the answer of a view.  The authenticated view asks for the
upstream with its tenant in the place of the request. -/
def proxiedTo {U : Type} (view : FlowView) (currentTenant : Option Uuid) (request : FlowRequest U)
    (endpoint : HttpEndpoint database N) : Except FlowError (String × String) := do
  let hasUser := match view with
    | .impl => request.user.isSome
    | .publicImpl => false
  let upstream ← match view with
    | .impl => getUpstream settings state hasUser currentTenant.isSome endpoint
    | .publicImpl => getUpstream settings state hasUser true endpoint
  let secret ← getSecret settings state hasUser true endpoint
  return (upstream, secret)

end Upstreams

end FlowLifecycle

end NFCompose
