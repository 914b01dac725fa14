/-
The users and groups of the tenants: the endpoints that create, change and delete them,
and those that set their permissions.
-/
import NFCompose.DataModel
import NFCompose.GroupPermissions
import NFCompose.KeyedTable
import NFCompose.Runs
import Mathlib.Data.List.AList
import Mathlib.Data.List.DropRight
import Mathlib.Data.List.Infix

namespace NFCompose

namespace Accounts

structure UserRow where
  username : String
  password : String
  email : String
  isActive : Bool
  isSuperuser : Bool
  isStaff : Bool
  userPermissions : List String
deriving DecidableEq, Repr

structure GroupRow where
  name : String
  permissions : List String
deriving DecidableEq, Repr

/-- `Tenant_User` or `Tenant_Group`, of which a user or a group has at most one. -/
structure TenantRelation where
  tenantId : Uuid
  system : Bool
deriving DecidableEq, Repr

structure TenantRow where
  name : String
  deleted : Bool
deriving DecidableEq, Repr

structure AccountTables where
  tenants : AList fun _ : Uuid => TenantRow
  users : AList fun _ : Nat => UserRow
  groups : AList fun _ : Nat => GroupRow
  tenantUsers : AList fun _ : Nat => TenantRelation
  tenantGroups : AList fun _ : Nat => TenantRelation
  /-- Users and the groups they are in. -/
  userGroups : List (Nat × Nat)
  nextUserId : Nat
  nextGroupId : Nat

/-- What the endpoints call and do not define: the password validators, the hash, and the
rows of the permission model. -/
structure AccountSettings where
  validatePassword : String → Bool
  setPassword : String → String
  permissions : List String

/-- The fields of a user, as far as the request has them. -/
structure UserData where
  username : Option String
  password : Option String
  email : Option String
  groups : Option (List Nat)
  isActive : Option Bool
deriving DecidableEq, Repr

inductive AccountAction where
  | createUser (data : UserData)
  | updateUser (pk : Nat) (isPartial : Bool) (data : UserData)
  | destroyUser (pk : Nat)
  | createGroup (name : Option String)
  | updateGroup (pk : Nat) (isPartial : Bool) (name : Option String)
  | destroyGroup (pk : Nat)
  | putUserPermissions (pk : Nat) (userPermissions : Option (List String))
  | putGroupPermissions (pk : Nat) (groupPermissions : Option (List String))
deriving DecidableEq, Repr

/-- A request without a user is anonymous. -/
structure AccountRequest where
  user : Option Nat
  action : AccountAction
deriving DecidableEq, Repr

inductive AccountError where
  | notAllowed
  | notFound
  | required (field : String)
  | invalidChoice (permissions : List String)
  | invalid (message : String)
  | permissionDenied (permissions : List String)
  | doesNotExist (permissions : List String)
deriving DecidableEq, Repr

section Permissions

def httpMethods : List String := ["delete", "get", "head", "options", "patch", "post", "put"]

/-- The permissions of one kind of object. -/
def methodPermissions (permPrefix : String) (entities : List String) : List String :=
  entities.flatMap fun entity =>
    httpMethods.map fun method => permPrefix ++ "_" ++ method ++ "_" ++ entity

def generallyAssignablePermissions : List String :=
  methodPermissions "dataseries.ds" ["check_external_ids", "consumer", "create_view", "cube_sql",
      "data_point", "data_point_bulk", "data_series", "history_data_point", "permission",
      "prune_history", "prune_metamodel", "structure_element", "truncate_data_series"] ++
    ["dataseries.prune_data_series", "dataseries.storage_backend_data"] ++
    methodPermissions "flow.engine" ["access", "engine", "permission", "secret"] ++
    methodPermissions "flow.http_endpoint" ["http_endpoint", "permission"] ++
    -- "flow.system.edit" is left out on purpose.
    ["flow.impl", "flow.use", "task.dashboard", "core.browse_api",
      "auth.view_user", "auth.add_user", "auth.change_user", "auth.delete_user",
      "auth.view_group", "auth.add_group", "auth.change_group", "auth.delete_group"]

variable (settings : AccountSettings) (tables : AccountTables)

def AccountTables.groupsOf (id : Nat) : List Nat :=
  (tables.userGroups.filter fun member => member.1 = id).map Prod.snd

def AccountTables.groupPermissions (id : Nat) : List String :=
  (tables.groups.lookup id).elim [] GroupRow.permissions

/-- What the backends say of an active user. -/
def getPermissionsOfUser (id : Nat) : List String :=
  match tables.users.lookup id with
  | none => []
  | some row =>
      if row.isActive then
        if row.isSuperuser then settings.permissions
        else row.userPermissions ++ (tables.groupsOf id).flatMap tables.groupPermissions
      else []

/-- `has_perm`, where a superuser has whatever is asked for. -/
def hasPerm (id : Nat) (perm : String) : Bool :=
  (tables.users.lookup id).any fun row =>
    row.isActive && (row.isSuperuser || decide (perm ∈ getPermissionsOfUser settings tables id))

def getAssignablePermissions (id : Nat) : List String :=
  (getPermissionsOfUser settings tables id).filter fun perm =>
    perm ∈ generallyAssignablePermissions

def directlyAssigned (permissions : List String) : List String :=
  permissions.filter fun perm => perm ∈ generallyAssignablePermissions

/-- `update` of both permission serializers, as both `assign_perm` and `remove_perm` go
through the rows of the permission model. -/
def updatePermissions (assignable permissions : List String) (field : String)
    (new : Option (List String)) : Except AccountError (List String) :=
  match new with
  | none => .error (.required field)
  | some new =>
      let invalid := new.filter fun perm => perm ∉ generallyAssignablePermissions
      let removed := toRemove (directlyAssigned permissions) new
      let added := toAdd (directlyAssigned permissions) new
      let permissionsWeDontHave := (removed ++ added).filter fun perm => perm ∉ assignable
      let missing := (removed ++ added).filter fun perm => perm ∉ settings.permissions
      if invalid ≠ [] then .error (.invalidChoice invalid)
      else if permissionsWeDontHave ≠ [] then .error (.permissionDenied permissionsWeDontHave)
      else if missing ≠ [] then .error (.doesNotExist missing)
      else .ok ((permissions.filter fun perm => perm ∉ removed) ++ added)

end Permissions

section Fields

/-- What `str.strip` takes for whitespace. -/
def isSpace (c : Char) : Bool :=
  c.toNat ∈ [0x20, 0x85, 0xa0, 0x1680, 0x2028, 0x2029, 0x202f, 0x205f, 0x3000] ||
    (0x9 ≤ c.toNat && c.toNat ≤ 0xd) || (0x1c ≤ c.toNat && c.toNat ≤ 0x1f) ||
    (0x2000 ≤ c.toNat && c.toNat ≤ 0x200a)

def strip (text : String) : String :=
  String.ofList ((text.toList.dropWhile isSpace).rdropWhile isSpace)

/-- A `CharField` with a `max_length`, which checks and returns the text without the
whitespace around it. -/
def charField (maxLength : Nat) (data : String) : Except AccountError String :=
  let value := strip data
  if value.isEmpty then .error (.invalid "This field may not be blank.")
  else if maxLength < value.length then
    .error (.invalid
      ("Ensure this field has no more than " ++ toString maxLength ++ " characters."))
  else if '\x00' ∈ value.toList then .error (.invalid "Null characters are not allowed.")
  else .ok value

/-- A text that a `CharField` returns, and takes as it is. -/
structure FieldText (text : String) : Prop where
  stripped : strip text = text
  nonempty : text.isEmpty = false
  noNull : '\x00' ∉ text.toList

/-- A field that a full request has to have, where nothing is changed without it. -/
def checkField {A B : Type} (isPartial : Bool) (field : String) (current : B)
    (check : A → Except AccountError B) : Option A → Except AccountError B
  | none => if isPartial then .ok current else .error (.required field)
  | some value => check value

end Fields

section Names

/-- What stands before the first "@@". -/
def beforeSeparator : List Char → Option (List Char)
  | '@' :: '@' :: _ => some []
  | c :: rest => (beforeSeparator rest).map (c :: ·)
  | [] => none

/-- The name that `to_representation` shows. -/
def shownName (name : String) : String :=
  match beforeSeparator name.toList with
  | none => name
  | some tenantName => String.ofList (name.toList.drop (tenantName.length + 2))

/-- `validate_username` and `validate_name`.  For an existing row, `current` is the name that
it has. -/
def validateName (used : List String) (current : Option String) (tenantName name : String)
    (takenMessage changedMessage : String) : Except AccountError String :=
  let nameWithTenant := tenantName ++ "@@" ++ name
  if "@@".toList <:+: name.toList then .error (.invalid "may not contain '@@'")
  else match current with
    | none =>
        if nameWithTenant ∈ used then .error (.invalid takenMessage) else .ok nameWithTenant
    | some currentName =>
        if nameWithTenant ≠ currentName then .error (.invalid changedMessage)
        else .ok nameWithTenant

def AccountTables.usernames (tables : AccountTables) : List String :=
  tables.users.entries.map fun entry => entry.2.username

def AccountTables.groupNames (tables : AccountTables) : List String :=
  tables.groups.entries.map fun entry => entry.2.name

def validateUsername (tables : AccountTables) (current : Option UserRow)
    (tenantName username : String) : Except AccountError String :=
  validateName tables.usernames (current.map UserRow.username) tenantName username
    ("username '" ++ username ++ "' is already in use by another User")
    "changing of usernames is not supported!"

def validateGroupName (tables : AccountTables) (current : Option GroupRow)
    (tenantName name : String) : Except AccountError String :=
  validateName tables.groupNames (current.map GroupRow.name) tenantName name
    ("name '" ++ name ++ "' is already in use by another Group")
    "changing of group names is not supported!"

/-- The field `username`. -/
def checkUsername (tables : AccountTables) (current : Option UserRow) (tenantName data : String) :
    Except AccountError String :=
  charField 100 data >>= validateUsername tables current tenantName

/-- The field `name`. -/
def checkGroupName (tables : AccountTables) (current : Option GroupRow)
    (tenantName data : String) : Except AccountError String :=
  charField 100 data >>= validateGroupName tables current tenantName

end Names

section Endpoints

variable (settings : AccountSettings) (tables : AccountTables)

/-- `TenantFromUserMiddleware`. -/
def currentTenant (user : Option Nat) : Option Uuid :=
  user.bind fun id => (tables.tenantUsers.lookup id).bind fun relation =>
    (tables.tenants.lookup relation.tenantId).bind fun tenant =>
      if tenant.deleted then none else some relation.tenantId

/-- `AuthRestrictiveDjangoModelPermissions`. -/
def AccountAction.requiredPermission : AccountAction → String
  | .createUser _ => "auth.add_user"
  | .updateUser _ _ _ => "auth.change_user"
  | .destroyUser _ => "auth.delete_user"
  | .createGroup _ => "auth.add_group"
  | .updateGroup _ _ _ => "auth.change_group"
  | .destroyGroup _ => "auth.delete_group"
  | .putUserPermissions _ _ => "auth.change_user"
  | .putGroupPermissions _ _ => "auth.change_group"

/-- `get_queryset` of the permission view. -/
def AccountTables.hasUser (tenant : Uuid) (id : Nat) : Bool :=
  (tables.tenantUsers.lookup id).any fun relation => relation.tenantId = tenant

/-- `get_queryset` of the user view. -/
def AccountTables.ownsUser (tenant : Uuid) (id : Nat) : Bool :=
  (tables.tenantUsers.lookup id).any (fun relation =>
    decide (relation.tenantId = tenant) && !relation.system) &&
  (tables.users.lookup id).any fun row => !row.isSuperuser && !row.isStaff

/-- `get_queryset` of the permission view. -/
def AccountTables.hasGroup (tenant : Uuid) (id : Nat) : Bool :=
  (tables.tenantGroups.lookup id).any fun relation => relation.tenantId = tenant

/-- `get_queryset` of the group view and of `GroupHyperlinkedRelatedField`. -/
def AccountTables.ownsGroup (tenant : Uuid) (id : Nat) : Bool :=
  (tables.tenantGroups.lookup id).any fun relation =>
    decide (relation.tenantId = tenant) && !relation.system

def AccountTables.tenantName (tenant : Uuid) : String :=
  (tables.tenants.lookup tenant).elim "" TenantRow.name

def checkPassword (data : String) : Except AccountError String := do
  let password ← charField 128 data
  if settings.validatePassword password then .ok (settings.setPassword password)
  else .error (.invalid "password")

def checkGroups (tenant : Uuid) (groups : List Nat) : Except AccountError (List Nat) :=
  if ∀ id ∈ groups, tables.ownsGroup tenant id then .ok groups
  else .error (.invalid "Invalid hyperlink - Object does not exist.")

def createUser (tenant : Uuid) (data : UserData) : Except AccountError AccountTables := do
  let username ← checkField false "username" "" (checkUsername tables none
    (tables.tenantName tenant)) data.username
  let password ← checkField false "password" "" (checkPassword settings) data.password
  let groups ← checkField false "groups" [] (checkGroups tables tenant) data.groups
  let id := tables.nextUserId
  return { tables with
    users := tables.users.insert id
      ⟨username, password, data.email.getD "", data.isActive.getD true, false, false, []⟩
    tenantUsers := tables.tenantUsers.insert id ⟨tenant, false⟩
    userGroups := tables.userGroups ++ groups.map (id, ·)
    nextUserId := id + 1 }

/-- `get_object`. -/
def getObject {R : Type} (rows : AList fun _ : Nat => R) (inQueryset : Nat → Bool) (pk : Nat) :
    Except AccountError R :=
  if inQueryset pk then (rows.lookup pk).elim (.error .notFound) .ok else .error .notFound

def updateUser (tenant : Uuid) (pk : Nat) (isPartial : Bool) (data : UserData) :
    Except AccountError AccountTables := do
  let row ← getObject tables.users (tables.ownsUser tenant) pk
  let username ← checkField isPartial "username" row.username (checkUsername tables (some row)
    (tables.tenantName tenant)) data.username
  let password ← checkField isPartial "password" row.password (checkPassword settings)
    data.password
  let groups ← checkField isPartial "groups" (tables.groupsOf pk) (checkGroups tables tenant)
    data.groups
  return { tables with
    users := tables.users.insert pk { row with
      username := username
      password := password
      email := data.email.getD row.email
      isActive := data.isActive.getD row.isActive }
    userGroups := tables.userGroups.filter (fun member => member.1 ≠ pk) ++ groups.map (pk, ·) }

def destroyUser (tenant : Uuid) (pk : Nat) : Except AccountError AccountTables := do
  let _ ← getObject tables.users (tables.ownsUser tenant) pk
  return { tables with
    users := tables.users.erase pk
    tenantUsers := tables.tenantUsers.erase pk
    userGroups := tables.userGroups.filter fun member => member.1 ≠ pk }

def createGroup (tenant : Uuid) (name : Option String) : Except AccountError AccountTables := do
  let name ← checkField false "name" "" (checkGroupName tables none
    (tables.tenantName tenant)) name
  let id := tables.nextGroupId
  return { tables with
    groups := tables.groups.insert id ⟨name, []⟩
    tenantGroups := tables.tenantGroups.insert id ⟨tenant, false⟩
    nextGroupId := id + 1 }

def updateGroup (tenant : Uuid) (pk : Nat) (isPartial : Bool) (name : Option String) :
    Except AccountError AccountTables := do
  let row ← getObject tables.groups (tables.ownsGroup tenant) pk
  let name ← checkField isPartial "name" row.name (checkGroupName tables (some row)
    (tables.tenantName tenant)) name
  return { tables with groups := tables.groups.insert pk { row with name := name } }

def destroyGroup (tenant : Uuid) (pk : Nat) : Except AccountError AccountTables := do
  let _ ← getObject tables.groups (tables.ownsGroup tenant) pk
  return { tables with
    groups := tables.groups.erase pk
    tenantGroups := tables.tenantGroups.erase pk
    userGroups := tables.userGroups.filter fun member => member.2 ≠ pk }

def putUserPermissions (requester : Nat) (tenant : Uuid) (pk : Nat)
    (userPermissions : Option (List String)) : Except AccountError AccountTables := do
  let row ← getObject tables.users (tables.hasUser tenant) pk
  let permissions ← updatePermissions settings (getAssignablePermissions settings tables requester)
    row.userPermissions "user_permissions" userPermissions
  return { tables with users := tables.users.insert pk { row with userPermissions := permissions } }

def putGroupPermissions (requester : Nat) (tenant : Uuid) (pk : Nat)
    (groupPermissions : Option (List String)) : Except AccountError AccountTables := do
  let row ← getObject tables.groups (tables.hasGroup tenant) pk
  let permissions ← updatePermissions settings (getAssignablePermissions settings tables requester)
    row.permissions "group_permissions" groupPermissions
  return { tables with groups := tables.groups.insert pk { row with permissions := permissions } }

/-- The checks of the view, and then its action. -/
def handle (request : AccountRequest) : Except AccountError AccountTables :=
  match request.user, currentTenant tables request.user with
  | some requester, some tenant =>
      if hasPerm settings tables requester request.action.requiredPermission then
        match request.action with
        | .createUser data => createUser settings tables tenant data
        | .updateUser pk isPartial data => updateUser settings tables tenant pk isPartial data
        | .destroyUser pk => destroyUser tables tenant pk
        | .createGroup name => createGroup tables tenant name
        | .updateGroup pk isPartial name => updateGroup tables tenant pk isPartial name
        | .destroyGroup pk => destroyGroup tables tenant pk
        | .putUserPermissions pk userPermissions =>
            putUserPermissions settings tables requester tenant pk userPermissions
        | .putGroupPermissions pk groupPermissions =>
            putGroupPermissions settings tables requester tenant pk groupPermissions
      else .error .notAllowed
  | _, _ => .error .notAllowed

/-- A request that fails leaves the tables as they are. -/
def accountStep (request : AccountRequest) : AccountTables :=
  match handle settings tables request with
  | .ok next => next
  | .error _ => tables

end Endpoints

end Accounts

end NFCompose
