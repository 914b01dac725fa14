/-
The user and group permission endpoints of an object.  A user may change the
permissions that this user has both globally and on the object; a tenant
manager may change all of them.
-/
import NFCompose.DataModel
import NFCompose.GroupPermissions
import NFCompose.Runs

namespace NFCompose

open KeyedDiff

/-- Whose permissions are changed. -/
inductive Subject (U G : Type) where
  | user (user : U)
  | group (group : G)
deriving DecidableEq

/-- The codenames assigned directly on an object. -/
abbrev ObjectPermissionTable (U G B : Type) := Subject U G → B → List String

/-- The permissions that the endpoints of an object manage. -/
structure PermissionEndpoint where
  permPrefix : String
  allPermsWithoutPrefix : List String
  /-- An app label. -/
  prefix_no_dot : '.' ∉ permPrefix.toList

/-- What the permission endpoints read and do not change. -/
structure Directory (U G B : Type) where
  endpoint : B → PermissionEndpoint
  isActive : U → Bool
  isSuperuser : U → Bool
  groups : U → List G
  userPermissions : U → List String
  groupPermissions : G → List String
  /-- The rows of the permission model, by app label and codename. -/
  permissions : List String
  /-- The codenames of the permissions of the content type of an object. -/
  codenames : B → List String
  /-- The flags of the relations of a user with a tenant. -/
  tenantManager : U → Uuid → List Bool

inductive PermissionError where
  | assertionError (message : String)
  | typeError (message : String)
  | notFound
  | invalidChoice (permissions : List String)
  | permissionDenied (permissions : List String)
  | doesNotExist (codename : String)
deriving DecidableEq

/-- A request without a user is anonymous. -/
structure UpdateRequest (U G B : Type) where
  requestingUser : Option U
  tenant : Option Uuid
  object : B
  subject : Subject U G
  permissions : Option (List String)

/-- `transaction.atomic`. -/
def atomic {ε σ α : Type} (body : EStateM ε σ α) : EStateM ε σ α := fun state =>
  match body state with
  | .ok value state => .ok value state
  | .error error _ => .error error state

def withPrefix (permPrefix codename : String) : String := permPrefix ++ "." ++ codename

/-- The codename of a permission, after the first dot. -/
def codenameOf (perm : String) : String :=
  String.ofList ((perm.toList.dropWhile fun c => c ≠ '.').drop 1)

def PermissionEndpoint.generallyAvailablePermsWithPrefix (endpoint : PermissionEndpoint) :
    List String :=
  endpoint.allPermsWithoutPrefix.map (withPrefix endpoint.permPrefix)

variable {U G B : Type} [DecidableEq U] [DecidableEq G] [DecidableEq B]

section Reads

variable (directory : Directory U G B)

def isTenantManager (user : Option U) (tenant : Option Uuid) : Except PermissionError Bool :=
  match tenant, user with
  | none, _ =>
      .error (.typeError "Both user and tenant must be specified, no wildcard lookups allowed")
  | some _, none => .ok false
  | some tenant, some user =>
      let tenantUsers := directory.tenantManager user tenant
      if tenantUsers.length > 1 then
        .error (.assertionError
          "user is registered to tenant multiple times, which is not allowed")
      else .ok (tenantUsers.any id)

/-- The permissions that the backends give to a user without an object. -/
def getPermissionsOfUser (user : U) : List String :=
  if directory.isActive user then
    if directory.isSuperuser user then directory.permissions
    else directory.userPermissions user ++
      (directory.groups user).flatMap directory.groupPermissions
  else []

def getAssignablePermissions (user : Option U) (relevantPerms : List String) :
    Except PermissionError (List String) :=
  match user with
  | none => .error (.assertionError "")
  | some user => .ok ((getPermissionsOfUser directory user).filter fun perm =>
      perm ∈ relevantPerms)

/-- The codenames that a user has on an object. -/
def getPerms (table : ObjectPermissionTable U G B) (user : U) (object : B) : List String :=
  if directory.isActive user then
    if directory.isSuperuser user then directory.codenames object
    else table (.user user) object ++
      (directory.groups user).flatMap fun group => table (.group group) object
  else []

def permsForUser (table : ObjectPermissionTable U G B) (user : U) (object : B) : List String :=
  let endpoint := directory.endpoint object
  ((getPerms directory table user object).filter fun elem =>
    elem ∈ endpoint.allPermsWithoutPrefix).map (withPrefix endpoint.permPrefix)

def directlyAssignedPerms (table : ObjectPermissionTable U G B) (subject : Subject U G)
    (object : B) : List String :=
  let endpoint := directory.endpoint object
  ((table subject object).filter fun elem =>
    elem ∈ endpoint.allPermsWithoutPrefix).map (withPrefix endpoint.permPrefix)

def directlyAssignedPermsForUser (table : ObjectPermissionTable U G B) (user : U) (object : B) :
    List String :=
  directlyAssignedPerms directory table (.user user) object

def directlyAssignedPermsForGroup (table : ObjectPermissionTable U G B) (group : G) (object : B) :
    List String :=
  directlyAssignedPerms directory table (.group group) object

/-- `_assignable_permissions`: what the user has globally and on the object. -/
def assignablePermissions (table : ObjectPermissionTable U G B) (user : Option U) (object : B) :
    Except PermissionError (List String) := do
  let assignable ← getAssignablePermissions directory user
    (directory.endpoint object).generallyAvailablePermsWithPrefix
  return assignable.filter fun perm =>
    ∃ requesting ∈ user, perm ∈ permsForUser directory table requesting object

end Reads

section Writes

variable (directory : Directory U G B) (sets : SetOrder String)

def ObjectPermissionTable.modify (table : ObjectPermissionTable U G B) (subject : Subject U G)
    (object : B) (change : List String → List String) : ObjectPermissionTable U G B :=
  fun other otherObject =>
    if other = subject ∧ otherObject = object then change (table other otherObject)
    else table other otherObject

def removePerm (subject : Subject U G) (object : B) (perm : String) :
    EStateM PermissionError (ObjectPermissionTable U G B) Unit := fun table =>
  .ok () (table.modify subject object fun codenames =>
    codenames.filter fun codename => codename ≠ codenameOf perm)

/-- A permission that the content type does not have cannot be assigned. -/
def assignPerm (subject : Subject U G) (object : B) (perm : String) :
    EStateM PermissionError (ObjectPermissionTable U G B) Unit := fun table =>
  if codenameOf perm ∈ directory.codenames object then
    .ok () (table.modify subject object fun codenames => codenames.insert (codenameOf perm))
  else .error (.doesNotExist (codenameOf perm)) table

/-- Only a tenant manager may change permissions that the user does not have. -/
def checkPermissionsWeDontHave (request : UpdateRequest U G B)
    (permissionsWeDontHave : List String) : Except PermissionError Unit :=
  if permissionsWeDontHave ≠ [] then
    match isTenantManager directory request.requestingUser request.tenant with
    | .ok true => .ok ()
    | .ok false => .error (.permissionDenied permissionsWeDontHave)
    | .error error => .error error
  else .ok ()

/-- The change of permissions, with the directly assigned ones as they are read. -/
def updatePermissions
    (directlyAssigned : ObjectPermissionTable U G B → List String) (assignable : List String)
    (request : UpdateRequest U G B) :
    EStateM PermissionError (ObjectPermissionTable U G B) Unit := atomic do
  match request.permissions with
  | none => return ()
  | some newPermissions =>
      let assigned := directlyAssigned (← get)
      let removed := toRemove assigned newPermissions
      let added := toAdd assigned newPermissions
      match checkPermissionsWeDontHave directory request
          ((removed.filter fun perm => perm ∉ assignable) ++
            added.filter fun perm => perm ∉ assignable) with
      | .error error => throw error
      | .ok () =>
          (sets.order removed).forM (removePerm request.subject request.object)
          (sets.order added).forM (assignPerm directory request.subject request.object)

/-- `GenericUserPermissionSerializer.update`. -/
def updateUserPermissions (user : U) (assignable : List String) (request : UpdateRequest U G B) :
    EStateM PermissionError (ObjectPermissionTable U G B) Unit :=
  updatePermissions directory sets
    (fun table => directlyAssignedPermsForUser directory table user request.object) assignable
    request

/-- `GenericGroupPermissionSerializer.update`. -/
def updateGroupPermissionsOnObject (group : G) (assignable : List String)
    (request : UpdateRequest U G B) :
    EStateM PermissionError (ObjectPermissionTable U G B) Unit :=
  updatePermissions directory sets
    (fun table => directlyAssignedPermsForGroup directory table group request.object) assignable
    request

/-- A request to one of the endpoints.  `admits` stands for the checks of the
view: access to the object, and a subject that the endpoint lists. -/
def handlePermissionRequest
    (admits : ObjectPermissionTable U G B → UpdateRequest U G B → Bool)
    (request : UpdateRequest U G B) :
    EStateM PermissionError (ObjectPermissionTable U G B) Unit := fun table =>
  let available := (directory.endpoint request.object).generallyAvailablePermsWithPrefix
  if ¬ admits table request then .error .notFound table
  else match assignablePermissions directory table request.requestingUser request.object with
    | .error error => .error error table
    | .ok assignable =>
        let invalid := (request.permissions.getD []).filter fun perm => perm ∉ available
        if invalid ≠ [] then .error (.invalidChoice invalid) table
        else match request.subject with
          | .user user => updateUserPermissions directory sets user assignable request table
          | .group group =>
              updateGroupPermissionsOnObject directory sets group assignable request table

/-- The permissions after a request, whether it succeeds or not. -/
def permissionStep (admits : ObjectPermissionTable U G B → UpdateRequest U G B → Bool)
    (table : ObjectPermissionTable U G B) (request : UpdateRequest U G B) :
    ObjectPermissionTable U G B :=
  match handlePermissionRequest directory sets admits request table with
  | .ok _ table => table
  | .error _ table => table

end Writes

section Perms

theorem codenameOf_withPrefix {permPrefix : String} (hdot : '.' ∉ permPrefix.toList)
    (codename : String) : codenameOf (withPrefix permPrefix codename) = codename := by
  have hlist : (withPrefix permPrefix codename).toList =
      permPrefix.toList ++ '.' :: codename.toList := by
    simp [withPrefix]
  have hdrop : (permPrefix.toList ++ '.' :: codename.toList).dropWhile (fun c => c ≠ '.') =
      '.' :: codename.toList := by
    rw [List.dropWhile_append_of_pos]
    · simp
    · intro c hc
      rw [decide_eq_true_eq]
      rintro rfl
      exact hdot hc
  rw [codenameOf, hlist, hdrop, List.drop_one, List.tail_cons, String.ofList_toList]

theorem codenameOf_mem_of_available {endpoint : PermissionEndpoint} {perm : String}
    (hperm : perm ∈ endpoint.generallyAvailablePermsWithPrefix) :
    codenameOf perm ∈ endpoint.allPermsWithoutPrefix ∧
      perm = withPrefix endpoint.permPrefix (codenameOf perm) := by
  obtain ⟨codename, hcodename, rfl⟩ := List.mem_map.mp hperm
  rw [codenameOf_withPrefix endpoint.prefix_no_dot]
  exact ⟨hcodename, rfl⟩

end Perms

section Loops

variable {directory : Directory U G B} {subject : Subject U G} {object : B}

theorem modify_of_ne (table : ObjectPermissionTable U G B) (change : List String → List String)
    {other : Subject U G} {otherObject : B} (hne : ¬ (other = subject ∧ otherObject = object)) :
    table.modify subject object change other otherObject = table other otherObject :=
  if_neg hne

@[simp] theorem modify_self (table : ObjectPermissionTable U G B)
    (change : List String → List String) :
    table.modify subject object change subject object = change (table subject object) :=
  if_pos ⟨rfl, rfl⟩

theorem modify_modify (table : ObjectPermissionTable U G B)
    (first second : List String → List String) :
    (table.modify subject object first).modify subject object second =
      table.modify subject object fun codenames => second (first codenames) := by
  funext other otherObject
  simp only [ObjectPermissionTable.modify]
  split <;> rfl

/-- The loop over the permissions to remove. -/
theorem forM_removePerm (perms : List String) (table : ObjectPermissionTable U G B) :
    perms.forM (removePerm subject object) table =
      .ok () (table.modify subject object fun codenames =>
        codenames.filter fun codename => codename ∉ perms.map codenameOf) := by
  induction perms generalizing table with
  | nil =>
      have hsame : table.modify subject object (fun codenames =>
          codenames.filter fun codename => codename ∉ ([] : List String).map codenameOf) =
          table := by
        funext other otherObject
        simp [ObjectPermissionTable.modify]
      rw [hsame]
      rfl
  | cons perm perms ih =>
      have hstep : (perm :: perms).forM (removePerm subject object) table =
          perms.forM (removePerm subject object) (table.modify subject object fun codenames =>
            codenames.filter fun codename => codename ≠ codenameOf perm) := rfl
      rw [hstep, ih, modify_modify]
      congr 2
      funext codenames
      rw [List.filter_filter]
      apply List.filter_congr
      intro codename _
      simp [Bool.and_comm]

/-- The loop over the permissions to assign, if it gets through. -/
theorem forM_assignPerm {perms : List String} {table updated : ObjectPermissionTable U G B}
    (hok : perms.forM (assignPerm directory subject object) table = .ok () updated) :
    updated = table.modify subject object fun codenames =>
      perms.foldl (fun codenames perm => codenames.insert (codenameOf perm)) codenames := by
  induction perms generalizing table with
  | nil =>
      cases hok
      funext other otherObject
      simp [ObjectPermissionTable.modify]
  | cons perm perms ih =>
      have hstep : (perm :: perms).forM (assignPerm directory subject object) table =
          match assignPerm directory subject object perm table with
          | .ok _ next => perms.forM (assignPerm directory subject object) next
          | .error error next => .error error next := by
        change (assignPerm directory subject object perm >>= fun _ =>
          perms.forM (assignPerm directory subject object)) table = _
        simp only [bind, EStateM.bind]
        cases assignPerm directory subject object perm table <;> rfl
      rw [hstep, assignPerm] at hok
      split at hok
      · next hassigned =>
          split at hassigned
          · cases hassigned
            rw [ih hok, modify_modify]
            rfl
          · cases hassigned
      · cases hok

theorem mem_foldl_insert_codename {perms codenames : List String} {codename : String} :
    codename ∈ perms.foldl (fun codenames perm => codenames.insert (codenameOf perm)) codenames ↔
      codename ∈ codenames ∨ codename ∈ perms.map codenameOf := by
  induction perms generalizing codenames with
  | nil => simp
  | cons perm perms ih =>
      rw [List.foldl_cons, ih, List.mem_insert_iff, List.map_cons, List.mem_cons]
      tauto

end Loops

section Steps

variable {directory : Directory U G B} {sets : SetOrder String}
  {admits : ObjectPermissionTable U G B → UpdateRequest U G B → Bool}

/-- What a user holds: globally, and on the object. -/
def Held (directory : Directory U G B) (table : ObjectPermissionTable U G B) (user : U)
    (object : B) (codename : String) : Prop :=
  withPrefix (directory.endpoint object).permPrefix codename ∈
      getPermissionsOfUser directory user ∧
    codename ∈ getPerms directory table user object

omit [DecidableEq U] [DecidableEq G] [DecidableEq B] in
theorem held_of_assignable {table : ObjectPermissionTable U G B} {user : Option U} {object : B}
    {assignable : List String} {codename : String}
    (hassignable : assignablePermissions directory table user object = .ok assignable)
    (hmem : withPrefix (directory.endpoint object).permPrefix codename ∈ assignable) :
    ∃ requesting ∈ user, Held directory table requesting object codename := by
  cases user with
  | none => cases hassignable
  | some requesting =>
      simp only [assignablePermissions, getAssignablePermissions, bind, Except.bind, pure,
        Except.pure, Except.ok.injEq] at hassignable
      subst hassignable
      simp only [List.mem_filter, decide_eq_true_eq, Option.mem_def, Option.some.injEq,
        exists_eq_left'] at hmem
      refine ⟨requesting, rfl, hmem.1.1, ?_⟩
      obtain ⟨other, hother, heq⟩ := List.mem_map.mp hmem.2
      have hcodename := congrArg codenameOf heq
      rw [codenameOf_withPrefix (directory.endpoint object).prefix_no_dot,
        codenameOf_withPrefix (directory.endpoint object).prefix_no_dot] at hcodename
      rw [← hcodename]
      exact List.mem_of_mem_filter hother

theorem atomic_eq_ok {ε σ α : Type} {body : EStateM ε σ α} {state next : σ} {value : α} :
    atomic body state = .ok value next ↔ body state = .ok value next := by
  rw [atomic]
  cases body state <;> simp

theorem atomic_eq_error {ε σ α : Type} {body : EStateM ε σ α} {state next : σ} {error : ε}
    (herror : atomic body state = .error error next) : next = state := by
  rw [atomic] at herror
  cases hbody : body state with
  | ok value final =>
      rw [hbody] at herror
      cases herror
  | error other final =>
      rw [hbody] at herror
      cases herror
      rfl

omit [DecidableEq U] [DecidableEq G] [DecidableEq B] in
theorem eq_nil_of_checked {request : UpdateRequest U G B} {missing : List String}
    (hmanager : isTenantManager directory request.requestingUser request.tenant ≠ .ok true)
    (hchecked : checkPermissionsWeDontHave directory request missing = .ok ()) :
    missing = [] := by
  by_contra hne
  rw [checkPermissionsWeDontHave, if_pos hne] at hchecked
  split at hchecked
  · next hyes => exact hmanager hyes
  · cases hchecked
  · cases hchecked

/-- A change that succeeds passed the check, and leaves the codenames of the subject on the
object without the removed ones and with the added ones. -/
theorem updatePermissions_eq_ok {directlyAssigned : ObjectPermissionTable U G B → List String}
    {assignable newPermissions : List String} {request : UpdateRequest U G B}
    {table updated : ObjectPermissionTable U G B}
    (hpermissions : request.permissions = some newPermissions)
    (hok : updatePermissions directory sets directlyAssigned assignable request table =
      .ok () updated) :
    checkPermissionsWeDontHave directory request
        (((toRemove (directlyAssigned table) newPermissions).filter fun perm =>
            perm ∉ assignable) ++
          (toAdd (directlyAssigned table) newPermissions).filter fun perm =>
            perm ∉ assignable) = .ok () ∧
      (∀ subject object, ¬ (subject = request.subject ∧ object = request.object) →
        updated subject object = table subject object) ∧
      ∀ codename, codename ∈ updated request.subject request.object ↔
        (codename ∈ table request.subject request.object ∧
            codename ∉ (toRemove (directlyAssigned table) newPermissions).map codenameOf) ∨
          codename ∈ (toAdd (directlyAssigned table) newPermissions).map codenameOf := by
  rw [updatePermissions, atomic_eq_ok] at hok
  have hget : (get : EStateM PermissionError (ObjectPermissionTable U G B) _) table =
      .ok table table := rfl
  simp only [hpermissions, bind, EStateM.bind, hget] at hok
  cases hchecked : checkPermissionsWeDontHave directory request
      (((toRemove (directlyAssigned table) newPermissions).filter fun perm =>
          perm ∉ assignable) ++
        (toAdd (directlyAssigned table) newPermissions).filter fun perm =>
          perm ∉ assignable) with
  | error error =>
      simp only [hchecked] at hok
      cases hok
  | ok checked =>
      simp only [hchecked, EStateM.bind, forM_removePerm] at hok
      have hupdated := forM_assignPerm hok
      rw [modify_modify] at hupdated
      subst hupdated
      refine ⟨rfl, fun subject object hne => modify_of_ne table _ hne, fun codename => ?_⟩
      -- The order in which a set is gone through does not matter.
      have hsame : ∀ perms, codename ∈ (sets.order perms).map codenameOf ↔
          codename ∈ perms.map codenameOf := fun perms =>
        ((sets.perm perms).map codenameOf).mem_iff
      rw [modify_self, mem_foldl_insert_codename, List.mem_filter, decide_eq_true_eq, hsame, hsame]

/-- What a successful change by a user who is no tenant manager can do: it
changes codenames of the subject on the object that are assignable, and directly
assigned or asked for. -/
theorem updatePermissions_spec {directlyAssigned : ObjectPermissionTable U G B → List String}
    {assignable : List String} {request : UpdateRequest U G B}
    {table updated : ObjectPermissionTable U G B}
    (hmanager : isTenantManager directory request.requestingUser request.tenant ≠ .ok true)
    (hok : updatePermissions directory sets directlyAssigned assignable request table =
      .ok () updated) :
    ∃ changed : List String,
      (∀ perm ∈ changed, perm ∈ assignable ∧
        (perm ∈ directlyAssigned table ∨ perm ∈ request.permissions.getD [])) ∧
      (∀ subject object, ¬ (subject = request.subject ∧ object = request.object) →
        updated subject object = table subject object) ∧
      ∀ codename, codename ∉ changed.map codenameOf →
        (codename ∈ updated request.subject request.object ↔
          codename ∈ table request.subject request.object) := by
  cases hpermissions : request.permissions with
  | none =>
      rw [updatePermissions, atomic_eq_ok] at hok
      simp only [hpermissions, pure, EStateM.pure] at hok
      cases hok
      exact ⟨[], by simp, by simp, by simp⟩
  | some newPermissions =>
      obtain ⟨hchecked, hothers, hmem⟩ := updatePermissions_eq_ok hpermissions hok
      have hmissing := List.append_eq_nil_iff.mp (eq_nil_of_checked hmanager hchecked)
      refine ⟨toRemove (directlyAssigned table) newPermissions ++
        toAdd (directlyAssigned table) newPermissions, ?_, hothers, ?_⟩
      · intro perm hperm
        rcases List.mem_append.mp hperm with hremoved | hadded
        · have hassignable := List.filter_eq_nil_iff.mp hmissing.1 perm hremoved
          exact ⟨by simpa using hassignable, Or.inl (mem_toRemove.mp hremoved).1⟩
        · have hassignable := List.filter_eq_nil_iff.mp hmissing.2 perm hadded
          exact ⟨by simpa using hassignable, Or.inr (mem_toAdd.mp hadded).1⟩
      · intro codename hunchanged
        rw [List.map_append, List.mem_append, not_or] at hunchanged
        rw [hmem]
        tauto

theorem updatePermissions_error {directlyAssigned : ObjectPermissionTable U G B → List String}
    {assignable : List String} {request : UpdateRequest U G B}
    {table final : ObjectPermissionTable U G B} {error : PermissionError}
    (herror : updatePermissions directory sets directlyAssigned assignable request table =
      .error error final) : final = table :=
  atomic_eq_error herror

/-- A request that fails leaves the permissions as they were. -/
theorem handlePermissionRequest_error {request : UpdateRequest U G B}
    {table final : ObjectPermissionTable U G B} {error : PermissionError}
    (herror : handlePermissionRequest directory sets admits request table =
      .error error final) : final = table := by
  simp only [handlePermissionRequest] at herror
  split at herror
  · cases herror
    rfl
  · split at herror
    · cases herror
      rfl
    · split at herror
      · cases herror
        rfl
      · split at herror
        · exact updatePermissions_error herror
        · exact updatePermissions_error herror

omit [DecidableEq U] [DecidableEq G] [DecidableEq B] in
theorem available_of_directlyAssigned {table : ObjectPermissionTable U G B}
    {subject : Subject U G} {object : B} {perm : String}
    (hperm : perm ∈ directlyAssignedPerms directory table subject object) :
    perm ∈ (directory.endpoint object).generallyAvailablePermsWithPrefix := by
  obtain ⟨codename, hcodename, rfl⟩ := List.mem_map.mp hperm
  exact List.mem_map_of_mem (of_decide_eq_true (List.mem_filter.mp hcodename).2)

/-- A successful change by a user who is no tenant manager keeps what is not
assignable. -/
theorem updatePermissions_frame {directlyAssigned : ObjectPermissionTable U G B → List String}
    {assignable : List String} {request : UpdateRequest U G B}
    {table updated : ObjectPermissionTable U G B}
    (hmanager : isTenantManager directory request.requestingUser request.tenant ≠ .ok true)
    (hassigned : ∀ perm ∈ directlyAssigned table,
      perm ∈ (directory.endpoint request.object).generallyAvailablePermsWithPrefix)
    (hchoices : ∀ perm ∈ request.permissions.getD [],
      perm ∈ (directory.endpoint request.object).generallyAvailablePermsWithPrefix)
    (hok : updatePermissions directory sets directlyAssigned assignable request table =
      .ok () updated) :
    (∀ subject object, ¬ (subject = request.subject ∧ object = request.object) →
      updated subject object = table subject object) ∧
    ∀ codename, ¬ (codename ∈ (directory.endpoint request.object).allPermsWithoutPrefix ∧
        withPrefix (directory.endpoint request.object).permPrefix codename ∈ assignable) →
      (codename ∈ updated request.subject request.object ↔
        codename ∈ table request.subject request.object) := by
  obtain ⟨changed, hchanged, hframe, hcodenames⟩ := updatePermissions_spec hmanager hok
  refine ⟨hframe, ?_⟩
  intro codename hnot
  apply hcodenames
  intro hmem
  obtain ⟨perm, hperm, rfl⟩ := List.mem_map.mp hmem
  obtain ⟨hassignable, hsource⟩ := hchanged perm hperm
  obtain ⟨hcodename, heq⟩ :=
    codenameOf_mem_of_available (hsource.elim (hassigned perm) (hchoices perm))
  rw [heq] at hassignable
  exact hnot ⟨hcodename, hassignable⟩

/-- A request that succeeds asked for permissions of the endpoint, and updated those of its
subject. -/
theorem handlePermissionRequest_eq_ok {request : UpdateRequest U G B}
    {table updated : ObjectPermissionTable U G B}
    (hok : handlePermissionRequest directory sets admits request table = .ok () updated) :
    ∃ assignable,
      assignablePermissions directory table request.requestingUser request.object =
        .ok assignable ∧
      (∀ perm ∈ request.permissions.getD [],
        perm ∈ (directory.endpoint request.object).generallyAvailablePermsWithPrefix) ∧
      updatePermissions directory sets
        (fun table => directlyAssignedPerms directory table request.subject request.object)
        assignable request table = .ok () updated := by
  simp only [handlePermissionRequest] at hok
  split at hok
  · cases hok
  split at hok
  · cases hok
  next assignable hassignable =>
  split at hok
  · cases hok
  next hvalid =>
  refine ⟨assignable, hassignable, fun perm hperm => ?_, ?_⟩
  · have hnone := List.filter_eq_nil_iff.mp (not_not.mp hvalid) perm hperm
    simpa using hnone
  · cases hsubject : request.subject with
    | user user =>
        rw [hsubject] at hok
        exact hok
    | group group =>
        rw [hsubject] at hok
        exact hok

/-- What a successful request by a user who is no tenant manager can do. -/
theorem handlePermissionRequest_spec {request : UpdateRequest U G B}
    {table updated : ObjectPermissionTable U G B}
    (hmanager : isTenantManager directory request.requestingUser request.tenant ≠ .ok true)
    (hok : handlePermissionRequest directory sets admits request table = .ok () updated) :
    (∀ subject object, ¬ (subject = request.subject ∧ object = request.object) →
      updated subject object = table subject object) ∧
    ∀ codename,
      ¬ (codename ∈ (directory.endpoint request.object).allPermsWithoutPrefix ∧
        ∃ user ∈ request.requestingUser, Held directory table user request.object codename) →
      (codename ∈ updated request.subject request.object ↔
        codename ∈ table request.subject request.object) := by
  obtain ⟨assignable, hassignable, hchoices, hupdate⟩ := handlePermissionRequest_eq_ok hok
  obtain ⟨hothers, hframe⟩ := updatePermissions_frame hmanager
    (fun _ hperm => available_of_directlyAssigned hperm) hchoices hupdate
  refine ⟨hothers, fun codename hnot => hframe codename ?_⟩
  rintro ⟨hcodename, hmem⟩
  exact hnot ⟨hcodename, held_of_assignable hassignable hmem⟩

/-- What the endpoint of a group needs to know of the user, once what may be assigned is
read. -/
def requesterOf (directory : Directory U G B) (request : UpdateRequest U G B)
    (assignable : List String) : Requester where
  isTenantManager :=
    match isTenantManager directory request.requestingUser request.tenant with
    | .ok manager => manager
    | .error _ => false
  assignablePermissions := assignable

omit [DecidableEq U] [DecidableEq G] [DecidableEq B] in
theorem requesterOf_isTenantManager {request : UpdateRequest U G B} {assignable : List String} :
    (requesterOf directory request assignable).isTenantManager = true ↔
      isTenantManager directory request.requestingUser request.tenant = .ok true := by
  rw [requesterOf]
  split
  · next manager hmanager => rw [hmanager, Except.ok.injEq]
  · next error herror => simp [herror]

/-- The permissions of the groups on an object, as the endpoint shows them. -/
def groupTable (directory : Directory U Nat B) (table : ObjectPermissionTable U Nat B)
    (object : B) : PermissionTable :=
  fun group => directlyAssignedPermsForGroup directory table group object

omit [DecidableEq U] [DecidableEq G] [DecidableEq B] in
theorem mem_directlyAssignedPerms {table : ObjectPermissionTable U G B} {subject : Subject U G}
    {object : B} {perm : String} :
    perm ∈ directlyAssignedPerms directory table subject object ↔
      perm ∈ (directory.endpoint object).generallyAvailablePermsWithPrefix ∧
        codenameOf perm ∈ table subject object := by
  constructor
  · intro hperm
    refine ⟨available_of_directlyAssigned hperm, ?_⟩
    obtain ⟨codename, hcodename, rfl⟩ := List.mem_map.mp hperm
    rw [codenameOf_withPrefix (directory.endpoint object).prefix_no_dot]
    exact List.mem_of_mem_filter hcodename
  · rintro ⟨havailable, hassigned⟩
    obtain ⟨hcodename, heq⟩ := codenameOf_mem_of_available havailable
    exact List.mem_map.mpr ⟨codenameOf perm,
      List.mem_filter.mpr ⟨hassigned, decide_eq_true hcodename⟩, heq.symm⟩

/-- Among the permissions of an endpoint, each is known by its codename. -/
theorem codenameOf_mem_map {endpoint : PermissionEndpoint} {perms : List String} {perm : String}
    (hperms : ∀ perm ∈ perms, perm ∈ endpoint.generallyAvailablePermsWithPrefix)
    (hperm : perm ∈ endpoint.generallyAvailablePermsWithPrefix) :
    codenameOf perm ∈ perms.map codenameOf ↔ perm ∈ perms := by
  constructor
  · intro hmem
    obtain ⟨other, hother, heq⟩ := List.mem_map.mp hmem
    rw [(codenameOf_mem_of_available hperm).2, ← heq,
      ← (codenameOf_mem_of_available (hperms other hother)).2]
    exact hother
  · exact List.mem_map_of_mem

/-- Of the permissions of the endpoint, the subject is left with the ones asked for. -/
theorem directlyAssigned_of_updatePermissions {assignable new : List String}
    {request : UpdateRequest U G B} {table updated : ObjectPermissionTable U G B}
    (hnew : request.permissions = some new)
    (hchoices : ∀ perm ∈ new,
      perm ∈ (directory.endpoint request.object).generallyAvailablePermsWithPrefix)
    (hok : updatePermissions directory sets
      (fun table => directlyAssignedPerms directory table request.subject request.object)
        assignable request table = .ok () updated) (perm : String) :
    perm ∈ directlyAssignedPerms directory updated request.subject request.object ↔
      perm ∈ updatedPermissions
        (directlyAssignedPerms directory table request.subject request.object) new := by
  obtain ⟨-, -, hmem⟩ := updatePermissions_eq_ok hnew hok
  rw [mem_updatedPermissions, mem_directlyAssignedPerms, hmem]
  by_cases havailable :
      perm ∈ (directory.endpoint request.object).generallyAvailablePermsWithPrefix
  · have hassigned : perm ∈ directlyAssignedPerms directory table request.subject request.object ↔
        codenameOf perm ∈ table request.subject request.object := by
      rw [mem_directlyAssignedPerms]
      exact and_iff_right havailable
    rw [codenameOf_mem_map (fun other hother => available_of_directlyAssigned
        (mem_toRemove.mp hother).1) havailable,
      codenameOf_mem_map (fun other hother => hchoices other (mem_toAdd.mp hother).1) havailable,
      mem_toRemove, mem_toAdd, hassigned]
    tauto
  · exact ⟨fun hassigned => absurd hassigned.1 havailable,
      fun hperm => absurd (hchoices perm hperm) havailable⟩

/-- A request for a group that is answered does to what the endpoint shows what the update
of the pushed permissions does. -/
theorem handlePermissionRequest_group {directory : Directory U Nat B}
    {admits : ObjectPermissionTable U Nat B → UpdateRequest U Nat B → Bool}
    {request : UpdateRequest U Nat B} {table updated : ObjectPermissionTable U Nat B}
    {group : Nat} {new : List String} (hsubject : request.subject = .group group)
    (hnew : request.permissions = some new) (url : String)
    (hok : handlePermissionRequest directory sets admits request table = .ok () updated) :
    ∃ assignable next,
      assignablePermissions directory table request.requestingUser request.object =
        .ok assignable ∧
      updateGroupPermissions
        (directory.endpoint request.object).generallyAvailablePermsWithPrefix
        (requesterOf directory request assignable) (groupTable directory table request.object)
        ⟨url, group, new⟩ = .ok next ∧
      ∀ other perm, perm ∈ groupTable directory updated request.object other ↔
        perm ∈ next other := by
  obtain ⟨assignable, hassignable, hchoices, hupdate⟩ := handlePermissionRequest_eq_ok hok
  rw [hnew, Option.getD_some] at hchoices
  obtain ⟨hchecked, hothers, -⟩ := updatePermissions_eq_ok hnew hupdate
  have hupdated := directlyAssigned_of_updatePermissions hnew hchoices hupdate
  rw [hsubject] at hchecked hupdated
  refine ⟨assignable, fun other =>
    if other = group then
      updatedPermissions (groupTable directory table request.object group) new
    else groupTable directory table request.object other, hassignable, ?_, ?_⟩
  · rw [updateGroupPermissions, if_neg (by simpa using hchoices), if_neg]
    rintro ⟨⟨perm, hperm, hmissing⟩, hmanager⟩
    -- The check let it pass for a tenant manager only.
    have hnil := eq_nil_of_checked (fun hyes => Bool.eq_false_iff.mp hmanager
      (requesterOf_isTenantManager.mpr hyes)) hchecked
    rw [← List.filter_append, List.filter_eq_nil_iff] at hnil
    exact hnil perm hperm (decide_eq_true hmissing)
  · intro other perm
    by_cases hother : other = group
    · subst hother
      simp only [if_true]
      exact hupdated perm
    · simp only [if_neg hother]
      have hsame : updated (.group other) request.object = table (.group other) request.object :=
        hothers _ _ fun heq => hother (by simpa [hsubject] using heq.1)
      simp only [groupTable, directlyAssignedPermsForGroup, directlyAssignedPerms, hsame]

omit [DecidableEq U] [DecidableEq G] [DecidableEq B] in
/-- An active user has a codename on an object directly or through a group; a
superuser has them all. -/
theorem mem_getPerms {table : ObjectPermissionTable U G B} {user : U} {object : B}
    {codename : String} :
    codename ∈ getPerms directory table user object ↔ directory.isActive user = true ∧
      if directory.isSuperuser user then codename ∈ directory.codenames object
      else codename ∈ table (.user user) object ∨
        ∃ group ∈ directory.groups user, codename ∈ table (.group group) object := by
  rw [getPerms]
  split
  · next hactive =>
      split
      · simp [hactive]
      · simp [hactive, List.mem_flatMap]
  · next hinactive => simp [hinactive]

omit [DecidableEq U] [DecidableEq G] [DecidableEq B] in
/-- Whether a codename is held on an object depends on who has this codename on
this object. -/
theorem held_congr {table other : ObjectPermissionTable U G B} {object : B} {codename : String}
    (hsame : ∀ subject, codename ∈ other subject object ↔ codename ∈ table subject object)
    (user : U) : Held directory other user object codename ↔
      Held directory table user object codename := by
  simp only [Held, mem_getPerms, hsame]

/-- A request either is answered, or leaves the assignments as they are. -/
theorem permissionStep_cases (directory : Directory U G B) (sets : SetOrder String)
    (admits : ObjectPermissionTable U G B → UpdateRequest U G B → Bool)
    (table : ObjectPermissionTable U G B) (request : UpdateRequest U G B) :
    (∃ response updated,
      handlePermissionRequest directory sets admits request table = .ok response updated ∧
      permissionStep directory sets admits table request = updated) ∨
    permissionStep directory sets admits table request = table := by
  cases hresult : handlePermissionRequest directory sets admits request table with
  | ok response updated =>
      left
      refine ⟨response, updated, rfl, ?_⟩
      simp only [permissionStep, hresult]
  | error error final =>
      right
      simp only [permissionStep, hresult]
      exact handlePermissionRequest_error hresult

/-- The step lemma: a codename that the user of the request does not hold stays
where it is. -/
theorem mem_permissionStep {table : ObjectPermissionTable U G B} {request : UpdateRequest U G B}
    (hmanager : isTenantManager directory request.requestingUser request.tenant ≠ .ok true)
    {object : B} {codename : String}
    (hnot : ¬ (codename ∈ (directory.endpoint object).allPermsWithoutPrefix ∧
      ∃ user ∈ request.requestingUser, Held directory table user object codename))
    (subject : Subject U G) :
    codename ∈ permissionStep directory sets admits table request subject object ↔
      codename ∈ table subject object := by
  rcases permissionStep_cases directory sets admits table request with
    ⟨response, updated, hok, hstep⟩ | hstep
  · obtain ⟨hframe, hcodenames⟩ := handlePermissionRequest_spec hmanager hok
    rw [hstep]
    by_cases hsame : subject = request.subject ∧ object = request.object
    · obtain ⟨rfl, rfl⟩ := hsame
      exact hcodenames codename hnot
    · rw [hframe subject object hsame]
  · rw [hstep]

theorem permissionStep_of_ne {table : ObjectPermissionTable U G B}
    {request : UpdateRequest U G B}
    (hmanager : isTenantManager directory request.requestingUser request.tenant ≠ .ok true)
    {object : B} (hne : request.object ≠ object) (subject : Subject U G) :
    permissionStep directory sets admits table request subject object =
      table subject object := by
  rcases permissionStep_cases directory sets admits table request with
    ⟨response, updated, hok, hstep⟩ | hstep
  · rw [hstep]
    apply (handlePermissionRequest_spec hmanager hok).1
    rintro ⟨-, rfl⟩
    exact hne rfl
  · rw [hstep]

/-- The run lemma: what no acting user held at the start stays where it is,
since no user comes to hold it on the way. -/
theorem mem_run_permissionStep {table : ObjectPermissionTable U G B}
    {requests : List (UpdateRequest U G B)} {object : B} {codename : String}
    (hrequests : ∀ request ∈ requests,
      isTenantManager directory request.requestingUser request.tenant ≠ .ok true ∧
      ¬ (codename ∈ (directory.endpoint object).allPermsWithoutPrefix ∧
        ∃ user ∈ request.requestingUser, Held directory table user object codename))
    (subject : Subject U G) :
    codename ∈ Runs.run (permissionStep directory sets admits) table requests subject object ↔
      codename ∈ table subject object := by
  refine Runs.run_invariant (fun current : ObjectPermissionTable U G B => ∀ subject,
    codename ∈ current subject object ↔ codename ∈ table subject object) ?_
    (fun _ => Iff.rfl) (Runs.allSteps_of_forall _ _ hrequests) subject
  intro current request hcurrent hrequest subject
  rw [← hcurrent subject]
  apply mem_permissionStep hrequest.1
  simp only [held_congr hcurrent]
  exact hrequest.2

/-- Requests do not spread permissions: `holds` says who holds a codename on an
object at the start. -/
structure NoAmplification (directory : Directory U G B) (sets : SetOrder String)
    (admits : ObjectPermissionTable U G B → UpdateRequest U G B → Bool)
    (table : ObjectPermissionTable U G B) (requests : List (UpdateRequest U G B))
    (holds : U → B → String → Prop) : Prop where
  not_held : ∀ object codename,
    (∀ request ∈ requests, ∀ user ∈ request.requestingUser, ¬ holds user object codename) →
    ∀ subject,
      codename ∈ Runs.run (permissionStep directory sets admits) table requests subject object ↔
        codename ∈ table subject object
  outside : ∀ object codename, codename ∉ (directory.endpoint object).allPermsWithoutPrefix →
    ∀ subject,
      codename ∈ Runs.run (permissionStep directory sets admits) table requests subject object ↔
        codename ∈ table subject object
  other_objects : ∀ object, (∀ request ∈ requests, request.object ≠ object) → ∀ subject,
    Runs.run (permissionStep directory sets admits) table requests subject object =
      table subject object
  denied : ∀ current request error final,
    handlePermissionRequest directory sets admits request current = .error error final →
      final = current

/-- Users who are no tenant managers cannot spread what none of them holds. -/
theorem noAmplification (directory : Directory U G B) (sets : SetOrder String)
    (admits : ObjectPermissionTable U G B → UpdateRequest U G B → Bool)
    (table : ObjectPermissionTable U G B) (requests : List (UpdateRequest U G B))
    (hmanagers : ∀ request ∈ requests,
      isTenantManager directory request.requestingUser request.tenant ≠ .ok true) :
    NoAmplification directory sets admits table requests (Held directory table) := by
  refine ⟨?_, ?_, ?_, fun _ _ _ _ => handlePermissionRequest_error⟩
  · intro object codename hnone subject
    apply mem_run_permissionStep
    intro request hrequest
    refine ⟨hmanagers request hrequest, ?_⟩
    rintro ⟨-, user, huser, hheld⟩
    exact hnone request hrequest user huser hheld
  · intro object codename houtside subject
    apply mem_run_permissionStep
    intro request hrequest
    exact ⟨hmanagers request hrequest, fun hmanaged => houtside hmanaged.1⟩
  · intro object hother subject
    refine Runs.run_invariant (fun current : ObjectPermissionTable U G B =>
      current subject object = table subject object) ?_ rfl (Runs.allSteps_of_forall _ _
        fun request hrequest => And.intro (hmanagers request hrequest) (hother request hrequest))
    intro current request hcurrent hrequest
    rw [permissionStep_of_ne hrequest.1 hrequest.2, hcurrent]

end Steps

namespace ObjectPermissionsWitness

def endpoint : PermissionEndpoint := ⟨"flow", ["engine_get", "engine_put"], by decide⟩

/-- A tenant with a superuser, and a user who may see engines. -/
def directory : Directory String String String where
  endpoint := fun _ => endpoint
  isActive := fun _ => true
  isSuperuser := fun user => user = "root"
  groups := fun _ => ["staff"]
  userPermissions := fun user => if user = "alice" then ["flow.engine_get"] else []
  groupPermissions := fun _ => []
  permissions := ["flow.engine_get", "flow.engine_put"]
  codenames := fun _ => ["engine_get", "engine_put"]
  tenantManager := fun _ _ => [false]

def table : ObjectPermissionTable String String String := fun subject _ =>
  if subject = .group "staff" then ["engine_get"] else []

def request (user subject : String) (permissions : List String) :
    UpdateRequest String String String :=
  ⟨some user, some "tenant", "engine", .user subject, some permissions⟩

/-- Globally, and on the object directly or through a group. -/
def HeldByAssignment (user object codename : String) : Prop :=
  withPrefix "flow" codename ∈ getPermissionsOfUser directory user ∧
    (codename ∈ table (.user user) object ∨
      ∃ group ∈ directory.groups user, codename ∈ table (.group group) object)

/-- A superuser who is no tenant manager and has nothing assigned on the engine
gives away a permission on it. -/
theorem superuser_grants_unassigned :
    isTenantManager directory (some "root") (some "tenant") ≠ .ok true ∧
      ¬ NoAmplification directory (SetOrder.identity String) (fun _ _ => true) table
        [request "root" "bob" ["flow.engine_put"]] HeldByAssignment := by
  refine ⟨by decide, ?_⟩
  intro hclaim
  have hnone : ∀ other ∈ [request "root" "bob" ["flow.engine_put"]],
      ∀ user ∈ other.requestingUser, ¬ HeldByAssignment user "engine" "engine_put" := by
    intro other hother user huser
    rw [List.mem_singleton.mp hother] at huser
    cases huser
    rintro ⟨-, hassigned⟩
    revert hassigned
    decide
  have hgranted := hclaim.not_held "engine" "engine_put" hnone (.user "bob")
  revert hgranted
  decide

theorem noAmplification_shared :
    NoAmplification directory (SetOrder.identity String) (fun _ _ => true) table
      [request "alice" "bob" ["flow.engine_get"], request "bob" "carol" ["flow.engine_put"]]
      (Held directory table) :=
  noAmplification directory (SetOrder.identity String) (fun _ _ => true) table _ (by decide)

end ObjectPermissionsWitness

end NFCompose
