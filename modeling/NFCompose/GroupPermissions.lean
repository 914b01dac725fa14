/-
Group permissions on data series, engines and HTTP endpoints: the diff of two
definitions, the handlers that push it, and the endpoint that stores the
permissions of one group.  All three handlers pass over a deletion, so a group
that the target no longer names keeps what it had.
-/
import Mathlib.Data.List.Dedup
import NFCompose.KeyedDiff
import NFCompose.Runs

namespace NFCompose

open KeyedDiff

/-- The permissions of one group in a definition. -/
structure GroupPermissionsOnObject where
  name : String
  groupPermissions : List String
deriving DecidableEq, Repr

abbrev NameOperation := KeyOperation String GroupPermissionsOnObject

/-- The payload of an update that revokes nothing. -/
def mergedPermissions (sets : SetOrder String)
    (base target : GroupPermissionsOnObject) : GroupPermissionsOnObject :=
  { target with
    groupPermissions := sets.order
      (target.groupPermissions ++ base.groupPermissions).dedup }

def groupPermissionsDiff (sets : SetOrder String)
    (base target : List GroupPermissionsOnObject)
    (revokeMissingGroupPermissions : Bool) : List NameOperation :=
  diff sets revokeMissingGroupPermissions
    (fun base target =>
      if revokeMissingGroupPermissions then [(.update, target)]
      else [(.update, mergedPermissions sets base target)])
    (toDict GroupPermissionsOnObject.name base)
    (toDict GroupPermissionsOnObject.name target)

/-- The permissions that a definition gives to a group. -/
def permissionsOf (definition : List GroupPermissionsOnObject)
    (name : String) : List String :=
  ((toDict GroupPermissionsOnObject.name definition).lookup name).elim []
    GroupPermissionsOnObject.groupPermissions

structure Group where
  id : Nat
  name : String
deriving DecidableEq, Repr

/-- The groups of a tenant. -/
structure GroupDirectory where
  groups : List Group
  names_nodup : (groups.map Group.name).Nodup
  ids_nodup : (groups.map Group.id).Nodup

/-- `group_id_by_name`. -/
def GroupDirectory.idByName (directory : GroupDirectory) (name : String) :
    Option Nat :=
  ((toDict Group.name directory.groups).lookup name).map Group.id

inductive PushError where
  | keyError (name : String)
  | invalidChoice
  | permissionDenied
deriving DecidableEq, Repr

structure PutRequest where
  url : String
  groupId : Nat
  groupPermissions : List String
deriving DecidableEq, Repr

/-- The request of one permission change.  There is none for a deletion. -/
def permissionRequest (objectUrl : String) (idByName : String → Option Nat)
    (change : NameOperation) : Except PushError (Option PutRequest) :=
  match change.operationType with
  | .delete => .ok none
  | .create | .update =>
      match idByName change.key with
      | none => .error (.keyError change.key)
      | some groupId => .ok (some {
          url := objectUrl ++ "permission/group/" ++ toString groupId ++ "/"
          groupId := groupId
          groupPermissions := change.payload.groupPermissions })

/-- The object on which permissions are pushed. -/
inductive PermissionLevel where
  | dataSeries (externalId : String)
  | engine (url : String)
  | httpEndpoint (url : String)
deriving DecidableEq, Repr

/-- `DataSeriesDefinitionDiffPusher`, per permission change. -/
def dataSeriesPermissionRequest (externalId : String) :
    (String → Option Nat) → NameOperation →
      Except PushError (Option PutRequest) :=
  permissionRequest
    ("/api/dataseries/by-external-id/dataseries/" ++ externalId ++ "/")

/-- `EngineDefinitionDiffPusher`, per permission change. -/
def enginePermissionRequest (url : String) :
    (String → Option Nat) → NameOperation →
      Except PushError (Option PutRequest) :=
  permissionRequest url

/-- `HttpEndpointDefinitionDiffPusher`, per permission change. -/
def httpEndpointPermissionRequest (url : String) :
    (String → Option Nat) → NameOperation →
      Except PushError (Option PutRequest) :=
  permissionRequest url

def PermissionLevel.request :
    PermissionLevel → (String → Option Nat) → NameOperation →
      Except PushError (Option PutRequest)
  | .dataSeries externalId => dataSeriesPermissionRequest externalId
  | .engine url => enginePermissionRequest url
  | .httpEndpoint url => httpEndpointPermissionRequest url

/-- The user behind the requests, with the permissions that this user holds
both globally and on the object. -/
structure Requester where
  isTenantManager : Bool
  assignablePermissions : List String

/-- The directly assigned permissions of every group on the object. -/
abbrev PermissionTable := Nat → List String

def toRemove (assigned new : List String) : List String :=
  assigned.filter fun perm => perm ∉ new

def toAdd (assigned new : List String) : List String :=
  new.filter fun perm => perm ∉ assigned

/-- Remove and assign one by one what differs. -/
def updatedPermissions (assigned new : List String) : List String :=
  assigned.filter (fun perm => perm ∉ toRemove assigned new) ++
    toAdd assigned new

/-- `GenericGroupPermissionSerializer.update`, after the choices are
validated. -/
def updateGroupPermissions (choices : List String) (requester : Requester)
    (table : PermissionTable) (put : PutRequest) :
    Except PushError PermissionTable :=
  if ∃ perm ∈ put.groupPermissions, perm ∉ choices then .error .invalidChoice
  else
    let assigned := table put.groupId
    if (∃ perm ∈ toRemove assigned put.groupPermissions ++
            toAdd assigned put.groupPermissions,
          perm ∉ requester.assignablePermissions) ∧
        requester.isTenantManager = false then
      .error .permissionDenied
    else .ok fun groupId =>
      if groupId = put.groupId then
        updatedPermissions assigned put.groupPermissions
      else table groupId

/-- Push one change to the server. -/
def pushPermissionChange (level : PermissionLevel)
    (directory : GroupDirectory) (choices : List String)
    (requester : Requester) (table : PermissionTable)
    (change : NameOperation) : Except PushError PermissionTable := do
  match ← level.request directory.idByName change with
  | none => pure table
  | some put => updateGroupPermissions choices requester table put

/-- The loop over the permission changes of one object. -/
def pushGroupPermissions (level : PermissionLevel)
    (directory : GroupDirectory) (choices : List String)
    (requester : Requester) (table : PermissionTable)
    (changes : List NameOperation) : Except PushError PermissionTable :=
  changes.foldlM (pushPermissionChange level directory choices requester) table

section Push

/-- All three handlers send the same permissions for the same group. -/
theorem request_eq (level : PermissionLevel)
    (idByName : String → Option Nat) (change : NameOperation) :
    ∃ objectUrl, level.request idByName change =
      permissionRequest objectUrl idByName change := by
  cases level with
  | dataSeries externalId => exact ⟨_, rfl⟩
  | engine url => exact ⟨url, rfl⟩
  | httpEndpoint url => exact ⟨url, rfl⟩

/-- What an accepted change leaves to the group that it names. -/
def changedPermissions (assigned : List String) (change : NameOperation) :
    List String :=
  if change.operationType = .delete then assigned
  else updatedPermissions assigned change.payload.groupPermissions

/-- What an accepted change leaves behind. -/
def changedTable (directory : GroupDirectory) (table : PermissionTable)
    (change : NameOperation) : PermissionTable := fun groupId =>
  if directory.idByName change.key = some groupId then
    changedPermissions (table groupId) change
  else table groupId

/-- The directory knows the group of the change, and the permissions are those
of the level. -/
def ChangeAccepted (directory : GroupDirectory) (choices : List String)
    (change : NameOperation) : Prop :=
  change.operationType = .delete ∨
    (∃ groupId, directory.idByName change.key = some groupId) ∧
      ∀ perm ∈ change.payload.groupPermissions, perm ∈ choices

/-- A tenant manager may change everything, other users what they hold. -/
def Requester.MayAssign (requester : Requester) (choices : List String) :
    Prop :=
  requester.isTenantManager = true ∨
    ∀ perm ∈ choices, perm ∈ requester.assignablePermissions

theorem mem_toRemove {assigned new : List String} {perm : String} :
    perm ∈ toRemove assigned new ↔ perm ∈ assigned ∧ perm ∉ new := by
  rw [toRemove, List.mem_filter, decide_eq_true_eq]

theorem mem_toAdd {assigned new : List String} {perm : String} :
    perm ∈ toAdd assigned new ↔ perm ∈ new ∧ perm ∉ assigned := by
  rw [toAdd, List.mem_filter, decide_eq_true_eq]

theorem mem_updatedPermissions {assigned new : List String} {perm : String} :
    perm ∈ updatedPermissions assigned new ↔ perm ∈ new := by
  simp only [updatedPermissions, mem_toRemove, mem_toAdd, List.mem_append, List.mem_filter,
    decide_eq_true_eq]
  by_cases hassigned : perm ∈ assigned <;> by_cases hnew : perm ∈ new <;>
    simp [hassigned, hnew]

theorem pushPermissionChange_eq (level : PermissionLevel)
    (directory : GroupDirectory) {choices : List String}
    {requester : Requester} (hmay : requester.MayAssign choices)
    {table : PermissionTable}
    (htable : ∀ groupId, ∀ perm ∈ table groupId, perm ∈ choices)
    {change : NameOperation}
    (haccepted : ChangeAccepted directory choices change) :
    pushPermissionChange level directory choices requester table change =
      .ok (changedTable directory table change) := by
  obtain ⟨objectUrl, hrequest⟩ := request_eq level directory.idByName change
  rw [pushPermissionChange, hrequest, permissionRequest]
  rcases haccepted with hdelete | ⟨⟨groupId, hgroup⟩, hchoices⟩
  · have hkept : changedTable directory table change = table := by
      funext groupId
      simp [changedTable, changedPermissions, hdelete]
    rw [hkept]
    simp only [hdelete]
    rfl
  · have hvalid : ¬ ∃ perm ∈ change.payload.groupPermissions,
        perm ∉ choices := by
      simpa using hchoices
    have hmayAll : ¬ ((∃ perm ∈ toRemove (table groupId)
          change.payload.groupPermissions ++ toAdd (table groupId)
          change.payload.groupPermissions,
          perm ∉ requester.assignablePermissions) ∧
        requester.isTenantManager = false) := by
      rintro ⟨⟨perm, hperm, hdenied⟩, hmanager⟩
      rcases hmay with hyes | hassignable
      · rw [hyes] at hmanager
        exact Bool.noConfusion hmanager
      · apply hdenied
        apply hassignable
        rcases List.mem_append.mp hperm with hperm | hperm
        · exact htable groupId perm (List.mem_of_mem_filter hperm)
        · exact hchoices perm (List.mem_of_mem_filter hperm)
    have hstored : updateGroupPermissions choices requester table
        ⟨objectUrl ++ "permission/group/" ++ toString groupId ++ "/", groupId,
          change.payload.groupPermissions⟩ =
        .ok fun other => if other = groupId then
          updatedPermissions (table groupId) change.payload.groupPermissions
        else table other := by
      rw [updateGroupPermissions, if_neg hvalid]
      exact if_neg hmayAll
    have hchanged : change.operationType ≠ .delete →
        changedTable directory table change = fun other =>
          if other = groupId then
            updatedPermissions (table groupId) change.payload.groupPermissions
          else table other := by
      intro hdelete
      funext other
      rw [changedTable, hgroup]
      by_cases hother : other = groupId
      · simp [hother, changedPermissions, hdelete]
      · simp [hother, Ne.symm hother]
    cases htype : change.operationType with
    | delete =>
        have hkept : changedTable directory table change = table := by
          funext groupId
          simp [changedTable, changedPermissions, htype]
        rw [hkept]
        rfl
    | create =>
        rw [hchanged (by simp [htype]), hgroup]
        exact hstored
    | update =>
        rw [hchanged (by simp [htype]), hgroup]
        exact hstored

/-- Accepted changes keep to the permissions of the level. -/
theorem changedTable_choices (directory : GroupDirectory)
    {choices : List String} {table : PermissionTable}
    (htable : ∀ groupId, ∀ perm ∈ table groupId, perm ∈ choices)
    {change : NameOperation}
    (haccepted : ChangeAccepted directory choices change) :
    ∀ groupId, ∀ perm ∈ changedTable directory table change groupId,
      perm ∈ choices := by
  intro groupId perm hperm
  rw [changedTable] at hperm
  split at hperm
  · rw [changedPermissions] at hperm
    split at hperm
    · exact htable groupId perm hperm
    · rename_i hdelete
      rw [mem_updatedPermissions] at hperm
      rcases haccepted with hdelete' | ⟨-, hchoices⟩
      · exact absurd hdelete' hdelete
      · exact hchoices perm hperm
  · exact htable groupId perm hperm

/-- A push of accepted changes completes, one change after the other. -/
theorem pushGroupPermissions_eq (level : PermissionLevel)
    (directory : GroupDirectory) {choices : List String}
    {requester : Requester} (hmay : requester.MayAssign choices)
    {table : PermissionTable}
    (htable : ∀ groupId, ∀ perm ∈ table groupId, perm ∈ choices)
    {changes : List NameOperation}
    (haccepted : ∀ change ∈ changes,
      ChangeAccepted directory choices change) :
    pushGroupPermissions level directory choices requester table changes =
      .ok (Runs.run (changedTable directory) table changes) := by
  induction changes generalizing table with
  | nil => rfl
  | cons change rest ih =>
      have hchange := haccepted change List.mem_cons_self
      have hrest := fun other hother =>
        haccepted other (List.mem_cons_of_mem change hother)
      have hnext := ih (changedTable_choices directory htable hchange) hrest
      rw [pushGroupPermissions, List.foldlM_cons,
        pushPermissionChange_eq level directory hmay htable hchange]
      exact hnext

/-- A change touches the permissions of its own group only. -/
theorem changedTable_group (directory : GroupDirectory) {group : Group}
    (hgroup : group ∈ directory.groups) (table : PermissionTable)
    (change : NameOperation) :
    changedTable directory table change group.id =
      (if change.key = group.name then some change else none).elim
        (table group.id) (changedPermissions (table group.id)) := by
  have hid : directory.idByName change.key = some group.id ↔
      change.key = group.name := by
    rw [GroupDirectory.idByName, Option.map_eq_some_iff]
    constructor
    · rintro ⟨other, hother, heq⟩
      obtain ⟨hmem, hname⟩ := (lookup_toDict directory.names_nodup).mp hother
      rw [← hname,
        List.inj_on_of_nodup_map directory.ids_nodup hmem hgroup heq]
    · intro hkey
      exact ⟨group, (lookup_toDict directory.names_nodup).mpr
        ⟨hgroup, hkey.symm⟩, rfl⟩
  rw [changedTable]
  by_cases hkey : change.key = group.name
  · rw [if_pos (hid.mpr hkey), if_pos hkey]
    rfl
  · rw [if_neg (fun h => hkey (hid.mp h)), if_neg hkey]
    rfl

end Push

section Convergence

/-- The permissions that a push should leave for a group. -/
def WantedPermission (target : List GroupPermissionsOnObject)
    (revokeMissingGroupPermissions : Bool) (table : PermissionTable)
    (group : Group) (perm : String) : Prop :=
  if revokeMissingGroupPermissions then perm ∈ permissionsOf target group.name
  else perm ∈ table group.id ∨ perm ∈ permissionsOf target group.name

/-- Every group has the wanted permissions. -/
def PermissionsConverge (directory : GroupDirectory)
    (target : List GroupPermissionsOnObject)
    (revokeMissingGroupPermissions : Bool) (table final : PermissionTable) :
    Prop :=
  ∀ group ∈ directory.groups, ∀ perm,
    perm ∈ final group.id ↔
      WantedPermission target revokeMissingGroupPermissions table group perm

/-- The definition states what the groups hold on the object. -/
def Describes (directory : GroupDirectory)
    (base : List GroupPermissionsOnObject) (table : PermissionTable) : Prop :=
  ∀ group ∈ directory.groups, ∀ perm,
    perm ∈ permissionsOf base group.name ↔ perm ∈ table group.id

/-- Nothing is to be revoked, or no group that the target leaves out holds a
permission. -/
def NothingToRevoke (directory : GroupDirectory)
    (target : List GroupPermissionsOnObject)
    (revokeMissingGroupPermissions : Bool) (table : PermissionTable) : Prop :=
  revokeMissingGroupPermissions = false ∨
    ∀ group ∈ directory.groups,
      (∀ elem ∈ target, elem.name ≠ group.name) → table group.id = []

variable (sets : SetOrder String)

/-- The permissions of a group after the pushed diff. -/
theorem mem_final_iff {directory : GroupDirectory}
    {base : List GroupPermissionsOnObject} (target : List GroupPermissionsOnObject)
    {table : PermissionTable}
    (hbase : Describes directory base table) (revoke : Bool) {group : Group}
    (hgroup : group ∈ directory.groups) (perm : String) :
    perm ∈ Runs.run (changedTable directory) table
        (groupPermissionsDiff sets base target revoke) group.id ↔
      if ∃ elem ∈ target, elem.name = group.name then
        WantedPermission target revoke table group perm
      else perm ∈ table group.id := by
  have hview := Runs.run_projection (fun table : PermissionTable =>
    table group.id) (changedTable_group directory hgroup) table
    (groupPermissionsDiff sets base target revoke)
  have hfilter : (groupPermissionsDiff sets base target revoke).filterMap
      (fun change : NameOperation =>
        if change.key = group.name then some change else none) =
      (groupPermissionsDiff sets base target revoke).filter
        fun change => change.key = group.name := by
    rw [← List.filterMap_eq_filter]
    apply List.filterMap_congr
    intro change _
    by_cases hkey : change.key = group.name <;> simp [hkey, Option.guard]
  rw [hview, hfilter, groupPermissionsDiff, diff_filter_key]
  have hheld := hbase group hgroup perm
  rw [permissionsOf] at hheld
  cases htarget :
      (toDict GroupPermissionsOnObject.name target).lookup group.name with
  | none =>
      have hnone := lookup_toDict_eq_none.mp htarget
      have hif : ¬ ∃ elem ∈ target, elem.name = group.name := by
        rintro ⟨elem, helem, hname⟩
        exact hnone elem helem hname
      rw [if_neg hif]
      cases (toDict GroupPermissionsOnObject.name base).lookup group.name <;>
        cases revoke <;> simp [diffAt, changedPermissions]
  | some elem =>
      obtain ⟨helem, hname⟩ := mem_of_lookup_toDict htarget
      rw [if_pos ⟨elem, helem, hname⟩, WantedPermission, permissionsOf,
        htarget]
      cases hlookup :
          (toDict GroupPermissionsOnObject.name base).lookup group.name with
      | none =>
          rw [hlookup] at hheld
          simp only [Option.elim_none, List.not_mem_nil, false_iff] at hheld
          simp only [diffAt, Runs.run_cons, Runs.run_nil,
            changedPermissions, reduceCtorEq, if_false,
            mem_updatedPermissions]
          cases revoke <;> simp [hheld]
      | some elem' =>
          rw [hlookup] at hheld
          simp only [Option.elim_some] at hheld
          by_cases heq : elem = elem'
          · subst heq
            cases revoke <;> simp [diffAt, hheld]
          · cases revoke with
            | true =>
                simp [diffAt, heq, changedPermissions, mem_updatedPermissions]
            | false =>
                simp only [diffAt, ne_eq, heq, not_false_eq_true, if_true,
                  Bool.false_eq_true, if_false, List.map_cons, List.map_nil,
                  Runs.run_cons, Runs.run_nil, changedPermissions,
                  reduceCtorEq, mem_updatedPermissions, mergedPermissions,
                  (sets.perm _).mem_iff, List.mem_dedup, List.mem_append, Option.elim_some, hheld]
                exact or_comm

/-- The changes of a diff are accepted when the target names known groups and
permissions of the level. -/
theorem changeAccepted_of_mem_diff {directory : GroupDirectory}
    {choices : List String} {base target : List GroupPermissionsOnObject}
    {table : PermissionTable} (hbase : Describes directory base table)
    (htable : ∀ groupId, ∀ perm ∈ table groupId, perm ∈ choices)
    (hknown : ∀ elem ∈ target, ∃ group ∈ directory.groups,
      group.name = elem.name)
    (hchoices : ∀ elem ∈ target, ∀ perm ∈ elem.groupPermissions,
      perm ∈ choices) (revoke : Bool) :
    ∀ change ∈ groupPermissionsDiff sets base target revoke,
      ChangeAccepted directory choices change := by
  intro change hchange
  rw [groupPermissionsDiff, mem_diff] at hchange
  cases htarget :
      (toDict GroupPermissionsOnObject.name target).lookup change.key with
  | none =>
      rw [htarget] at hchange
      unfold diffAt at hchange
      split at hchange
      · split at hchange
        · rw [List.mem_singleton] at hchange
          rw [hchange]
          exact Or.inl rfl
        · simp at hchange
      · simp_all
      · simp_all
      · simp at hchange
  | some elem =>
      obtain ⟨helem, hname⟩ := mem_of_lookup_toDict htarget
      obtain ⟨group, hgroup, hgroupName⟩ := hknown elem helem
      have hlookup := (lookup_toDict directory.names_nodup).mpr
        ⟨hgroup, hgroupName.trans hname⟩
      have hid : directory.idByName change.key = some group.id := by
        rw [GroupDirectory.idByName, hlookup]
        rfl
      refine Or.inr ⟨⟨group.id, hid⟩, ?_⟩
      rw [htarget] at hchange
      cases hbaseLookup :
          (toDict GroupPermissionsOnObject.name base).lookup change.key with
      | none =>
          rw [hbaseLookup, diffAt, List.mem_singleton] at hchange
          rw [hchange]
          exact hchoices elem helem
      | some elem' =>
          rw [hbaseLookup, diffAt] at hchange
          split at hchange
          · cases revoke with
            | true =>
                simp only [if_true, List.map_cons, List.map_nil,
                  List.mem_singleton] at hchange
                rw [hchange]
                exact hchoices elem helem
            | false =>
                simp only [Bool.false_eq_true, if_false, List.map_cons,
                  List.map_nil, List.mem_singleton] at hchange
                rw [hchange]
                intro perm hperm
                simp only [mergedPermissions, (sets.perm _).mem_iff,
                  List.mem_dedup, List.mem_append] at hperm
                rcases hperm with hperm | hperm
                · exact hchoices elem helem perm hperm
                · have hheld := hbase group hgroup perm
                  rw [permissionsOf, hgroupName.trans hname, hbaseLookup]
                    at hheld
                  exact htable group.id perm (hheld.mp hperm)
          · simp at hchange

/-- Pushed by the handler of any level, the diff of two definitions gives every
group the wanted permissions exactly when nothing is to be revoked from a group
that the target leaves out. -/
theorem groupPermissions_converge_iff (level : PermissionLevel)
    (directory : GroupDirectory) (choices : List String)
    (requester : Requester) (hmay : requester.MayAssign choices)
    (table : PermissionTable)
    (htable : ∀ groupId, ∀ perm ∈ table groupId, perm ∈ choices)
    (base target : List GroupPermissionsOnObject)
    (hbase : Describes directory base table)
    (hknown : ∀ elem ∈ target, ∃ group ∈ directory.groups,
      group.name = elem.name)
    (hchoices : ∀ elem ∈ target, ∀ perm ∈ elem.groupPermissions,
      perm ∈ choices)
    (revoke : Bool) :
    ∃ final, pushGroupPermissions level directory choices requester table
        (groupPermissionsDiff sets base target revoke) = .ok final ∧
      (PermissionsConverge directory target revoke table final ↔
        NothingToRevoke directory target revoke table) := by
  refine ⟨_, pushGroupPermissions_eq level directory hmay htable
    (changeAccepted_of_mem_diff sets hbase htable hknown hchoices revoke), ?_⟩
  constructor
  · intro hconverge
    by_cases hrevoke : revoke = false
    · exact Or.inl hrevoke
    · right
      intro group hgroup hmissing
      rw [List.eq_nil_iff_forall_not_mem]
      intro perm hperm
      have hnone : ¬ ∃ elem ∈ target, elem.name = group.name := by
        rintro ⟨elem, helem, hname⟩
        exact hmissing elem helem hname
      have hfinal := mem_final_iff sets target hbase revoke hgroup perm
      rw [if_neg hnone] at hfinal
      have hwanted := (hconverge group hgroup perm).mp (hfinal.mpr hperm)
      rw [WantedPermission, if_pos (by simpa using hrevoke), permissionsOf,
        lookup_toDict_eq_none.mpr hmissing] at hwanted
      simp at hwanted
  · intro hnothing group hgroup perm
    rw [mem_final_iff sets target hbase revoke hgroup perm]
    split
    · rfl
    · rename_i hnone
      have hmissing : ∀ elem ∈ target, elem.name ≠ group.name := by
        intro elem helem hname
        exact hnone ⟨elem, helem, hname⟩
      rw [WantedPermission, permissionsOf,
        lookup_toDict_eq_none.mpr hmissing]
      rcases hnothing with hrevoke | hempty
      · simp [hrevoke]
      · rw [hempty group hgroup hmissing]
        simp

end Convergence

namespace GroupPermissionsWitness

def directory : GroupDirectory where
  groups := [⟨1, "readers"⟩, ⟨2, "writers"⟩]
  names_nodup := by decide
  ids_nodup := by decide

def choices : List String := ["view", "change"]

def manager : Requester := ⟨true, []⟩

/-- The readers may view the object. -/
def held : PermissionTable := fun groupId =>
  if groupId = 1 then ["view"] else []

/-- The push of a target without the readers succeeds and misses it. -/
def KeepsPermission (level : PermissionLevel) : Prop :=
  ∃ final, pushGroupPermissions level directory choices manager held
      (groupPermissionsDiff (.identity String) [⟨"readers", ["view"]⟩] [] true) = .ok final ∧
    ¬ PermissionsConverge directory [] true held final

theorem held_not_converged : ¬ PermissionsConverge directory [] true held held := by
  intro hconverge
  have hview := hconverge ⟨1, "readers"⟩ (by decide) "view"
  simp [held, WantedPermission, permissionsOf, toDict] at hview

/-- The target leaves the readers out; they keep their permission on all three
levels although missing permissions are to be revoked. -/
theorem missingGroup_keeps_permission :
    KeepsPermission (.dataSeries "sales") ∧ KeepsPermission (.engine "/engine/1/") ∧
      KeepsPermission (.httpEndpoint "/endpoint/1/") := by
  refine ⟨⟨held, ?_, held_not_converged⟩, ⟨held, ?_, held_not_converged⟩,
    ⟨held, ?_, held_not_converged⟩⟩ <;> rfl

/-- A group gains permissions while nothing is revoked. -/
theorem groupPermissions_converge_iff_merged :
    ∃ final, pushGroupPermissions (.engine "/engine/1/") directory choices
        manager held
        (groupPermissionsDiff (.identity String) [⟨"readers", ["view"]⟩]
          [⟨"readers", ["change"]⟩, ⟨"writers", ["view"]⟩] false) =
          .ok final ∧
      (PermissionsConverge directory
          [⟨"readers", ["change"]⟩, ⟨"writers", ["view"]⟩] false held final ↔
        NothingToRevoke directory
          [⟨"readers", ["change"]⟩, ⟨"writers", ["view"]⟩] false held) := by
  refine groupPermissions_converge_iff _ _ directory choices manager
    (Or.inl rfl) held ?_ _ _ ?_ (by decide) (by decide) false
  · intro groupId perm hperm
    rw [held] at hperm
    split at hperm
    · simp_all [choices]
    · simp at hperm
  · intro group hgroup perm
    simp only [directory, List.mem_cons, List.not_mem_nil, or_false] at hgroup
    have hreaders : permissionsOf [⟨"readers", ["view"]⟩] "readers" =
        ["view"] := by decide
    have hwriters : permissionsOf [⟨"readers", ["view"]⟩] "writers" =
        [] := by decide
    rcases hgroup with rfl | rfl
    · simp [hreaders, held]
    · simp [hwriters, held]

end GroupPermissionsWitness

end NFCompose
