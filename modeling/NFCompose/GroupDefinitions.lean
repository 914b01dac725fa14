/-
Group definitions: what the client fetches of a tenant's groups, its difference to a
target, and the requests that push the difference to the account endpoints.
-/
import Mathlib.Data.List.Dedup
import Mathlib.Data.String.Basic
import NFCompose.AccountIsolation
import NFCompose.KeyedDiff

namespace NFCompose

namespace GroupDefinitions

open Accounts KeyedDiff

/-- A group and its permissions. -/
structure GroupDefinition where
  name : String
  groupPermissions : List String
deriving DecidableEq, Repr

/-- The operations on the group, with the name they send, and on its permissions. -/
structure GroupDefinitionDiff where
  name : String
  group : Option (OperationType × String)
  groupPermissions : Option (OperationType × List String)
deriving DecidableEq, Repr

def GroupDefinitionDiff.empty (diff : GroupDefinitionDiff) : Bool :=
  diff.group.isNone && diff.groupPermissions.isNone

/-- `diff_group_definition`, or its assertion error. -/
def diffGroupDefinition (deleteInBase : Bool) :
    Option GroupDefinition → Option GroupDefinition → Option GroupDefinitionDiff
  | none, none => none
  | none, some target =>
      some ⟨target.name, some (.create, target.name), some (.create, target.groupPermissions)⟩
  | some base, none =>
      if deleteInBase then
        some ⟨base.name, some (.delete, base.name), some (.delete, base.groupPermissions)⟩
      else some ⟨base.name, none, none⟩
  | some base, some target =>
      if base.name ≠ target.name then none
      else some
        { name := base.name
          group := if base.name ≠ target.name then some (.update, target.name) else none
          groupPermissions :=
            if base.groupPermissions ≠ target.groupPermissions then
              some (.update, target.groupPermissions)
            else none }

/-- `set(base_by_name.keys()).union(set(target_by_name.keys()))`. -/
def allNames (sets : SetOrder String) (base target : List GroupDefinition) : List String :=
  let baseByName := toDict GroupDefinition.name base
  let targetByName := toDict GroupDefinition.name target
  sets.order (baseByName.keys ++ targetByName.keys.filter fun name => name ∉ baseByName)

def diffAllGroupDefinitions (sets : SetOrder String) (base target : List GroupDefinition)
    (deleteInBase : Bool) : Option (List GroupDefinitionDiff) :=
  (allNames sets base target).mapM fun name =>
    diffGroupDefinition deleteInBase ((toDict GroupDefinition.name base).lookup name)
      ((toDict GroupDefinition.name target).lookup name)

/-- The list that the permission view makes of a set. -/
def sortedPermissions (permissions : List String) : List String :=
  permissions.dedup.insertionSort (· ≤ ·)

inductive PushError where
  | refused (error : AccountError)
  | indexError
deriving DecidableEq, Repr

section Client

variable (settings : AccountSettings) (user : Nat)

/-- The checks of a `GET`. -/
def readable (tables : AccountTables) : Except PushError Uuid :=
  match currentTenant tables (some user) with
  | none => .error (.refused .notAllowed)
  | some tenant =>
      if hasPerm settings tables user "auth.view_group" then .ok tenant
      else .error (.refused .notAllowed)

/-- What the two endpoints show of a group. -/
def definitionOf (tables : AccountTables) (pk : Nat) : GroupDefinition where
  name := shownName ((tables.groups.lookup pk).elim "" GroupRow.name)
  groupPermissions := sortedPermissions (directlyAssigned (tables.groupPermissions pk))

/-- `ComposeGroupDefinitionFetcher.fetch`. -/
def fetch (tables : AccountTables) : Except PushError (List GroupDefinition) := do
  let tenant ← readable settings user tables
  return (tables.ownGroups tenant).map (definitionOf tables)

/-- `_get_group`, which takes the first result. -/
def getGroup (tables : AccountTables) (name : String) : Except PushError Nat := do
  let tenant ← readable settings user tables
  let results ← (findGroups tables tenant name).mapError PushError.refused
  results.head?.elim (.error .indexError) .ok

def send (action : AccountAction) (tables : AccountTables) : Except PushError AccountTables :=
  (handle settings tables ⟨some user, action⟩).mapError PushError.refused

/-- A `PUT` to the permissions of the group with a name. -/
def putPermissions (name : String) (permissions : List String) (tables : AccountTables) :
    Except PushError AccountTables := do
  let pk ← getGroup settings user tables name
  send settings user (.putGroupPermissions pk (some permissions)) tables

/-- One pass of the loop of `GroupDefinitionDiffPusher.push`. -/
def pushDiff (tables : AccountTables) (diff : GroupDefinitionDiff) :
    Except PushError AccountTables := do
  -- first delete all permissions by putting the empty list
  let tables ← match diff.groupPermissions with
    | some (.delete, _) => putPermissions settings user diff.name [] tables
    | _ => pure tables
  let tables ← match diff.group with
    | some (.delete, _) => do
        let pk ← getGroup settings user tables diff.name
        send settings user (.destroyGroup pk) tables
    | some (.create, name) => send settings user (.createGroup (some name)) tables
    | some (.update, name) => do
        let pk ← getGroup settings user tables diff.name
        send settings user (.updateGroup pk false (some name)) tables
    | none => pure tables
  match diff.groupPermissions with
  | some (.create, permissions) => putPermissions settings user diff.name permissions tables
  | some (.update, permissions) => putPermissions settings user diff.name permissions tables
  | _ => pure tables

def push (diffs : List GroupDefinitionDiff) (tables : AccountTables) :
    Except PushError AccountTables :=
  diffs.foldlM (pushDiff settings user) tables

end Client

section Requests

/-- The permissions of the tenant's group with a name, as the endpoints show them. -/
def permissionsOf (tables : AccountTables) (tenant : Uuid) (name : String) :
    Option (List String) :=
  (tables.groupsNamed tenant name).head?.map fun pk =>
    directlyAssigned (tables.groupPermissions pk)

/-- Two sets of permissions, or none at all. -/
def SameSet (first second : Option (List String)) : Prop :=
  first.isSome = second.isSome ∧
    ∀ perm, perm ∈ first.getD [] ↔ perm ∈ second.getD []

/-- A tenant's user who may do what the push asks for, whatever the groups are: what the user
has through a group could be taken away by the push. -/
structure Manages (settings : AccountSettings) (tables : AccountTables) (user : Nat)
    (tenant : Uuid) : Prop where
  tenant_eq : currentTenant tables (some user) = some tenant
  assigned : ∃ row, tables.users.lookup user = some row ∧ row.isActive = true ∧
    (row.isSuperuser = true ∨
      ∀ perm ∈ generallyAssignablePermissions, perm ∈ row.userPermissions)

/-- The groups of the tenant are named after it, as the endpoint names them. -/
structure GroupsFit (settings : AccountSettings) (tables : AccountTables) (tenant : Uuid) :
    Prop where
  unique : UniqueNames tables
  ids : IdsBelow tables.groups tables.nextGroupId
  qualified : ∀ pk row, tables.groups.lookup pk = some row → tables.ownsGroup tenant pk →
    ∃ name, FieldText name ∧ row.name = tables.tenantName tenant ++ "@@" ++ name
  permissions : ∀ perm ∈ generallyAssignablePermissions, perm ∈ settings.permissions
  separator : '@' ∉ (tables.tenantName tenant).toList

/-- A definition that the endpoints accept and store as it is, under a name that no other
tenant's and no system group has. -/
structure ValidTarget (tables : AccountTables) (tenant : Uuid) (target : GroupDefinition) :
    Prop where
  text : FieldText target.name
  length_le : target.name.length ≤ 100
  plain : ¬ "@@".toList <:+: target.name.toList
  assignable : ∀ perm ∈ target.groupPermissions, perm ∈ generallyAssignablePermissions
  free : ∀ pk row, tables.groups.lookup pk = some row →
    row.name = tables.tenantName tenant ++ "@@" ++ target.name → tables.ownsGroup tenant pk

/-- The tenant's group with a name. -/
structure Owns (tables : AccountTables) (tenant : Uuid) (name : String) (pk : Nat)
    (row : GroupRow) : Prop where
  lookup : tables.groups.lookup pk = some row
  name_eq : row.name = tables.tenantName tenant ++ "@@" ++ name
  relation : tables.tenantGroups.lookup pk = some ⟨tenant, false⟩

variable {settings : AccountSettings} {tables next : AccountTables} {user : Nat} {tenant : Uuid}
  {name other : String} {pk : Nat} {row : GroupRow}

theorem ownsGroup_iff : tables.ownsGroup tenant pk ↔
    tables.tenantGroups.lookup pk = some ⟨tenant, false⟩ := by
  constructor
  · intro howns
    obtain ⟨⟨tenantId, system⟩, hrelation, rfl, rfl⟩ := hasGroup_eq howns
    exact hrelation
  · intro hrelation
    simp [AccountTables.ownsGroup, hrelation]

theorem Manages.mem_permissions (hmanages : Manages settings tables user tenant)
    (hrows : ∀ perm ∈ generallyAssignablePermissions, perm ∈ settings.permissions) {perm : String}
    (hperm : perm ∈ generallyAssignablePermissions) :
    perm ∈ getPermissionsOfUser settings tables user := by
  obtain ⟨row, hrow, hactive, hassigned⟩ := hmanages.assigned
  simp only [getPermissionsOfUser, hrow, hactive, if_true]
  split
  · exact hrows perm hperm
  · next hsuperuser =>
      exact List.mem_append_left _ (hassigned.resolve_left hsuperuser perm hperm)

theorem Manages.hasPerm (hmanages : Manages settings tables user tenant)
    (hfit : GroupsFit settings tables tenant) {perm : String}
    (hperm : perm ∈ generallyAssignablePermissions) : hasPerm settings tables user perm = true := by
  obtain ⟨row, hrow, hactive, -⟩ := hmanages.assigned
  simp [Accounts.hasPerm, hrow, hactive, hmanages.mem_permissions hfit.permissions hperm]

theorem Manages.handle (hmanages : Manages settings tables user tenant)
    (hfit : GroupsFit settings tables tenant) (action : AccountAction)
    (haction : action.requiredPermission ∈ generallyAssignablePermissions) :
    handle settings tables ⟨some user, action⟩ =
      match action with
      | .createUser data => createUser settings tables tenant data
      | .updateUser pk isPartial data => updateUser settings tables tenant pk isPartial data
      | .destroyUser pk => destroyUser tables tenant pk
      | .createGroup name => createGroup tables tenant name
      | .updateGroup pk isPartial name => updateGroup tables tenant pk isPartial name
      | .destroyGroup pk => destroyGroup tables tenant pk
      | .putUserPermissions pk userPermissions =>
          putUserPermissions settings tables user tenant pk userPermissions
      | .putGroupPermissions pk groupPermissions =>
          putGroupPermissions settings tables user tenant pk groupPermissions := by
  have hperm := hmanages.hasPerm hfit haction
  cases action <;> simp only [Accounts.handle, hmanages.tenant_eq, hperm, if_true]

theorem qualified_inj {tenantName first second : String}
    (hsame : tenantName ++ "@@" ++ first = tenantName ++ "@@" ++ second) : first = second :=
  (String.append_right_inj _).mp hsame

/-- The tenant's groups can be asked for by their names. -/
theorem Owns.text (howns : Owns tables tenant name pk row)
    (hfit : GroupsFit settings tables tenant) : FieldText name := by
  obtain ⟨shown, htext, hname⟩ :=
    hfit.qualified pk row howns.lookup (ownsGroup_iff.mpr howns.relation)
  rwa [qualified_inj (howns.name_eq.symm.trans hname)]

theorem getGroup_ok (hmanages : Manages settings tables user tenant)
    (hfit : GroupsFit settings tables tenant) (howns : Owns tables tenant name pk row) :
    getGroup settings user tables name = .ok pk := by
  have hview : hasPerm settings tables user "auth.view_group" = true :=
    hmanages.hasPerm hfit (by decide +kernel)
  have hread : readable settings user tables = .ok tenant := by
    simp [readable, hmanages.tenant_eq, hview]
  have htext := howns.text hfit
  have hfound : findGroups tables tenant name = .ok [pk] := by
    rw [findGroups_eq (htext.stripped.symm ▸ htext), htext.stripped]
    exact congrArg Except.ok
      (groupsNamed_eq hfit.unique howns.lookup howns.name_eq howns.relation)
  rw [getGroup, hread]
  change (findGroups tables tenant name).mapError PushError.refused >>= _ = _
  rw [hfound]
  rfl

theorem permissionsOf_owns (hfit : GroupsFit settings tables tenant)
    (howns : Owns tables tenant name pk row) :
    permissionsOf tables tenant name = some (directlyAssigned row.permissions) := by
  rw [permissionsOf, groupsNamed_eq hfit.unique howns.lookup howns.name_eq howns.relation]
  simp [AccountTables.groupPermissions, howns.lookup]

theorem permissionsOf_none (hnone : ∀ pk row, ¬ Owns tables tenant name pk row) :
    permissionsOf tables tenant name = none := by
  have hempty : tables.groupsNamed tenant name = [] := by
    refine List.eq_nil_iff_forall_not_mem.mpr fun pk hpk => ?_
    rw [AccountTables.groupsNamed, (List.perm_insertionSort _ _).mem_iff] at hpk
    obtain ⟨⟨id, row⟩, hentry, rfl⟩ := List.mem_map.mp hpk
    simp only [List.mem_filter, Bool.and_eq_true, decide_eq_true_eq] at hentry
    obtain ⟨hmem, howns, hname⟩ := hentry
    exact hnone id row ⟨KeyedTable.mem_entries_iff.mp hmem, hname, ownsGroup_iff.mp howns⟩
  rw [permissionsOf, hempty]
  rfl

/-- A name that is looked up belongs to a group or to none. -/
theorem owns_or_none (tables : AccountTables) (tenant : Uuid) (name : String) :
    (∃ pk row, Owns tables tenant name pk row) ∨ ∀ pk row, ¬ Owns tables tenant name pk row := by
  by_cases howns : ∃ pk row, Owns tables tenant name pk row
  · exact .inl howns
  · push Not at howns
    exact .inr howns

theorem filter_notMem_eq_nil {permissions others : List String}
    (hmem : ∀ perm ∈ permissions, perm ∈ others) :
    (permissions.filter fun perm => perm ∉ others) = [] :=
  List.filter_eq_nil_iff.mpr fun perm hperm => by simpa using hmem perm hperm

/-- An accepted set of permissions is what the group has afterwards. -/
theorem updatePermissions_ok {assignable permissions wanted : List String} (field : String)
    (hwanted : ∀ perm ∈ wanted, perm ∈ generallyAssignablePermissions)
    (hassignable : ∀ perm ∈ generallyAssignablePermissions, perm ∈ assignable)
    (hrows : ∀ perm ∈ generallyAssignablePermissions, perm ∈ settings.permissions) :
    ∃ result, updatePermissions settings assignable permissions field (some wanted) = .ok result ∧
      ∀ perm, perm ∈ directlyAssigned result ↔ perm ∈ wanted := by
  have hdifferences : ∀ perm ∈ toRemove (directlyAssigned permissions) wanted ++
      toAdd (directlyAssigned permissions) wanted, perm ∈ generallyAssignablePermissions := by
    intro perm hperm
    rcases List.mem_append.mp hperm with hremove | hadd
    · exact of_decide_eq_true (List.mem_filter.mp (mem_toRemove.mp hremove).1).2
    · exact hwanted perm (mem_toAdd.mp hadd).1
  have hresult : updatePermissions settings assignable permissions field (some wanted) =
      .ok ((permissions.filter fun perm => perm ∉ toRemove (directlyAssigned permissions) wanted) ++
        toAdd (directlyAssigned permissions) wanted) := by
    simp only [updatePermissions]
    rw [if_neg (not_not.mpr (filter_notMem_eq_nil hwanted)),
      if_neg (not_not.mpr (filter_notMem_eq_nil fun perm hperm =>
        hassignable perm (hdifferences perm hperm))),
      if_neg (not_not.mpr (filter_notMem_eq_nil fun perm hperm =>
        hrows perm (hdifferences perm hperm)))]
  refine ⟨_, hresult, fun perm => ?_⟩
  rw [directlyAssigned_of_update hresult, mem_updatedPermissions]

/-- What holds of the tables at every point of a push. -/
structure Pushing (settings : AccountSettings) (tables : AccountTables) (user : Nat)
    (tenant : Uuid) (targets : List GroupDefinition) : Prop where
  manages : Manages settings tables user tenant
  fit : GroupsFit settings tables tenant
  valid : ∀ target ∈ targets, ValidTarget tables tenant target

/-- A push for one name leaves the groups with other names alone. -/
def KeepsOthers (tables next : AccountTables) (tenant : Uuid) (name : String) : Prop :=
  ∀ other, other ≠ name → ∀ pk row,
    Owns next tenant other pk row ↔ Owns tables tenant other pk row

variable {targets : List GroupDefinition}

theorem send_ok {action : AccountAction}
    (hhandle : handle settings tables ⟨some user, action⟩ = .ok next) :
    send settings user action tables = .ok next := by
  rw [send, hhandle]
  rfl

theorem addGroup_assignable : "auth.add_group" ∈ generallyAssignablePermissions := by
  decide +kernel

theorem changeGroup_assignable : "auth.change_group" ∈ generallyAssignablePermissions := by
  decide +kernel

theorem deleteGroup_assignable : "auth.delete_group" ∈ generallyAssignablePermissions := by
  decide +kernel

/-- A group with new permissions. -/
def setPermissions (tables : AccountTables) (pk : Nat) (row : GroupRow) (after : List String) :
    AccountTables :=
  { tables with groups := tables.groups.insert pk { row with permissions := after } }

theorem putPermissions_ok (hpushing : Pushing settings tables user tenant targets)
    (howns : Owns tables tenant name pk row) {wanted : List String}
    (hwanted : ∀ perm ∈ wanted, perm ∈ generallyAssignablePermissions) :
    ∃ after, putPermissions settings user name wanted tables =
        .ok (setPermissions tables pk row after) ∧
      ∀ perm, perm ∈ directlyAssigned after ↔ perm ∈ wanted := by
  obtain ⟨hmanages, hfit, -⟩ := hpushing
  have hassignable : ∀ perm ∈ generallyAssignablePermissions,
      perm ∈ getAssignablePermissions settings tables user := fun perm hperm =>
    List.mem_filter.mpr ⟨hmanages.mem_permissions hfit.permissions hperm, decide_eq_true hperm⟩
  obtain ⟨after, hupdate, hafter⟩ : ∃ after, updatePermissions settings
      (getAssignablePermissions settings tables user) row.permissions "group_permissions"
      (some wanted) = .ok after ∧ ∀ perm, perm ∈ directlyAssigned after ↔ perm ∈ wanted :=
    updatePermissions_ok _ hwanted hassignable hfit.permissions
  refine ⟨after, ?_, hafter⟩
  have hobject : getObject tables.groups (tables.hasGroup tenant) pk = .ok row := by
    simp [getObject, AccountTables.hasGroup, howns.relation, howns.lookup]
  have hput : putGroupPermissions settings tables user tenant pk (some wanted) =
      .ok (setPermissions tables pk row after) := by
    rw [putGroupPermissions, hobject]
    change (updatePermissions settings (getAssignablePermissions settings tables user)
      row.permissions "group_permissions" (some wanted) >>= _) = _
    rw [hupdate]
    rfl
  rw [putPermissions, getGroup_ok hmanages hfit howns]
  exact send_ok ((hmanages.handle hfit (.putGroupPermissions pk (some wanted))
    changeGroup_assignable).trans hput)

theorem destroyGroup_ok (hpushing : Pushing settings tables user tenant targets)
    (howns : Owns tables tenant name pk row) :
    send settings user (.destroyGroup pk) tables = .ok { tables with
      groups := tables.groups.erase pk
      tenantGroups := tables.tenantGroups.erase pk
      userGroups := tables.userGroups.filter fun member => member.2 ≠ pk } := by
  have hobject : getObject tables.groups (tables.ownsGroup tenant) pk = .ok row := by
    simp [getObject, ownsGroup_iff.mpr howns.relation, howns.lookup]
  have hdestroy : destroyGroup tables tenant pk = .ok { tables with
      groups := tables.groups.erase pk
      tenantGroups := tables.tenantGroups.erase pk
      userGroups := tables.userGroups.filter fun member => member.2 ≠ pk } := by
    rw [destroyGroup, hobject]
    rfl
  exact send_ok ((hpushing.manages.handle hpushing.fit (.destroyGroup pk)
    deleteGroup_assignable).trans hdestroy)

theorem createGroup_ok (hpushing : Pushing settings tables user tenant targets)
    {target : GroupDefinition} (htarget : target ∈ targets)
    (hnone : ∀ pk row, ¬ Owns tables tenant target.name pk row) :
    send settings user (.createGroup (some target.name)) tables = .ok { tables with
      groups := tables.groups.insert tables.nextGroupId
        ⟨tables.tenantName tenant ++ "@@" ++ target.name, []⟩
      tenantGroups := tables.tenantGroups.insert tables.nextGroupId ⟨tenant, false⟩
      nextGroupId := tables.nextGroupId + 1 } := by
  obtain ⟨htext, hlength, hplain, -, hfree⟩ := hpushing.valid target htarget
  have hfresh : tables.tenantName tenant ++ "@@" ++ target.name ∉ tables.groupNames := by
    intro hused
    obtain ⟨pk, row, hrow, hname⟩ := mem_groupNames.mp hused
    exact hnone pk row ⟨hrow, hname, ownsGroup_iff.mp (hfree pk row hrow hname)⟩
  have hvalid : checkGroupName tables none (tables.tenantName tenant) target.name =
      .ok (tables.tenantName tenant ++ "@@" ++ target.name) := by
    rw [checkGroupName, charField_text htext hlength]
    change validateGroupName tables none (tables.tenantName tenant) target.name = _
    simp only [validateGroupName, validateName, Option.map_none]
    rw [if_neg hplain, if_neg hfresh]
  have hcreate : createGroup tables tenant (some target.name) = .ok { tables with
      groups := tables.groups.insert tables.nextGroupId
        ⟨tables.tenantName tenant ++ "@@" ++ target.name, []⟩
      tenantGroups := tables.tenantGroups.insert tables.nextGroupId ⟨tenant, false⟩
      nextGroupId := tables.nextGroupId + 1 } := by
    rw [createGroup, checkField, hvalid]
    rfl
  exact send_ok ((hpushing.manages.handle hpushing.fit (.createGroup (some target.name))
    addGroup_assignable).trans hcreate)

/-- The tables after the permissions of a group were set. -/
theorem setPermissions_spec (hpushing : Pushing settings tables user tenant targets)
    (howns : Owns tables tenant name pk row) (after : List String) :
    Pushing settings (setPermissions tables pk row after) user tenant targets ∧
      KeepsOthers tables (setPermissions tables pk row after) tenant name ∧
      Owns (setPermissions tables pk row after) tenant name pk
        { row with permissions := after } := by
  obtain ⟨hmanages, hfit, hvalid⟩ := hpushing
  have hold : ∀ id found, (tables.groups.insert pk { row with permissions := after }).lookup id =
      some found → ∃ old, tables.groups.lookup id = some old ∧ found.name = old.name := by
    intro id found hfound
    obtain ⟨rfl, rfl⟩ | ⟨-, hfound⟩ := lookup_insert_cases hfound
    · exact ⟨row, howns.lookup, rfl⟩
    · exact ⟨found, hfound, rfl⟩
  refine ⟨⟨⟨hmanages.tenant_eq, hmanages.assigned⟩, ⟨hfit.unique.set howns.lookup rfl,
    hfit.ids.set howns.lookup _, ?_, hfit.permissions,
    hfit.separator⟩, ?_⟩, ?_, ?_⟩
  · intro id found hfound hown
    obtain ⟨old, holdRow, hname⟩ := hold id found hfound
    rw [hname]
    exact hfit.qualified id old holdRow hown
  · intro target htarget
    obtain ⟨htext, hlength, hplain, hassignable, hfree⟩ := hvalid target htarget
    refine ⟨htext, hlength, hplain, hassignable, fun id found hfound hname => ?_⟩
    obtain ⟨old, holdRow, hsame⟩ := hold id found hfound
    exact hfree id old holdRow (hsame.symm.trans hname)
  · intro other hother id found
    have hne : ∀ row, row.name = tables.tenantName tenant ++ "@@" ++ other →
        tables.groups.lookup pk = some row → False := by
      intro otherRow hname hlookup
      rw [howns.lookup, Option.some.injEq] at hlookup
      rw [← hlookup, howns.name_eq] at hname
      exact hother (qualified_inj hname).symm
    constructor
    · rintro ⟨hlookup, hname, hrelation⟩
      obtain ⟨rfl, rfl⟩ | ⟨-, hlookup⟩ := lookup_insert_cases hlookup
      · exact (hne row hname howns.lookup).elim
      · exact ⟨hlookup, hname, hrelation⟩
    · rintro ⟨hlookup, hname, hrelation⟩
      have hid : id ≠ pk := fun heq => hne found hname (heq ▸ hlookup)
      exact ⟨(AList.lookup_insert_ne hid).trans hlookup, hname, hrelation⟩
  · exact ⟨AList.lookup_insert _, howns.name_eq, howns.relation⟩

/-- The tables after a group was destroyed. -/
theorem destroyed_spec (hpushing : Pushing settings tables user tenant targets)
    (howns : Owns tables tenant name pk row) (members : List (Nat × Nat)) :
    let next := { tables with
      groups := tables.groups.erase pk, tenantGroups := tables.tenantGroups.erase pk
      userGroups := members }
    Pushing settings next user tenant targets ∧ KeepsOthers tables next tenant name ∧
      ∀ pk row, ¬ Owns next tenant name pk row := by
  obtain ⟨hmanages, hfit, hvalid⟩ := hpushing
  have hown : ∀ id, id ≠ pk → ∀ relation : Option TenantRelation,
      (tables.tenantGroups.erase pk).lookup id = relation →
        tables.tenantGroups.lookup id = relation := by
    intro id hid relation hrelation
    rwa [AList.lookup_erase_ne hid] at hrelation
  refine ⟨⟨⟨hmanages.tenant_eq, hmanages.assigned⟩, ⟨?_, hfit.ids.erase pk, ?_,
    hfit.permissions,
    hfit.separator⟩, ?_⟩, ?_, ?_⟩
  · intro first second firstRow secondRow hfirst hsecond
    exact hfit.unique _ _ _ _ (lookup_erase_cases hfirst).2 (lookup_erase_cases hsecond).2
  · intro id found hfound howned
    obtain ⟨hid, hlookup⟩ := lookup_erase_cases hfound
    exact hfit.qualified id found hlookup
      (ownsGroup_iff.mpr (hown id hid _ (ownsGroup_iff.mp howned)))
  · intro target htarget
    obtain ⟨htext, hlength, hplain, hassignable, hfree⟩ := hvalid target htarget
    refine ⟨htext, hlength, hplain, hassignable, fun id found hfound hname => ?_⟩
    obtain ⟨hid, hlookup⟩ := lookup_erase_cases hfound
    refine ownsGroup_iff.mpr ?_
    dsimp only
    rw [AList.lookup_erase_ne hid]
    exact ownsGroup_iff.mp (hfree id found hlookup hname)
  · intro other hother id found
    constructor
    · rintro ⟨hlookup, hname, hrelation⟩
      obtain ⟨hid, hlookup⟩ := lookup_erase_cases hlookup
      exact ⟨hlookup, hname, hown id hid _ hrelation⟩
    · rintro ⟨hlookup, hname, hrelation⟩
      have hid : id ≠ pk := by
        rintro rfl
        rw [howns.lookup, Option.some.injEq] at hlookup
        rw [← hlookup, howns.name_eq] at hname
        exact hother (qualified_inj hname).symm
      exact ⟨(AList.lookup_erase_ne hid).trans hlookup, hname,
        (AList.lookup_erase_ne hid).trans hrelation⟩
  · rintro id found ⟨hlookup, hname, -⟩
    obtain ⟨hid, hlookup⟩ := lookup_erase_cases hlookup
    exact hid (hfit.unique _ _ _ _ hlookup howns.lookup (hname.trans howns.name_eq.symm))

/-- The tables after a group was created. -/
theorem created_spec (hpushing : Pushing settings tables user tenant targets)
    (htext : FieldText name) (hnone : ∀ pk row, ¬ Owns tables tenant name pk row)
    (hfree : ∀ pk row, tables.groups.lookup pk = some row →
      row.name = tables.tenantName tenant ++ "@@" ++ name → tables.ownsGroup tenant pk) :
    let next := { tables with
      groups := tables.groups.insert tables.nextGroupId
        ⟨tables.tenantName tenant ++ "@@" ++ name, []⟩
      tenantGroups := tables.tenantGroups.insert tables.nextGroupId ⟨tenant, false⟩
      nextGroupId := tables.nextGroupId + 1 }
    Pushing settings next user tenant targets ∧ KeepsOthers tables next tenant name ∧
      Owns next tenant name tables.nextGroupId ⟨tables.tenantName tenant ++ "@@" ++ name, []⟩ := by
  obtain ⟨hmanages, hfit, hvalid⟩ := hpushing
  have hfresh : tables.tenantName tenant ++ "@@" ++ name ∉ tables.groupNames := by
    intro hused
    obtain ⟨pk, row, hrow, hname⟩ := mem_groupNames.mp hused
    exact hnone pk row ⟨hrow, hname, ownsGroup_iff.mp (hfree pk row hrow hname)⟩
  have hnew : ∀ relation : Option TenantRelation, ∀ id, id ≠ tables.nextGroupId →
      ((tables.tenantGroups.insert tables.nextGroupId ⟨tenant, false⟩).lookup id = relation ↔
        tables.tenantGroups.lookup id = relation) := by
    intro relation id hid
    rw [AList.lookup_insert_ne hid]
  refine ⟨⟨⟨hmanages.tenant_eq, hmanages.assigned⟩, ⟨hfit.unique.create hfresh,
    hfit.ids.create _, ?_, hfit.permissions,
    hfit.separator⟩, ?_⟩, ?_, ?_⟩
  · intro id found hfound howned
    obtain ⟨rfl, rfl⟩ | ⟨hid, hlookup⟩ := lookup_insert_cases hfound
    · exact ⟨name, htext, rfl⟩
    · exact hfit.qualified id found hlookup
        (ownsGroup_iff.mpr ((hnew _ id hid).mp (ownsGroup_iff.mp howned)))
  · intro target htarget
    obtain ⟨htext, hlength, hplain, hassignable, hfree⟩ := hvalid target htarget
    refine ⟨htext, hlength, hplain, hassignable, fun id found hfound hname => ?_⟩
    refine ownsGroup_iff.mpr ?_
    obtain ⟨rfl, -⟩ | ⟨hid, hlookup⟩ := lookup_insert_cases hfound
    · exact AList.lookup_insert _
    · exact (hnew _ id hid).mpr (ownsGroup_iff.mp (hfree id found hlookup hname))
  · intro other hother id found
    constructor
    · rintro ⟨hlookup, hname, hrelation⟩
      obtain ⟨rfl, rfl⟩ | ⟨hid, hlookup⟩ := lookup_insert_cases hlookup
      · exact absurd (qualified_inj hname).symm hother
      · exact ⟨hlookup, hname, (hnew _ id hid).mp hrelation⟩
    · rintro ⟨hlookup, hname, hrelation⟩
      have hid : id ≠ tables.nextGroupId := (hfit.ids id found hlookup).ne
      exact ⟨(AList.lookup_insert_ne hid).trans hlookup, hname, (hnew _ id hid).mpr hrelation⟩
  · exact ⟨AList.lookup_insert _, rfl, AList.lookup_insert _⟩

end Requests

end GroupDefinitions

end NFCompose
