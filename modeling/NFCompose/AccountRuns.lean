/-
What runs of requests to the account endpoints can do: nobody gains a permission that none
of the requesters has, and no other tenant's account is touched.
-/
import NFCompose.Accounts
import NFCompose.PartialRuns

namespace NFCompose

namespace Accounts

open Runs
open PartialRuns (bind_eq_ok)

/-- The permissions of a row that the requester may not have. -/
def ChangesOnly (assignable before after : List String) : Prop :=
  ∀ perm, (perm ∈ after ↔ perm ∈ before) ∨
    (perm ∈ assignable ∧ perm ∈ generallyAssignablePermissions)

/-- A name that the validation let through. -/
structure ValidName (used : List String) (tenantName fullName : String) : Prop where
  fresh : fullName ∉ used
  qualified : ∃ name, fullName = tenantName ++ "@@" ++ name ∧ ¬ "@@".toList <:+: name.toList

/-- What an accepted request does, and to which rows. -/
inductive Changes (settings : AccountSettings) (tables : AccountTables) (requester : Nat)
    (tenant : Uuid) : AccountTables → Prop where
  | createUser (username password email : String) (isActive : Bool) (groups : List Nat)
      (hname : ValidName tables.usernames (tables.tenantName tenant) username)
      (hgroups : ∀ id ∈ groups, tables.ownsGroup tenant id) :
      Changes settings tables requester tenant { tables with
        users := tables.users.insert tables.nextUserId
          ⟨username, password, email, isActive, false, false, []⟩
        tenantUsers := tables.tenantUsers.insert tables.nextUserId ⟨tenant, false⟩
        userGroups := tables.userGroups ++ groups.map (tables.nextUserId, ·)
        nextUserId := tables.nextUserId + 1 }
  | updateUser (pk : Nat) (row : UserRow) (password email : String) (isActive : Bool)
      (groups : List Nat) (howns : tables.ownsUser tenant pk)
      (hrow : tables.users.lookup pk = some row)
      (hgroups : ∀ id ∈ groups, id ∈ tables.groupsOf pk ∨ tables.ownsGroup tenant id) :
      Changes settings tables requester tenant { tables with
        users := tables.users.insert pk
          { row with password := password, email := email, isActive := isActive }
        userGroups :=
          tables.userGroups.filter (fun member => member.1 ≠ pk) ++ groups.map (pk, ·) }
  | destroyUser (pk : Nat) (howns : tables.ownsUser tenant pk) :
      Changes settings tables requester tenant { tables with
        users := tables.users.erase pk
        tenantUsers := tables.tenantUsers.erase pk
        userGroups := tables.userGroups.filter fun member => member.1 ≠ pk }
  | createGroup (name : String)
      (hname : ValidName tables.groupNames (tables.tenantName tenant) name) :
      Changes settings tables requester tenant { tables with
        groups := tables.groups.insert tables.nextGroupId ⟨name, []⟩
        tenantGroups := tables.tenantGroups.insert tables.nextGroupId ⟨tenant, false⟩
        nextGroupId := tables.nextGroupId + 1 }
  | updateGroup (pk : Nat) (row : GroupRow) (hrow : tables.groups.lookup pk = some row) :
      Changes settings tables requester tenant { tables with groups := tables.groups.insert pk row }
  | destroyGroup (pk : Nat) (howns : tables.ownsGroup tenant pk) :
      Changes settings tables requester tenant { tables with
        groups := tables.groups.erase pk
        tenantGroups := tables.tenantGroups.erase pk
        userGroups := tables.userGroups.filter fun member => member.2 ≠ pk }
  | putUserPermissions (pk : Nat) (row : UserRow) (permissions : List String)
      (hhas : tables.hasUser tenant pk) (hrow : tables.users.lookup pk = some row)
      (hpermissions : ChangesOnly (getPermissionsOfUser settings tables requester)
        row.userPermissions permissions) :
      Changes settings tables requester tenant { tables with
        users := tables.users.insert pk { row with userPermissions := permissions } }
  | putGroupPermissions (pk : Nat) (row : GroupRow) (permissions : List String)
      (hhas : tables.hasGroup tenant pk) (hrow : tables.groups.lookup pk = some row)
      (hpermissions : ChangesOnly (getPermissionsOfUser settings tables requester)
        row.permissions permissions) :
      Changes settings tables requester tenant { tables with
        groups := tables.groups.insert pk { row with permissions := permissions } }

section Inversion

variable {settings : AccountSettings} {tables next : AccountTables} {tenant : Uuid}

theorem getObject_eq_ok {R : Type} {rows : AList fun _ : Nat => R} {inQueryset : Nat → Bool}
    {pk : Nat} {row : R} (hrow : getObject rows inQueryset pk = .ok row) :
    inQueryset pk = true ∧ rows.lookup pk = some row := by
  unfold getObject at hrow
  split at hrow
  · next hin =>
      cases hlookup : rows.lookup pk with
      | none => simp [hlookup] at hrow
      | some found =>
          simp only [hlookup, Option.elim_some, Except.ok.injEq] at hrow
          exact ⟨hin, by rw [hrow]⟩
  · cases hrow

theorem checkField_eq_ok {A B : Type} {isPartial : Bool} {field : String} {current result : B}
    {check : A → Except AccountError B} {value : Option A}
    (hcheck : checkField isPartial field current check value = .ok result) :
    (isPartial = true ∧ result = current) ∨ ∃ given, check given = .ok result := by
  cases value with
  | none =>
      cases isPartial with
      | true => exact .inl ⟨rfl, (Except.ok.inj hcheck).symm⟩
      | false => cases hcheck
  | some given => exact .inr ⟨given, hcheck⟩

/-- Nothing is left to trim from a text that was trimmed. -/
theorem strip_strip (text : String) : strip (strip text) = strip text := by
  set trimmed := text.toList.dropWhile isSpace with htrimmed
  have hstart : (trimmed.rdropWhile isSpace).dropWhile isSpace = trimmed.rdropWhile isSpace := by
    -- What is cut off at the end does not change where the text starts.
    have hidempotent : trimmed.dropWhile isSpace = trimmed := List.dropWhile_idempotent _ _
    rw [List.dropWhile_eq_self_iff] at hidempotent ⊢
    intro hlength
    have hfront := List.rdropWhile_prefix isSpace trimmed
    rw [hfront.getElem hlength]
    exact hidempotent (hlength.trans_le hfront.length_le)
  rw [strip, strip, String.toList_ofList, ← htrimmed, hstart, List.rdropWhile_idempotent]

/-- A field gives back what it was sent, without the whitespace around it. -/
theorem charField_eq_ok {maxLength : Nat} {data value : String}
    (hfield : charField maxLength data = .ok value) : value = strip data ∧ FieldText value := by
  unfold charField at hfield
  dsimp only at hfield
  split at hfield
  · cases hfield
  next hnonempty =>
  split at hfield
  · cases hfield
  split at hfield
  · cases hfield
  next hnull =>
  cases hfield
  exact ⟨rfl, strip_strip data, Bool.eq_false_iff.mpr hnonempty, hnull⟩

theorem charField_text {maxLength : Nat} {text : String} (htext : FieldText text)
    (hlength : text.length ≤ maxLength) : charField maxLength text = .ok text := by
  simp only [charField, htext.stripped, htext.nonempty]
  rw [if_neg (by simp), if_neg (Nat.not_lt.mpr hlength), if_neg htext.noNull]

theorem validateName_none {used : List String}
    {tenantName name takenMessage changedMessage : String}
    {fullName : String}
    (hvalid : validateName used none tenantName name takenMessage changedMessage = .ok fullName) :
    fullName = tenantName ++ "@@" ++ name ∧ ValidName used tenantName fullName := by
  unfold validateName at hvalid
  dsimp only at hvalid
  split at hvalid
  · cases hvalid
  · next hseparator =>
      split at hvalid
      · cases hvalid
      · next hfresh =>
          cases hvalid
          exact ⟨rfl, hfresh, name, rfl, hseparator⟩

theorem validateName_some {used : List String}
    {tenantName name takenMessage changedMessage : String}
    {current fullName : String}
    (hvalid : validateName used (some current) tenantName name takenMessage changedMessage =
      .ok fullName) : fullName = current := by
  unfold validateName at hvalid
  dsimp only at hvalid
  split at hvalid
  · cases hvalid
  · split at hvalid
    · cases hvalid
    · next hsame =>
        rw [ne_eq, not_not] at hsame
        exact (Except.ok.inj hvalid).symm.trans hsame

theorem checkUsername_none {tenantName data fullName : String}
    (hcheck : checkUsername tables none tenantName data = .ok fullName) :
    ValidName tables.usernames tenantName fullName := by
  obtain ⟨name, -, hvalid⟩ := bind_eq_ok hcheck
  exact (validateName_none hvalid).2

theorem checkUsername_some {row : UserRow} {tenantName data fullName : String}
    (hcheck : checkUsername tables (some row) tenantName data = .ok fullName) :
    fullName = row.username := by
  obtain ⟨name, -, hvalid⟩ := bind_eq_ok hcheck
  exact validateName_some hvalid

/-- A new group is named by what the request has between its whitespace. -/
theorem checkGroupName_none {tenantName data fullName : String}
    (hcheck : checkGroupName tables none tenantName data = .ok fullName) :
    fullName = tenantName ++ "@@" ++ strip data ∧ FieldText (strip data) ∧
      ValidName tables.groupNames tenantName fullName := by
  obtain ⟨name, hfield, hvalid⟩ := bind_eq_ok hcheck
  obtain ⟨rfl, htext⟩ := charField_eq_ok hfield
  obtain ⟨hname, hvalidName⟩ := validateName_none hvalid
  exact ⟨hname, htext, hvalidName⟩

theorem checkGroupName_some {row : GroupRow} {tenantName data fullName : String}
    (hcheck : checkGroupName tables (some row) tenantName data = .ok fullName) :
    fullName = row.name := by
  obtain ⟨name, -, hvalid⟩ := bind_eq_ok hcheck
  exact validateName_some hvalid

theorem checkGroups_eq_ok {groups result : List Nat}
    (hcheck : checkGroups tables tenant groups = .ok result) :
    ∀ id ∈ result, tables.ownsGroup tenant id := by
  unfold checkGroups at hcheck
  split at hcheck
  · next howns =>
      cases hcheck
      exact howns
  · cases hcheck

/-- An update that succeeds passed its checks. -/
theorem updatePermissions_checked {assignable permissions result wanted : List String}
    {field : String}
    (hupdate : updatePermissions settings assignable permissions field (some wanted) =
      .ok result) :
    (∀ perm ∈ wanted, perm ∈ generallyAssignablePermissions) ∧
      (∀ perm ∈ toRemove (directlyAssigned permissions) wanted ++
          toAdd (directlyAssigned permissions) wanted, perm ∈ assignable) ∧
      result = (permissions.filter fun perm =>
          perm ∉ toRemove (directlyAssigned permissions) wanted) ++
        toAdd (directlyAssigned permissions) wanted := by
  unfold updatePermissions at hupdate
  dsimp only at hupdate
  split at hupdate
  · cases hupdate
  next hinvalid =>
  split at hupdate
  · cases hupdate
  next hhave =>
  split at hupdate
  · cases hupdate
  rw [not_not, List.filter_eq_nil_iff] at hinvalid hhave
  refine ⟨fun perm hperm => ?_, fun perm hperm => ?_, (Except.ok.inj hupdate).symm⟩
  · simpa using hinvalid perm hperm
  · simpa using hhave perm hperm

/-- What the permissions are after an update, and that only what the requester may assign
has changed. -/
theorem updatePermissions_eq_ok {assignable permissions result : List String} {field : String}
    {new : Option (List String)}
    (hupdate : updatePermissions settings assignable permissions field new = .ok result) :
    ∃ wanted, new = some wanted ∧
      (∀ perm, perm ∈ result ↔
        if perm ∈ generallyAssignablePermissions then perm ∈ wanted else perm ∈ permissions) ∧
      ∀ perm, (perm ∈ result ↔ perm ∈ permissions) ∨
        (perm ∈ assignable ∧ perm ∈ generallyAssignablePermissions) := by
  cases new with
  | none => cases hupdate
  | some wanted =>
      obtain ⟨hchoices, hhave, rfl⟩ := updatePermissions_checked hupdate
      have hresult : ∀ perm, perm ∈ (permissions.filter fun perm =>
            perm ∉ toRemove (directlyAssigned permissions) wanted) ++
          toAdd (directlyAssigned permissions) wanted ↔
          if perm ∈ generallyAssignablePermissions then perm ∈ wanted
          else perm ∈ permissions := by
        intro perm
        have hchoice := hchoices perm
        simp only [List.mem_append, List.mem_filter, mem_toRemove, mem_toAdd, directlyAssigned,
          decide_eq_true_eq]
        split <;> tauto
      refine ⟨wanted, rfl, hresult, fun perm => ?_⟩
      by_cases hassignable : perm ∈ assignable
      · by_cases hgenerally : perm ∈ generallyAssignablePermissions
        · exact .inr ⟨hassignable, hgenerally⟩
        · exact .inl (by rw [hresult, if_neg hgenerally])
      · -- A difference that the requester may not make would have been refused.
        refine .inl ?_
        rw [hresult]
        split
        · next hgenerally =>
            have hdiffers := hhave perm
            simp only [List.mem_append, mem_toRemove, mem_toAdd, directlyAssigned,
              List.mem_filter, decide_eq_true_eq] at hdiffers
            tauto
        · rfl

/-- Of the permissions that the endpoints manage, what is left is what the permission
endpoints of an object leave. -/
theorem directlyAssigned_of_update {assignable permissions result wanted : List String}
    {field : String}
    (hupdate : updatePermissions settings assignable permissions field (some wanted) =
      .ok result) :
    directlyAssigned result = updatedPermissions (directlyAssigned permissions) wanted := by
  obtain ⟨hchoices, -, rfl⟩ := updatePermissions_checked hupdate
  have hadded : (toAdd (directlyAssigned permissions) wanted).filter
      (fun perm => perm ∈ generallyAssignablePermissions) =
        toAdd (directlyAssigned permissions) wanted :=
    List.filter_eq_self.mpr fun perm hperm =>
      decide_eq_true (hchoices perm (mem_toAdd.mp hperm).1)
  rw [updatedPermissions, directlyAssigned, List.filter_append, hadded, List.filter_comm]
  rfl

theorem createUser_changes {data : UserData} {requester : Nat}
    (hcreate : createUser settings tables tenant data = .ok next) :
    Changes settings tables requester tenant next := by
  obtain ⟨username, husername, hcreate⟩ := bind_eq_ok hcreate
  obtain ⟨password, hpassword, hcreate⟩ := bind_eq_ok hcreate
  obtain ⟨groups, hgroups, hcreate⟩ := bind_eq_ok hcreate
  cases hcreate
  obtain ⟨hfull, -⟩ | ⟨given, husername⟩ := checkField_eq_ok husername
  · cases hfull
  obtain ⟨hfull, -⟩ | ⟨given, hgroups⟩ := checkField_eq_ok hgroups
  · cases hfull
  exact .createUser username password _ _ groups (checkUsername_none husername)
    (checkGroups_eq_ok hgroups)

theorem updateUser_changes {pk : Nat} {isPartial : Bool} {data : UserData} {requester : Nat}
    (hupdate : updateUser settings tables tenant pk isPartial data = .ok next) :
    Changes settings tables requester tenant next := by
  obtain ⟨row, hrow, hupdate⟩ := bind_eq_ok hupdate
  obtain ⟨username, husername, hupdate⟩ := bind_eq_ok hupdate
  obtain ⟨password, hpassword, hupdate⟩ := bind_eq_ok hupdate
  obtain ⟨groups, hgroups, hupdate⟩ := bind_eq_ok hupdate
  cases hupdate
  obtain ⟨howns, hlookup⟩ := getObject_eq_ok hrow
  have hsame : username = row.username := by
    obtain ⟨-, hcurrent⟩ | ⟨given, hvalid⟩ := checkField_eq_ok husername
    · exact hcurrent
    · exact checkUsername_some hvalid
  rw [hsame]
  refine .updateUser pk row password _ _ groups howns hlookup fun id hid => ?_
  obtain ⟨-, hcurrent⟩ | ⟨given, hvalid⟩ := checkField_eq_ok hgroups
  · exact .inl (hcurrent ▸ hid)
  · exact .inr (checkGroups_eq_ok hvalid id hid)

theorem createGroup_changes {name : Option String} {requester : Nat}
    (hcreate : createGroup tables tenant name = .ok next) :
    Changes settings tables requester tenant next := by
  obtain ⟨fullName, hname, hcreate⟩ := bind_eq_ok hcreate
  cases hcreate
  obtain ⟨hfull, -⟩ | ⟨given, hvalid⟩ := checkField_eq_ok hname
  · cases hfull
  · exact .createGroup fullName (checkGroupName_none hvalid).2.2

theorem updateGroup_changes {pk : Nat} {isPartial : Bool} {name : Option String} {requester : Nat}
    (hupdate : updateGroup tables tenant pk isPartial name = .ok next) :
    Changes settings tables requester tenant next := by
  obtain ⟨row, hrow, hupdate⟩ := bind_eq_ok hupdate
  obtain ⟨fullName, hname, hupdate⟩ := bind_eq_ok hupdate
  cases hupdate
  have hsame : fullName = row.name := by
    obtain ⟨-, hcurrent⟩ | ⟨given, hvalid⟩ := checkField_eq_ok hname
    · exact hcurrent
    · exact checkGroupName_some hvalid
  rw [hsame]
  exact .updateGroup pk row (getObject_eq_ok hrow).2

/-- What the permission endpoints may change is what the requester has. -/
theorem changesOnly_of_update {requester : Nat} {permissions result : List String}
    {field : String} {new : Option (List String)}
    (hupdate : updatePermissions settings (getAssignablePermissions settings tables requester)
      permissions field new = .ok result) :
    ChangesOnly (getPermissionsOfUser settings tables requester) permissions result := by
  obtain ⟨wanted, -, -, hchanges⟩ := updatePermissions_eq_ok hupdate
  exact fun perm => (hchanges perm).imp_right fun ⟨hassignable, hgenerally⟩ =>
    ⟨(List.mem_filter.mp hassignable).1, hgenerally⟩

/-- Every accepted request does one of eight things. -/
theorem changes_of_handle {request : AccountRequest}
    (hhandle : handle settings tables request = .ok next) :
    ∃ requester tenant, request.user = some requester ∧
      currentTenant tables (some requester) = some tenant ∧
      hasPerm settings tables requester request.action.requiredPermission ∧
      Changes settings tables requester tenant next := by
  obtain ⟨user, action⟩ := request
  unfold handle at hhandle
  dsimp only at hhandle
  split at hhandle
  · next requester tenant htenant =>
      split at hhandle
      · next hperm =>
          refine ⟨requester, tenant, rfl, htenant, hperm, ?_⟩
          cases action with
          | createUser data => exact createUser_changes hhandle
          | updateUser pk isPartial data => exact updateUser_changes hhandle
          | destroyUser pk =>
              obtain ⟨row, hrow, hdestroy⟩ := bind_eq_ok hhandle
              cases hdestroy
              exact .destroyUser pk (getObject_eq_ok hrow).1
          | createGroup name => exact createGroup_changes hhandle
          | updateGroup pk isPartial name => exact updateGroup_changes hhandle
          | destroyGroup pk =>
              obtain ⟨row, hrow, hdestroy⟩ := bind_eq_ok hhandle
              cases hdestroy
              exact .destroyGroup pk (getObject_eq_ok hrow).1
          | putUserPermissions pk userPermissions =>
              obtain ⟨row, hrow, hupdate⟩ := bind_eq_ok hhandle
              obtain ⟨permissions, hpermissions, hupdate⟩ := bind_eq_ok hupdate
              cases hupdate
              obtain ⟨hhas, hlookup⟩ := getObject_eq_ok hrow
              exact .putUserPermissions pk row permissions hhas hlookup
                (changesOnly_of_update hpermissions)
          | putGroupPermissions pk groupPermissions =>
              obtain ⟨row, hrow, hupdate⟩ := bind_eq_ok hhandle
              obtain ⟨permissions, hpermissions, hupdate⟩ := bind_eq_ok hupdate
              cases hupdate
              obtain ⟨hhas, hlookup⟩ := getObject_eq_ok hrow
              exact .putGroupPermissions pk row permissions hhas hlookup
                (changesOnly_of_update hpermissions)
      · cases hhandle
  · cases hhandle

end Inversion

section Gains

/-- A user has a permission, or would have it once active. -/
def Assigned (tables : AccountTables) (id : Nat) (perm : String) : Prop :=
  ∃ row, tables.users.lookup id = some row ∧ (row.isSuperuser = true ∨
    perm ∈ row.userPermissions ∨
      ∃ group, (id, group) ∈ tables.userGroups ∧ perm ∈ tables.groupPermissions group)

/-- The ids of the rows are below a bound. -/
def IdsBelow {R : Type} (rows : AList fun _ : Nat => R) (bound : Nat) : Prop :=
  ∀ id row, rows.lookup id = some row → id < bound

/-- The ids in use were given out, and references refer to rows. -/
structure WellFormed (tables : AccountTables) : Prop where
  users : IdsBelow tables.users tables.nextUserId
  groups : IdsBelow tables.groups tables.nextGroupId
  tenantUsers : ∀ id ∈ tables.tenantUsers, id ∈ tables.users
  tenantGroups : ∀ id ∈ tables.tenantGroups, id ∈ tables.groups
  members : ∀ member ∈ tables.userGroups, member.1 ∈ tables.users ∧ member.2 ∈ tables.groups

/-- No user has gained the permission, and the rows that are left have it as they did. -/
structure NothingGained (perm : String) (before after : AccountTables) : Prop where
  nobody : ∀ id, Assigned after id perm → Assigned before id perm
  users : ∀ id row, after.users.lookup id = some row →
    (perm ∈ row.userPermissions ↔ ∃ old, before.users.lookup id = some old ∧
      perm ∈ old.userPermissions)
  groups : ∀ id row, after.groups.lookup id = some row →
    (perm ∈ row.permissions ↔ ∃ old, before.groups.lookup id = some old ∧
      perm ∈ old.permissions)

theorem idsBelow_iff {R : Type} {rows : AList fun _ : Nat => R} {bound : Nat} :
    IdsBelow rows bound ↔ ∀ entry ∈ rows.entries, entry.1 < bound :=
  ⟨fun hids entry hentry => hids entry.1 entry.2 (KeyedTable.mem_entries_iff.mp hentry),
    fun hids id row hrow => hids ⟨id, row⟩ (KeyedTable.mem_entries_iff.mpr hrow)⟩

instance {R : Type} (rows : AList fun _ : Nat => R) (bound : Nat) :
    Decidable (IdsBelow rows bound) :=
  decidable_of_iff _ idsBelow_iff.symm

theorem wellFormed_iff {tables : AccountTables} :
    WellFormed tables ↔ IdsBelow tables.users tables.nextUserId ∧
      IdsBelow tables.groups tables.nextGroupId ∧
      (∀ id ∈ tables.tenantUsers.keys, id ∈ tables.users) ∧
      (∀ id ∈ tables.tenantGroups.keys, id ∈ tables.groups) ∧
      ∀ member ∈ tables.userGroups, member.1 ∈ tables.users ∧ member.2 ∈ tables.groups :=
  ⟨fun ⟨husers, hgroups, htenantUsers, htenantGroups, hmembers⟩ =>
      ⟨husers, hgroups, htenantUsers, htenantGroups, hmembers⟩,
    fun ⟨husers, hgroups, htenantUsers, htenantGroups, hmembers⟩ =>
      ⟨husers, hgroups, htenantUsers, htenantGroups, hmembers⟩⟩

instance (tables : AccountTables) : Decidable (WellFormed tables) :=
  decidable_of_iff _ wellFormed_iff.symm

variable {settings : AccountSettings} {tables next : AccountTables} {tenant : Uuid}
  {requester : Nat} {perm : String}

theorem mem_groupsOf {id group : Nat} :
    group ∈ tables.groupsOf id ↔ (id, group) ∈ tables.userGroups := by
  simp [AccountTables.groupsOf]

theorem assigned_iff {id : Nat} :
    Assigned tables id perm ↔ ∃ row ∈ tables.users.lookup id, row.isSuperuser = true ∨
      perm ∈ row.userPermissions ∨
        ∃ group ∈ tables.groupsOf id, perm ∈ tables.groupPermissions group := by
  simp only [Assigned, mem_groupsOf, Option.mem_def]

theorem assigned_of_mem {id : Nat} (hperm : perm ∈ getPermissionsOfUser settings tables id) :
    Assigned tables id perm := by
  unfold getPermissionsOfUser at hperm
  split at hperm
  · cases hperm
  next row hrow =>
  split at hperm
  · refine ⟨row, hrow, ?_⟩
    split at hperm
    · next hsuperuser => exact .inl hsuperuser
    · rcases List.mem_append.mp hperm with hdirect | hgroup
      · exact .inr (.inl hdirect)
      · obtain ⟨group, hmember, hgroup⟩ := List.mem_flatMap.mp hgroup
        exact .inr (.inr ⟨group, mem_groupsOf.mp hmember, hgroup⟩)
  · cases hperm

theorem hasGroup_eq {id : Nat} (howns : tables.ownsGroup tenant id) :
    ∃ relation, tables.tenantGroups.lookup id = some relation ∧ relation.tenantId = tenant ∧
      relation.system = false := by
  simpa [AccountTables.ownsGroup, Option.any_eq_true] using howns

/-- A member of the rows after a user's groups were set. -/
theorem mem_setGroups {members : List (Nat × Nat)} {pk : Nat} {groups : List Nat}
    {member : Nat × Nat} :
    member ∈ members.filter (fun member => member.1 ≠ pk) ++ groups.map (pk, ·) ↔
      if member.1 = pk then member.2 ∈ groups else member ∈ members := by
  obtain ⟨id, group⟩ := member
  simp only [List.mem_append, List.mem_filter, List.mem_map, Prod.mk.injEq, decide_eq_true_eq,
    ne_eq]
  by_cases hid : id = pk
  · rw [if_pos hid]
    constructor
    · rintro (⟨-, hne⟩ | ⟨other, hother, -, rfl⟩)
      · exact absurd hid hne
      · exact hother
    · exact fun hgroup => .inr ⟨group, hgroup, hid.symm, rfl⟩
  · rw [if_neg hid]
    constructor
    · rintro (⟨hmember, -⟩ | ⟨-, -, hsame, -⟩)
      · exact hmember
      · exact absurd hsame.symm hid
    · exact fun hmember => .inl ⟨hmember, hid⟩

theorem lookup_insert_cases {R : Type} {rows : AList fun _ : Nat => R} {pk id : Nat}
    {row found : R} (hlookup : (rows.insert pk row).lookup id = some found) :
    (id = pk ∧ found = row) ∨ (id ≠ pk ∧ rows.lookup id = some found) := by
  by_cases hid : id = pk
  · rw [hid, AList.lookup_insert, Option.some.injEq] at hlookup
    exact .inl ⟨hid, hlookup.symm⟩
  · rw [AList.lookup_insert_ne hid] at hlookup
    exact .inr ⟨hid, hlookup⟩

theorem lookup_erase_cases {R : Type} {rows : AList fun _ : Nat => R} {pk id : Nat} {found : R}
    (hlookup : (rows.erase pk).lookup id = some found) : id ≠ pk ∧ rows.lookup id = some found := by
  by_cases hid : id = pk
  · rw [hid, AList.lookup_erase] at hlookup
    cases hlookup
  · rw [AList.lookup_erase_ne hid] at hlookup
    exact ⟨hid, hlookup⟩

theorem mem_of_lookup {R : Type} {rows : AList fun _ : Nat => R} {id : Nat} {row : R}
    (hrow : rows.lookup id = some row) : id ∈ rows :=
  AList.lookup_isSome.mp (by rw [hrow]; rfl)

theorem mem_of_ownsGroup (hold : WellFormed tables) {id : Nat}
    (howns : tables.ownsGroup tenant id) : id ∈ tables.groups := by
  obtain ⟨relation, hrelation, -⟩ := hasGroup_eq howns
  exact hold.tenantGroups id (mem_of_lookup hrelation)

theorem IdsBelow.set {R : Type} {rows : AList fun _ : Nat => R} {bound pk : Nat} {old : R}
    (hrows : IdsBelow rows bound) (hold : rows.lookup pk = some old) (row : R) :
    IdsBelow (rows.insert pk row) bound := by
  intro id found hfound
  obtain ⟨rfl, -⟩ | ⟨-, hfound⟩ := lookup_insert_cases hfound
  · exact hrows id old hold
  · exact hrows id found hfound

theorem IdsBelow.create {R : Type} {rows : AList fun _ : Nat => R} {bound : Nat}
    (hrows : IdsBelow rows bound) (row : R) : IdsBelow (rows.insert bound row) (bound + 1) := by
  intro id found hfound
  obtain ⟨rfl, -⟩ | ⟨-, hfound⟩ := lookup_insert_cases hfound
  · exact Nat.lt_succ_self _
  · exact Nat.lt_succ_of_lt (hrows id found hfound)

theorem IdsBelow.erase {R : Type} {rows : AList fun _ : Nat => R} {bound : Nat}
    (hrows : IdsBelow rows bound) (pk : Nat) : IdsBelow (rows.erase pk) bound :=
  fun id row hrow => hrows id row (lookup_erase_cases hrow).2

/-- Ids are given out once, and references go with what they refer to. -/
theorem wellFormed_changes (hold : WellFormed tables)
    (hchanges : Changes settings tables requester tenant next) : WellFormed next := by
  obtain ⟨husers, hgroups, htenantUsers, htenantGroups, hmembers⟩ := id hold
  cases hchanges with
  | createUser username password email isActive groups hname hown =>
      refine ⟨husers.create _, hgroups, fun id hid => ?_, htenantGroups, fun member hmember => ?_⟩
      · exact (AList.mem_insert _).mpr (((AList.mem_insert _).mp hid).imp_right (htenantUsers id))
      · rcases List.mem_append.mp hmember with hmember | hmember
        · exact ⟨(AList.mem_insert _).mpr (.inr (hmembers member hmember).1),
            (hmembers member hmember).2⟩
        · obtain ⟨group, hgroup, rfl⟩ := List.mem_map.mp hmember
          exact ⟨(AList.mem_insert _).mpr (.inl rfl), mem_of_ownsGroup hold (hown group hgroup)⟩
  | updateUser pk row password email isActive groups howns hrow hown =>
      refine ⟨husers.set hrow _, hgroups, fun id hid => (AList.mem_insert _).mpr
        (.inr (htenantUsers id hid)), htenantGroups, fun member hmember => ?_⟩
      rw [mem_setGroups] at hmember
      split at hmember
      · next hid =>
          refine ⟨(AList.mem_insert _).mpr (.inl hid), ?_⟩
          rcases hown member.2 hmember with hkept | hown
          · exact (hmembers _ (mem_groupsOf.mp hkept)).2
          · exact mem_of_ownsGroup hold hown
      · exact ⟨(AList.mem_insert _).mpr (.inr (hmembers member hmember).1),
          (hmembers member hmember).2⟩
  | destroyUser pk howns =>
      refine ⟨husers.erase pk, hgroups, fun id hid => ?_, htenantGroups, fun member hmember => ?_⟩
      · obtain ⟨hne, hid⟩ := AList.mem_erase.mp hid
        exact AList.mem_erase.mpr ⟨hne, htenantUsers id hid⟩
      · obtain ⟨hmember, hne⟩ := List.mem_filter.mp hmember
        exact ⟨AList.mem_erase.mpr ⟨of_decide_eq_true hne, (hmembers member hmember).1⟩,
          (hmembers member hmember).2⟩
  | createGroup name hname =>
      refine ⟨husers, hgroups.create _, htenantUsers, fun id hid => ?_, fun member hmember => ?_⟩
      · exact (AList.mem_insert _).mpr (((AList.mem_insert _).mp hid).imp_right (htenantGroups id))
      · exact ⟨(hmembers member hmember).1,
          (AList.mem_insert _).mpr (.inr (hmembers member hmember).2)⟩
  | updateGroup pk row hrow =>
      exact ⟨husers, hgroups.set hrow _, htenantUsers, fun id hid => (AList.mem_insert _).mpr
        (.inr (htenantGroups id hid)), fun member hmember => ⟨(hmembers member hmember).1,
          (AList.mem_insert _).mpr (.inr (hmembers member hmember).2)⟩⟩
  | destroyGroup pk howns =>
      refine ⟨husers, hgroups.erase pk, htenantUsers, fun id hid => ?_, fun member hmember => ?_⟩
      · obtain ⟨hne, hid⟩ := AList.mem_erase.mp hid
        exact AList.mem_erase.mpr ⟨hne, htenantGroups id hid⟩
      · obtain ⟨hmember, hne⟩ := List.mem_filter.mp hmember
        exact ⟨(hmembers member hmember).1,
          AList.mem_erase.mpr ⟨of_decide_eq_true hne, (hmembers member hmember).2⟩⟩
  | putUserPermissions pk row permissions hhas hrow hpermissions =>
      exact ⟨husers.set hrow _, hgroups, fun id hid => (AList.mem_insert _).mpr
        (.inr (htenantUsers id hid)), htenantGroups, fun member hmember =>
          ⟨(AList.mem_insert _).mpr (.inr (hmembers member hmember).1),
            (hmembers member hmember).2⟩⟩
  | putGroupPermissions pk row permissions hhas hrow hpermissions =>
      exact ⟨husers, hgroups.set hrow _, htenantUsers, fun id hid => (AList.mem_insert _).mpr
        (.inr (htenantGroups id hid)), fun member hmember => ⟨(hmembers member hmember).1,
          (AList.mem_insert _).mpr (.inr (hmembers member hmember).2)⟩⟩

/-- A row has the marks of what stood under its id before, if anything did. -/
structure SameMarks (perm : String) (old : Option UserRow) (row : UserRow) : Prop where
  superuser : row.isSuperuser = old.any UserRow.isSuperuser
  direct : perm ∈ row.userPermissions ↔ perm ∈ old.elim [] UserRow.userPermissions

/-- The permission is where it was, as far as there are still rows. -/
structure Ungained (perm : String) (init tables : AccountTables) : Prop where
  wellFormed : WellFormed tables
  nextUser : init.nextUserId ≤ tables.nextUserId
  nextGroup : init.nextGroupId ≤ tables.nextGroupId
  users : ∀ id row, tables.users.lookup id = some row → SameMarks perm (init.users.lookup id) row
  groups : ∀ id row, tables.groups.lookup id = some row →
    (perm ∈ row.permissions ↔ perm ∈ init.groupPermissions id)
  members : ∀ member ∈ tables.userGroups, perm ∈ init.groupPermissions member.2 →
    member ∈ init.userGroups
  closed : ∀ id relation, tables.tenantGroups.lookup id = some relation →
    relation.system = false → perm ∉ init.groupPermissions id

theorem mem_groupPermissions {id : Nat} :
    perm ∈ tables.groupPermissions id ↔
      ∃ row, tables.groups.lookup id = some row ∧ perm ∈ row.permissions := by
  cases hrow : tables.groups.lookup id <;> simp [AccountTables.groupPermissions, hrow]

variable {init : AccountTables}

theorem Ungained.not_mem_new (hungained : Ungained perm init tables) (hinit : WellFormed init) :
    init.users.lookup tables.nextUserId = none ∧
      perm ∉ init.groupPermissions tables.nextGroupId := by
  constructor
  · refine Option.eq_none_iff_forall_ne_some.mpr fun row hrow => ?_
    exact absurd (hinit.users _ row hrow) (Nat.not_lt.mpr hungained.nextUser)
  · intro hmem
    obtain ⟨row, hrow, -⟩ := mem_groupPermissions.mp hmem
    exact absurd (hinit.groups _ row hrow) (Nat.not_lt.mpr hungained.nextGroup)

theorem Ungained.assigned (hungained : Ungained perm init tables) (hinit : WellFormed init)
    {id : Nat} (hassigned : Assigned tables id perm) : Assigned init id perm := by
  obtain ⟨row, hrow, hcases⟩ := hassigned
  obtain ⟨hsuperuser, hdirect⟩ := hungained.users id row hrow
  have hmember : ∀ group, (id, group) ∈ tables.userGroups → perm ∈ tables.groupPermissions group →
      (id, group) ∈ init.userGroups ∧ perm ∈ init.groupPermissions group := by
    intro group hmember hgroup
    obtain ⟨groupRow, hgroupRow, hperm⟩ := mem_groupPermissions.mp hgroup
    have hbefore := (hungained.groups group groupRow hgroupRow).mp hperm
    exact ⟨hungained.members _ hmember hbefore, hbefore⟩
  cases hold : init.users.lookup id with
  | none =>
      -- A user that was not there has nothing that was there.
      rw [hold] at hsuperuser hdirect
      rcases hcases with hsuper | hperm | ⟨group, hin, hgroup⟩
      · rw [hsuperuser] at hsuper
        cases hsuper
      · exact absurd (hdirect.mp hperm) List.not_mem_nil
      · have huser := (hinit.members _ (hmember group hin hgroup).1).1
        rw [← AList.lookup_isSome, hold] at huser
        cases huser
  | some old =>
      rw [hold] at hsuperuser hdirect
      refine ⟨old, hold, ?_⟩
      rcases hcases with hsuper | hperm | ⟨group, hin, hgroup⟩
      · exact .inl (hsuperuser.symm.trans hsuper)
      · exact .inr (.inl (hdirect.mp hperm))
      · exact .inr (.inr ⟨group, hmember group hin hgroup⟩)

/-- An update of a user leaves the marks, except for what the requester has. -/
theorem Ungained.setUser (hungained : Ungained perm init tables) {pk : Nat} {row after : UserRow}
    (hrow : tables.users.lookup pk = some row) (hsuperuser : after.isSuperuser = row.isSuperuser)
    (hdirect : perm ∈ after.userPermissions ↔ perm ∈ row.userPermissions) (id : Nat)
    (found : UserRow) (hfound : (tables.users.insert pk after).lookup id = some found) :
    SameMarks perm (init.users.lookup id) found := by
  obtain ⟨rfl, rfl⟩ | ⟨-, hfound⟩ := lookup_insert_cases hfound
  · obtain ⟨hold, hperm⟩ := hungained.users id row hrow
    exact ⟨hsuperuser.trans hold, hdirect.trans hperm⟩
  · exact hungained.users id found hfound

theorem Ungained.setGroup (hungained : Ungained perm init tables) {pk : Nat}
    {row after : GroupRow} (hrow : tables.groups.lookup pk = some row)
    (hdirect : perm ∈ after.permissions ↔ perm ∈ row.permissions) (id : Nat)
    (found : GroupRow) (hfound : (tables.groups.insert pk after).lookup id = some found) :
    perm ∈ found.permissions ↔ perm ∈ init.groupPermissions id := by
  obtain ⟨rfl, rfl⟩ | ⟨-, hfound⟩ := lookup_insert_cases hfound
  · exact hdirect.trans (hungained.groups id row hrow)
  · exact hungained.groups id found hfound

theorem Ungained.not_mem_own (hungained : Ungained perm init tables) {id : Nat}
    (howns : tables.ownsGroup tenant id) : perm ∉ init.groupPermissions id := by
  obtain ⟨relation, hrelation, -, hsystem⟩ := hasGroup_eq howns
  exact hungained.closed id relation hrelation hsystem

theorem Ungained.changes (hungained : Ungained perm init tables) (hinit : WellFormed init)
    (hrequester : ¬ Assigned init requester perm)
    (hchanges : Changes settings tables requester tenant next) : Ungained perm init next := by
  have hwellFormed := wellFormed_changes hungained.wellFormed hchanges
  obtain ⟨hnewUser, hnewGroup⟩ := hungained.not_mem_new hinit
  have hlacks : perm ∉ getPermissionsOfUser settings tables requester :=
    fun hperm => hrequester (hungained.assigned hinit (assigned_of_mem hperm))
  obtain ⟨-, hnextUser, hnextGroup, husers, hgroups, hmembers, hclosed⟩ := id hungained
  cases hchanges with
  | createUser username password email isActive groups hname hown =>
      refine ⟨hwellFormed, Nat.le_succ_of_le hnextUser, hnextGroup, fun id row hrow => ?_, hgroups,
        fun member hmember hperm => ?_, hclosed⟩
      · obtain ⟨rfl, rfl⟩ | ⟨-, hrow⟩ := lookup_insert_cases hrow
        · rw [hnewUser]
          exact ⟨rfl, Iff.rfl⟩
        · exact husers id row hrow
      · rcases List.mem_append.mp hmember with hmember | hmember
        · exact hmembers member hmember hperm
        · obtain ⟨group, hgroup, rfl⟩ := List.mem_map.mp hmember
          exact absurd hperm (hungained.not_mem_own (hown group hgroup))
  | updateUser pk row password email isActive groups howns hrow hown =>
      refine ⟨hwellFormed, hnextUser, hnextGroup, hungained.setUser hrow rfl Iff.rfl, hgroups,
        fun member hmember hperm => ?_, hclosed⟩
      rw [mem_setGroups] at hmember
      split at hmember
      · next hid =>
          rcases hown member.2 hmember with hkept | hown
          · rw [mem_groupsOf, ← hid] at hkept
            exact hmembers member hkept hperm
          · exact absurd hperm (hungained.not_mem_own hown)
      · exact hmembers member hmember hperm
  | destroyUser pk howns =>
      exact ⟨hwellFormed, hnextUser, hnextGroup,
        fun id row hrow => husers id row (lookup_erase_cases hrow).2, hgroups,
        fun member hmember => hmembers member (List.mem_filter.mp hmember).1, hclosed⟩
  | createGroup name hname =>
      refine ⟨hwellFormed, hnextUser, Nat.le_succ_of_le hnextGroup, husers, fun id row hrow => ?_,
        hmembers, fun id relation hrelation hsystem => ?_⟩
      · obtain ⟨rfl, rfl⟩ | ⟨-, hrow⟩ := lookup_insert_cases hrow
        · exact ⟨fun hperm => absurd hperm List.not_mem_nil, fun hperm => absurd hperm hnewGroup⟩
        · exact hgroups id row hrow
      · obtain ⟨rfl, -⟩ | ⟨-, hrelation⟩ := lookup_insert_cases hrelation
        · exact hnewGroup
        · exact hclosed id relation hrelation hsystem
  | updateGroup pk row hrow =>
      exact ⟨hwellFormed, hnextUser, hnextGroup, husers, hungained.setGroup hrow Iff.rfl, hmembers,
        hclosed⟩
  | destroyGroup pk howns =>
      exact ⟨hwellFormed, hnextUser, hnextGroup, husers,
        fun id row hrow => hgroups id row (lookup_erase_cases hrow).2,
        fun member hmember => hmembers member (List.mem_filter.mp hmember).1,
        fun id relation hrelation => hclosed id relation (lookup_erase_cases hrelation).2⟩
  | putUserPermissions pk row permissions hhas hrow hpermissions =>
      have hdirect := (hpermissions perm).resolve_right fun hhas => hlacks hhas.1
      exact ⟨hwellFormed, hnextUser, hnextGroup, hungained.setUser hrow rfl hdirect, hgroups,
        hmembers, hclosed⟩
  | putGroupPermissions pk row permissions hhas hrow hpermissions =>
      have hdirect := (hpermissions perm).resolve_right fun hhas => hlacks hhas.1
      exact ⟨hwellFormed, hnextUser, hnextGroup, husers, hungained.setGroup hrow hdirect, hmembers,
        hclosed⟩

theorem accountStep_cases (settings : AccountSettings) (tables : AccountTables)
    (request : AccountRequest) :
    accountStep settings tables request = tables ∨
      ∃ requester tenant, request.user = some requester ∧
        currentTenant tables (some requester) = some tenant ∧
        Changes settings tables requester tenant (accountStep settings tables request) := by
  rw [accountStep]
  split
  · next next hhandle =>
      obtain ⟨requester, tenant, huser, htenant, -, hchanges⟩ := changes_of_handle hhandle
      exact .inr ⟨requester, tenant, huser, htenant, hchanges⟩
  · exact .inl rfl

/-- Nobody gains a permission that none of the requesters has and that no group has which
they could put somebody in. -/
theorem permission_not_gained (settings : AccountSettings) (tables : AccountTables)
    (hwellFormed : WellFormed tables) (perm : String) (requests : List AccountRequest)
    (hrequesters : ∀ request ∈ requests, ∀ id, request.user = some id →
      ¬ Assigned tables id perm)
    (hgroups : ∀ id relation, tables.tenantGroups.lookup id = some relation →
      relation.system = false → perm ∉ tables.groupPermissions id) :
    NothingGained perm tables (run (accountStep settings) tables requests) := by
  have hinit : Ungained perm tables tables :=
    { wellFormed := hwellFormed
      nextUser := le_rfl
      nextGroup := le_rfl
      users := fun id row hrow => by
        rw [hrow]
        exact ⟨rfl, Iff.rfl⟩
      groups := fun id row hrow => by
        rw [mem_groupPermissions, hrow]
        simp
      members := fun member hmember _ => hmember
      closed := hgroups }
  have hungained := run_invariant (Ungained perm tables) (fun state request hungained hlacks => by
      rcases accountStep_cases settings state request with heq | ⟨requester, tenant, huser, -,
        hchanges⟩
      · rw [heq]
        exact hungained
      · exact hungained.changes hwellFormed (hlacks requester huser) hchanges)
    hinit (allSteps_of_forall (accountStep settings) tables hrequesters)
  exact
    { nobody := fun id => hungained.assigned hwellFormed
      users := fun id row hrow => by
        rw [(hungained.users id row hrow).direct]
        cases tables.users.lookup id <;> simp
      groups := fun id row hrow => by
        rw [hungained.groups id row hrow, mem_groupPermissions] }

end Gains

namespace AccountWitness

def settings : AccountSettings where
  validatePassword password := 8 ≤ password.length
  setPassword password := "hashed " ++ password
  permissions := ["auth.add_user", "auth.change_user", "auth.delete_user", "auth.add_group",
    "auth.change_group", "auth.delete_group", "dataseries.ds_get_data_point", "flow.use"]

def manager : UserRow where
  username := "acme@@manager"
  password := "hashed manager"
  email := ""
  isActive := true
  isSuperuser := false
  isStaff := false
  userPermissions := ["auth.add_user", "auth.change_user", "auth.delete_user", "auth.add_group",
    "auth.change_group", "auth.delete_group"]

def clerk (username : String) (userPermissions : List String) : UserRow :=
  ⟨username, "hashed clerk", "", true, false, false, userPermissions⟩

/-- Two tenants, a group of the first, and a clerk of each of them. -/
def tables : AccountTables where
  tenants := [⟨"acme-id", ⟨"acme", false⟩⟩, ⟨"globex-id", ⟨"globex", false⟩⟩].toAList
  users := [⟨0, manager⟩, ⟨1, clerk "acme@@clerk" []⟩,
    ⟨2, clerk "globex@@clerk" ["flow.use"]⟩].toAList
  groups := [⟨0, ⟨"acme@@readers", ["dataseries.ds_get_data_point"]⟩⟩].toAList
  tenantUsers := [⟨0, ⟨"acme-id", false⟩⟩, ⟨1, ⟨"acme-id", false⟩⟩,
    ⟨2, ⟨"globex-id", false⟩⟩].toAList
  tenantGroups := [⟨0, ⟨"acme-id", false⟩⟩].toAList
  userGroups := [(1, 0)]
  nextUserId := 3
  nextGroupId := 1

/-- The manager reads along, and tries to hand out what a clerk elsewhere has. -/
def requests : List AccountRequest :=
  [⟨some 0, .updateUser 0 true ⟨none, none, none, some [0], none⟩⟩,
    ⟨some 0, .putUserPermissions 1 (some ["flow.use"])⟩]

theorem not_assigned_manager : ¬ Assigned tables 0 "flow.use" := by
  rw [assigned_iff]
  decide +kernel

theorem flowUse_not_gained :
    NothingGained "flow.use" tables (run (accountStep settings) tables requests) := by
  refine permission_not_gained settings tables (by decide) "flow.use" requests ?_ ?_
  · intro request hrequest id hid
    have hmanager : ∀ request ∈ requests, request.user = some 0 := by decide
    cases hid.symm.trans (hmanager request hrequest)
    exact not_assigned_manager
  · intro id relation hrelation _
    have hreaders : ∀ id ∈ tables.tenantGroups.keys,
        "flow.use" ∉ tables.groupPermissions id := by decide +kernel
    exact hreaders id (mem_of_lookup hrelation)

end AccountWitness

end Accounts

end NFCompose
