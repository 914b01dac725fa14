/-
The accounts that the users of one tenant cannot touch, whatever they request, and the
names by which they find what they created.
-/
import Mathlib.Data.List.Sort
import NFCompose.AccountRuns

namespace NFCompose

namespace Accounts

open Runs
open PartialRuns (bind_eq_ok)

section Isolation

def UserRow.withoutPermissions (row : UserRow) : UserRow := { row with userPermissions := [] }

def GroupRow.withoutPermissions (row : GroupRow) : GroupRow := { row with permissions := [] }

/-- What is not the tenant's own is left as it was.  Of its system accounts, superusers
and staff, only the permissions may change.  A membership ends only with a user or a group
that is the tenant's own, and starts only between two of them. -/
structure LeavesAlone (tenant : Uuid) (before after : AccountTables) : Prop where
  tenants : after.tenants = before.tenants
  users : ∀ id ∈ before.users, before.hasUser tenant id = false →
    after.users.lookup id = before.users.lookup id
  otherUsers : ∀ id ∈ before.users, before.ownsUser tenant id = false →
    (after.users.lookup id).map UserRow.withoutPermissions =
        (before.users.lookup id).map UserRow.withoutPermissions ∧
      after.tenantUsers.lookup id = before.tenantUsers.lookup id
  groups : ∀ id ∈ before.groups, before.hasGroup tenant id = false →
    after.groups.lookup id = before.groups.lookup id
  otherGroups : ∀ id ∈ before.groups, before.ownsGroup tenant id = false →
    (after.groups.lookup id).map GroupRow.withoutPermissions =
        (before.groups.lookup id).map GroupRow.withoutPermissions ∧
      after.tenantGroups.lookup id = before.tenantGroups.lookup id
  members : ∀ user ∈ before.users, ∀ group ∈ before.groups,
    before.ownsUser tenant user = false → before.ownsGroup tenant group = false →
    ((user, group) ∈ after.userGroups ↔ (user, group) ∈ before.userGroups)
  joins : ∀ user group, (user, group) ∈ after.userGroups →
    (user ∈ before.users ∧ before.ownsUser tenant user = false) ∨
      (group ∈ before.groups ∧ before.ownsGroup tenant group = false) →
    (user, group) ∈ before.userGroups

/-- It is left alone, and the ids that are still to come are above all of it. -/
structure Isolated (tenant : Uuid) (init tables : AccountTables) : Prop
    extends LeavesAlone tenant init tables where
  userIds : ∀ id ∈ init.users, id < tables.nextUserId
  groupIds : ∀ id ∈ init.groups, id < tables.nextGroupId

variable {settings : AccountSettings} {init tables next : AccountTables} {tenant : Uuid}
  {requester : Nat}

theorem hasUser_of_ownsUser {id : Nat} (hhas : tables.hasUser tenant id = false) :
    tables.ownsUser tenant id = false := by
  unfold AccountTables.hasUser at hhas
  unfold AccountTables.ownsUser
  cases hrelation : tables.tenantUsers.lookup id with
  | none => simp
  | some relation =>
      rw [hrelation] at hhas
      simp_all

theorem hasGroup_of_ownsGroup {id : Nat} (hhas : tables.hasGroup tenant id = false) :
    tables.ownsGroup tenant id = false := by
  unfold AccountTables.hasGroup at hhas
  unfold AccountTables.ownsGroup
  cases hrelation : tables.tenantGroups.lookup id with
  | none => simp
  | some relation =>
      rw [hrelation] at hhas
      simp_all

/-- Who is out of reach stays out of reach. -/
theorem LeavesAlone.ownsUser (halone : LeavesAlone tenant init tables) {id : Nat}
    (hid : id ∈ init.users) (howns : init.ownsUser tenant id = false) :
    tables.ownsUser tenant id = false := by
  obtain ⟨hrow, hrelation⟩ := halone.otherUsers id hid howns
  have hflags : ∀ row : Option UserRow,
      (row.any fun row => !row.isSuperuser && !row.isStaff) =
        ((row.map UserRow.withoutPermissions).any fun row => !row.isSuperuser && !row.isStaff) := by
    rintro (_ | row) <;> rfl
  unfold AccountTables.ownsUser at howns ⊢
  rw [hrelation, hflags, hrow, ← hflags]
  exact howns

theorem LeavesAlone.hasUser (halone : LeavesAlone tenant init tables) {id : Nat}
    (hid : id ∈ init.users) (hhas : init.hasUser tenant id = false) :
    tables.hasUser tenant id = false := by
  unfold AccountTables.hasUser
  rw [(halone.otherUsers id hid (hasUser_of_ownsUser hhas)).2]
  exact hhas

theorem LeavesAlone.ownsGroup (halone : LeavesAlone tenant init tables) {id : Nat}
    (hid : id ∈ init.groups) (howns : init.ownsGroup tenant id = false) :
    tables.ownsGroup tenant id = false := by
  unfold AccountTables.ownsGroup
  rw [(halone.otherGroups id hid howns).2]
  exact howns

theorem LeavesAlone.hasGroup (halone : LeavesAlone tenant init tables) {id : Nat}
    (hid : id ∈ init.groups) (hhas : init.hasGroup tenant id = false) :
    tables.hasGroup tenant id = false := by
  unfold AccountTables.hasGroup
  rw [(halone.otherGroups id hid (hasGroup_of_ownsGroup hhas)).2]
  exact hhas

theorem ne_of_reach {reach : Nat → Bool} {id pk : Nat} (hid : reach id = false)
    (hpk : reach pk = true) : id ≠ pk := by
  rintro rfl
  rw [hid] at hpk
  cases hpk

theorem isolated_self (hwellFormed : WellFormed tables) : Isolated tenant tables tables where
  tenants := rfl
  users _ _ _ := rfl
  otherUsers _ _ _ := ⟨rfl, rfl⟩
  groups _ _ _ := rfl
  otherGroups _ _ _ := ⟨rfl, rfl⟩
  members _ _ _ _ _ _ := Iff.rfl
  joins _ _ hmember _ := hmember
  userIds id hid := by
    obtain ⟨row, hrow⟩ := Option.isSome_iff_exists.mp (AList.lookup_isSome.mpr hid)
    exact hwellFormed.users id row hrow
  groupIds id hid := by
    obtain ⟨row, hrow⟩ := Option.isSome_iff_exists.mp (AList.lookup_isSome.mpr hid)
    exact hwellFormed.groups id row hrow

/-- Only the rows and the memberships of one user change, who is none of those to be left
alone. -/
theorem Isolated.changeUser (hisolated : Isolated tenant init tables) {pk : Nat}
    (hne : ∀ id ∈ init.users, init.ownsUser tenant id = false → id ≠ pk)
    {users : AList fun _ : Nat => UserRow} {tenantUsers : AList fun _ : Nat => TenantRelation}
    {userGroups : List (Nat × Nat)} {nextUserId : Nat}
    (husers : ∀ id, id ≠ pk → users.lookup id = tables.users.lookup id)
    (hrelations : ∀ id, id ≠ pk → tenantUsers.lookup id = tables.tenantUsers.lookup id)
    (hmembers : ∀ user group, user ≠ pk →
      ((user, group) ∈ userGroups ↔ (user, group) ∈ tables.userGroups))
    (hjoins : ∀ group, (pk, group) ∈ userGroups →
      (pk, group) ∈ tables.userGroups ∨ tables.ownsGroup tenant group)
    (hnext : tables.nextUserId ≤ nextUserId) :
    Isolated tenant init { tables with
      users := users
      tenantUsers := tenantUsers
      userGroups := userGroups
      nextUserId := nextUserId } := by
  have halone := hisolated.toLeavesAlone
  refine { hisolated with
    users := fun id hid hhas => ?_
    otherUsers := fun id hid howns => ?_
    members := fun user huser group hgroup howns hother => ?_
    joins := fun user group hmember hout => ?_
    userIds := fun id hid => (hisolated.userIds id hid).trans_le hnext }
  · rw [husers id (hne id hid (hasUser_of_ownsUser hhas)), halone.users id hid hhas]
  · rw [husers id (hne id hid howns), hrelations id (hne id hid howns)]
    exact halone.otherUsers id hid howns
  · rw [hmembers user group (hne user huser howns)]
    exact halone.members user huser group hgroup howns hother
  · by_cases hsame : user = pk
    · subst hsame
      rcases hjoins group hmember with hold | hown
      · exact halone.joins user group hold hout
      · rcases hout with ⟨huser, hnot⟩ | ⟨hgroup, hnot⟩
        · exact absurd rfl (hne user huser hnot)
        · exact absurd rfl (ne_of_reach (halone.ownsGroup hgroup hnot) hown)
    · exact halone.joins user group ((hmembers user group hsame).mp hmember) hout

/-- Only the rows of one group change, and it can lose members. -/
theorem Isolated.changeGroup (hisolated : Isolated tenant init tables) {pk : Nat}
    (hne : ∀ id ∈ init.groups, init.ownsGroup tenant id = false → id ≠ pk)
    {groups : AList fun _ : Nat => GroupRow} {tenantGroups : AList fun _ : Nat => TenantRelation}
    {userGroups : List (Nat × Nat)} {nextGroupId : Nat}
    (hgroups : ∀ id, id ≠ pk → groups.lookup id = tables.groups.lookup id)
    (hrelations : ∀ id, id ≠ pk → tenantGroups.lookup id = tables.tenantGroups.lookup id)
    (hmembers : ∀ user group, group ≠ pk →
      ((user, group) ∈ userGroups ↔ (user, group) ∈ tables.userGroups))
    (hjoins : ∀ member ∈ userGroups, member ∈ tables.userGroups)
    (hnext : tables.nextGroupId ≤ nextGroupId) :
    Isolated tenant init { tables with
      groups := groups
      tenantGroups := tenantGroups
      userGroups := userGroups
      nextGroupId := nextGroupId } := by
  have halone := hisolated.toLeavesAlone
  refine { hisolated with
    groups := fun id hid hhas => ?_
    otherGroups := fun id hid howns => ?_
    members := fun user huser group hgroup howns hother => ?_
    joins := fun user group hmember hout => halone.joins user group (hjoins _ hmember) hout
    groupIds := fun id hid => (hisolated.groupIds id hid).trans_le hnext }
  · rw [hgroups id (hne id hid (hasGroup_of_ownsGroup hhas)), halone.groups id hid hhas]
  · rw [hgroups id (hne id hid howns), hrelations id (hne id hid howns)]
    exact halone.otherGroups id hid howns
  · rw [hmembers user group (hne group hgroup hother)]
    exact halone.members user huser group hgroup howns hother

/-- A user in reach gets other permissions. -/
theorem Isolated.setUserPermissions (hisolated : Isolated tenant init tables) {pk : Nat}
    {row : UserRow} {permissions : List String} (hhas : tables.hasUser tenant pk)
    (hrow : tables.users.lookup pk = some row) :
    Isolated tenant init { tables with
      users := tables.users.insert pk { row with userPermissions := permissions } } := by
  have halone := hisolated.toLeavesAlone
  refine { hisolated with
    users := fun id hid hnot => ?_
    otherUsers := fun id hid howns => ⟨?_, (halone.otherUsers id hid howns).2⟩ }
  · rw [AList.lookup_insert_ne (ne_of_reach (halone.hasUser hid hnot) hhas),
      halone.users id hid hnot]
  · rw [← (halone.otherUsers id hid howns).1]
    by_cases hsame : id = pk
    · rw [hsame, AList.lookup_insert, hrow]
      rfl
    · rw [AList.lookup_insert_ne hsame]

/-- A group in reach gets other permissions. -/
theorem Isolated.setGroupPermissions (hisolated : Isolated tenant init tables) {pk : Nat}
    {row : GroupRow} {permissions : List String} (hhas : tables.hasGroup tenant pk)
    (hrow : tables.groups.lookup pk = some row) :
    Isolated tenant init { tables with
      groups := tables.groups.insert pk { row with permissions := permissions } } := by
  have halone := hisolated.toLeavesAlone
  refine { hisolated with
    groups := fun id hid hnot => ?_
    otherGroups := fun id hid howns => ⟨?_, (halone.otherGroups id hid howns).2⟩ }
  · rw [AList.lookup_insert_ne (ne_of_reach (halone.hasGroup hid hnot) hhas),
      halone.groups id hid hnot]
  · rw [← (halone.otherGroups id hid howns).1]
    by_cases hsame : id = pk
    · rw [hsame, AList.lookup_insert, hrow]
      rfl
    · rw [AList.lookup_insert_ne hsame]

theorem Isolated.changes (hisolated : Isolated tenant init tables)
    (hchanges : Changes settings tables requester tenant next) : Isolated tenant init next := by
  have halone := hisolated.toLeavesAlone
  have hneUser : ∀ pk, tables.ownsUser tenant pk → ∀ id ∈ init.users,
      init.ownsUser tenant id = false → id ≠ pk :=
    fun _ hpk _ hid howns => ne_of_reach (halone.ownsUser hid howns) hpk
  have hneGroup : ∀ pk, tables.ownsGroup tenant pk → ∀ id ∈ init.groups,
      init.ownsGroup tenant id = false → id ≠ pk :=
    fun _ hpk _ hid howns => ne_of_reach (halone.ownsGroup hid howns) hpk
  cases hchanges with
  | createUser username password email isActive groups hname hown =>
      refine hisolated.changeUser (fun id hid _ => (hisolated.userIds id hid).ne)
        (fun _ => AList.lookup_insert_ne) (fun _ => AList.lookup_insert_ne)
        (fun user group hne => ?_) (fun group hmember => ?_) (Nat.le_succ _)
      · rw [List.mem_append]
        refine or_iff_left fun hmember => ?_
        obtain ⟨other, -, heq⟩ := List.mem_map.mp hmember
        exact hne (congrArg Prod.fst heq).symm
      · refine (List.mem_append.mp hmember).imp_right fun hmember => ?_
        obtain ⟨joined, hjoined, heq⟩ := List.mem_map.mp hmember
        obtain rfl := (Prod.mk.inj heq).2
        exact hown joined hjoined
  | updateUser pk row password email isActive groups hpk hrow hown =>
      refine hisolated.changeUser (hneUser pk hpk) (fun _ => AList.lookup_insert_ne)
        (fun _ _ => rfl) (fun user group hne => ?_) (fun group hmember => ?_) le_rfl
      · rw [mem_setGroups, if_neg hne]
      · rw [mem_setGroups, if_pos rfl] at hmember
        exact (hown group hmember).imp_left mem_groupsOf.mp
  | destroyUser pk hpk =>
      refine hisolated.changeUser (hneUser pk hpk) (fun _ => AList.lookup_erase_ne)
        (fun _ => AList.lookup_erase_ne) (fun user group hne => ?_)
        (fun group hmember => .inl (List.mem_filter.mp hmember).1) le_rfl
      rw [List.mem_filter]
      exact and_iff_left (decide_eq_true hne)
  | createGroup name hname =>
      exact hisolated.changeGroup (fun id hid _ => (hisolated.groupIds id hid).ne)
        (fun _ => AList.lookup_insert_ne) (fun _ => AList.lookup_insert_ne)
        (fun _ _ _ => Iff.rfl) (fun _ hmember => hmember) (Nat.le_succ _)
  | updateGroup pk row hrow =>
      -- Only the name could change, and it may not.
      have hsame : ∀ id, (tables.groups.insert pk row).lookup id = tables.groups.lookup id := by
        intro id
        by_cases hid : id = pk
        · rw [hid, AList.lookup_insert, hrow]
        · rw [AList.lookup_insert_ne hid]
      refine { hisolated with
        groups := fun id hid hhas => ?_
        otherGroups := fun id hid howns => ?_ }
      · rw [hsame, halone.groups id hid hhas]
      · rw [hsame]
        exact halone.otherGroups id hid howns
  | destroyGroup pk hpk =>
      refine hisolated.changeGroup (hneGroup pk hpk) (fun _ => AList.lookup_erase_ne)
        (fun _ => AList.lookup_erase_ne) (fun user group hne => ?_)
        (fun member hmember => (List.mem_filter.mp hmember).1) le_rfl
      rw [List.mem_filter]
      exact and_iff_left (decide_eq_true hne)
  | putUserPermissions pk row permissions hhas hrow hpermissions =>
      exact hisolated.setUserPermissions hhas hrow
  | putGroupPermissions pk row permissions hhas hrow hpermissions =>
      exact hisolated.setGroupPermissions hhas hrow

end Isolation

section Names

/-- The groups that a tenant's users are shown, in the order of their ids. -/
def AccountTables.ownGroups (tables : AccountTables) (tenant : Uuid) : List Nat :=
  ((tables.groups.entries.filter fun entry => tables.ownsGroup tenant entry.1).map
    Sigma.fst).insertionSort (· ≤ ·)

/-- Those of them with a name. -/
def AccountTables.groupsNamed (tables : AccountTables) (tenant : Uuid) (name : String) :
    List Nat :=
  ((tables.groups.entries.filter fun entry => tables.ownsGroup tenant entry.1 &&
    decide (entry.2.name = tables.tenantName tenant ++ "@@" ++ name)).map
      Sigma.fst).insertionSort (· ≤ ·)

/-- What the users of a tenant get for `?name=`.  The form field trims the value too, and
with a blank one nothing is filtered. -/
def findGroups (tables : AccountTables) (tenant : Uuid) (value : String) :
    Except AccountError (List Nat) :=
  let name := strip value
  if name.isEmpty then .ok (tables.ownGroups tenant)
  else if '\x00' ∈ name.toList then .error (.invalid "Null characters are not allowed.")
  else .ok (tables.groupsNamed tenant name)

/-- No two groups have one name. -/
def UniqueNames (tables : AccountTables) : Prop :=
  ∀ id other row otherRow, tables.groups.lookup id = some row →
    tables.groups.lookup other = some otherRow → row.name = otherRow.name → id = other

/-- The group is the tenant's own and has its name for as long as it is there. -/
structure Keeps (tenant : Uuid) (id : Nat) (fullName tenantName : String)
    (tables : AccountTables) : Prop where
  unique : UniqueNames tables
  groups : IdsBelow tables.groups tables.nextGroupId
  old : id < tables.nextGroupId
  named : ∀ row, tables.groups.lookup id = some row → row.name = fullName ∧
    tables.tenantGroups.lookup id = some ⟨tenant, false⟩
  tenantName_eq : tables.tenantName tenant = tenantName

variable {settings : AccountSettings} {tables next : AccountTables} {tenant other : Uuid}
  {requester id : Nat} {fullName tenantName : String}

theorem mem_groupNames {name : String} :
    name ∈ tables.groupNames ↔ ∃ id row, tables.groups.lookup id = some row ∧ row.name = name := by
  simp only [AccountTables.groupNames, List.mem_map, ← KeyedTable.mem_entries_iff]
  exact ⟨fun ⟨⟨id, row⟩, hmem, hname⟩ => ⟨id, row, hmem, hname⟩,
    fun ⟨id, row, hmem, hname⟩ => ⟨⟨id, row⟩, hmem, hname⟩⟩

/-- A row that was there keeps its name. -/
theorem UniqueNames.set (hunique : UniqueNames tables) {pk : Nat} {row after : GroupRow}
    (hrow : tables.groups.lookup pk = some row) (hname : after.name = row.name) :
    ∀ first second firstRow secondRow,
      (tables.groups.insert pk after).lookup first = some firstRow →
      (tables.groups.insert pk after).lookup second = some secondRow →
      firstRow.name = secondRow.name → first = second := by
  have hold : ∀ id found, (tables.groups.insert pk after).lookup id = some found →
      ∃ old, tables.groups.lookup id = some old ∧ found.name = old.name := by
    intro id found hfound
    obtain ⟨rfl, rfl⟩ | ⟨-, hfound⟩ := lookup_insert_cases hfound
    · exact ⟨row, hrow, hname⟩
    · exact ⟨found, hfound, rfl⟩
  intro first second firstRow secondRow hfirst hsecond hsame
  obtain ⟨firstOld, hfirstOld, hfirstName⟩ := hold first firstRow hfirst
  obtain ⟨secondOld, hsecondOld, hsecondName⟩ := hold second secondRow hsecond
  exact hunique _ _ _ _ hfirstOld hsecondOld
    (hfirstName.symm.trans (hsame.trans hsecondName))

theorem UniqueNames.create (hunique : UniqueNames tables) {pk : Nat} {row : GroupRow}
    (hfresh : row.name ∉ tables.groupNames) :
    ∀ first second firstRow secondRow,
      (tables.groups.insert pk row).lookup first = some firstRow →
      (tables.groups.insert pk row).lookup second = some secondRow →
      firstRow.name = secondRow.name → first = second := by
  intro first second firstRow secondRow hfirst hsecond hsame
  rcases lookup_insert_cases hfirst with ⟨hfirstPk, hfirstRow⟩ | ⟨-, hfirstOld⟩ <;>
    rcases lookup_insert_cases hsecond with ⟨hsecondPk, hsecondRow⟩ | ⟨-, hsecondOld⟩
  · rw [hfirstPk, hsecondPk]
  · refine absurd (mem_groupNames.mpr ⟨second, secondRow, hsecondOld, ?_⟩) hfresh
    rw [← hsame, hfirstRow]
  · refine absurd (mem_groupNames.mpr ⟨first, firstRow, hfirstOld, ?_⟩) hfresh
    rw [hsame, hsecondRow]
  · exact hunique _ _ _ _ hfirstOld hsecondOld hsame

theorem Keeps.changes (hkeeps : Keeps tenant id fullName tenantName tables)
    (hchanges : Changes settings tables requester other next) :
    Keeps tenant id fullName tenantName next := by
  obtain ⟨hunique, hgroups, hold, hnamed, htenantName⟩ := hkeeps
  cases hchanges with
  | createUser => exact ⟨hunique, hgroups, hold, hnamed, htenantName⟩
  | updateUser => exact ⟨hunique, hgroups, hold, hnamed, htenantName⟩
  | destroyUser => exact ⟨hunique, hgroups, hold, hnamed, htenantName⟩
  | putUserPermissions => exact ⟨hunique, hgroups, hold, hnamed, htenantName⟩
  | createGroup name hname =>
      refine ⟨hunique.create hname.fresh, hgroups.create _, Nat.lt_succ_of_lt hold,
        fun row hrow => ?_, htenantName⟩
      dsimp only at hrow ⊢
      rw [AList.lookup_insert_ne hold.ne] at hrow ⊢
      exact hnamed row hrow
  | updateGroup pk row hrow =>
      refine ⟨hunique.set hrow rfl, hgroups.set hrow _, hold, fun found hfound => ?_, htenantName⟩
      obtain ⟨rfl, rfl⟩ | ⟨-, hfound⟩ := lookup_insert_cases hfound
      · exact hnamed found hrow
      · exact hnamed found hfound
  | putGroupPermissions pk row permissions hhas hrow hpermissions =>
      refine ⟨hunique.set hrow rfl, hgroups.set hrow _, hold, fun found hfound => ?_, htenantName⟩
      obtain ⟨rfl, rfl⟩ | ⟨-, hfound⟩ := lookup_insert_cases hfound
      · exact hnamed row hrow
      · exact hnamed found hfound
  | destroyGroup pk howns =>
      refine ⟨fun first second firstRow secondRow hfirst hsecond => hunique _ _ _ _
        (lookup_erase_cases hfirst).2 (lookup_erase_cases hsecond).2, hgroups.erase pk, hold,
        fun row hrow => ?_, htenantName⟩
      obtain ⟨hne, hrow⟩ := lookup_erase_cases hrow
      dsimp only
      rw [AList.lookup_erase_ne hne]
      exact hnamed row hrow

theorem Keeps.step (hkeeps : Keeps tenant id fullName tenantName tables)
    (settings : AccountSettings) (request : AccountRequest) :
    Keeps tenant id fullName tenantName (accountStep settings tables request) := by
  rcases accountStep_cases settings tables request with heq | ⟨requester, other, -, -, hchanges⟩
  · rw [heq]
    exact hkeeps
  · exact hkeeps.changes hchanges

/-- The first separator of a qualified name is the one after the tenant. -/
theorem beforeSeparator_append {tenantName : List Char} (hseparator : '@' ∉ tenantName)
    (rest : List Char) : beforeSeparator (tenantName ++ '@' :: '@' :: rest) = some tenantName := by
  induction tenantName with
  | nil => rfl
  | cons c tenantName ih =>
      have hc : c ≠ '@' := fun heq => hseparator (heq ▸ List.mem_cons_self)
      have hrest : '@' ∉ tenantName := fun hmem => hseparator (List.mem_cons_of_mem _ hmem)
      rw [List.cons_append, beforeSeparator, ih hrest]
      · rfl
      · exact fun _ heq => absurd heq hc

theorem shownName_append {tenantName name : String} (hseparator : '@' ∉ tenantName.toList) :
    shownName (tenantName ++ "@@" ++ name) = name := by
  have hchars : (tenantName ++ "@@" ++ name).toList =
      tenantName.toList ++ '@' :: '@' :: name.toList := by
    simp [String.toList_append]
  rw [shownName, hchars, beforeSeparator_append hseparator]
  dsimp only
  rw [List.drop_append, List.drop_eq_nil_of_le (Nat.le_add_right _ _), List.nil_append,
    Nat.add_sub_cancel_left]
  exact String.ofList_toList

/-- The one group with a name. -/
theorem groupsNamed_eq {name : String} {row : GroupRow} (hunique : UniqueNames tables)
    (hrow : tables.groups.lookup id = some row)
    (hname : row.name = tables.tenantName tenant ++ "@@" ++ name)
    (hrelation : tables.tenantGroups.lookup id = some ⟨tenant, false⟩) :
    tables.groupsNamed tenant name = [id] := by
  refine List.perm_singleton.mp ((List.perm_insertionSort _ _).trans ?_)
  refine (List.perm_ext_iff_of_nodup ?_ (List.nodup_singleton id)).mpr fun found => ?_
  · exact (List.Sublist.map _ List.filter_sublist).nodup tables.groups.nodupKeys
  · simp only [List.mem_map, List.mem_filter, Bool.and_eq_true, decide_eq_true_eq,
      List.mem_singleton]
    constructor
    · rintro ⟨⟨found, foundRow⟩, ⟨hmem, -, hfoundName⟩, rfl⟩
      exact hunique _ _ _ _ (KeyedTable.mem_entries_iff.mp hmem) hrow
        (hfoundName.trans hname.symm)
    · rintro rfl
      refine ⟨⟨found, row⟩, ⟨KeyedTable.mem_entries_iff.mpr hrow, ?_, hname⟩, rfl⟩
      simp [AccountTables.ownsGroup, hrelation]

/-- A value asks for the name that it is without the whitespace around it. -/
theorem findGroups_eq {value : String} (htext : FieldText (strip value)) :
    findGroups tables tenant value = .ok (tables.groupsNamed tenant (strip value)) := by
  simp only [findGroups, htext.nonempty]
  rw [if_neg (by simp), if_neg htext.noNull]

theorem createGroup_eq_ok {name : String}
    (hcreate : createGroup tables tenant (some name) = .ok next) :
    FieldText (strip name) ∧
      tables.tenantName tenant ++ "@@" ++ strip name ∉ tables.groupNames ∧
      next = { tables with
        groups := tables.groups.insert tables.nextGroupId
          ⟨tables.tenantName tenant ++ "@@" ++ strip name, []⟩
        tenantGroups := tables.tenantGroups.insert tables.nextGroupId ⟨tenant, false⟩
        nextGroupId := tables.nextGroupId + 1 } := by
  obtain ⟨fullName, hname, hcreate⟩ := bind_eq_ok hcreate
  obtain ⟨rfl, htext, hvalid⟩ := checkGroupName_none hname
  exact ⟨htext, hvalid.fresh, (Except.ok.inj hcreate).symm⟩

/-- A new group starts out as its tenant's own. -/
theorem keeps_created {tables : AccountTables} (hids : IdsBelow tables.groups tables.nextGroupId)
    (hunique : UniqueNames tables) (tenant : Uuid) {fullName : String}
    (hfresh : fullName ∉ tables.groupNames) :
    Keeps tenant tables.nextGroupId fullName (tables.tenantName tenant) { tables with
      groups := tables.groups.insert tables.nextGroupId ⟨fullName, []⟩
      tenantGroups := tables.tenantGroups.insert tables.nextGroupId ⟨tenant, false⟩
      nextGroupId := tables.nextGroupId + 1 } where
  unique := hunique.create hfresh
  groups := hids.create _
  old := Nat.lt_succ_self _
  named row hrow := by
    dsimp only at hrow ⊢
    rw [AList.lookup_insert, Option.some.injEq] at hrow
    exact ⟨by rw [← hrow], AList.lookup_insert _⟩
  tenantName_eq := rfl

/-- A group is shown with the name that it was created with, without the whitespace around
it, and is found by both for as long as it is there. -/
theorem group_found_by_name (settings : AccountSettings) (tables next : AccountTables)
    (hids : IdsBelow tables.groups tables.nextGroupId) (hunique : UniqueNames tables)
    (user : Nat) (tenant : Uuid) (htenant : currentTenant tables (some user) = some tenant)
    (hseparator : '@' ∉ (tables.tenantName tenant).toList) (name : String)
    (hcreate : handle settings tables ⟨some user, .createGroup (some name)⟩ = .ok next)
    (later : List AccountRequest) (row : GroupRow)
    (hrow : (run (accountStep settings) next later).groups.lookup tables.nextGroupId = some row) :
    shownName row.name = strip name ∧
      findGroups (run (accountStep settings) next later) tenant name =
        .ok [tables.nextGroupId] ∧
      findGroups (run (accountStep settings) next later) tenant (shownName row.name) =
        .ok [tables.nextGroupId] := by
  have hcreated : createGroup tables tenant (some name) = .ok next := by
    simp only [handle, htenant] at hcreate
    split at hcreate
    · exact hcreate
    · cases hcreate
  obtain ⟨htext, hfresh, rfl⟩ := createGroup_eq_ok hcreated
  have hinit := keeps_created hids hunique tenant hfresh
  have hkeeps := run_keeps (Keeps tenant tables.nextGroupId _ _)
    (fun _ request hkeeps => hkeeps.step settings request) hinit later
  generalize run (accountStep settings) _ later = final at hkeeps hrow ⊢
  obtain ⟨hname, hrelation⟩ := hkeeps.named row hrow
  have hshown : shownName row.name = strip name := by
    rw [hname]
    exact shownName_append hseparator
  have hfound : ∀ value, strip value = strip name →
      findGroups final tenant value = .ok [tables.nextGroupId] := by
    intro value hvalue
    rw [findGroups_eq (hvalue ▸ htext), hvalue]
    exact congrArg Except.ok
      (groupsNamed_eq hkeeps.unique hrow (by rw [hname, hkeeps.tenantName_eq]) hrelation)
  refine ⟨hshown, hfound name rfl, hfound _ ?_⟩
  rw [hshown, strip_strip]

end Names

namespace IsolationWitness

open AccountWitness

/-- The manager of one tenant tries to change and to delete the user of the other one. -/
def intrusions : List AccountRequest :=
  [⟨some 0, .updateUser 2 true ⟨none, some "Secret!1", none, none, none⟩⟩,
    ⟨some 0, .destroyUser 2⟩, ⟨some 0, .destroyUser 1⟩]

theorem unique_readers : UniqueNames tables := by
  intro first second _ _ hfirst hsecond _
  have hzero : ∀ id ∈ tables.groups.keys, id = 0 := by decide
  rw [hzero first (mem_of_lookup hfirst), hzero second (mem_of_lookup hsecond)]

theorem writers_found :
    shownName "acme@@writers" = strip " writers\n" ∧
      findGroups (run (accountStep settings) (accountStep settings tables
          ⟨some 0, .createGroup (some " writers\n")⟩) [⟨some 0, .destroyGroup 0⟩]) "acme-id"
        " writers\n" = .ok [1] ∧
      findGroups (run (accountStep settings) (accountStep settings tables
          ⟨some 0, .createGroup (some " writers\n")⟩) [⟨some 0, .destroyGroup 0⟩]) "acme-id"
        (shownName "acme@@writers") = .ok [1] :=
  group_found_by_name settings tables _ (by decide) unique_readers 0 "acme-id" (by decide)
    (by decide) " writers\n" (by rfl) [⟨some 0, .destroyGroup 0⟩] ⟨"acme@@writers", []⟩
    (by decide +kernel)

end IsolationWitness

end Accounts

end NFCompose
