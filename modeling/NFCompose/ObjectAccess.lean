/-
The objects on which a user has permissions.  When one of several permissions is held
globally, the grants of the user and of the groups are not merged any more, and a single
grant of a group is enough.
-/
import NFCompose.ObjectPermissions

namespace NFCompose

namespace ObjectAccess

/-- A row of a permission table.  The permission has a content type of its own, apart from
the key of the object. -/
structure PermissionRow (S C K : Type) where
  subject : S
  contentType : C
  codename : String
  objectPk : K
deriving DecidableEq, Repr

/-- The permission tables.  A user has a permission on an object only once. -/
structure PermissionTables (U G C K : Type) where
  userRows : List (PermissionRow U C K)
  groupRows : List (PermissionRow G C K)
  userRows_nodup : userRows.Nodup

/-- The users; one of them stands for requests without a user. -/
structure UserDirectory (U G B : Type) extends Directory U G B where
  isStaff : U → Bool
  anonymousUser : U

/-- The model of a queryset. -/
structure QueriedModel (B C K : Type) where
  contentType : C
  pk : B → K

/-- The arguments of `get_objects_for_user_custom`. -/
structure AccessQuery where
  perms : List String
  withStaff : Bool
  appLabel : String
  useGroups : Bool
  anyPerm : Bool
  withSuperuser : Bool
  withTenantManager : Bool
  acceptGlobalPerms : Bool

def permCodename (perm : String) : String := if '.' ∈ perm.toList then codenameOf perm else perm

/-- The set of codenames that are asked for. -/
def AccessQuery.codenames (query : AccessQuery) : List String :=
  (query.perms.map permCodename).dedup

section Lookup

variable {U G B C K : Type} [DecidableEq U] [DecidableEq G] [DecidableEq C] [DecidableEq K]
variable (directory : UserDirectory U G B) (tables : PermissionTables U G C K)
variable (model : QueriedModel B C K) (query : AccessQuery) (user : U)

/-- `has_perm` without an object. -/
def hasPerm (perm : String) : Bool :=
  (directory.isActive user && directory.isSuperuser user) ||
    decide (perm ∈ getPermissionsOfUser directory.toDirectory user)

/-- The codenames that are accepted because they are held globally. -/
def globalPerms : List String :=
  if query.acceptGlobalPerms && query.withSuperuser then
    query.codenames.filter fun code => hasPerm directory user (query.appLabel ++ "." ++ code)
  else []

/-- The codenames that objects are searched for. -/
def remaining : List String :=
  query.codenames.filter fun code => code ∉ globalPerms directory query user

def userObjPerms : List (PermissionRow U C K) :=
  tables.userRows.filter fun row => row.subject = user ∧
    (remaining directory query user = [] ∨ row.codename ∈ remaining directory query user)

def groupsObjPerms : List (PermissionRow G C K) :=
  tables.groupRows.filter fun row => row.subject ∈ directory.groups user ∧
    (remaining directory query user = [] ∨ row.codename ∈ remaining directory query user)

/-- The keys under which the rows of the user and of the groups have all codenames, grouped
by key. -/
def mergedPks : List K :=
  let data := (userObjPerms directory tables query user).map
      (fun row => (row.objectPk, row.codename)) ++
    (groupsObjPerms directory tables query user).map fun row => (row.objectPk, row.codename)
  (data.map Prod.fst).dedup.filter fun pk =>
    ∀ code ∈ remaining directory query user, (pk, code) ∈ data

/-- The keys that the user has rows for; where all of several codenames are wanted, as many
rows. -/
def userPks : List K :=
  let pks := (userObjPerms directory tables query user).map PermissionRow.objectPk
  if ¬ query.anyPerm ∧ 1 < (remaining directory query user).length then
    pks.filter fun pk => (remaining directory query user).length ≤ pks.count pk
  else pks

def groupPks : List K :=
  (groupsObjPerms directory tables query user).map PermissionRow.objectPk

/-- The part of `get_objects_for_user_custom` behind the special users. -/
def objectsByPermission (queryset : List B) : List B :=
  if globalPerms directory query user ≠ [] ∧
      (remaining directory query user = [] ∨ query.anyPerm) then queryset
  else if query.useGroups ∧ ¬ query.anyPerm ∧ 1 < (remaining directory query user).length ∧
      globalPerms directory query user = [] then
    queryset.filter fun object => model.pk object ∈ mergedPks directory tables query user
  else
    queryset.filter fun object => model.pk object ∈ userPks directory tables query user ∨
      (query.useGroups ∧ model.pk object ∈ groupPks directory tables query user)

/-- A request without a user is anonymous. -/
def getObjectsForUserCustom (user : Option U) (tenant : Option Uuid) (queryset : List B) :
    Except PermissionError (List B) :=
  if query.withSuperuser && user.any directory.isSuperuser then .ok queryset
  else if query.withStaff && user.any directory.isStaff then .ok queryset
  else
    let objects := objectsByPermission directory tables model query
      (user.getD directory.anonymousUser) queryset
    if query.withTenantManager then
      match isTenantManager directory.toDirectory user tenant with
      | .error error => .error error
      | .ok true => .ok queryset
      | .ok false => .ok objects
    else .ok objects

/-- What the user has been granted on an object, directly or through a group. -/
def Granted (object : B) (code : String) : Prop :=
  (∃ row ∈ tables.userRows, row.subject = user ∧ row.contentType = model.contentType ∧
      row.objectPk = model.pk object ∧ row.codename = code) ∨
    (query.useGroups ∧ ∃ row ∈ tables.groupRows, row.subject ∈ directory.groups user ∧
      row.contentType = model.contentType ∧ row.objectPk = model.pk object ∧
        row.codename = code)

/-- The same, without the content types of the permissions. -/
def Stored (object : B) (code : String) : Prop :=
  (∃ row ∈ tables.userRows, row.subject = user ∧ row.objectPk = model.pk object ∧
      row.codename = code) ∨
    (query.useGroups ∧ ∃ row ∈ tables.groupRows, row.subject ∈ directory.groups user ∧
      row.objectPk = model.pk object ∧ row.codename = code)

def HeldGlobally (code : String) : Prop :=
  query.acceptGlobalPerms ∧ hasPerm directory user (query.appLabel ++ "." ++ code)

/-- All codenames, or one of them, are held globally or granted. -/
def Enough (grants : String → Prop) : Prop :=
  if query.anyPerm then
    ∃ code ∈ query.codenames, HeldGlobally directory query user code ∨ grants code
  else ∀ code ∈ query.codenames, HeldGlobally directory query user code ∨ grants code

instance (object : B) : DecidablePred (Granted directory tables model query user object) :=
  fun _ => inferInstanceAs (Decidable (_ ∨ _))

instance : DecidablePred (HeldGlobally directory query user) :=
  fun _ => inferInstanceAs (Decidable (_ ∧ _))

instance (grants : String → Prop) [DecidablePred grants] :
    Decidable (Enough directory query user grants) :=
  inferInstanceAs (Decidable (if query.anyPerm then _ else _))

/-- The objects of a queryset on which the user holds what is asked for. -/
def heldObjects (queryset : List B) : List B :=
  queryset.filter fun object =>
    Enough directory query user (Granted directory tables model query user object)

/-- The codenames that have to be granted on an object. -/
def wantedCodes : List String :=
  query.codenames.filter fun code => ¬ HeldGlobally directory query user code

/-- How the rows lead to an object although a codename is granted on it by none of them.  The
queries do not look at the content types, so that rows of another model with the same key may
stand in for those of the object. -/
inductive Misled (object : B) : Prop
  /-- One codename is held globally, and a group has a row for one of several others. -/
  | groupRow {held code : String} {row : PermissionRow G C K} (hall : query.anyPerm = false)
      (hgroups : query.useGroups) (hcodename : held ∈ query.codenames)
      (hheld : HeldGlobally directory query user held)
      (hseveral : 1 < (wantedCodes directory query user).length)
      (hrow : row ∈ tables.groupRows) (hsubject : row.subject ∈ directory.groups user)
      (hpk : row.objectPk = model.pk object)
      (hcode : row.codename ∈ wantedCodes directory query user)
      (hwanted : code ∈ wantedCodes directory query user)
      (hmissing : ¬ Granted directory tables model query user object code)
  /-- Where rows of the user are counted, those of another model complete the number. -/
  | rowCount {code : String} (hall : query.anyPerm = false)
      (hcounted : query.useGroups = false ∨
        ∃ held ∈ query.codenames, HeldGlobally directory query user held)
      (hseveral : 1 < (wantedCodes directory query user).length)
      (hrows : (wantedCodes directory query user).length ≤
        tables.userRows.countP fun row => row.subject = user ∧ row.objectPk = model.pk object ∧
          row.codename ∈ wantedCodes directory query user)
      (hwanted : code ∈ wantedCodes directory query user)
      (hmissing : ¬ Granted directory tables model query user object code)
  /-- Where the codenames of the rows are compared, those of another model complete them. -/
  | otherModel {code : String} (hall : query.anyPerm = false)
      (hcompared : (wantedCodes directory query user).length = 1 ∨ query.useGroups ∧
        ∀ held ∈ query.codenames, ¬ HeldGlobally directory query user held)
      (hrows : ∀ other ∈ wantedCodes directory query user,
        Stored directory tables model query user object other)
      (hwanted : code ∈ wantedCodes directory query user)
      (hmissing : ¬ Granted directory tables model query user object code)
  /-- Where one codename is enough, a row of another model has it. -/
  | anyOfOtherModel {code : String} (hany : query.anyPerm) (hcodename : code ∈ query.codenames)
      (hrow : Stored directory tables model query user object code)
      (hmissing : ∀ other ∈ query.codenames, ¬ HeldGlobally directory query user other ∧
        ¬ Granted directory tables model query user object other)

/-- The rows of the user are counted, and those of the groups are not merged with them. -/
def CountsRows : Prop :=
  ¬ query.anyPerm ∧ 1 < (remaining directory query user).length ∧
    (¬ query.useGroups ∨ globalPerms directory query user ≠ [])

end Lookup

section Found

variable {U G B C K : Type} [DecidableEq U] [DecidableEq G] [DecidableEq C] [DecidableEq K]
variable {directory : UserDirectory U G B} {tables : PermissionTables U G C K}
variable {model : QueriedModel B C K} {query : AccessQuery} {user : U}

omit [DecidableEq U] [DecidableEq G] in
theorem mem_globalPerms (hsuperuser : query.withSuperuser) {code : String} :
    code ∈ globalPerms directory query user ↔
      code ∈ query.codenames ∧ HeldGlobally directory query user code := by
  cases haccept : query.acceptGlobalPerms <;> simp [globalPerms, HeldGlobally, hsuperuser, haccept]

omit [DecidableEq U] [DecidableEq G] in
theorem mem_remaining (hsuperuser : query.withSuperuser) {code : String} :
    code ∈ remaining directory query user ↔
      code ∈ query.codenames ∧ ¬ HeldGlobally directory query user code := by
  simp only [remaining, List.mem_filter, decide_eq_true_eq, mem_globalPerms hsuperuser]
  exact and_congr_right fun hcode => not_congr (and_iff_right hcode)

omit [DecidableEq U] [DecidableEq G] in
theorem remaining_eq_wantedCodes (hsuperuser : query.withSuperuser) :
    remaining directory query user = wantedCodes directory query user := by
  refine List.filter_congr fun code hcode => ?_
  simp [mem_globalPerms hsuperuser, hcode]

omit [DecidableEq U] [DecidableEq G] in
theorem globalPerms_ne_nil (hsuperuser : query.withSuperuser) :
    globalPerms directory query user ≠ [] ↔
      ∃ held ∈ query.codenames, HeldGlobally directory query user held := by
  constructor
  · intro hsome
    obtain ⟨held, hheld⟩ := List.exists_mem_of_ne_nil _ hsome
    exact ⟨held, (mem_globalPerms hsuperuser).mp hheld⟩
  · rintro ⟨held, hheld⟩
    exact List.ne_nil_of_mem ((mem_globalPerms hsuperuser).mpr hheld)

omit [DecidableEq U] [DecidableEq G] in
/-- Without a codename that is held globally, all of them remain. -/
theorem remaining_eq (hnone : globalPerms directory query user = []) :
    remaining directory query user = query.codenames := by
  simp [remaining, hnone]

omit [DecidableEq U] [DecidableEq G] in
theorem remaining_nodup : (remaining directory query user).Nodup :=
  (List.nodup_dedup _).filter _

theorem codenames_ne_nil (hperms : query.perms ≠ []) : query.codenames ≠ [] := by
  obtain ⟨perm, hperm⟩ := List.exists_mem_of_ne_nil _ hperms
  exact List.ne_nil_of_mem (List.mem_dedup.mpr (List.mem_map_of_mem hperm))

omit [DecidableEq U] [DecidableEq G] [DecidableEq C] [DecidableEq K] in
theorem granted_stored {object : B} {code : String}
    (hgranted : Granted directory tables model query user object code) :
    Stored directory tables model query user object code := by
  rcases hgranted with ⟨row, hrow, hsubject, -, hpk, hcode⟩ |
    ⟨hgroups, row, hrow, hsubject, -, hpk, hcode⟩
  · exact .inl ⟨row, hrow, hsubject, hpk, hcode⟩
  · exact .inr ⟨hgroups, row, hrow, hsubject, hpk, hcode⟩

omit [DecidableEq U] [DecidableEq G] in
theorem Enough.mono {grants more : String → Prop} (hmore : ∀ code, grants code → more code)
    (henough : Enough directory query user grants) : Enough directory query user more := by
  by_cases hany : query.anyPerm
  · rw [Enough, if_pos hany] at henough ⊢
    obtain ⟨code, hcode, hheld⟩ := henough
    exact ⟨code, hcode, hheld.imp_right (hmore code)⟩
  · rw [Enough, if_neg hany] at henough ⊢
    intro code hcode
    exact (henough code hcode).imp_right (hmore code)

omit [DecidableEq U] [DecidableEq G] in
/-- Where all of the remaining codenames are wanted, only these have to be granted. -/
theorem enough_iff_remaining (hsuperuser : query.withSuperuser) (hall : query.anyPerm = false)
    {grants : String → Prop} :
    Enough directory query user grants ↔ ∀ code ∈ remaining directory query user, grants code := by
  rw [Enough, if_neg (by simp [hall])]
  constructor
  · intro henough code hcode
    obtain ⟨hwanted, hglobal⟩ := (mem_remaining hsuperuser).mp hcode
    exact (henough code hwanted).resolve_left hglobal
  · intro hgrants code hcode
    by_cases hglobal : HeldGlobally directory query user code
    · exact .inl hglobal
    · exact .inr (hgrants code ((mem_remaining hsuperuser).mpr ⟨hcode, hglobal⟩))

omit [DecidableEq G] [DecidableEq C] [DecidableEq K] in
theorem mem_userObjPerms (hremaining : remaining directory query user ≠ [])
    {row : PermissionRow U C K} : row ∈ userObjPerms directory tables query user ↔
      row ∈ tables.userRows ∧ row.subject = user ∧
        row.codename ∈ remaining directory query user := by
  simp [userObjPerms, hremaining]

omit [DecidableEq U] [DecidableEq C] [DecidableEq K] in
theorem mem_groupsObjPerms (hremaining : remaining directory query user ≠ [])
    {row : PermissionRow G C K} : row ∈ groupsObjPerms directory tables query user ↔
      row ∈ tables.groupRows ∧ row.subject ∈ directory.groups user ∧
        row.codename ∈ remaining directory query user := by
  simp [groupsObjPerms, hremaining]

omit [DecidableEq C] [DecidableEq K] in
/-- The rows under a key that make up what is stored for an object. -/
theorem stored_iff (hremaining : remaining directory query user ≠ []) {object : B}
    {code : String} (hcode : code ∈ remaining directory query user) :
    Stored directory tables model query user object code ↔
      (∃ row ∈ userObjPerms directory tables query user, row.objectPk = model.pk object ∧
        row.codename = code) ∨
      (query.useGroups ∧ ∃ row ∈ groupsObjPerms directory tables query user,
        row.objectPk = model.pk object ∧ row.codename = code) := by
  constructor
  · rintro (⟨row, hrow, hsubject, hpk, rfl⟩ | ⟨hgroups, row, hrow, hsubject, hpk, rfl⟩)
    · exact .inl ⟨row, (mem_userObjPerms hremaining).mpr ⟨hrow, hsubject, hcode⟩, hpk, rfl⟩
    · exact .inr ⟨hgroups, row, (mem_groupsObjPerms hremaining).mpr ⟨hrow, hsubject, hcode⟩,
        hpk, rfl⟩
  · rintro (⟨row, hrow, hpk, rfl⟩ | ⟨hgroups, row, hrow, hpk, rfl⟩)
    · obtain ⟨hmem, hsubject, -⟩ := (mem_userObjPerms hremaining).mp hrow
      exact .inl ⟨row, hmem, hsubject, hpk, rfl⟩
    · obtain ⟨hmem, hsubject, -⟩ := (mem_groupsObjPerms hremaining).mp hrow
      exact .inr ⟨hgroups, row, hmem, hsubject, hpk, rfl⟩

omit [DecidableEq C] in
/-- Grouped by key, the rows are those of the user and of the groups. -/
theorem mem_mergedPks (hsuperuser : query.withSuperuser) (hgroups : query.useGroups)
    (hall : query.anyPerm = false) (hremaining : remaining directory query user ≠ []) {object : B} :
    model.pk object ∈ mergedPks directory tables query user ↔
      Enough directory query user (Stored directory tables model query user object) := by
  rw [enough_iff_remaining hsuperuser hall, mergedPks, List.mem_filter, decide_eq_true_eq,
    List.mem_dedup]
  have hdata : ∀ code ∈ remaining directory query user,
      (model.pk object, code) ∈ (userObjPerms directory tables query user).map
          (fun row => (row.objectPk, row.codename)) ++
        (groupsObjPerms directory tables query user).map
          (fun row => (row.objectPk, row.codename)) ↔
      Stored directory tables model query user object code := by
    intro code hcode
    rw [stored_iff hremaining hcode]
    simp [hgroups]
  constructor
  · rintro ⟨-, hcodes⟩ code hcode
    exact (hdata code hcode).mp (hcodes code hcode)
  · intro hstored
    obtain ⟨code, hcode⟩ := List.exists_mem_of_ne_nil _ hremaining
    have hpair := (hdata code hcode).mpr (hstored code hcode)
    refine ⟨List.mem_map_of_mem hpair, fun code hcode => ?_⟩
    exact (hdata code hcode).mpr (hstored code hcode)

omit [DecidableEq C] [DecidableEq K] in
omit [DecidableEq U] [DecidableEq G] in
/-- Where a single codename is left, or one is enough, any row will do. -/
theorem enough_stored_iff (hsuperuser : query.withSuperuser)
    (hremaining : remaining directory query user ≠ [])
    (hone : query.anyPerm = false → (remaining directory query user).length ≤ 1)
    (hglobal : query.anyPerm → globalPerms directory query user = []) {object : B} :
    Enough directory query user (Stored directory tables model query user object) ↔
      ∃ code ∈ remaining directory query user,
        Stored directory tables model query user object code := by
  cases hany : query.anyPerm with
  | false =>
      rw [enough_iff_remaining hsuperuser hany]
      obtain ⟨only, honly⟩ :=
        List.length_eq_one_iff.mp (le_antisymm (hone hany) (List.length_pos_iff.mpr hremaining))
      simp [honly]
  | true =>
      have hnone := hglobal hany
      rw [Enough, if_pos hany, remaining_eq hnone]
      refine exists_congr fun code => and_congr_right fun hcode => or_iff_right fun hheld => ?_
      have hmem := (mem_globalPerms hsuperuser).mpr ⟨hcode, hheld⟩
      rw [hnone] at hmem
      cases hmem

omit [DecidableEq C] [DecidableEq K] in
theorem mem_pks_iff (hremaining : remaining directory query user ≠ []) {object : B} :
    (model.pk object ∈ (userObjPerms directory tables query user).map PermissionRow.objectPk ∨
        (query.useGroups ∧ model.pk object ∈ groupPks directory tables query user)) ↔
      ∃ code ∈ remaining directory query user,
        Stored directory tables model query user object code := by
  constructor
  · rintro (hpk | ⟨hgroups, hpk⟩)
    · obtain ⟨row, hrow, hkey⟩ := List.mem_map.mp hpk
      have hcode := ((mem_userObjPerms hremaining).mp hrow).2.2
      exact ⟨_, hcode, (stored_iff hremaining hcode).mpr (.inl ⟨row, hrow, hkey, rfl⟩)⟩
    · obtain ⟨row, hrow, hkey⟩ := List.mem_map.mp hpk
      have hcode := ((mem_groupsObjPerms hremaining).mp hrow).2.2
      exact ⟨_, hcode, (stored_iff hremaining hcode).mpr (.inr ⟨hgroups, row, hrow, hkey, rfl⟩)⟩
  · rintro ⟨code, hcode, hstored⟩
    rcases (stored_iff hremaining hcode).mp hstored with ⟨row, hrow, hkey, -⟩ |
      ⟨hgroups, row, hrow, hkey, -⟩
    · exact .inl (List.mem_map.mpr ⟨row, hrow, hkey⟩)
    · exact .inr ⟨hgroups, List.mem_map.mpr ⟨row, hrow, hkey⟩⟩

omit [DecidableEq C] in
omit [DecidableEq G] in
/-- Whoever holds all of the remaining codenames without groups has a row for each. -/
theorem length_remaining_le_count {object : B}
    (hrows : ∀ code ∈ remaining directory query user,
      ∃ row ∈ userObjPerms directory tables query user, row.objectPk = model.pk object ∧
        row.codename = code) :
    (remaining directory query user).length ≤
      ((userObjPerms directory tables query user).map PermissionRow.objectPk).count
        (model.pk object) := by
  have hsubset : remaining directory query user ⊆
      ((userObjPerms directory tables query user).filter
        fun row => row.objectPk = model.pk object).map PermissionRow.codename := by
    intro code hcode
    obtain ⟨row, hrow, hkey, hcodename⟩ := hrows code hcode
    exact List.mem_map.mpr ⟨row, List.mem_filter.mpr ⟨hrow, decide_eq_true hkey⟩, hcodename⟩
  have hle := (List.subperm_of_subset remaining_nodup hsubset).length_le
  rw [List.length_map] at hle
  rw [List.count, List.countP_map, List.countP_eq_length_filter]
  exact hle

/-- The condition under which an object is found. -/
def found (directory : UserDirectory U G B) (tables : PermissionTables U G C K)
    (model : QueriedModel B C K) (query : AccessQuery) (user : U) (object : B) : Bool :=
  if globalPerms directory query user ≠ [] ∧
      (remaining directory query user = [] ∨ query.anyPerm) then true
  else if query.useGroups ∧ ¬ query.anyPerm ∧ 1 < (remaining directory query user).length ∧
      globalPerms directory query user = [] then
    model.pk object ∈ mergedPks directory tables query user
  else
    model.pk object ∈ userPks directory tables query user ∨
      (query.useGroups ∧ model.pk object ∈ groupPks directory tables query user)

omit [DecidableEq C] in
theorem objectsByPermission_eq_filter (queryset : List B) :
    objectsByPermission directory tables model query user queryset =
      queryset.filter (found directory tables model query user) := by
  rw [objectsByPermission]
  split
  · next hglobal =>
      have hall : ∀ object ∈ queryset, found directory tables model query user object = true :=
        fun object _ => by rw [found, if_pos hglobal]
      exact (List.filter_eq_self.mpr hall).symm
  · next hglobal =>
      split
      · next hmerged =>
          refine List.filter_congr fun object _ => ?_
          rw [found, if_neg hglobal, if_pos hmerged]
      · next hmerged =>
          refine List.filter_congr fun object _ => ?_
          rw [found, if_neg hglobal, if_neg hmerged]

omit [DecidableEq U] [DecidableEq G] [DecidableEq C] [DecidableEq K] in
/-- More than one codename is left where rows are counted. -/
theorem CountsRows.remaining_ne_nil (hcounts : CountsRows directory query user) :
    remaining directory query user ≠ [] :=
  List.ne_nil_of_length_pos (Nat.lt_trans Nat.zero_lt_one hcounts.2.1)

omit [DecidableEq C] in
theorem found_of_countsRows (hcounts : CountsRows directory query user) {object : B} :
    found directory tables model query user object ↔
      (remaining directory query user).length ≤
          ((userObjPerms directory tables query user).map PermissionRow.objectPk).count
            (model.pk object) ∨
        (query.useGroups ∧ model.pk object ∈ groupPks directory tables query user) := by
  have hremaining := hcounts.remaining_ne_nil
  obtain ⟨hany, hseveral, hsource⟩ := hcounts
  have hmerged : ¬ (query.useGroups ∧ ¬ query.anyPerm ∧
      1 < (remaining directory query user).length ∧ globalPerms directory query user = []) := by
    rintro ⟨hgroups, -, -, hglobal⟩
    exact hsource.elim (fun hnone => hnone hgroups) fun hsome => hsome hglobal
  have hpositive : 0 < (remaining directory query user).length := by omega
  rw [found, if_neg (by simp [hremaining, hany]), if_neg hmerged, decide_eq_true_eq, userPks,
    if_pos ⟨hany, hseveral⟩, List.mem_filter, decide_eq_true_eq]
  refine or_congr_left ⟨fun hboth => hboth.2, fun hcount => ⟨?_, hcount⟩⟩
  exact List.count_pos_iff.mp (lt_of_lt_of_le hpositive hcount)

omit [DecidableEq C] in
theorem found_of_not_countsRows (hsuperuser : query.withSuperuser) (hperms : query.perms ≠ [])
    (hcounts : ¬ CountsRows directory query user) {object : B} :
    found directory tables model query user object ↔
      Enough directory query user (Stored directory tables model query user object) := by
  by_cases hglobal : globalPerms directory query user ≠ [] ∧
      (remaining directory query user = [] ∨ query.anyPerm)
  · rw [found, if_pos hglobal]
    refine ⟨fun _ => ?_, fun _ => rfl⟩
    obtain ⟨hsome, hwhole⟩ := hglobal
    by_cases hany : query.anyPerm
    · obtain ⟨code, hcode⟩ := List.exists_mem_of_ne_nil _ hsome
      obtain ⟨hwanted, hheld⟩ := (mem_globalPerms hsuperuser).mp hcode
      rw [Enough, if_pos hany]
      exact ⟨code, hwanted, .inl hheld⟩
    · rw [enough_iff_remaining hsuperuser (by simpa using hany), hwhole.resolve_right hany]
      exact List.forall_mem_nil _
  · have hremaining : remaining directory query user ≠ [] := by
      intro hnil
      have hnone : globalPerms directory query user = [] := by
        by_contra hsome
        exact hglobal ⟨hsome, .inl hnil⟩
      exact codenames_ne_nil hperms (remaining_eq hnone ▸ hnil)
    by_cases hmerged : query.useGroups ∧ ¬ query.anyPerm ∧
        1 < (remaining directory query user).length ∧ globalPerms directory query user = []
    · obtain ⟨hgroups, hany, -, -⟩ := id hmerged
      rw [found, if_neg hglobal, if_pos hmerged, decide_eq_true_eq]
      exact mem_mergedPks hsuperuser hgroups (by simpa using hany) hremaining
    · have hone : query.anyPerm = false → (remaining directory query user).length ≤ 1 := by
        intro hany
        by_contra hseveral
        have hany : ¬ query.anyPerm := by simp [hany]
        have hsource : query.useGroups → globalPerms directory query user ≠ [] :=
          fun hgroups hnone => hmerged ⟨hgroups, hany, not_le.mp hseveral, hnone⟩
        exact hcounts ⟨hany, not_le.mp hseveral, not_or_of_imp hsource⟩
      have hnone : query.anyPerm → globalPerms directory query user = [] := by
        intro hany
        by_contra hsome
        exact hglobal ⟨hsome, .inr hany⟩
      have hpks : userPks directory tables query user =
          (userObjPerms directory tables query user).map PermissionRow.objectPk := by
        refine if_neg ?_
        rintro ⟨hany, hseveral⟩
        exact not_lt.mpr (hone (by simpa using hany)) hseveral
      rw [found, if_neg hglobal, if_neg hmerged, decide_eq_true_eq, hpks, mem_pks_iff hremaining,
        enough_stored_iff hsuperuser hremaining hone hnone]

omit [DecidableEq C] in
/-- Every object on which the user holds what is asked for is found. -/
theorem found_of_enough (hsuperuser : query.withSuperuser) (hperms : query.perms ≠ [])
    {object : B} (henough : Enough directory query user
      (Granted directory tables model query user object)) :
    found directory tables model query user object := by
  have hstored := henough.mono fun code hgranted => granted_stored hgranted
  by_cases hcounts : CountsRows directory query user
  · rw [found_of_countsRows hcounts]
    have hremaining := hcounts.remaining_ne_nil
    rw [enough_iff_remaining hsuperuser (by simpa using hcounts.1)] at hstored
    by_cases hgroup : query.useGroups ∧ model.pk object ∈ groupPks directory tables query user
    · exact .inr hgroup
    · refine .inl (length_remaining_le_count fun code hcode => ?_)
      rcases (stored_iff hremaining hcode).mp (hstored code hcode) with hrow |
        ⟨hgroups, row, hrow, hkey, -⟩
      · exact hrow
      · exact absurd ⟨hgroups, List.mem_map.mpr ⟨row, hrow, hkey⟩⟩ hgroup
  · exact (found_of_not_countsRows hsuperuser hperms hcounts).mpr hstored

omit [DecidableEq G] [DecidableEq C] in
theorem count_userObjPerms (hsuperuser : query.withSuperuser)
    (hremaining : remaining directory query user ≠ []) (object : B) :
    ((userObjPerms directory tables query user).map PermissionRow.objectPk).count
        (model.pk object) =
      tables.userRows.countP fun row => row.subject = user ∧ row.objectPk = model.pk object ∧
        row.codename ∈ wantedCodes directory query user := by
  rw [List.count, List.countP_map, userObjPerms, List.countP_filter,
    ← remaining_eq_wantedCodes hsuperuser]
  refine List.countP_congr fun row _ => ?_
  simp [hremaining, and_left_comm]

omit [DecidableEq U] [DecidableEq C] [DecidableEq K] in
theorem mem_groupPks (hsuperuser : query.withSuperuser)
    (hremaining : remaining directory query user ≠ []) {object : B} :
    model.pk object ∈ groupPks directory tables query user ↔
      ∃ row ∈ tables.groupRows, row.subject ∈ directory.groups user ∧
        row.objectPk = model.pk object ∧ row.codename ∈ wantedCodes directory query user := by
  simp only [groupPks, List.mem_map, mem_groupsObjPerms hremaining,
    remaining_eq_wantedCodes hsuperuser]
  constructor
  · rintro ⟨row, ⟨hrow, hsubject, hcode⟩, hpk⟩
    exact ⟨row, hrow, hsubject, hpk, hcode⟩
  · rintro ⟨row, hrow, hsubject, hpk, hcode⟩
    exact ⟨row, ⟨hrow, hsubject, hcode⟩, hpk⟩

omit [DecidableEq U] [DecidableEq G] [DecidableEq C] [DecidableEq K] in
/-- Where all codenames are wanted, one that is missing is enough. -/
theorem not_enough_of_missing (hall : query.anyPerm = false) {grants : String → Prop}
    {code : String} (hwanted : code ∈ wantedCodes directory query user)
    (hmissing : ¬ grants code) : ¬ Enough directory query user grants := by
  rw [wantedCodes, List.mem_filter, decide_eq_true_eq] at hwanted
  rw [Enough, if_neg (by simp [hall])]
  exact fun henough => (henough code hwanted.1).elim hwanted.2 hmissing

omit [DecidableEq C] in
/-- The misleading rows lead to an object that is not held. -/
theorem Misled.found (hsuperuser : query.withSuperuser) (hperms : query.perms ≠ []) {object : B}
    (hmisled : Misled directory tables model query user object) :
    found directory tables model query user object ∧
      ¬ Enough directory query user (Granted directory tables model query user object) := by
  have hwantedCodes : remaining directory query user = wantedCodes directory query user :=
    remaining_eq_wantedCodes hsuperuser
  cases hmisled with
  | groupRow hall hgroups hcodename hheld hseveral hrow hsubject hpk hcode hwanted hmissing =>
      have hcounts : CountsRows directory query user :=
        ⟨by simp [hall], hwantedCodes ▸ hseveral,
          .inr ((globalPerms_ne_nil hsuperuser).mpr ⟨_, hcodename, hheld⟩)⟩
      refine ⟨(found_of_countsRows hcounts).mpr (.inr ⟨hgroups, ?_⟩),
        not_enough_of_missing hall hwanted hmissing⟩
      exact (mem_groupPks hsuperuser hcounts.remaining_ne_nil).mpr
        ⟨_, hrow, hsubject, hpk, hcode⟩
  | rowCount hall hcounted hseveral hrows hwanted hmissing =>
      have hcounts : CountsRows directory query user :=
        ⟨by simp [hall], hwantedCodes ▸ hseveral,
          hcounted.imp (by simp) (globalPerms_ne_nil hsuperuser).mpr⟩
      refine ⟨(found_of_countsRows hcounts).mpr (.inl ?_),
        not_enough_of_missing hall hwanted hmissing⟩
      rwa [count_userObjPerms hsuperuser hcounts.remaining_ne_nil, hwantedCodes]
  | otherModel hall hcompared hrows hwanted hmissing =>
      have hcounts : ¬ CountsRows directory query user := by
        rintro ⟨-, hseveral, hsource⟩
        rw [hwantedCodes] at hseveral
        rcases hcompared with hone | ⟨hgroups, hnone⟩
        · omega
        · obtain ⟨held, hcodename, hheld⟩ := (globalPerms_ne_nil hsuperuser).mp
            (hsource.resolve_left fun hnot => hnot hgroups)
          exact hnone held hcodename hheld
      refine ⟨(found_of_not_countsRows hsuperuser hperms hcounts).mpr ?_,
        not_enough_of_missing hall hwanted hmissing⟩
      rwa [enough_iff_remaining hsuperuser hall, hwantedCodes]
  | anyOfOtherModel hany hcodename hrow hmissing =>
      have hcounts : ¬ CountsRows directory query user := fun hcounts => hcounts.1 hany
      constructor
      · rw [found_of_not_countsRows hsuperuser hperms hcounts, Enough, if_pos hany]
        exact ⟨_, hcodename, .inr hrow⟩
      · rw [Enough, if_pos hany]
        rintro ⟨other, hother, hheld⟩
        exact hheld.elim (hmissing other hother).1 (hmissing other hother).2

omit [DecidableEq C] in
/-- An object that is found without being held is one to which the rows mislead. -/
theorem misled_of_found (hsuperuser : query.withSuperuser) (hperms : query.perms ≠ [])
    {object : B} (hfound : found directory tables model query user object)
    (hnot : ¬ Enough directory query user (Granted directory tables model query user object)) :
    Misled directory tables model query user object := by
  have hwantedCodes : remaining directory query user = wantedCodes directory query user :=
    remaining_eq_wantedCodes hsuperuser
  cases hany : query.anyPerm with
  | true =>
      have hcounts : ¬ CountsRows directory query user := fun hcounts => hcounts.1 hany
      rw [found_of_not_countsRows hsuperuser hperms hcounts, Enough, if_pos hany] at hfound
      rw [Enough, if_pos hany] at hnot
      obtain ⟨code, hcodename, hcode⟩ := hfound
      have hmissing : ∀ other ∈ query.codenames, ¬ HeldGlobally directory query user other ∧
          ¬ Granted directory tables model query user object other := fun other hother =>
        ⟨fun hheld => hnot ⟨other, hother, .inl hheld⟩,
          fun hgranted => hnot ⟨other, hother, .inr hgranted⟩⟩
      exact .anyOfOtherModel hany hcodename (hcode.resolve_left (hmissing code hcodename).1)
        hmissing
  | false =>
      rw [enough_iff_remaining hsuperuser hany, hwantedCodes] at hnot
      push Not at hnot
      obtain ⟨code, hwanted, hmissing⟩ := hnot
      by_cases hcounts : CountsRows directory query user
      · have hremaining := hcounts.remaining_ne_nil
        rcases (found_of_countsRows hcounts).mp hfound with hcount | ⟨hgroups, hpk⟩
        · rw [count_userObjPerms hsuperuser hremaining, hwantedCodes] at hcount
          exact .rowCount hany
            (hcounts.2.2.imp (by simp) (globalPerms_ne_nil hsuperuser).mp)
            (hwantedCodes ▸ hcounts.2.1) hcount hwanted hmissing
        · obtain ⟨row, hrow, hsubject, hkey, hcode⟩ := (mem_groupPks hsuperuser hremaining).mp hpk
          obtain ⟨held, hcodename, hheld⟩ := (globalPerms_ne_nil hsuperuser).mp
            (hcounts.2.2.resolve_left fun hnone => hnone hgroups)
          exact .groupRow hany hgroups hcodename hheld (hwantedCodes ▸ hcounts.2.1) hrow hsubject
            hkey hcode hwanted hmissing
      · have hstored := (found_of_not_countsRows hsuperuser hperms hcounts).mp hfound
        rw [enough_iff_remaining hsuperuser hany, hwantedCodes] at hstored
        refine .otherModel hany ?_ hstored hwanted hmissing
        have hpositive := List.length_pos_of_mem hwanted
        by_contra hcompared
        obtain ⟨hone, hsource⟩ := not_or.mp hcompared
        refine hcounts ⟨by simp [hany], by rw [hwantedCodes]; omega, ?_⟩
        by_cases hgroups : query.useGroups
        · refine .inr ((globalPerms_ne_nil hsuperuser).mpr ?_)
          by_contra hnone
          push Not at hnone
          exact hsource ⟨hgroups, hnone⟩
        · exact .inl hgroups

/-- The objects that are found are those on which the user holds what is asked for exactly
when the rows mislead to none. -/
theorem objectsByPermission_eq_iff (hsuperuser : query.withSuperuser) (hperms : query.perms ≠ [])
    {queryset : List B} :
    objectsByPermission directory tables model query user queryset =
        heldObjects directory tables model query user queryset ↔
      ∀ object ∈ queryset, ¬ Misled directory tables model query user object := by
  rw [objectsByPermission_eq_filter, heldObjects]
  constructor
  · intro heq object hobject hmisled
    obtain ⟨hfound, hnot⟩ := hmisled.found hsuperuser hperms
    have hmem := List.mem_filter.mpr ⟨hobject, hfound⟩
    rw [heq, List.mem_filter, decide_eq_true_eq] at hmem
    exact hnot hmem.2
  · intro hclear
    refine List.filter_congr fun object hobject => ?_
    rw [Bool.eq_iff_iff, decide_eq_true_eq]
    refine ⟨fun hfound => ?_, found_of_enough hsuperuser hperms⟩
    by_contra hnot
    exact hclear object hobject (misled_of_found hsuperuser hperms hfound hnot)

omit [DecidableEq C] in
/-- What is found is a part of the queryset, in its order. -/
theorem getObjectsForUserCustom_sublist {user : Option U} {tenant : Option Uuid}
    {queryset objects : List B} (hfound : getObjectsForUserCustom directory tables model query user
      tenant queryset = .ok objects) : objects.Sublist queryset := by
  have hobjects : (objectsByPermission directory tables model query
      (user.getD directory.anonymousUser) queryset).Sublist queryset := by
    rw [objectsByPermission_eq_filter]
    exact List.filter_sublist
  rw [getObjectsForUserCustom] at hfound
  split at hfound
  · cases hfound
    exact List.Sublist.refl _
  · split at hfound
    · cases hfound
      exact List.Sublist.refl _
    · dsimp only at hfound
      split at hfound
      · split at hfound
        · cases hfound
        · cases hfound
          exact List.Sublist.refl _
        · cases hfound
          exact hobjects
      · cases hfound
        exact hobjects

/-- Users without a special role. -/
structure OrdinaryUser (directory : UserDirectory U G B) (user : Option U)
    (tenant : Option Uuid) : Prop where
  no_superuser : user.any directory.isSuperuser = false
  no_staff : user.any directory.isStaff = false
  no_tenantManager : isTenantManager directory.toDirectory user tenant = .ok false

/-- For users without a special role, the result is exact when the rows mislead to no object. -/
theorem getObjectsForUserCustom_eq_iff (hsuperuser : query.withSuperuser)
    (hperms : query.perms ≠ []) {user : Option U} {tenant : Option Uuid}
    (hordinary : OrdinaryUser directory user tenant) (queryset : List B) :
    getObjectsForUserCustom directory tables model query user tenant queryset =
        .ok (heldObjects directory tables model query (user.getD directory.anonymousUser)
          queryset) ↔
      ∀ object ∈ queryset, ¬ Misled directory tables model query
        (user.getD directory.anonymousUser) object := by
  rw [← objectsByPermission_eq_iff hsuperuser hperms]
  have hobjects : getObjectsForUserCustom directory tables model query user tenant queryset =
      .ok (objectsByPermission directory tables model query
        (user.getD directory.anonymousUser) queryset) := by
    rw [getObjectsForUserCustom, hordinary.no_superuser, hordinary.no_staff,
      hordinary.no_tenantManager]
    simp
  rw [hobjects, Except.ok.injEq]

/-- What is stored under the keys of the objects belongs to their model. -/
def OfModel (tables : PermissionTables U G C K) (model : QueriedModel B C K)
    (queryset : List B) : Prop :=
  ∀ object ∈ queryset,
    (∀ row ∈ tables.userRows, row.objectPk = model.pk object →
      row.contentType = model.contentType) ∧
    ∀ row ∈ tables.groupRows, row.objectPk = model.pk object →
      row.contentType = model.contentType

omit [DecidableEq U] [DecidableEq G] [DecidableEq C] [DecidableEq K] in
theorem granted_of_stored {queryset : List B} (hmodel : OfModel tables model queryset)
    {object : B} (hobject : object ∈ queryset) {code : String}
    (hstored : Stored directory tables model query user object code) :
    Granted directory tables model query user object code := by
  obtain ⟨husers, hgroups⟩ := hmodel object hobject
  rcases hstored with ⟨row, hrow, hsubject, hpk, hcode⟩ |
    ⟨huse, row, hrow, hsubject, hpk, hcode⟩
  · exact .inl ⟨row, hrow, hsubject, husers row hrow hpk, hpk, hcode⟩
  · exact .inr ⟨huse, row, hrow, hsubject, hgroups row hrow hpk, hpk, hcode⟩

omit [DecidableEq G] [DecidableEq C] in
/-- As many rows as codenames are rows for all of them, as no row is there twice. -/
theorem granted_of_count {queryset : List B} (hmodel : OfModel tables model queryset)
    {object : B} (hobject : object ∈ queryset)
    (hremaining : remaining directory query user ≠ [])
    (hcount : (remaining directory query user).length ≤
      ((userObjPerms directory tables query user).map PermissionRow.objectPk).count
        (model.pk object)) :
    ∀ code ∈ remaining directory query user,
      Granted directory tables model query user object code := by
  have hrows : ∀ row ∈ (userObjPerms directory tables query user).filter
      (fun row => row.objectPk = model.pk object),
      row ∈ tables.userRows ∧ row.subject = user ∧ row.contentType = model.contentType ∧
        row.objectPk = model.pk object ∧ row.codename ∈ remaining directory query user := by
    intro row hrow
    obtain ⟨hfound, hpk⟩ := List.mem_filter.mp hrow
    obtain ⟨hmem, hsubject, hcode⟩ := (mem_userObjPerms hremaining).mp hfound
    have hkey := of_decide_eq_true hpk
    exact ⟨hmem, hsubject, (hmodel object hobject).1 row hmem hkey, hkey, hcode⟩
  have hnodup : (((userObjPerms directory tables query user).filter
      fun row => row.objectPk = model.pk object).map PermissionRow.codename).Nodup := by
    refine List.Nodup.map_on ?_ ((tables.userRows_nodup.filter _).filter _)
    intro row hrow other hother hcode
    obtain ⟨-, hsubject, htype, hpk, -⟩ := hrows row hrow
    obtain ⟨-, hotherSubject, hotherType, hotherPk, -⟩ := hrows other hother
    cases row
    cases other
    simp only at hsubject htype hpk hotherSubject hotherType hotherPk hcode
    rw [hsubject, htype, hpk, hcode, hotherSubject, hotherType, hotherPk]
  have hsubset : ((userObjPerms directory tables query user).filter
      fun row => row.objectPk = model.pk object).map PermissionRow.codename ⊆
        remaining directory query user := by
    intro code hcode
    obtain ⟨row, hrow, rfl⟩ := List.mem_map.mp hcode
    exact (hrows row hrow).2.2.2.2
  have hperm := (List.subperm_of_subset hnodup hsubset).perm_of_length_le (by
    rw [List.length_map]
    rw [List.count, List.countP_map, List.countP_eq_length_filter] at hcount
    exact hcount)
  intro code hcode
  obtain ⟨row, hrow, rfl⟩ := List.mem_map.mp (hperm.mem_iff.mpr hcode)
  obtain ⟨hmem, hsubject, htype, hpk, -⟩ := hrows row hrow
  exact .inl ⟨row, hmem, hsubject, htype, hpk, rfl⟩

omit [DecidableEq G] [DecidableEq C] in
/-- With keys that belong to one model, only a row of a group next to a global permission
misleads. -/
theorem Misled.groupRow_of_ofModel (hsuperuser : query.withSuperuser) {queryset : List B}
    (hmodel : OfModel tables model queryset) {object : B} (hobject : object ∈ queryset)
    (hmisled : Misled directory tables model query user object) :
    1 < (wantedCodes directory query user).length ∧
      (∃ held ∈ query.codenames, HeldGlobally directory query user held) ∧
      ∃ row ∈ tables.groupRows, row.subject ∈ directory.groups user ∧
        row.objectPk = model.pk object ∧ row.codename ∈ wantedCodes directory query user := by
  have hwantedCodes : remaining directory query user = wantedCodes directory query user :=
    remaining_eq_wantedCodes hsuperuser
  cases hmisled with
  | groupRow _ _ hcodename hheld hseveral hrow hsubject hpk hcode =>
      exact ⟨hseveral, ⟨_, hcodename, hheld⟩, _, hrow, hsubject, hpk, hcode⟩
  | rowCount _ _ hseveral hrows hwanted hmissing =>
      have hremaining : remaining directory query user ≠ [] :=
        List.ne_nil_of_mem (hwantedCodes ▸ hwanted)
      rw [← count_userObjPerms hsuperuser hremaining, ← hwantedCodes] at hrows
      rw [← hwantedCodes] at hwanted
      exact absurd (granted_of_count hmodel hobject hremaining hrows _ hwanted) hmissing
  | otherModel _ _ hrows hwanted hmissing =>
      exact absurd (granted_of_stored hmodel hobject (hrows _ hwanted)) hmissing
  | anyOfOtherModel _ hcodename hrow hmissing =>
      exact absurd (granted_of_stored hmodel hobject hrow) (hmissing _ hcodename).2

end Found

namespace AccessWitness

/-- A user who may change orders anywhere, in one group. -/
def directory : UserDirectory Nat Nat Nat where
  endpoint := fun _ => ⟨"shop", ["change", "delete", "view"], by decide⟩
  isActive := fun _ => true
  isSuperuser := fun _ => false
  groups := fun _ => [7]
  userPermissions := fun _ => ["shop.change"]
  groupPermissions := fun _ => []
  permissions := ["shop.change", "shop.delete", "shop.view"]
  codenames := fun _ => ["change", "delete", "view"]
  tenantManager := fun _ _ => []
  isStaff := fun _ => false
  anonymousUser := 0

/-- The group may delete the first order. -/
def tables : PermissionTables Nat Nat Unit Nat where
  userRows := []
  groupRows := [⟨7, (), "delete", 1⟩]
  userRows_nodup := List.nodup_nil

def model : QueriedModel Nat Unit Nat := ⟨(), id⟩

def asking (perms : List String) : AccessQuery :=
  ⟨perms, false, "shop", true, false, true, true, true⟩

theorem ordinary : OrdinaryUser directory (some 5) (some "tenant") := ⟨rfl, rfl, rfl⟩

/-- The user may not view the first order, and it is found. -/
theorem group_grant_found :
    getObjectsForUserCustom directory tables model
        (asking ["shop.change", "shop.delete", "shop.view"]) (some 5) (some "tenant") [1, 2] =
      .ok [1] ∧
    heldObjects directory tables model (asking ["shop.change", "shop.delete", "shop.view"]) 5
      [1, 2] = [] := by
  constructor <;> rfl

theorem exact_for_two :
    getObjectsForUserCustom directory tables model (asking ["shop.change", "shop.delete"])
        (some 5) (some "tenant") [1, 2] =
      .ok (heldObjects directory tables model (asking ["shop.change", "shop.delete"]) 5
        [1, 2]) := by
  refine (getObjectsForUserCustom_eq_iff rfl (by decide) ordinary [1, 2]).mpr
    fun object hobject hmisled => ?_
  have hmodel : OfModel tables model [1, 2] := fun _ _ => ⟨fun _ _ _ => rfl, fun _ _ _ => rfl⟩
  obtain ⟨hseveral, -⟩ := hmisled.groupRow_of_ofModel rfl hmodel hobject
  exact absurd hseveral (by decide)

end AccessWitness

end ObjectAccess

end NFCompose
