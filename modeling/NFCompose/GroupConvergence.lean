/-
A push of the difference of a tenant's groups to a target gives every group the
permissions of the target, and leaves nothing to push.
-/
import NFCompose.GroupDefinitions

namespace NFCompose

namespace GroupDefinitions

open Accounts KeyedDiff

section Convergence

variable {settings : AccountSettings} {tables next : AccountTables} {user : Nat} {tenant : Uuid}
  {targets : List GroupDefinition} {name : String} {pk : Nat} {row : GroupRow}

theorem KeepsOthers.trans {middle : AccountTables} (hfirst : KeepsOthers tables middle tenant name)
    (hsecond : KeepsOthers middle next tenant name) : KeepsOthers tables next tenant name :=
  fun other hother pk row => (hsecond other hother pk row).trans (hfirst other hother pk row)

theorem permissionsOf_congr (hfit : GroupsFit settings tables tenant)
    (hnext : GroupsFit settings next tenant)
    (hsame : ∀ pk row, Owns next tenant name pk row ↔ Owns tables tenant name pk row) :
    permissionsOf next tenant name = permissionsOf tables tenant name := by
  rcases owns_or_none tables tenant name with ⟨pk, row, howns⟩ | hnone
  · rw [permissionsOf_owns hfit howns, permissionsOf_owns hnext ((hsame pk row).mpr howns)]
  · rw [permissionsOf_none hnone, permissionsOf_none fun pk row howns =>
      hnone pk row ((hsame pk row).mp howns)]

theorem mem_sortedPermissions {perm : String} {permissions : List String} :
    perm ∈ sortedPermissions permissions ↔ perm ∈ permissions := by
  rw [sortedPermissions, (List.perm_insertionSort _ _).mem_iff, List.mem_dedup]

/-- What a name is to have after a push. -/
def wanted (deleteInBase : Bool) (target : Option GroupDefinition)
    (before : Option (List String)) : Option (List String) :=
  (target.map GroupDefinition.groupPermissions).or (if deleteInBase then none else before)

/-- What a push of one difference comes to. -/
structure Pushed (settings : AccountSettings) (tables next : AccountTables) (user : Nat)
    (tenant : Uuid) (targets : List GroupDefinition) (name : String)
    (permissions : Option (List String)) : Prop where
  pushing : Pushing settings next user tenant targets
  others : KeepsOthers tables next tenant name
  same : SameSet (permissionsOf next tenant name) permissions

theorem sameSet_some {first second : List String} (hsame : ∀ perm, perm ∈ first ↔ perm ∈ second) :
    SameSet (some first) (some second) :=
  ⟨rfl, hsame⟩

/-- A group that is there is given the permissions of the target. -/
theorem pushed_put (hpushing : Pushing settings tables user tenant targets)
    (howns : Owns tables tenant name pk row) {permissions : List String}
    (hassignable : ∀ perm ∈ permissions, perm ∈ generallyAssignablePermissions) :
    ∃ next, putPermissions settings user name permissions tables = .ok next ∧
      Pushed settings tables next user tenant targets name (some permissions) := by
  obtain ⟨after, hput, hafter⟩ := putPermissions_ok hpushing howns hassignable
  obtain ⟨hnext, hothers, hset⟩ := setPermissions_spec hpushing howns after
  refine ⟨_, hput, hnext, hothers, ?_⟩
  rw [permissionsOf_owns hnext.fit hset]
  exact sameSet_some hafter

theorem pushed_create (hpushing : Pushing settings tables user tenant targets)
    {target : GroupDefinition} (htarget : target ∈ targets)
    (hnone : ∀ pk row, ¬ Owns tables tenant target.name pk row) :
    ∃ next, pushDiff settings user tables
        ⟨target.name, some (.create, target.name), some (.create, target.groupPermissions)⟩ =
          .ok next ∧
      Pushed settings tables next user tenant targets target.name
        (some target.groupPermissions) := by
  have hcreate := createGroup_ok hpushing htarget hnone
  obtain ⟨hcreated, hothers, hnew⟩ := created_spec hpushing
    (hpushing.valid target htarget).text hnone (hpushing.valid target htarget).free
  obtain ⟨next, hput, hpushed⟩ :=
    pushed_put hcreated hnew (hpushing.valid target htarget).assignable
  refine ⟨next, ?_, hpushed.pushing, hothers.trans hpushed.others, hpushed.same⟩
  change (send settings user (.createGroup (some target.name)) tables >>= fun tables =>
    putPermissions settings user target.name target.groupPermissions tables) = .ok next
  rw [hcreate]
  exact hput

theorem pushed_delete (hpushing : Pushing settings tables user tenant targets)
    (howns : Owns tables tenant name pk row) (permissions : List String) :
    ∃ next, pushDiff settings user tables
        ⟨name, some (.delete, name), some (.delete, permissions)⟩ = .ok next ∧
      Pushed settings tables next user tenant targets name none := by
  have hnone : ∀ perm ∈ ([] : List String), perm ∈ generallyAssignablePermissions := by simp
  obtain ⟨after, hput, -⟩ := putPermissions_ok hpushing howns hnone
  obtain ⟨hemptied, hothers, hset⟩ := setPermissions_spec hpushing howns after
  have hdestroy := destroyGroup_ok hemptied hset
  obtain ⟨hnext, hothersNext, hgone⟩ := destroyed_spec hemptied hset
    ((setPermissions tables pk row after).userGroups.filter fun member => member.2 ≠ pk)
  refine ⟨_, ?_, hnext, hothers.trans hothersNext, ?_⟩
  · simp only [pushDiff, hput]
    change (getGroup settings user (setPermissions tables pk row after) name >>= fun found =>
      send settings user (.destroyGroup found) (setPermissions tables pk row after) >>= pure) =
        .ok _
    rw [getGroup_ok hemptied.manages hemptied.fit hset]
    change send settings user (.destroyGroup pk) (setPermissions tables pk row after) >>=
      pure = .ok _
    rw [hdestroy]
    rfl
  · rw [permissionsOf_none hgone]
    exact ⟨rfl, fun _ => Iff.rfl⟩

/-- The difference of one name, pushed to the tables that the name has not changed in. -/
theorem pushed_diff (deleteInBase : Bool) (hpushing : Pushing settings tables user tenant targets)
    {base target : Option GroupDefinition}
    (hbase : base = (permissionsOf tables tenant name).map fun permissions =>
      ⟨name, sortedPermissions permissions⟩)
    (htarget : ∀ definition ∈ target, definition ∈ targets ∧ definition.name = name)
    (hpresent : base.isSome ∨ target.isSome) :
    ∃ diff next, diffGroupDefinition deleteInBase base target = some diff ∧
      pushDiff settings user tables diff = .ok next ∧
      Pushed settings tables next user tenant targets name
        (wanted deleteInBase target (permissionsOf tables tenant name)) := by
  rcases owns_or_none tables tenant name with ⟨pk, row, howns⟩ | hnone
  · have hbefore := permissionsOf_owns hpushing.fit howns
    rw [hbefore] at hbase ⊢
    subst hbase
    cases target with
    | none =>
        cases deleteInBase with
        | false => exact ⟨⟨name, none, none⟩, tables, rfl, rfl, hpushing, fun _ _ _ _ => Iff.rfl,
            hbefore ▸ sameSet_some fun _ => Iff.rfl⟩
        | true =>
            obtain ⟨next, hpush, hpushed⟩ := pushed_delete hpushing howns
              (sortedPermissions (directlyAssigned row.permissions))
            exact ⟨_, next, rfl, hpush, hpushed⟩
    | some target =>
        obtain ⟨hmem, rfl⟩ := htarget target rfl
        by_cases hsame : sortedPermissions (directlyAssigned row.permissions) =
            target.groupPermissions
        · refine ⟨⟨target.name, none, none⟩, tables, ?_, rfl, hpushing, fun _ _ _ _ => Iff.rfl, ?_⟩
          · simp [diffGroupDefinition, hsame]
          · rw [hbefore]
            exact sameSet_some fun perm => by rw [← hsame, mem_sortedPermissions]
        · obtain ⟨next, hput, hpushed⟩ :=
            pushed_put hpushing howns (hpushing.valid target hmem).assignable
          refine ⟨⟨target.name, none, some (.update, target.groupPermissions)⟩, next, ?_, hput,
            hpushed⟩
          simp [diffGroupDefinition, hsame]
  · rw [permissionsOf_none hnone] at hbase ⊢
    subst hbase
    obtain ⟨target, rfl⟩ :=
      Option.isSome_iff_exists.mp (hpresent.resolve_left (by simp))
    obtain ⟨hmem, rfl⟩ := htarget target rfl
    obtain ⟨next, hpush, hpushed⟩ := pushed_create hpushing hmem hnone
    exact ⟨_, next, rfl, hpush, hpushed⟩

/-- The differences of distinct names, one after the other: what was fetched of a name stays
true until it is its turn, and what was pushed for it stays afterwards. -/
theorem pushed_names (deleteInBase : Bool) {base target : String → Option GroupDefinition}
    (htarget : ∀ name, ∀ definition ∈ target name, definition ∈ targets ∧ definition.name = name)
    {names : List String} (hnodup : names.Nodup)
    (hpresent : ∀ name ∈ names, (base name).isSome ∨ (target name).isSome)
    (hpushing : Pushing settings tables user tenant targets)
    (hbase : ∀ name ∈ names, base name = (permissionsOf tables tenant name).map
      fun permissions => ⟨name, sortedPermissions permissions⟩) :
    ∃ diffs final, names.mapM (fun name =>
        diffGroupDefinition deleteInBase (base name) (target name)) = some diffs ∧
      push settings user diffs tables = .ok final ∧
      Pushing settings final user tenant targets ∧
      (∀ name ∈ names, SameSet (permissionsOf final tenant name)
        (wanted deleteInBase (target name) (permissionsOf tables tenant name))) ∧
      ∀ name ∉ names, ∀ pk row, Owns final tenant name pk row ↔ Owns tables tenant name pk row := by
  induction names generalizing tables with
  | nil => exact ⟨[], tables, rfl, rfl, hpushing, by simp, fun _ _ _ _ => Iff.rfl⟩
  | cons name names ih =>
      obtain ⟨hnotMem, hnodup⟩ := List.nodup_cons.mp hnodup
      obtain ⟨hpresentHead, hpresent⟩ := List.forall_mem_cons.mp hpresent
      obtain ⟨hbaseHead, hbase⟩ := List.forall_mem_cons.mp hbase
      obtain ⟨diff, next, hdiff, hpush, hnext, hothers, hsame⟩ :=
        pushed_diff deleteInBase hpushing hbaseHead (htarget name) hpresentHead
      have hkept : ∀ other ∈ names,
          permissionsOf next tenant other = permissionsOf tables tenant other := by
        intro other hmem
        have hne : other ≠ name := fun heq => hnotMem (heq ▸ hmem)
        exact permissionsOf_congr hpushing.fit hnext.fit (hothers other hne)
      obtain ⟨diffs, final, hdiffs, hpushes, hfinal, hwanted, hframe⟩ :=
        ih hnodup hpresent hnext fun other hmem => by rw [hbase other hmem, hkept other hmem]
      refine ⟨diff :: diffs, final, ?_, ?_, hfinal, List.forall_mem_cons.mpr ⟨?_, ?_⟩, ?_⟩
      · rw [List.mapM_cons, hdiff, hdiffs]
        rfl
      · rw [push, List.foldlM_cons, hpush]
        exact hpushes
      · rwa [permissionsOf_congr hnext.fit hfinal.fit (hframe name hnotMem)]
      · intro other hmem
        rw [← hkept other hmem]
        exact hwanted other hmem
      · intro other hother pk row
        obtain ⟨hne, hnotMem⟩ := not_or.mp (List.mem_cons.not.mp hother)
        exact (hframe other hnotMem pk row).trans (hothers other hne pk row)

theorem mem_ownGroups : pk ∈ tables.ownGroups tenant ↔
    (∃ row, tables.groups.lookup pk = some row) ∧
      tables.tenantGroups.lookup pk = some ⟨tenant, false⟩ := by
  rw [AccountTables.ownGroups, (List.perm_insertionSort _ _).mem_iff]
  simp only [List.mem_map, List.mem_filter, ownsGroup_iff]
  constructor
  · rintro ⟨⟨pk, row⟩, ⟨hmem, hrelation⟩, rfl⟩
    exact ⟨⟨row, KeyedTable.mem_entries_iff.mp hmem⟩, hrelation⟩
  · rintro ⟨⟨row, hrow⟩, hrelation⟩
    exact ⟨⟨pk, row⟩, ⟨KeyedTable.mem_entries_iff.mpr hrow, hrelation⟩, rfl⟩

/-- A group of the tenant is the one that is shown with its name. -/
theorem owns_shownName (hfit : GroupsFit settings tables tenant)
    (hmem : pk ∈ tables.ownGroups tenant) :
    ∃ row, Owns tables tenant (definitionOf tables pk).name pk row := by
  obtain ⟨⟨row, hrow⟩, hrelation⟩ := mem_ownGroups.mp hmem
  obtain ⟨name, -, hname⟩ := hfit.qualified pk row hrow (ownsGroup_iff.mpr hrelation)
  have hshown : (definitionOf tables pk).name = name := by
    simp only [definitionOf, hrow, Option.elim_some]
    rw [hname]
    exact shownName_append hfit.separator
  exact ⟨row, hrow, by rw [hshown, hname], hrelation⟩

theorem definitionOf_owns (hfit : GroupsFit settings tables tenant)
    (howns : Owns tables tenant name pk row) :
    definitionOf tables pk = ⟨name, sortedPermissions (directlyAssigned row.permissions)⟩ := by
  simp only [definitionOf, AccountTables.groupPermissions, howns.lookup, Option.elim_some]
  rw [howns.name_eq, shownName_append hfit.separator]

/-- What is fetched, by name, is what the groups with the names have. -/
theorem lookup_fetch (hmanages : Manages settings tables user tenant)
    (hfit : GroupsFit settings tables tenant) :
    ∃ base, fetch settings user tables = .ok base ∧ ∀ name,
      (toDict GroupDefinition.name base).lookup name =
        (permissionsOf tables tenant name).map fun permissions =>
          ⟨name, sortedPermissions permissions⟩ := by
  have hview : hasPerm settings tables user "auth.view_group" = true :=
    hmanages.hasPerm hfit (by decide +kernel)
  refine ⟨(tables.ownGroups tenant).map (definitionOf tables), ?_, fun name => ?_⟩
  · simp only [fetch, readable, hmanages.tenant_eq, hview, if_true]
    rfl
  have hnodup : (((tables.ownGroups tenant).map (definitionOf tables)).map
      GroupDefinition.name).Nodup := by
    rw [List.map_map]
    refine List.Nodup.map_on ?_ ?_
    · intro first hfirst second hsecond hsame
      obtain ⟨firstRow, hfirst⟩ := owns_shownName hfit hfirst
      obtain ⟨secondRow, hsecond⟩ := owns_shownName hfit hsecond
      refine hfit.unique _ _ _ _ hfirst.lookup hsecond.lookup ?_
      rw [hfirst.name_eq, hsecond.name_eq]
      exact congrArg _ hsame
    · exact (List.perm_insertionSort _ _).nodup_iff.mpr
        ((List.Sublist.map _ List.filter_sublist).nodup tables.groups.nodupKeys)
  rcases owns_or_none tables tenant name with ⟨pk, row, howns⟩ | hnone
  · rw [permissionsOf_owns hfit howns]
    have hmem : pk ∈ tables.ownGroups tenant :=
      mem_ownGroups.mpr ⟨⟨row, howns.lookup⟩, howns.relation⟩
    refine (lookup_toDict hnodup).mpr ⟨List.mem_map.mpr ⟨pk, hmem, ?_⟩, rfl⟩
    exact definitionOf_owns hfit howns
  · rw [permissionsOf_none hnone]
    refine lookup_toDict_eq_none.mpr fun definition hdefinition hname => ?_
    obtain ⟨pk, hpk, rfl⟩ := List.mem_map.mp hdefinition
    obtain ⟨row, howns⟩ := owns_shownName hfit hpk
    exact hnone pk row (hname ▸ howns)

theorem allNames_spec (sets : SetOrder String) (base target : List GroupDefinition) :
    (allNames sets base target).Nodup ∧ ∀ name, name ∈ allNames sets base target ↔
      ((toDict GroupDefinition.name base).lookup name).isSome ∨
        ((toDict GroupDefinition.name target).lookup name).isSome := by
  have hperm := sets.perm ((toDict GroupDefinition.name base).keys ++
    (toDict GroupDefinition.name target).keys.filter fun name =>
      name ∉ toDict GroupDefinition.name base)
  constructor
  · refine hperm.nodup_iff.mpr (List.Nodup.append (AList.keys_nodup _)
      ((AList.keys_nodup _).filter _) fun name hbase htarget => ?_)
    have hnotMem := (List.mem_filter.mp htarget).2
    exact of_decide_eq_true hnotMem (AList.mem_keys.mpr hbase)
  · intro name
    rw [allNames, hperm.mem_iff, List.mem_append, List.mem_filter, ← AList.mem_keys,
      ← AList.mem_keys, decide_eq_true_eq, AList.lookup_isSome, AList.lookup_isSome]
    tauto

/-- Lists that show the same permissions are the same once they are sorted. -/
theorem sortedPermissions_congr {first second : List String}
    (hsame : ∀ perm, perm ∈ first ↔ perm ∈ second) :
    sortedPermissions first = sortedPermissions second := by
  have hperm : first.dedup.Perm second.dedup :=
    (List.perm_ext_iff_of_nodup (List.nodup_dedup _) (List.nodup_dedup _)).mpr fun perm => by
      rw [List.mem_dedup, List.mem_dedup, hsame]
  have hsorted : ∀ permissions : List String,
      (permissions.insertionSort (· ≤ ·)).Pairwise (· ≤ ·) := List.pairwise_insertionSort _
  refine List.Perm.eq_of_pairwise (fun _ _ _ _ => le_antisymm) (hsorted _) (hsorted _) ?_
  exact (List.perm_insertionSort _ _).trans (hperm.trans (List.perm_insertionSort _ _).symm)

/-- What is left to do for one name once its group shows what the target has. -/
theorem diffGroupDefinition_done (deleteInBase : Bool) {base target : Option GroupDefinition}
    {permissions before : Option (List String)}
    (hbase : base = permissions.map fun permissions => ⟨name, sortedPermissions permissions⟩)
    (htarget : ∀ definition ∈ target, definition.name = name ∧
      definition.groupPermissions = sortedPermissions definition.groupPermissions)
    (hsame : SameSet permissions (wanted deleteInBase target before))
    (hpresent : base.isSome ∨ target.isSome) :
    ∃ diff, diffGroupDefinition deleteInBase base target = some diff ∧ diff.empty = true := by
  cases target with
  | none =>
      obtain ⟨definition, rfl⟩ := Option.isSome_iff_exists.mp (hpresent.resolve_right (by simp))
      cases deleteInBase with
      | false => exact ⟨⟨definition.name, none, none⟩, rfl, rfl⟩
      | true =>
          have hpermissions : permissions = none := by simpa [wanted] using hsame.1
          rw [hpermissions] at hbase
          cases hbase
  | some target =>
      obtain ⟨hname, hsorted⟩ := htarget target rfl
      obtain ⟨shown, hshown⟩ : ∃ shown, permissions = some shown :=
        Option.isSome_iff_exists.mp hsame.1
      subst hshown hbase
      have heq : sortedPermissions shown = target.groupPermissions := by
        rw [hsorted]
        exact sortedPermissions_congr hsame.2
      exact ⟨⟨name, none, none⟩, by simp [diffGroupDefinition, hname, heq], rfl⟩

/-- A push gives the tenant's groups the permissions of the target, keeps or deletes the ones
without a target, and leaves nothing to push when the target lists permissions as the
endpoints do. -/
theorem groups_converge (settings : AccountSettings) (sets setsAfter : SetOrder String)
    (deleteInBase : Bool) (tables : AccountTables) (user : Nat) (tenant : Uuid)
    (targets : List GroupDefinition) (hmanages : Manages settings tables user tenant)
    (hfit : GroupsFit settings tables tenant)
    (hvalid : ∀ target ∈ targets, ValidTarget tables tenant target) :
    ∃ base diffs final, fetch settings user tables = .ok base ∧
      diffAllGroupDefinitions sets base targets deleteInBase = some diffs ∧
      push settings user diffs tables = .ok final ∧
      (∀ name, SameSet (permissionsOf final tenant name) (wanted deleteInBase
        ((toDict GroupDefinition.name targets).lookup name) (permissionsOf tables tenant name))) ∧
      ((∀ target ∈ targets, target.groupPermissions = sortedPermissions target.groupPermissions) →
        ∃ after diffsAfter, fetch settings user final = .ok after ∧
          diffAllGroupDefinitions setsAfter after targets deleteInBase = some diffsAfter ∧
          ∀ diff ∈ diffsAfter, diff.empty = true) := by
  have hlookup : ∀ name,
      ∀ definition ∈ (toDict GroupDefinition.name targets).lookup name,
        definition ∈ targets ∧ definition.name = name :=
    fun _ _ hdefinition => mem_of_lookup_toDict hdefinition
  obtain ⟨base, hfetch, hbase⟩ := lookup_fetch hmanages hfit
  obtain ⟨hnodup, hnames⟩ := allNames_spec sets base targets
  obtain ⟨diffs, final, hdiffs, hpush, hfinal, hwanted, hframe⟩ :=
    pushed_names deleteInBase hlookup hnodup (fun name hmem => (hnames name).mp hmem)
      ⟨hmanages, hfit, hvalid⟩ fun name _ => hbase name
  have hall : ∀ name, SameSet (permissionsOf final tenant name) (wanted deleteInBase
      ((toDict GroupDefinition.name targets).lookup name) (permissionsOf tables tenant name)) := by
    intro name
    by_cases hmem : name ∈ allNames sets base targets
    · exact hwanted name hmem
    · obtain ⟨hnotBase, hnotTarget⟩ := not_or.mp ((hnames name).not.mp hmem)
      have hnoTarget := Option.not_isSome_iff_eq_none.mp hnotTarget
      have hbefore : permissionsOf tables tenant name = none := by
        have hnoBase := Option.not_isSome_iff_eq_none.mp hnotBase
        rwa [hbase name, Option.map_eq_none_iff] at hnoBase
      rw [permissionsOf_congr hfit hfinal.fit (hframe name hmem), hnoTarget, hbefore]
      simp [wanted, SameSet]
  refine ⟨base, diffs, final, hfetch, hdiffs, hpush, hall, fun hsorted => ?_⟩
  obtain ⟨after, hfetchAfter, hafter⟩ := lookup_fetch hfinal.manages hfinal.fit
  have hdone : ∀ name ∈ allNames setsAfter after targets, ∃ diff,
      diffGroupDefinition deleteInBase ((toDict GroupDefinition.name after).lookup name)
        ((toDict GroupDefinition.name targets).lookup name) = some diff ∧ diff.empty = true := by
    intro name hmem
    refine diffGroupDefinition_done deleteInBase (hafter name) (fun definition hdefinition => ?_)
      (hall name) (((allNames_spec setsAfter after targets).2 name).mp hmem)
    obtain ⟨hmemTarget, hname⟩ := hlookup name definition hdefinition
    exact ⟨hname, hsorted definition hmemTarget⟩
  obtain ⟨diffsAfter, hdiffsAfter, hempty⟩ := PartialRuns.exists_mapM hdone
  exact ⟨after, diffsAfter, hfetchAfter, hdiffsAfter, hempty⟩

end Convergence

namespace ConvergenceWitness

/-- The groups of a tenant with a superuser, and the group of another tenant. -/
def tables : AccountTables where
  tenants := [⟨"initech-id", ⟨"initech", false⟩⟩, ⟨"umbrella-id", ⟨"umbrella", false⟩⟩].toAList
  users := [⟨0, ⟨"initech@@root", "hashed root", "", true, true, true, []⟩⟩].toAList
  groups := [⟨0, ⟨"initech@@readers", ["flow.use", "flow.system.edit"]⟩⟩,
    ⟨1, ⟨"umbrella@@readers", ["flow.use"]⟩⟩, ⟨2, ⟨"initech@@visitors", []⟩⟩].toAList
  tenantUsers := [⟨0, ⟨"initech-id", false⟩⟩].toAList
  tenantGroups := [⟨0, ⟨"initech-id", false⟩⟩, ⟨1, ⟨"umbrella-id", false⟩⟩,
    ⟨2, ⟨"initech-id", false⟩⟩].toAList
  userGroups := []
  nextUserId := 1
  nextGroupId := 3

def settings : AccountSettings where
  validatePassword password := 8 ≤ password.length
  setPassword password := "hashed " ++ password
  permissions := generallyAssignablePermissions

/-- One group is changed, one is created, and one goes away. -/
def targets : List GroupDefinition :=
  [⟨"readers", ["flow.impl", "flow.use"]⟩, ⟨"writers", ["flow.use"]⟩]

theorem manages : Manages settings tables 0 "initech-id" where
  tenant_eq := by decide +kernel
  assigned := ⟨⟨"initech@@root", "hashed root", "", true, true, true, []⟩, by decide +kernel, rfl,
    .inl rfl⟩

theorem fit : GroupsFit settings tables "initech-id" where
  unique := by
    intro first second firstRow secondRow hfirst hsecond
    have hdistinct : ∀ first ∈ tables.groups.entries, ∀ second ∈ tables.groups.entries,
        first.2.name = second.2.name → first.1 = second.1 := by decide +kernel
    exact hdistinct ⟨first, firstRow⟩ (KeyedTable.mem_entries_iff.mpr hfirst) ⟨second, secondRow⟩
      (KeyedTable.mem_entries_iff.mpr hsecond)
  ids := by decide
  qualified := by
    intro pk row hrow howns
    have hqualified : ∀ entry ∈ tables.groups.entries, tables.ownsGroup "initech-id" entry.1 →
        entry.2.name = "initech@@readers" ∨ entry.2.name = "initech@@visitors" := by
      decide +kernel
    rcases hqualified ⟨pk, row⟩ (KeyedTable.mem_entries_iff.mpr hrow) howns with hname | hname
    · exact ⟨"readers", ⟨by decide +kernel, by decide +kernel, by decide +kernel⟩, hname⟩
    · exact ⟨"visitors", ⟨by decide +kernel, by decide +kernel, by decide +kernel⟩, hname⟩
  permissions := fun _ hperm => hperm
  separator := by decide +kernel

theorem valid : ∀ target ∈ targets, ValidTarget tables "initech-id" target := by
  have hchecked : ∀ target ∈ targets, strip target.name = target.name ∧
      target.name.isEmpty = false ∧ '\x00' ∉ target.name.toList ∧ target.name.length ≤ 100 ∧
      ¬ "@@".toList <:+: target.name.toList ∧
      (∀ perm ∈ target.groupPermissions, perm ∈ generallyAssignablePermissions) ∧
      ∀ entry ∈ tables.groups.entries,
        entry.2.name = tables.tenantName "initech-id" ++ "@@" ++ target.name →
          tables.ownsGroup "initech-id" entry.1 := by
    decide +kernel
  intro target htarget
  obtain ⟨hstripped, hnonempty, hnull, hlength, hplain, hassignable, hfree⟩ :=
    hchecked target htarget
  exact ⟨⟨hstripped, hnonempty, hnull⟩, hlength, hplain, hassignable, fun pk row hrow =>
    hfree ⟨pk, row⟩ (KeyedTable.mem_entries_iff.mpr hrow)⟩

theorem readers_converge :
    ∃ base diffs final, fetch settings 0 tables = .ok base ∧
      diffAllGroupDefinitions (SetOrder.identity String) base targets true = some diffs ∧
      push settings 0 diffs tables = .ok final ∧
      (∀ name, SameSet (permissionsOf final "initech-id" name) (wanted true
        ((toDict GroupDefinition.name targets).lookup name)
          (permissionsOf tables "initech-id" name))) ∧
      ∃ after diffsAfter, fetch settings 0 final = .ok after ∧
        diffAllGroupDefinitions (SetOrder.identity String) after targets true = some diffsAfter ∧
        ∀ diff ∈ diffsAfter, diff.empty = true := by
  obtain ⟨base, diffs, final, hfetch, hdiffs, hpush, hsame, hdone⟩ :=
    groups_converge settings (SetOrder.identity String) (SetOrder.identity String) true tables 0
      "initech-id" targets manages fit valid
  exact ⟨base, diffs, final, hfetch, hdiffs, hpush, hsame, hdone (by decide +kernel)⟩

end ConvergenceWitness

end GroupDefinitions

end NFCompose
