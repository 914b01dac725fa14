/-
Differences of keyed collections.  A diff lists, key by key, the operations that
turn one collection into another; the order in which a set of keys is iterated
is left open.
-/
import Mathlib.Data.List.AList
import Mathlib.Data.List.Nodup
import NFCompose.PartialRuns

namespace KeyedDiff

open PartialRuns

universe u v

variable {K : Type u} {E : Type v} [DecidableEq K]

/-- A dictionary of the elements under their keys; a later element takes the
place of an earlier one. -/
def toDict (key : E → K) (elems : List E) : AList fun _ : K => E :=
  elems.foldl (fun dict elem => dict.insert (key elem) elem) ∅

/-- The order in which sets are iterated. -/
structure SetOrder (K : Type u) where
  order : List K → List K
  perm : ∀ keys, (order keys).Perm keys

def SetOrder.identity (K : Type u) : SetOrder K := ⟨fun keys => keys, fun _ => .refl _⟩

inductive OperationType where
  | create
  | delete
  | update
deriving DecidableEq, Repr

structure KeyOperation (K : Type u) (E : Type v) where
  operationType : OperationType
  key : K
  payload : E
deriving DecidableEq, Repr

/-- The operations that a diff has for one key. -/
def diffAt [DecidableEq E] (deleteMissing : Bool)
    (change : E → E → List (OperationType × E)) (key : K)
    (base target : Option E) : List (KeyOperation K E) :=
  match base, target with
  | some base, none => if deleteMissing then [⟨.delete, key, base⟩] else []
  | none, some target => [⟨.create, key, target⟩]
  | some base, some target =>
      if target ≠ base then
        (change base target).map fun step => ⟨step.1, key, step.2⟩
      else []
  | none, none => []

/-- First the deletions of keys missing in the target, then the creations of
new keys, then what changes in both. -/
def diff [DecidableEq E] (sets : SetOrder K) (deleteMissing : Bool)
    (change : E → E → List (OperationType × E))
    (base target : AList fun _ : K => E) : List (KeyOperation K E) :=
  let operations := fun key =>
    diffAt deleteMissing change key (base.lookup key) (target.lookup key)
  let deleted := base.keys.filter fun key => key ∉ target
  let new := target.keys.filter fun key => key ∉ base
  let updated := target.keys.filter fun key =>
    key ∈ base ∧ target.lookup key ≠ base.lookup key
  (if deleteMissing then (sets.order deleted).flatMap operations else []) ++
    (sets.order new).flatMap operations ++
    (sets.order updated).flatMap operations

/-- An element that cannot be updated in place is deleted and created again. -/
def recreateOrUpdate (recreate : E → E → Bool) (base target : E) :
    List (OperationType × E) :=
  if recreate base target then [(.delete, base), (.create, target)] else [(.update, target)]

theorem count_map_eq_length_filter {A : Type v} (f : A → K) (items : List A) (k : K) :
    (items.map f).count k = (items.filter fun item => f item = k).length := by
  induction items with
  | nil => rfl
  | cons head tail ih =>
      rw [List.map_cons, List.count_cons, ih, List.filter_cons]
      by_cases hkey : f head = k <;> simp [hkey]

section Dict

theorem lookup_foldl_insert (key : E → K) (elems : List E)
    (dict : AList fun _ : K => E) {k : K} {elem : E}
    (hlookup : (elems.foldl (fun dict elem => dict.insert (key elem) elem)
      dict).lookup k = some elem) :
    dict.lookup k = some elem ∨ elem ∈ elems ∧ key elem = k := by
  induction elems generalizing dict with
  | nil => exact Or.inl hlookup
  | cons head tail ih =>
      rcases ih _ hlookup with hhead | ⟨hmem, hkey⟩
      · by_cases hk : k = key head
        · subst hk
          rw [AList.lookup_insert, Option.some.injEq] at hhead
          subst hhead
          exact Or.inr ⟨List.mem_cons_self, rfl⟩
        · rw [AList.lookup_insert_ne hk] at hhead
          exact Or.inl hhead
      · exact Or.inr ⟨List.mem_cons_of_mem head hmem, hkey⟩

/-- What a dictionary holds comes from the list. -/
theorem mem_of_lookup_toDict {key : E → K} {elems : List E} {k : K} {elem : E}
    (hlookup : (toDict key elems).lookup k = some elem) :
    elem ∈ elems ∧ key elem = k := by
  rcases lookup_foldl_insert key elems ∅ hlookup with hnone | hmem
  · simp at hnone
  · exact hmem

theorem mem_foldl_insert (key : E → K) (elems : List E)
    (dict : AList fun _ : K => E) {k : K} :
    k ∈ elems.foldl (fun dict elem => dict.insert (key elem) elem) dict ↔
      k ∈ dict ∨ k ∈ elems.map key := by
  induction elems generalizing dict with
  | nil => simp
  | cons head tail ih =>
      rw [List.foldl_cons, ih, AList.mem_insert, List.map_cons, List.mem_cons]
      tauto

@[simp] theorem mem_toDict {key : E → K} {elems : List E} {k : K} :
    k ∈ toDict key elems ↔ k ∈ elems.map key := by
  rw [toDict, mem_foldl_insert]
  simp

/-- With distinct keys a dictionary holds exactly the elements of the list. -/
theorem lookup_toDict {key : E → K} {elems : List E}
    (hnodup : (elems.map key).Nodup) {k : K} {elem : E} :
    (toDict key elems).lookup k = some elem ↔ elem ∈ elems ∧ key elem = k := by
  constructor
  · exact mem_of_lookup_toDict
  · rintro ⟨hmem, rfl⟩
    have hkey : key elem ∈ toDict key elems :=
      mem_toDict.mpr (List.mem_map_of_mem hmem)
    obtain ⟨found, hfound⟩ :=
      Option.isSome_iff_exists.mp (AList.lookup_isSome.mpr hkey)
    obtain ⟨hmem', hkey'⟩ := mem_of_lookup_toDict hfound
    rw [hfound, List.inj_on_of_nodup_map hnodup hmem' hmem hkey']

theorem lookup_toDict_eq_none {key : E → K} {elems : List E} {k : K} :
    (toDict key elems).lookup k = none ↔ ∀ elem ∈ elems, key elem ≠ k := by
  rw [AList.lookup_eq_none, mem_toDict]
  simp

end Dict

section Diff

variable [DecidableEq E]

omit [DecidableEq E] in
/-- In a list made of blocks for distinct keys, the part for one key is its
block. -/
theorem filter_flatMap_key {keys : List K} (hnodup : keys.Nodup)
    {block : K → List (KeyOperation K E)}
    (hblock : ∀ key, ∀ operation ∈ block key, operation.key = key) (k : K) :
    (keys.flatMap block).filter (fun operation => operation.key = k) =
      if k ∈ keys then block k else [] := by
  induction keys with
  | nil => rfl
  | cons head tail ih =>
      rw [List.nodup_cons] at hnodup
      rw [List.flatMap_cons, List.filter_append, ih hnodup.2]
      by_cases hk : k = head
      · subst hk
        have hself : (block k).filter (fun operation => operation.key = k) =
            block k := by
          rw [List.filter_eq_self]
          simpa using hblock k
        simp [hself, hnodup.1]
      · have hother : (block head).filter
            (fun operation => operation.key = k) = [] := by
          rw [List.filter_eq_nil_iff]
          intro operation hoperation hkey
          apply hk
          rw [← of_decide_eq_true hkey]
          exact hblock head operation hoperation
        simp [hother, hk]

omit [DecidableEq K] in
theorem diffAt_key {deleteMissing : Bool}
    {change : E → E → List (OperationType × E)} {key : K}
    {base target : Option E} {operation : KeyOperation K E}
    (hmem : operation ∈ diffAt deleteMissing change key base target) :
    operation.key = key := by
  unfold diffAt at hmem
  split at hmem
  · split at hmem <;> simp_all
  · simp_all
  · split at hmem
    · obtain ⟨step, -, rfl⟩ := List.mem_map.mp hmem
      rfl
    · simp at hmem
  · simp at hmem

omit [DecidableEq K] [DecidableEq E] in
/-- What is in a list of blocks for distinct keys stands next to the rest of its
block. -/
theorem exists_flatMap_split {keys : List K} (hnodup : keys.Nodup)
    {block : K → List (KeyOperation K E)}
    (hblock : ∀ key, ∀ operation ∈ block key, operation.key = key) {key : K}
    (hkey : key ∈ keys) :
    ∃ before after, keys.flatMap block = before ++ block key ++ after ∧
      ∀ operation ∈ before ++ after, operation.key ≠ key := by
  obtain ⟨front, back, rfl⟩ := List.append_of_mem hkey
  refine ⟨front.flatMap block, back.flatMap block, by simp, ?_⟩
  intro operation hmem heq
  rw [← List.flatMap_append, List.mem_flatMap] at hmem
  obtain ⟨other, hother, hoperation⟩ := hmem
  rw [hblock other operation hoperation] at heq
  rw [heq] at hother
  rw [List.nodup_middle, List.nodup_cons] at hnodup
  exact hnodup.1 hother

/-- The keys that a diff goes through, in order. -/
def diffKeys (sets : SetOrder K) (deleteMissing : Bool) (base target : AList fun _ : K => E) :
    List K :=
  (if deleteMissing then sets.order (base.keys.filter fun key => key ∉ target) else []) ++
    sets.order (target.keys.filter fun key => key ∉ base) ++
    sets.order (target.keys.filter fun key =>
      key ∈ base ∧ target.lookup key ≠ base.lookup key)

theorem diff_eq_flatMap (sets : SetOrder K) (deleteMissing : Bool)
    (change : E → E → List (OperationType × E)) (base target : AList fun _ : K => E) :
    diff sets deleteMissing change base target =
      (diffKeys sets deleteMissing base target).flatMap fun key =>
        diffAt deleteMissing change key (base.lookup key) (target.lookup key) := by
  rw [diff, diffKeys, List.flatMap_append, List.flatMap_append]
  cases deleteMissing <;> rfl

theorem mem_diffKeys {sets : SetOrder K} {deleteMissing : Bool}
    {base target : AList fun _ : K => E} {key : K} :
    key ∈ diffKeys sets deleteMissing base target ↔
      deleteMissing = true ∧ key ∈ base ∧ key ∉ target ∨ key ∈ target ∧ key ∉ base ∨
        key ∈ target ∧ key ∈ base ∧ target.lookup key ≠ base.lookup key := by
  cases deleteMissing <;>
    simp [diffKeys, (sets.perm _).mem_iff, AList.mem_keys]

theorem diffKeys_nodup (sets : SetOrder K) (deleteMissing : Bool)
    (base target : AList fun _ : K => E) :
    (diffKeys sets deleteMissing base target).Nodup := by
  have hpart : ∀ (dict : AList fun _ : K => E) (p : K → Bool),
      (sets.order (dict.keys.filter p)).Nodup := fun dict p =>
    (sets.perm _).nodup_iff.mpr (dict.keys_nodup.filter p)
  have hmem : ∀ {dict : AList fun _ : K => E} {p : K → Bool} {key : K},
      key ∈ sets.order (dict.keys.filter p) → key ∈ dict ∧ p key = true := by
    intro dict p key hkey
    simpa [(sets.perm _).mem_iff, AList.mem_keys] using hkey
  rw [diffKeys, List.append_assoc, List.nodup_append, List.nodup_append]
  refine ⟨?_, ⟨hpart target _, hpart target _, ?_⟩, ?_⟩
  · cases deleteMissing with
    | false => exact List.nodup_nil
    | true => exact hpart base _
  · rintro key hkey other hother rfl
    have hnew := (hmem hkey).2
    have hupdated := (hmem hother).2
    simp_all
  · rintro key hkey other hother rfl
    cases deleteMissing with
    | false => simp at hkey
    | true =>
        have hdeleted := (hmem hkey).2
        rcases List.mem_append.mp hother with hnew | hupdated
        · have hnew := (hmem hnew).1
          simp_all
        · have hupdated := (hmem hupdated).1
          simp_all

theorem diffAt_eq_nil_of_notMem {sets : SetOrder K} {deleteMissing : Bool}
    {change : E → E → List (OperationType × E)} {base target : AList fun _ : K => E} {key : K}
    (hkey : key ∉ diffKeys sets deleteMissing base target) :
    diffAt deleteMissing change key (base.lookup key) (target.lookup key) = [] := by
  rw [mem_diffKeys, ← AList.lookup_isSome, ← AList.lookup_isSome] at hkey
  cases hbase : base.lookup key with
  | none =>
      cases htarget : target.lookup key with
      | none => rfl
      | some next => simp [hbase, htarget] at hkey
  | some old =>
      cases htarget : target.lookup key with
      | none =>
          have hkept : deleteMissing = false := by simpa [hbase, htarget] using hkey
          simp [diffAt, hkept]
      | some next =>
          have heq : next = old := by simpa [hbase, htarget] using hkey
          simp [diffAt, heq]

/-- The operations of a diff for one key depend on the two elements of that key
alone. -/
theorem diff_filter_key (sets : SetOrder K) (deleteMissing : Bool)
    (change : E → E → List (OperationType × E))
    (base target : AList fun _ : K => E) (k : K) :
    (diff sets deleteMissing change base target).filter
        (fun operation => operation.key = k) =
      diffAt deleteMissing change k (base.lookup k) (target.lookup k) := by
  rw [diff_eq_flatMap, filter_flatMap_key (diffKeys_nodup sets deleteMissing base target)
    fun key operation hmem => diffAt_key hmem]
  split
  · rfl
  · next hkey => exact (diffAt_eq_nil_of_notMem hkey).symm

/-- They stand next to one another. -/
theorem exists_diff_split (sets : SetOrder K) (deleteMissing : Bool)
    (change : E → E → List (OperationType × E)) (base target : AList fun _ : K => E) (k : K) :
    ∃ before after, diff sets deleteMissing change base target =
        before ++ diffAt deleteMissing change k (base.lookup k) (target.lookup k) ++ after ∧
      ∀ operation ∈ before ++ after, operation.key ≠ k := by
  by_cases hkey : k ∈ diffKeys sets deleteMissing base target
  · rw [diff_eq_flatMap]
    exact exists_flatMap_split (diffKeys_nodup sets deleteMissing base target)
      (fun key operation hmem => diffAt_key hmem) hkey
  · rw [diffAt_eq_nil_of_notMem hkey]
    refine ⟨[], _, rfl, ?_⟩
    intro operation hmem heq
    have hfilter := diff_filter_key sets deleteMissing change base target k
    rw [diffAt_eq_nil_of_notMem hkey, List.filter_eq_nil_iff] at hfilter
    exact hfilter operation hmem (decide_eq_true heq)

/-- Every operation of a diff is one that its key asks for. -/
theorem mem_diff {sets : SetOrder K} {deleteMissing : Bool}
    {change : E → E → List (OperationType × E)}
    {base target : AList fun _ : K => E} {operation : KeyOperation K E} :
    operation ∈ diff sets deleteMissing change base target ↔
      operation ∈ diffAt deleteMissing change operation.key
        (base.lookup operation.key) (target.lookup operation.key) := by
  rw [← diff_filter_key sets]
  simp

section Recreate

variable {sets : SetOrder K} {deleteMissing : Bool} {recreate : E → E → Bool}
  {base target : AList fun _ : K => E} {key : K} {elem : E}

theorem mem_diff_delete :
    ⟨.delete, key, elem⟩ ∈ diff sets deleteMissing (recreateOrUpdate recreate) base target ↔
      base.lookup key = some elem ∧
        (deleteMissing = true ∧ target.lookup key = none ∨
          ∃ next, target.lookup key = some next ∧ next ≠ elem ∧ recreate elem next = true) := by
  rw [mem_diff]
  cases hbase : base.lookup key with
  | none => cases htarget : target.lookup key <;> simp [diffAt]
  | some old =>
      cases htarget : target.lookup key with
      | none => grind [diffAt]
      | some next => grind [diffAt, recreateOrUpdate]

theorem mem_diff_create :
    ⟨.create, key, elem⟩ ∈ diff sets deleteMissing (recreateOrUpdate recreate) base target ↔
      target.lookup key = some elem ∧
        ∀ old, base.lookup key = some old → elem ≠ old ∧ recreate old elem = true := by
  rw [mem_diff]
  cases hbase : base.lookup key with
  | none => cases htarget : target.lookup key <;> grind [diffAt]
  | some old =>
      cases htarget : target.lookup key with
      | none => grind [diffAt]
      | some next => grind [diffAt, recreateOrUpdate]

theorem mem_diff_update :
    ⟨.update, key, elem⟩ ∈ diff sets deleteMissing (recreateOrUpdate recreate) base target ↔
      target.lookup key = some elem ∧
        ∃ old, base.lookup key = some old ∧ elem ≠ old ∧ recreate old elem = false := by
  rw [mem_diff]
  cases hbase : base.lookup key with
  | none => cases htarget : target.lookup key <;> simp [diffAt]
  | some old =>
      cases htarget : target.lookup key with
      | none => grind [diffAt]
      | some next => grind [diffAt, recreateOrUpdate]

/-- No key has two operations of one type. -/
theorem diff_keys_nodup (sets : SetOrder K) (deleteMissing : Bool) (recreate : E → E → Bool)
    (base target : AList fun _ : K => E) (operationType : OperationType) :
    (((diff sets deleteMissing (recreateOrUpdate recreate) base target).filter
      fun operation => operation.operationType = operationType).map KeyOperation.key).Nodup := by
  rw [List.nodup_iff_count_le_one]
  intro key
  rw [count_map_eq_length_filter, List.filter_comm, diff_filter_key]
  simp only [diffAt, recreateOrUpdate]
  cases operationType <;> (repeat' split) <;> simp

end Recreate

end Diff

section Patch

/-- What an operation makes of the element under its key.  Only an absent
element can be created, and only a present one updated or deleted. -/
def applyAt (current : Option E) (operation : KeyOperation K E) : Option (Option E) :=
  match operation.operationType, current with
  | .create, none => some (some operation.payload)
  | .update, some _ => some (some operation.payload)
  | .delete, some _ => some none
  | _, _ => none

def applyOperation (dict : AList fun _ : K => E) (operation : KeyOperation K E) :
    Option (AList fun _ : K => E) :=
  (applyAt (dict.lookup operation.key) operation).map fun next =>
    match next with
    | some elem => dict.insert operation.key elem
    | none => dict.erase operation.key

/-- Applying an operation changes the element under its key alone. -/
theorem exists_applyOperation {dict : AList fun _ : K => E} {operation : KeyOperation K E}
    {next : Option E} (hnext : applyAt (dict.lookup operation.key) operation = some next) :
    ∃ changed, applyOperation dict operation = some changed ∧
      changed.lookup operation.key = next ∧
      ∀ key, key ≠ operation.key → changed.lookup key = dict.lookup key := by
  rw [applyOperation, hnext]
  cases next with
  | none =>
      refine ⟨_, rfl, AList.lookup_erase _ dict, ?_⟩
      intro key hne
      exact AList.lookup_erase_ne hne
  | some elem =>
      refine ⟨_, rfl, AList.lookup_insert dict, ?_⟩
      intro key hne
      exact AList.lookup_insert_ne hne

/-- A patch works when it works for each key on its own. -/
theorem attempt_applyOperation {operations : List (KeyOperation K E)}
    {dict : AList fun _ : K => E} {final : K → Option E}
    (hkeys : ∀ key, attempt applyAt (dict.lookup key)
      (operations.filter fun operation => operation.key = key) = some (final key)) :
    ∃ patched, attempt applyOperation dict operations = some patched ∧
      ∀ key, patched.lookup key = final key := by
  induction operations generalizing dict with
  | nil =>
      refine ⟨dict, rfl, ?_⟩
      intro key
      exact Option.some.inj (hkeys key)
  | cons operation rest ih =>
      have hhead := hkeys operation.key
      rw [List.filter_cons_of_pos (by simp), attempt_cons, Option.bind_eq_some_iff] at hhead
      obtain ⟨next, hnext, hrest⟩ := hhead
      obtain ⟨changed, happlied, hself, hother⟩ := exists_applyOperation hnext
      have hchanged : ∀ key, attempt applyAt (changed.lookup key)
          (rest.filter fun operation => operation.key = key) = some (final key) := by
        intro key
        by_cases hkey : key = operation.key
        · rw [hkey, hself]
          exact hrest
        · rw [hother key hkey, ← hkeys key, List.filter_cons_of_neg]
          simpa using fun heq => hkey heq.symm
      obtain ⟨patched, hpatched, hlookup⟩ := ih hchanged
      refine ⟨patched, ?_, hlookup⟩
      rw [attempt_cons, happlied]
      exact hpatched

variable [DecidableEq E]

omit [DecidableEq K] in
/-- The operations for one key turn its base element into its target element. -/
theorem attempt_diffAt (deleteMissing : Bool) (recreate : E → E → Bool) (key : K)
    (base target : Option E) :
    attempt applyAt base (diffAt deleteMissing (recreateOrUpdate recreate) key base target) =
      some (target.or (if deleteMissing then none else base)) := by
  cases base with
  | none =>
      cases target with
      | none => simp [diffAt]
      | some next => rfl
  | some old =>
      cases target with
      | none => cases deleteMissing <;> rfl
      | some next =>
          by_cases heq : next = old
          · simp [diffAt, heq]
          · cases hrecreate : recreate old next <;>
              simp [diffAt, recreateOrUpdate, heq, hrecreate, attempt_cons, applyAt]

/-- A diff is a patch from its base to its target. -/
theorem attempt_diff (sets : SetOrder K) (deleteMissing : Bool) (recreate : E → E → Bool)
    (base target : AList fun _ : K => E) :
    ∃ patched,
      attempt applyOperation base
        (diff sets deleteMissing (recreateOrUpdate recreate) base target) = some patched ∧
      ∀ key, patched.lookup key =
        (target.lookup key).or (if deleteMissing then none else base.lookup key) := by
  apply attempt_applyOperation
  intro key
  rw [diff_filter_key]
  exact attempt_diffAt deleteMissing recreate key _ _

theorem diff_self (sets : SetOrder K) (deleteMissing : Bool)
    (change : E → E → List (OperationType × E)) (base : AList fun _ : K => E) :
    diff sets deleteMissing change base base = [] := by
  rw [List.eq_nil_iff_forall_not_mem]
  intro operation hmem
  rw [mem_diff] at hmem
  cases hbase : base.lookup operation.key with
  | none => simp [hbase, diffAt] at hmem
  | some elem => simp [hbase, diffAt] at hmem

end Patch

end KeyedDiff
