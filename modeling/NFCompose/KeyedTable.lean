/-
Tables with one row for each key, on top of association lists without duplicate
keys: removing the rows that meet a condition, and changing rows one by one
where a change may be refused.
-/
import Mathlib.Data.List.AList
import Mathlib.Data.Option.Basic

namespace KeyedTable

universe u v

variable {K : Type u} {R : Type v} [DecidableEq K]

/-- `DELETE FROM ... WHERE`. -/
def deleteWhere (p : K → R → Bool) (table : AList fun _ : K => R) :
    AList fun _ : K => R :=
  ⟨table.entries.filter fun entry => !p entry.1 entry.2,
    table.nodupKeys.sublist List.filter_sublist⟩

theorem mem_entries_iff {table : AList fun _ : K => R} {key : K} {row : R} :
    ⟨key, row⟩ ∈ table.entries ↔ table.lookup key = some row := by
  rw [AList.lookup, ← Option.mem_def, List.mem_dlookup_iff table.nodupKeys]

/-- A row is still there unless it met the condition. -/
theorem lookup_deleteWhere (p : K → R → Bool) (table : AList fun _ : K => R)
    {key : K} {row : R} :
    (deleteWhere p table).lookup key = some row ↔
      table.lookup key = some row ∧ p key row = false := by
  rw [← mem_entries_iff, ← mem_entries_iff]
  simp [deleteWhere]

/-- `UPDATE`: every row may change, under its key. -/
def mapRows (change : K → R → R) (table : AList fun _ : K => R) : AList fun _ : K => R :=
  ⟨table.entries.map fun entry => ⟨entry.1, change entry.1 entry.2⟩, by
    have hkeys : (table.entries.map fun entry : (_ : K) × R =>
        (⟨entry.1, change entry.1 entry.2⟩ : (_ : K) × R)).keys = table.entries.keys := by
      simp [List.keys, List.map_map, Function.comp_def]
    rw [List.NodupKeys, hkeys]
    exact table.nodupKeys⟩

theorem lookup_mapRows (change : K → R → R) (table : AList fun _ : K => R) (key : K) :
    (mapRows change table).lookup key = (table.lookup key).map (change key) := by
  have hentries : ∀ row, (mapRows change table).lookup key = some row ↔
      (table.lookup key).map (change key) = some row := by
    intro row
    rw [← mem_entries_iff, Option.map_eq_some_iff]
    simp only [mapRows, List.mem_map, ← mem_entries_iff]
    constructor
    · rintro ⟨entry, hentry, heq⟩
      cases heq
      exact ⟨entry.2, hentry, rfl⟩
    · rintro ⟨old, hold, rfl⟩
      exact ⟨⟨key, old⟩, hold, rfl⟩
  exact Option.ext fun row => hentries row

/-- A change of the row under a key.  It is refused when there is none. -/
def modifyAt (change : R → Option R) (key : K) (table : AList fun _ : K => R) :
    Option (AList fun _ : K => R) :=
  (table.lookup key).bind fun row => (change row).map fun changed => table.insert key changed

/-- The changes one after the other, each for a row of its own. -/
def modifyEach (changes : List (K × (R → Option R))) (table : AList fun _ : K => R) :
    Option (AList fun _ : K => R) :=
  changes.foldlM (fun table change => modifyAt change.2 change.1 table) table

theorem modifyAt_isSome {change : R → Option R} {key : K} {table : AList fun _ : K => R} :
    (modifyAt change key table).isSome ↔ ((table.lookup key).bind change).isSome := by
  cases hrow : table.lookup key <;> simp [modifyAt, hrow]

theorem lookup_modifyAt {change : R → Option R} {key : K}
    {table changed : AList fun _ : K => R} (hchanged : modifyAt change key table = some changed)
    (other : K) :
    changed.lookup other =
      if other = key then (table.lookup key).bind change else table.lookup other := by
  rw [modifyAt, Option.bind_eq_some_iff] at hchanged
  obtain ⟨row, hrow, hchanged⟩ := hchanged
  rw [Option.map_eq_some_iff] at hchanged
  obtain ⟨row', hrow', rfl⟩ := hchanged
  by_cases hother : other = key
  · subst hother
    rw [if_pos rfl, hrow, Option.bind_some, hrow', AList.lookup_insert]
  · rw [if_neg hother, AList.lookup_insert_ne hother]

/-- Changes of different rows do not disturb each other. -/
theorem modifyEach_isSome {changes : List (K × (R → Option R))}
    (hnodup : (changes.map Prod.fst).Nodup) (table : AList fun _ : K => R) :
    (modifyEach changes table).isSome ↔
      ∀ change ∈ changes, ((table.lookup change.1).bind change.2).isSome := by
  induction changes generalizing table with
  | nil => simp [modifyEach]
  | cons change rest ih =>
      rw [List.map_cons, List.nodup_cons] at hnodup
      have hcons : modifyEach (change :: rest) table =
          (modifyAt change.2 change.1 table).bind (modifyEach rest) := rfl
      rw [hcons, List.forall_mem_cons, ← modifyAt_isSome]
      cases hchanged : modifyAt change.2 change.1 table with
      | none => simp
      | some changed =>
          rw [Option.bind_some, ih hnodup.2]
          have hsame : ∀ other ∈ rest, changed.lookup other.1 = table.lookup other.1 := by
            intro other hother
            have hne : other.1 ≠ change.1 := by
              intro heq
              exact hnodup.1 (heq ▸ List.mem_map_of_mem hother)
            rw [lookup_modifyAt hchanged, if_neg hne]
          constructor
          · intro hall
            refine ⟨rfl, fun other hother => ?_⟩
            rw [← hsame other hother]
            exact hall other hother
          · rintro ⟨-, hall⟩ other hother
            rw [hsame other hother]
            exact hall other hother

theorem lookup_modifyEach_of_not_mem {changes : List (K × (R → Option R))}
    {table changed : AList fun _ : K => R} (hchanged : modifyEach changes table = some changed)
    {key : K} (hkey : key ∉ changes.map Prod.fst) :
    changed.lookup key = table.lookup key := by
  induction changes generalizing table with
  | nil =>
      obtain rfl : table = changed := Option.some.inj hchanged
      rfl
  | cons change rest ih =>
      rw [List.map_cons, List.mem_cons, not_or] at hkey
      have hcons : modifyEach (change :: rest) table =
          (modifyAt change.2 change.1 table).bind (modifyEach rest) := rfl
      rw [hcons, Option.bind_eq_some_iff] at hchanged
      obtain ⟨next, hnext, hchanged⟩ := hchanged
      rw [ih hchanged hkey.2, lookup_modifyAt hnext, if_neg hkey.1]

theorem lookup_modifyEach {changes : List (K × (R → Option R))}
    (hnodup : (changes.map Prod.fst).Nodup) {table changed : AList fun _ : K => R}
    (hchanged : modifyEach changes table = some changed) {change : K × (R → Option R)}
    (hmem : change ∈ changes) :
    changed.lookup change.1 = (table.lookup change.1).bind change.2 := by
  induction changes generalizing table with
  | nil => simp at hmem
  | cons head rest ih =>
      rw [List.map_cons, List.nodup_cons] at hnodup
      have hcons : modifyEach (head :: rest) table =
          (modifyAt head.2 head.1 table).bind (modifyEach rest) := rfl
      rw [hcons, Option.bind_eq_some_iff] at hchanged
      obtain ⟨next, hnext, hchanged⟩ := hchanged
      rcases List.mem_cons.mp hmem with rfl | hmem
      · rw [lookup_modifyEach_of_not_mem hchanged hnodup.1, lookup_modifyAt hnext, if_pos rfl]
      · have hne : change.1 ≠ head.1 := by
          intro heq
          exact hnodup.1 (heq ▸ List.mem_map_of_mem hmem)
        rw [ih hnodup.2 hchanged hmem, lookup_modifyAt hnext, if_neg hne]

section Keys

variable {keys : List K} (hnodup : keys.Nodup) (change : K → R → Option R)
  {table changed : AList fun _ : K => R}

include hnodup

theorem modifyEach_keys_isSome :
    (modifyEach (keys.map fun key => (key, change key)) table).isSome ↔
      ∀ key ∈ keys, ((table.lookup key).bind (change key)).isSome := by
  have hkeys : (keys.map fun key => (key, change key)).map Prod.fst = keys := by
    rw [List.map_map]
    exact List.map_id keys
  rw [modifyEach_isSome (hkeys.symm ▸ hnodup), List.forall_mem_map]

theorem lookup_modifyEach_keys
    (hchanged : modifyEach (keys.map fun key => (key, change key)) table = some changed)
    (key : K) :
    changed.lookup key =
      if key ∈ keys then (table.lookup key).bind (change key) else table.lookup key := by
  have hkeys : (keys.map fun key => (key, change key)).map Prod.fst = keys := by
    rw [List.map_map]
    exact List.map_id keys
  by_cases hkey : key ∈ keys
  · rw [if_pos hkey]
    exact lookup_modifyEach (hkeys.symm ▸ hnodup) hchanged (List.mem_map_of_mem hkey)
  · rw [if_neg hkey]
    exact lookup_modifyEach_of_not_mem hchanged (hkeys.symm ▸ hkey)

end Keys

theorem lookup_foldl_erase (keys : List K) (table : AList fun _ : K => R) (key : K) :
    (keys.foldl (fun table key => table.erase key) table).lookup key =
      if key ∈ keys then none else table.lookup key := by
  induction keys generalizing table with
  | nil => rfl
  | cons head tail ih =>
      rw [List.foldl_cons, ih]
      by_cases hhead : key = head
      · subst hhead
        simp
      · simp [hhead, AList.lookup_erase_ne hhead]

end KeyedTable
