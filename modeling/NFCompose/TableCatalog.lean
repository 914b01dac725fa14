/-
The tables of a database with their columns, and the statements that change them.  A statement
may pass over what is there already or is gone, but a column is only added to or dropped from a
table that exists.
-/
import NFCompose.KeyedTable

namespace TableCatalog

universe u v w

variable {N : Type u} {C : Type v} {T : Type w} [DecidableEq N] [DecidableEq C]

/-- The columns of a table with their types. -/
abbrev Columns (C : Type v) (T : Type w) := AList fun _ : C => T

abbrev Catalog (N : Type u) (C : Type v) (T : Type w) := AList fun _ : N => Columns C T

def addIfAbsent (columns : Columns C T) (column : C × T) : Columns C T :=
  if column.1 ∈ columns then columns else columns.insert column.1 column.2

/-- `CREATE TABLE IF NOT EXISTS`. -/
def createTable (name : N) (columns : Columns C T) (catalog : Catalog N C T) : Catalog N C T :=
  if name ∈ catalog then catalog else catalog.insert name columns

/-- `ALTER TABLE ... ADD COLUMN IF NOT EXISTS`. -/
def addColumn (name : N) (column : C × T) : Catalog N C T → Option (Catalog N C T) :=
  KeyedTable.modifyAt (fun columns => some (addIfAbsent columns column)) name

/-- `ALTER TABLE ... DROP COLUMN IF EXISTS`. -/
def dropColumn (name : N) (column : C) : Catalog N C T → Option (Catalog N C T) :=
  KeyedTable.modifyAt (fun columns => some (columns.erase column)) name

/-- `DROP TABLE IF EXISTS`. -/
def dropTable (name : N) (catalog : Catalog N C T) : Catalog N C T := catalog.erase name

/-- Statements that are committed one by one, up to the first that fails. -/
def committed {S : Type u} : List (S → Option S) → S → S × Bool
  | [], state => (state, true)
  | statement :: rest, state =>
      match statement state with
      | none => (state, false)
      | some next => committed rest next

section Lookups

variable {name other : N} {catalog changed : Catalog N C T}

theorem lookup_addIfAbsent (columns : Columns C T) (column : C × T) (key : C) :
    (addIfAbsent columns column).lookup key =
      if key = column.1 then some ((columns.lookup key).getD column.2)
      else columns.lookup key := by
  by_cases hkey : key = column.1
  · subst hkey
    by_cases hmem : column.1 ∈ columns
    · obtain ⟨type, htype⟩ := Option.isSome_iff_exists.mp (AList.lookup_isSome.mpr hmem)
      simp [addIfAbsent, hmem, htype]
    · simp [addIfAbsent, hmem, AList.lookup_eq_none.mpr hmem]
  · by_cases hmem : column.1 ∈ columns <;> simp [addIfAbsent, hmem, hkey]

theorem mem_addIfAbsent {columns : Columns C T} {column : C × T} {key : C} :
    key ∈ addIfAbsent columns column ↔ key = column.1 ∨ key ∈ columns := by
  rw [← AList.lookup_isSome, lookup_addIfAbsent]
  by_cases hkey : key = column.1 <;> simp [hkey, AList.lookup_isSome]

omit [DecidableEq C] in
theorem lookup_createTable (name : N) (columns : Columns C T) (catalog : Catalog N C T)
    (other : N) :
    (createTable name columns catalog).lookup other =
      if other = name then some ((catalog.lookup other).getD columns)
      else catalog.lookup other := by
  by_cases hother : other = name
  · subst hother
    by_cases hmem : other ∈ catalog
    · obtain ⟨found, hfound⟩ := Option.isSome_iff_exists.mp (AList.lookup_isSome.mpr hmem)
      simp [createTable, hmem, hfound]
    · simp [createTable, hmem, AList.lookup_eq_none.mpr hmem]
  · by_cases hmem : name ∈ catalog <;> simp [createTable, hmem, hother]

theorem lookup_addColumn {column : C × T} (hchanged : addColumn name column catalog = some changed)
    (other : N) :
    changed.lookup other =
      if other = name then (catalog.lookup name).map fun columns => addIfAbsent columns column
      else catalog.lookup other := by
  rw [KeyedTable.lookup_modifyAt hchanged, Option.map_eq_bind]
  rfl

theorem lookup_dropColumn {column : C} (hchanged : dropColumn name column catalog = some changed)
    (other : N) :
    changed.lookup other =
      if other = name then (catalog.lookup name).map fun columns => columns.erase column
      else catalog.lookup other := by
  rw [KeyedTable.lookup_modifyAt hchanged, Option.map_eq_bind]
  rfl

theorem addColumn_isSome (column : C × T) :
    (addColumn name column catalog).isSome ↔ name ∈ catalog := by
  rw [addColumn, KeyedTable.modifyAt_isSome, ← AList.lookup_isSome]
  cases catalog.lookup name <;> simp

theorem dropColumn_isSome (column : C) :
    (dropColumn name column catalog).isSome ↔ name ∈ catalog := by
  rw [dropColumn, KeyedTable.modifyAt_isSome, ← AList.lookup_isSome]
  cases catalog.lookup name <;> simp

omit [DecidableEq C] in
theorem lookup_dropTable (name : N) (catalog : Catalog N C T) (other : N) :
    (dropTable name catalog).lookup other =
      if other = name then none else catalog.lookup other := by
  by_cases hother : other = name
  · subst hother
    simp [dropTable]
  · simp [dropTable, hother, AList.lookup_erase_ne hother]

end Lookups

section Columns

/-- Columns that are added to a table one after the other do not disturb each other. -/
theorem lookup_foldl_addIfAbsent (added : List (C × T)) (columns : Columns C T) (key : C) :
    (added.foldl addIfAbsent columns).lookup key =
      (columns.lookup key).or ((added.find? fun column => column.1 = key).map Prod.snd) := by
  induction added generalizing columns with
  | nil => simp
  | cons column rest ih =>
      rw [List.foldl_cons, ih, lookup_addIfAbsent]
      by_cases hkey : key = column.1
      · subst hkey
        cases columns.lookup column.1 <;> simp
      · simp [hkey, Ne.symm hkey]

/-- All columns go into a table that is there. -/
theorem foldlM_addColumn {name : N} {catalog : Catalog N C T} {columns : Columns C T}
    (hname : catalog.lookup name = some columns) (added : List (C × T)) :
    ∃ changed, added.foldlM (fun catalog column => addColumn name column catalog) catalog =
        some changed ∧
      changed.lookup name = some (added.foldl addIfAbsent columns) ∧
      ∀ other, other ≠ name → changed.lookup other = catalog.lookup other := by
  induction added generalizing catalog columns with
  | nil => exact ⟨catalog, rfl, hname, fun _ _ => rfl⟩
  | cons column rest ih =>
      have hmem : name ∈ catalog := AList.lookup_isSome.mp (by simp [hname])
      obtain ⟨next, hnext⟩ := Option.isSome_iff_exists.mp
        ((addColumn_isSome column).mpr hmem)
      have hcolumns : next.lookup name = some (addIfAbsent columns column) := by
        rw [lookup_addColumn hnext, if_pos rfl, hname, Option.map_some]
      obtain ⟨changed, hchanged, hlookup, hothers⟩ := ih hcolumns
      refine ⟨changed, ?_, hlookup, fun other hother => ?_⟩
      · rw [List.foldlM_cons, hnext]
        exact hchanged
      · rw [hothers other hother, lookup_addColumn hnext, if_neg hother]

end Columns

section Several

variable {A : Type u} (table : A → N)

omit [DecidableEq C] in
theorem lookup_foldl_createTable_of_ne (columns : A → Columns C T) {name : N} {items : List A}
    (hne : ∀ item ∈ items, table item ≠ name) (catalog : Catalog N C T) :
    (items.foldl (fun catalog item => createTable (table item) (columns item) catalog)
      catalog).lookup name = catalog.lookup name := by
  induction items generalizing catalog with
  | nil => rfl
  | cons item rest ih =>
      obtain ⟨hitem, hrest⟩ := List.forall_mem_cons.mp hne
      rw [List.foldl_cons, ih hrest, lookup_createTable, if_neg (Ne.symm hitem)]

omit [DecidableEq C] in
theorem lookup_foldl_createTable (columns : A → Columns C T)
    (hinj : ∀ item other, table item = table other → item = other) {items : List A}
    (hnodup : items.Nodup) {item : A} (hitem : item ∈ items) (catalog : Catalog N C T) :
    (items.foldl (fun catalog item => createTable (table item) (columns item) catalog)
      catalog).lookup (table item) =
        some ((catalog.lookup (table item)).getD (columns item)) := by
  induction items generalizing catalog with
  | nil => simp at hitem
  | cons head rest ih =>
      rw [List.nodup_cons] at hnodup
      rw [List.foldl_cons]
      rcases List.mem_cons.mp hitem with rfl | hrest
      · have hne : ∀ other ∈ rest, table other ≠ table item := by
          intro other hother heq
          exact hnodup.1 (hinj _ _ heq ▸ hother)
        rw [lookup_foldl_createTable_of_ne table columns hne, lookup_createTable, if_pos rfl]
      · have hne : table item ≠ table head := by
          intro heq
          exact hnodup.1 (hinj _ _ heq ▸ hrest)
        rw [ih hnodup.2 hrest, lookup_createTable, if_neg hne]

/-- One column for several tables. -/
theorem lookup_foldlM_addColumn {names : List N} (hnodup : names.Nodup) {column : C × T}
    {catalog changed : Catalog N C T}
    (hchanged : names.foldlM (fun catalog name => addColumn name column catalog) catalog =
      some changed) (name : N) :
    changed.lookup name =
      if name ∈ names then (catalog.lookup name).map fun columns => addIfAbsent columns column
      else catalog.lookup name := by
  have heach : KeyedTable.modifyEach (names.map fun name =>
      (name, fun columns => some (addIfAbsent columns column))) catalog = some changed := by
    rw [KeyedTable.modifyEach, List.foldlM_map]
    exact hchanged
  rw [KeyedTable.lookup_modifyEach_keys hnodup
    (fun _ columns => some (addIfAbsent columns column)) heach, Option.map_eq_bind]
  rfl

omit [DecidableEq C] in
theorem lookup_foldl_dropTable (names : List N) (catalog : Catalog N C T) (name : N) :
    (names.foldl (fun catalog name => dropTable name catalog) catalog).lookup name =
      if name ∈ names then none else catalog.lookup name :=
  KeyedTable.lookup_foldl_erase names catalog name

end Several

section Dropped

theorem erase_of_notMem {columns : Columns C T} {column : C} (hcolumn : column ∉ columns) :
    columns.erase column = columns :=
  AList.ext (List.kerase_of_notMem_keys fun hmem => hcolumn (AList.mem_keys.mpr hmem))

variable (column : C) (names : List N) (catalog : Catalog N C T)

/-- `DROP COLUMN IF EXISTS` on one table after the other. -/
def dropColumns : Catalog N C T × Bool :=
  committed (names.map fun name => dropColumn name column) catalog

/-- A table either keeps its columns or loses the one, and loses it when all statements go
through. -/
theorem lookup_dropColumns (name : N) :
    ∃ dropped : Bool,
      (dropColumns column names catalog).1.lookup name =
          (catalog.lookup name).map (fun columns =>
            if dropped then columns.erase column else columns) ∧
        (dropped = true → name ∈ names) ∧
        ((dropColumns column names catalog).2 = true → name ∈ names → dropped = true) := by
  induction names generalizing catalog with
  | nil => exact ⟨false, by simp [dropColumns, committed], by simp, by simp⟩
  | cons head rest ih =>
      cases hnext : dropColumn head column catalog with
      | none =>
          have hstops : dropColumns column (head :: rest) catalog = (catalog, false) := by
            simp [dropColumns, committed, hnext]
          rw [hstops]
          exact ⟨false, by simp, by simp, by simp⟩
      | some next =>
          have hgoes : dropColumns column (head :: rest) catalog =
              dropColumns column rest next := by
            simp [dropColumns, committed, hnext]
          rw [hgoes]
          obtain ⟨dropped, hlookup, hmem, hdropped⟩ := ih next
          rw [lookup_dropColumn hnext] at hlookup
          by_cases hhead : name = head
          · subst hhead
            refine ⟨true, ?_, fun _ => List.mem_cons_self, fun _ _ => rfl⟩
            rw [hlookup, if_pos rfl, Option.map_map]
            refine Option.map_congr fun columns _ => ?_
            cases dropped with
            | false => rfl
            | true => exact erase_of_notMem (by simp [AList.mem_erase])
          · rw [if_neg hhead] at hlookup
            refine ⟨dropped, hlookup, fun h => List.mem_cons_of_mem head (hmem h), ?_⟩
            intro hall hname
            exact hdropped hall ((List.mem_cons.mp hname).resolve_left hhead)

theorem dropColumns_goes_through (hnames : ∀ name ∈ names, name ∈ catalog) :
    (dropColumns column names catalog).2 = true := by
  induction names generalizing catalog with
  | nil => rfl
  | cons head rest ih =>
      obtain ⟨hhead, hrest⟩ := List.forall_mem_cons.mp hnames
      obtain ⟨next, hnext⟩ := Option.isSome_iff_exists.mp
        ((dropColumn_isSome column).mpr hhead)
      have hkept : ∀ name ∈ rest, name ∈ next := by
        intro name hname
        have hmem := AList.lookup_isSome.mpr (hrest name hname)
        rw [← AList.lookup_isSome, lookup_dropColumn hnext]
        split
        · next heq =>
            subst heq
            simpa using hmem
        · exact hmem
      have hgoes : dropColumns column (head :: rest) catalog = dropColumns column rest next := by
        simp [dropColumns, committed, hnext]
      rw [hgoes]
      exact ih next hkept

end Dropped

end TableCatalog
