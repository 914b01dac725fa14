/-
SQL queries as far as their names go.  A text keeps its columns apart from the
rest of the SQL; a query is in scope when every column that it reads belongs to a
table that it reads from.
-/
import Mathlib.Data.List.Basic

namespace SqlQueries

/-- A part of a text; a column is written with the name of its table. -/
inductive Piece where
  | text (sql : String)
  | column (table column : String)
deriving DecidableEq, Repr

abbrev Fragment := List Piece

inductive SelectItem where
  | column (table column : String)
  | named (value : Fragment) (output : String)
deriving DecidableEq, Repr

def SelectItem.output : SelectItem → String
  | .column _ field => field
  | .named _ label => label

def SelectItem.fragment : SelectItem → Fragment
  | .column table field => [.column table field]
  | .named value _ => value

/-- A table that is read under an alias, or what a WITH defines. -/
inductive Source where
  | base (table label : String)
  | common (label : String)
deriving DecidableEq, Repr

def Source.name : Source → String
  | .base _ label => label
  | .common label => label

/-- A LEFT OUTER JOIN. -/
structure Join where
  source : Source
  condition : Fragment
deriving DecidableEq, Repr

/-- The rest of a query is what follows its joins. -/
inductive Query where
  | mk (withs : List (String × Query)) (select : List SelectItem) (source : Source)
      (joins : List Join) (rest : Fragment)

/-- The columns of the result. -/
def Query.outputs : Query → List String
  | .mk _ select _ _ _ => select.map SelectItem.output

section Text

def Piece.sql : Piece → String
  | .text part => part
  | .column table field => table ++ "." ++ field

def Fragment.sql (fragment : Fragment) : String := String.join (fragment.map Piece.sql)

def SelectItem.sql : SelectItem → String
  | .column table field => table ++ "." ++ field
  | .named value label => Fragment.sql value ++ " as " ++ label

def Source.sql : Source → String
  | .base table label => table ++ " " ++ label
  | .common label => label

def Join.sql (join : Join) : String :=
  "LEFT OUTER JOIN " ++ join.source.sql ++ " ON (" ++ Fragment.sql join.condition ++ ")\n"

mutual

/-- The text of a query. -/
def Query.sql : Query → String
  | .mk withs select source joins rest =>
      (if withs.isEmpty then "" else "WITH " ++ ",\n".intercalate (definitions withs) ++ "\n") ++
        "SELECT " ++ ",\n".intercalate (select.map SelectItem.sql) ++ "\nFROM " ++ source.sql ++
          "\n" ++ String.join (joins.map Join.sql) ++ Fragment.sql rest

def definitions : List (String × Query) → List String
  | [] => []
  | (name, query) :: others => (name ++ " AS (" ++ query.sql ++ ")") :: definitions others

end

example : (Query.mk [] [.named [.text "count(", .column "a" "id", .text ")"] "count"]
    (.base "t" "a") [⟨.base "t" "b", [.column "a" "id", .text " = ", .column "b" "id"]⟩]
    [.text "WHERE ", .column "b" "id", .text " IS NULL"]).sql =
      "SELECT count(a.id) as count\nFROM t a\n" ++
        "LEFT OUTER JOIN t b ON (a.id = b.id)\nWHERE b.id IS NULL" := rfl

theorem Fragment.sql_append (first second : Fragment) :
    Fragment.sql (first ++ second) = Fragment.sql first ++ Fragment.sql second := by
  rw [Fragment.sql, List.map_append, String.join_append]
  rfl

/-- Of a join only the text of its condition matters. -/
theorem Join.sql_congr {source : Source} {first second : Fragment}
    (hcondition : Fragment.sql first = Fragment.sql second) :
    Join.sql ⟨source, first⟩ = Join.sql ⟨source, second⟩ :=
  congrArg (fun sql => "LEFT OUTER JOIN " ++ source.sql ++ " ON (" ++ sql ++ ")\n") hcondition

/-- Queries with the same text, under the same names. -/
def SameDefinitions : List (String × Query) → List (String × Query) → Prop :=
  List.Forall₂ fun first second => first.1 = second.1 ∧ first.2.sql = second.2.sql

theorem definitions_congr {first second : List (String × Query)}
    (hsame : SameDefinitions first second) : definitions first = definitions second := by
  induction hsame with
  | nil => rfl
  | @cons entry other rest others hentry _ ih =>
      rw [definitions, definitions, hentry.1, hentry.2, ih]

theorem Query.sql_congr {withs withs' : List (String × Query)} {joins joins' : List Join}
    {rest rest' : Fragment} (hwiths : SameDefinitions withs withs')
    (hjoins : joins.map Join.sql = joins'.map Join.sql)
    (hrest : Fragment.sql rest = Fragment.sql rest') (select : List SelectItem)
    (source : Source) :
    (Query.mk withs select source joins rest).sql =
      (Query.mk withs' select source joins' rest').sql := by
  have hempty : withs.isEmpty = withs'.isEmpty := by
    cases hwiths with
    | nil => rfl
    | cons hentry hrest => rfl
  rw [Query.sql, Query.sql, definitions_congr hwiths, hempty, hjoins, hrest]

end Text

/-- What a WITH defines has the columns that it selects; the columns of the other
tables are not looked at. -/
def Source.Offers (withs : List (String × Query)) (column : String) : Source → Prop
  | .base _ _ => True
  | .common label => ∃ query, (label, query) ∈ withs ∧ column ∈ query.outputs

def Source.Defined (withs : List (String × Query)) : Source → Prop
  | .base _ _ => True
  | .common label => ∃ query, (label, query) ∈ withs

section Scoping

variable (withs : List (String × Query)) (sources : List Source)

def Readable (table column : String) : Prop :=
  ∃ source ∈ sources, source.name = table ∧ source.Offers withs column

def Scoped (fragment : Fragment) : Prop :=
  ∀ table column, .column table column ∈ fragment → Readable withs sources table column

/-- The condition of a join reads from the tables up to its own. -/
def JoinsScoped (withs : List (String × Query)) : List Source → List Join → Prop
  | _, [] => True
  | sources, join :: rest =>
      Scoped withs (sources ++ [join.source]) join.condition ∧
        JoinsScoped withs (sources ++ [join.source]) rest

end Scoping

def allSources (source : Source) (joins : List Join) : List Source :=
  source :: joins.map Join.source

/-- Every name that a query uses is introduced by that query, and so it is for the
queries that it defines. -/
inductive WellScoped : Query → Prop where
  | mk {withs : List (String × Query)} {select : List SelectItem} {source : Source}
      {joins : List Join} {rest : Fragment}
      (common : ∀ entry ∈ withs, WellScoped entry.2)
      (defined : ∀ read ∈ allSources source joins, read.Defined withs)
      (conditions : JoinsScoped withs [source] joins)
      (selected : ∀ item ∈ select, Scoped withs (allSources source joins) item.fragment)
      (trailing : Scoped withs (allSources source joins) rest) :
      WellScoped (.mk withs select source joins rest)

/-- Every name that a query uses itself is introduced. -/
def Query.NamesFound : Query → Prop
  | .mk withs select source joins rest =>
      (∀ read ∈ allSources source joins, read.Defined withs) ∧ JoinsScoped withs [source] joins ∧
        (∀ item ∈ select, Scoped withs (allSources source joins) item.fragment) ∧
          Scoped withs (allSources source joins) rest

theorem wellScoped_mk {withs : List (String × Query)} {select : List SelectItem}
    {source : Source} {joins : List Join} {rest : Fragment} :
    WellScoped (.mk withs select source joins rest) ↔
      (∀ entry ∈ withs, WellScoped entry.2) ∧
        (Query.mk withs select source joins rest).NamesFound := by
  constructor
  · intro hscoped
    cases hscoped with
    | mk common defined conditions selected trailing =>
        exact ⟨common, defined, conditions, selected, trailing⟩
  · rintro ⟨common, defined, conditions, selected, trailing⟩
    exact .mk common defined conditions selected trailing

section Decisions

variable {withs : List (String × Query)} {sources : List Source} {table column : String}

instance decidableOffers : (source : Source) → Decidable (source.Offers withs column)
  | .base _ _ => .isTrue trivial
  | .common label =>
      decidable_of_iff (∃ entry ∈ withs, entry.1 = label ∧ column ∈ entry.2.outputs)
        ⟨fun ⟨entry, hmem, hlabel, hcolumn⟩ => ⟨entry.2, hlabel ▸ hmem, hcolumn⟩,
          fun ⟨query, hmem, hcolumn⟩ => ⟨(label, query), hmem, rfl, hcolumn⟩⟩

instance decidableDefined : (source : Source) → Decidable (source.Defined withs)
  | .base _ _ => .isTrue trivial
  | .common label =>
      decidable_of_iff (∃ entry ∈ withs, entry.1 = label)
        ⟨fun ⟨entry, hmem, hlabel⟩ => ⟨entry.2, hlabel ▸ hmem⟩,
          fun ⟨query, hmem⟩ => ⟨(label, query), hmem, rfl⟩⟩

instance : Decidable (Readable withs sources table column) :=
  inferInstanceAs (Decidable (∃ source ∈ sources, source.name = table ∧ _))

/-- A part is in scope when its column can be read. -/
def Piece.Scoped (withs : List (String × Query)) (sources : List Source) : Piece → Prop
  | .text _ => True
  | .column table column => Readable withs sources table column

instance decidablePiece : (piece : Piece) → Decidable (piece.Scoped withs sources)
  | .text _ => .isTrue trivial
  | .column table column => inferInstanceAs (Decidable (Readable withs sources table column))

theorem forall_piece_scoped {fragment : Fragment} :
    (∀ piece ∈ fragment, piece.Scoped withs sources) ↔ Scoped withs sources fragment := by
  constructor
  · intro hscoped table column hmem
    exact hscoped _ hmem
  · intro hscoped piece hmem
    cases piece with
    | text sql => trivial
    | column table column => exact hscoped table column hmem

instance (fragment : Fragment) : Decidable (Scoped withs sources fragment) :=
  decidable_of_iff _ forall_piece_scoped

instance decidableJoins : (sources : List Source) → (joins : List Join) →
    Decidable (JoinsScoped withs sources joins)
  | _, [] => .isTrue trivial
  | sources, join :: rest =>
      have := decidableJoins (sources ++ [join.source]) rest
      inferInstanceAs (Decidable (Scoped withs (sources ++ [join.source]) join.condition ∧ _))

instance decidableNamesFound : (query : Query) → Decidable query.NamesFound
  | .mk withs _ source joins _ =>
      inferInstanceAs (Decidable ((∀ read ∈ allSources source joins, read.Defined withs) ∧ _))

end Decisions

section Lemmas

variable {withs : List (String × Query)} {sources : List Source} {table column : String}

theorem Source.Offers.defined {source : Source} (hoffers : source.Offers withs column) :
    source.Defined withs := by
  cases source with
  | base table label => trivial
  | common label =>
      obtain ⟨query, hquery, -⟩ := hoffers
      exact ⟨query, hquery⟩

theorem readable_base {label : String} (hmem : .base table label ∈ sources) (column : String) :
    Readable withs sources label column :=
  ⟨.base table label, hmem, rfl, trivial⟩

theorem readable_common {label : String} {query : Query} (hmem : .common label ∈ sources)
    (hquery : (label, query) ∈ withs) (hcolumn : column ∈ query.outputs) :
    Readable withs sources label column :=
  ⟨.common label, hmem, rfl, query, hquery, hcolumn⟩

theorem Readable.mono {more : List Source} (hreadable : Readable withs sources table column)
    (hmore : sources ⊆ more) : Readable withs more table column := by
  obtain ⟨source, hmem, hname, hoffers⟩ := hreadable
  exact ⟨source, hmore hmem, hname, hoffers⟩

@[simp] theorem scoped_nil : Scoped withs sources [] := by
  intro table column hmem
  cases hmem

@[simp] theorem scoped_text {sql : String} {fragment : Fragment} :
    Scoped withs sources (.text sql :: fragment) ↔ Scoped withs sources fragment := by
  simp [Scoped]

@[simp] theorem scoped_column {fragment : Fragment} :
    Scoped withs sources (.column table column :: fragment) ↔
      Readable withs sources table column ∧ Scoped withs sources fragment := by
  constructor
  · intro hscoped
    exact ⟨hscoped table column List.mem_cons_self,
      fun _ _ hmem => hscoped _ _ (List.mem_cons_of_mem _ hmem)⟩
  · rintro ⟨hreadable, hscoped⟩ other otherColumn hmem
    rcases List.mem_cons.mp hmem with heq | hrest
    · cases heq
      exact hreadable
    · exact hscoped other otherColumn hrest

@[simp] theorem scoped_append {first second : Fragment} :
    Scoped withs sources (first ++ second) ↔
      Scoped withs sources first ∧ Scoped withs sources second := by
  constructor
  · intro hscoped
    exact ⟨fun _ _ hmem => hscoped _ _ (List.mem_append_left second hmem),
      fun _ _ hmem => hscoped _ _ (List.mem_append_right first hmem)⟩
  · rintro ⟨hfirst, hsecond⟩ other otherColumn hmem
    rcases List.mem_append.mp hmem with hleft | hright
    · exact hfirst other otherColumn hleft
    · exact hsecond other otherColumn hright

theorem scoped_flatten {fragments : List Fragment} :
    Scoped withs sources fragments.flatten ↔
      ∀ fragment ∈ fragments, Scoped withs sources fragment := by
  induction fragments with
  | nil => simp
  | cons fragment rest ih => rw [List.flatten_cons, scoped_append, ih, List.forall_mem_cons]

theorem scoped_flatMap {A : Type} {items : List A} {fragment : A → Fragment} :
    Scoped withs sources (items.flatMap fragment) ↔
      ∀ item ∈ items, Scoped withs sources (fragment item) := by
  rw [List.flatMap_def, scoped_flatten, List.forall_mem_map]

theorem mem_intersperse {separator fragment : Fragment} {fragments : List Fragment}
    (hmem : fragment ∈ fragments.intersperse separator) :
    fragment = separator ∨ fragment ∈ fragments := by
  induction fragments with
  | nil => cases hmem
  | cons first rest ih =>
      cases rest with
      | nil => exact Or.inr hmem
      | cons second others =>
          rw [List.intersperse_cons_cons, List.mem_cons, List.mem_cons] at hmem
          rcases hmem with heq | heq | hrest
          · right
            rw [heq]
            exact List.mem_cons_self
          · exact Or.inl heq
          · exact (ih hrest).imp_right (List.mem_cons_of_mem first)

/-- A separator that reads nothing changes nothing. -/
theorem scoped_intercalate {separator : Fragment} {fragments : List Fragment}
    (hseparator : Scoped withs sources separator)
    (hfragments : ∀ fragment ∈ fragments, Scoped withs sources fragment) :
    Scoped withs sources (List.intercalate separator fragments) := by
  rw [List.intercalate, scoped_flatten]
  intro fragment hmem
  rcases mem_intersperse hmem with rfl | hmem
  · exact hseparator
  · exact hfragments fragment hmem

theorem Scoped.mono {more : List Source} {fragment : Fragment}
    (hscoped : Scoped withs sources fragment) (hmore : sources ⊆ more) :
    Scoped withs more fragment :=
  fun table column hmem => (hscoped table column hmem).mono hmore

theorem joinsScoped_append {first second : List Join} :
    JoinsScoped withs sources (first ++ second) ↔
      JoinsScoped withs sources first ∧
        JoinsScoped withs (sources ++ first.map Join.source) second := by
  induction first generalizing sources with
  | nil => simp [JoinsScoped]
  | cons join rest ih =>
      simp only [List.cons_append, JoinsScoped, ih, List.map_cons, List.append_assoc,
        List.nil_append, and_assoc]

/-- The conditions can be checked one by one when they read from the first tables
and their own. -/
theorem joinsScoped_of_forall {joins : List Join}
    (hjoins : ∀ join ∈ joins, ∀ earlier, sources ⊆ earlier →
      Scoped withs (earlier ++ [join.source]) join.condition) :
    JoinsScoped withs sources joins := by
  induction joins generalizing sources with
  | nil => trivial
  | cons join rest ih =>
      rw [List.forall_mem_cons] at hjoins
      refine ⟨hjoins.1 sources (List.Subset.refl sources), ih ?_⟩
      intro other hmem earlier hsubset
      exact hjoins.2 other hmem earlier (List.Subset.trans (List.subset_append_left _ _) hsubset)

theorem JoinsScoped.condition {joins : List Join} (hjoins : JoinsScoped withs sources joins)
    {join : Join} (hmem : join ∈ joins) :
    Scoped withs (sources ++ joins.map Join.source) join.condition := by
  induction joins generalizing sources with
  | nil => cases hmem
  | cons first rest ih =>
      rw [List.map_cons, List.append_cons]
      rcases List.mem_cons.mp hmem with rfl | hrest
      · exact hjoins.1.mono (List.subset_append_left _ _)
      · exact ih hjoins.2 hrest

end Lemmas

/-- The names of the tables that a text reads from. -/
def tables : Fragment → List String
  | [] => []
  | .text _ :: rest => tables rest
  | .column table _ :: rest => table :: tables rest

section Tables

@[simp] theorem tables_nil : tables [] = [] := rfl

@[simp] theorem tables_text (sql : String) (fragment : Fragment) :
    tables (.text sql :: fragment) = tables fragment := rfl

@[simp] theorem tables_column (table column : String) (fragment : Fragment) :
    tables (.column table column :: fragment) = table :: tables fragment := rfl

@[simp] theorem tables_append (first second : Fragment) :
    tables (first ++ second) = tables first ++ tables second := by
  induction first with
  | nil => rfl
  | cons piece rest ih => cases piece <;> simp [ih]

theorem mem_tables {fragment : Fragment} {table : String} :
    table ∈ tables fragment ↔ ∃ column, .column table column ∈ fragment := by
  induction fragment with
  | nil => simp
  | cons piece rest ih => cases piece <;> simp [ih, exists_or]

/-- A text is in scope where its tables can be read. -/
theorem scoped_of_tables {withs : List (String × Query)} {sources : List Source}
    {fragment : Fragment}
    (htables : ∀ table ∈ tables fragment, ∀ column, Readable withs sources table column) :
    Scoped withs sources fragment :=
  fun table column hmem => htables table (mem_tables.mpr ⟨column, hmem⟩) column

theorem Scoped.exists_source {withs : List (String × Query)} {sources : List Source}
    {fragment : Fragment} (hscoped : Scoped withs sources fragment) {table : String}
    (hmem : table ∈ tables fragment) : ∃ source ∈ sources, source.name = table := by
  obtain ⟨column, hcolumn⟩ := mem_tables.mp hmem
  obtain ⟨source, hsource, hname, -⟩ := hscoped table column hcolumn
  exact ⟨source, hsource, hname⟩

end Tables

end SqlQueries
