/-
Queries of SQL on rows.  A query reads a table, joins further tables with LEFT
OUTER JOINs, keeps what meets its condition and selects from that; what a WITH
defines is read like a table.
-/
import Mathlib.Data.List.Basic
import NFCompose.PartialRuns
import NFCompose.SqlConditions
import NFCompose.SqlQueries

namespace SqlSelects

open SqlConditions SqlQueries

variable {A V : Type}

/-- The columns of a row; NULL is `none`. -/
abbrev Row (V : Type) := String → Option V

/-- Rows that are joined, under the names of their tables. -/
abbrev JoinedRow (V : Type) := List (String × Row V)

def nullRow : Row V := fun _ => none

def column (joined : JoinedRow V) (table field : String) : Option V :=
  (joined.lookup table).bind fun row => row field

/-- How two values are ordered; NULL is not. -/
def compared (order : V → V → Ordering) : Option V → Option V → Option Ordering
  | some first, some second => some (order first second)
  | _, _ => none

/-- A LEFT OUTER JOIN. -/
structure SelectJoin (A : Type) where
  source : Source
  condition : List (Token A)

/-- A query over tables.  The ordering does not change which rows there are. -/
structure Select (A : Type) where
  items : List SelectItem
  source : Source
  joins : List (SelectJoin A)
  condition : Option (List (Token A))
  ordering : Fragment

/-- A query with the tables that its WITH defines from those of the database. -/
structure WithSelect (A : Type) where
  commons : List (String × Select A)
  main : Select A

/-- What a database makes of the atoms of conditions, and of what is selected. -/
structure Meaning (A V : Type) where
  truth : A → JoinedRow V → Truth
  accepted : A → Bool
  value : Fragment → JoinedRow V → Option V

section Execution

variable (meaning : Meaning A V) (rowsOf : Source → List (Row V))

def Meaning.holds (text : List (Token A)) (joined : JoinedRow V) : Bool :=
  evaluate (text.map (Token.map fun atom => meaning.truth atom joined)) = some .true

/-- A text is refused when it is no condition, or for one of its atoms. -/
def Meaning.accepts (text : List (Token A)) : Bool :=
  (evaluate (text.map (Token.map fun _ => .unknown))).isSome &&
    (atoms text).all meaning.accepted

def Meaning.itemValue (joined : JoinedRow V) : SelectItem → Option V
  | .column table field => column joined table field
  | .named [.column table field] _ => column joined table field
  | .named value _ => meaning.value value joined

def Meaning.project (items : List SelectItem) (joined : JoinedRow V) : Row V := fun field =>
  (items.find? fun item => item.output = field).bind (meaning.itemValue joined)

/-- The rows that meet the condition of a join. -/
def partners (name : String) (rows : List (Row V)) (on : JoinedRow V → Bool)
    (joined : JoinedRow V) : List (Row V) :=
  rows.filter fun row => on ((name, row) :: joined)

/-- Without a partner there is a row of NULLs. -/
def padded : List (Row V) → List (Row V)
  | [] => [nullRow]
  | rows => rows

def leftOuterJoin (name : String) (rows : List (Row V)) (on : JoinedRow V → Bool)
    (all : List (JoinedRow V)) : List (JoinedRow V) :=
  all.flatMap fun joined =>
    (padded (partners name rows on joined)).map fun row => (name, row) :: joined

def joinAll : List (SelectJoin A) → List (JoinedRow V) → List (JoinedRow V)
  | [], all => all
  | join :: rest, all =>
      joinAll rest (leftOuterJoin join.source.name (rowsOf join.source)
        (meaning.holds join.condition) all)

/-- A row with its partner in each join, where it has at most one. -/
def joinedAlong : List (SelectJoin A) → JoinedRow V → JoinedRow V
  | [], joined => joined
  | join :: rest, joined =>
      joinedAlong rest ((join.source.name, (partners join.source.name (rowsOf join.source)
        (meaning.holds join.condition) joined).headD nullRow) :: joined)

namespace Select

variable (select : Select A)

/-- What a query selects from. -/
def joinedRows : List (JoinedRow V) :=
  (joinAll meaning rowsOf select.joins
    ((rowsOf select.source).map fun row => [(select.source.name, row)])).filter fun joined =>
      select.condition.all fun text => meaning.holds text joined

def accepted : Bool :=
  select.joins.all (fun join => meaning.accepts join.condition) &&
    select.condition.all meaning.accepts

def rows : Option (List (Row V)) :=
  if select.accepted meaning then
    some ((select.joinedRows meaning rowsOf).map (meaning.project select.items))
  else none

/-- The count of a column: the number of rows where it is not NULL. -/
def count (table field : String) : Option Nat :=
  if select.accepted meaning then
    some ((select.joinedRows meaning rowsOf).countP fun joined =>
      (column joined table field).isSome)
  else none

end Select

/-- The tables of the database, and those of a WITH. -/
def tablesWith (tables : String → List (Row V)) (commons : List (String × List (Row V))) :
    Source → List (Row V)
  | .base table _ => tables table
  | .common name => (commons.lookup name).getD []

def WithSelect.rows (tables : String → List (Row V)) (query : WithSelect A) :
    Option (List (Row V)) := do
  let commons ← query.commons.mapM fun entry =>
    (entry.2.rows meaning (tablesWith tables [])).map fun rows => (entry.1, rows)
  query.main.rows meaning (tablesWith tables commons)

end Execution

section Joins

variable {meaning : Meaning A V} {rowsOf : Source → List (Row V)} {name : String}
  {rows : List (Row V)} {on : JoinedRow V → Bool}

@[simp] theorem column_cons_self (joined : JoinedRow V) (name : String) (row : Row V)
    (field : String) : column ((name, row) :: joined) name field = row field := by
  simp [column]

theorem column_cons_of_ne {table : String} (hne : table ≠ name) (joined : JoinedRow V)
    (row : Row V) (field : String) :
    column ((name, row) :: joined) table field = column joined table field := by
  have hfalse : (table == name) = false := beq_false_of_ne hne
  simp [column, List.lookup_cons, hfalse]

theorem padded_eq {rows : List (Row V)} (hone : rows.length ≤ 1) :
    padded rows = [rows.headD nullRow] := by
  match rows with
  | [] => rfl
  | [row] => rfl
  | first :: second :: rest => simp at hone

/-- A join with at most one partner for each row adds this partner to it. -/
theorem leftOuterJoin_eq_map {all : List (JoinedRow V)}
    (hone : ∀ joined ∈ all, (partners name rows on joined).length ≤ 1) :
    leftOuterJoin name rows on all = all.map fun joined =>
      (name, (partners name rows on joined).headD nullRow) :: joined := by
  induction all with
  | nil => rfl
  | cons joined rest ih =>
      rw [List.forall_mem_cons] at hone
      have hfirst := padded_eq hone.1
      have hrest := ih hone.2
      rw [leftOuterJoin] at hrest ⊢
      rw [List.flatMap_cons, hfirst, hrest]
      rfl

theorem mem_leftOuterJoin {all : List (JoinedRow V)} {joined : JoinedRow V}
    (hmem : joined ∈ leftOuterJoin name rows on all) :
    ∃ earlier ∈ all, ∃ row, joined = (name, row) :: earlier := by
  obtain ⟨earlier, hearlier, hrow⟩ := List.mem_flatMap.mp hmem
  obtain ⟨row, -, rfl⟩ := List.mem_map.mp hrow
  exact ⟨earlier, hearlier, row, rfl⟩

/-- The rows without a partner are those where a column that is never NULL is. -/
theorem filter_leftOuterJoin {field : String} (hkey : ∀ row ∈ rows, (row field).isSome)
    (all : List (JoinedRow V)) :
    (leftOuterJoin name rows on all).filter
        (fun joined => (column joined name field).isNone) =
      (all.filter fun joined => (partners name rows on joined).isEmpty).map
        fun joined => (name, nullRow) :: joined := by
  induction all with
  | nil => rfl
  | cons joined rest ih =>
      rw [leftOuterJoin] at ih ⊢
      rw [List.flatMap_cons, List.filter_append, ih]
      cases hpartners : partners name rows on joined with
      | nil => simp [hpartners, padded, nullRow]
      | cons first others =>
          have hnone : ((first :: others).map fun row => (name, row) :: joined).filter
              (fun joined => (column joined name field).isNone) = [] := by
            rw [List.filter_eq_nil_iff]
            intro joined' hmem hnull
            obtain ⟨row, hrow, rfl⟩ := List.mem_map.mp hmem
            rw [← hpartners] at hrow
            have hsome := hkey row (List.mem_of_mem_filter hrow)
            rw [column_cons_self] at hnull
            rw [Option.isNone_iff_eq_none.mp hnull] at hsome
            cases hsome
          rw [padded, hnone, List.nil_append, List.filter_cons_of_neg (by simp [hpartners])]
          exact fun hempty => List.cons_ne_nil _ _ hempty

theorem joinAll_eq_map {joins : List (SelectJoin A)} {all : List (JoinedRow V)}
    (hone : ∀ join ∈ joins, ∀ joined, (partners join.source.name (rowsOf join.source)
      (meaning.holds join.condition) joined).length ≤ 1) :
    joinAll meaning rowsOf joins all = all.map (joinedAlong meaning rowsOf joins) := by
  induction joins generalizing all with
  | nil => exact (List.map_id all).symm
  | cons join rest ih =>
      rw [List.forall_mem_cons] at hone
      rw [joinAll, leftOuterJoin_eq_map fun joined _ => hone.1 joined, ih hone.2, List.map_map]
      rfl

theorem column_joinedAlong {joins : List (SelectJoin A)} {table : String}
    (hnames : ∀ join ∈ joins, table ≠ join.source.name) (joined : JoinedRow V) (field : String) :
    column (joinedAlong meaning rowsOf joins joined) table field = column joined table field := by
  induction joins generalizing joined with
  | nil => rfl
  | cons join rest ih =>
      rw [List.forall_mem_cons] at hnames
      rw [joinedAlong, ih hnames.2, column_cons_of_ne hnames.1]

variable (meaning rowsOf) in
/-- The columns of a join are those of the partner of an earlier row. -/
theorem column_joinedAlong_self {joins : List (SelectJoin A)}
    (hnames : (joins.map fun join => join.source.name).Nodup) {join : SelectJoin A}
    (hmem : join ∈ joins) (joined : JoinedRow V) :
    ∃ earlier, (∀ table field, (∀ other ∈ joins, table ≠ other.source.name) →
        column earlier table field = column joined table field) ∧
      ∀ field, column (joinedAlong meaning rowsOf joins joined) join.source.name field =
        (partners join.source.name (rowsOf join.source) (meaning.holds join.condition)
          earlier).headD nullRow field := by
  induction joins generalizing joined with
  | nil => cases hmem
  | cons first rest ih =>
      rw [List.map_cons, List.nodup_cons] at hnames
      rcases List.mem_cons.mp hmem with rfl | hrest
      · refine ⟨joined, fun _ _ _ => rfl, ?_⟩
        intro field
        rw [joinedAlong, column_joinedAlong, column_cons_self]
        intro other hother heq
        exact hnames.1 (heq ▸ List.mem_map_of_mem hother)
      · obtain ⟨earlier, hearlier, hcolumns⟩ := ih hnames.2 hrest
          ((first.source.name, (partners first.source.name (rowsOf first.source)
            (meaning.holds first.condition) joined).headD nullRow) :: joined)
        refine ⟨earlier, ?_, hcolumns⟩
        intro table field hother
        rw [List.forall_mem_cons] at hother
        rw [hearlier table field hother.2, column_cons_of_ne hother.1]

/-- A join leaves the columns of the tables before it. -/
theorem column_of_mem_joinAll {joins : List (SelectJoin A)} {table : String}
    (hnames : ∀ join ∈ joins, table ≠ join.source.name) {all : List (JoinedRow V)}
    {joined : JoinedRow V} (hmem : joined ∈ joinAll meaning rowsOf joins all) :
    ∃ earlier ∈ all, ∀ field, column joined table field = column earlier table field := by
  induction joins generalizing all with
  | nil => exact ⟨joined, hmem, fun _ => rfl⟩
  | cons join rest ih =>
      rw [List.forall_mem_cons] at hnames
      obtain ⟨middle, hmiddle, hcolumns⟩ := ih hnames.2 hmem
      obtain ⟨earlier, hearlier, row, rfl⟩ := mem_leftOuterJoin hmiddle
      refine ⟨earlier, hearlier, ?_⟩
      intro field
      rw [hcolumns, column_cons_of_ne hnames.1]

namespace Select

variable {select : Select A}

/-- The main table of a query has its own rows in what is selected from. -/
theorem column_of_mem_joinedRows
    (hnames : ∀ join ∈ select.joins, select.source.name ≠ join.source.name)
    {joined : JoinedRow V} (hmem : joined ∈ select.joinedRows meaning rowsOf) :
    ∃ row ∈ rowsOf select.source,
      ∀ field, column joined select.source.name field = row field := by
  obtain ⟨earlier, hearlier, hcolumns⟩ :=
    column_of_mem_joinAll hnames (List.mem_of_mem_filter hmem)
  obtain ⟨row, hrow, rfl⟩ := List.mem_map.mp hearlier
  refine ⟨row, hrow, ?_⟩
  intro field
  rw [hcolumns, column_cons_self]

/-- A query whose condition keeps only the rows without a partner. -/
theorem joinedRows_antiJoin {join : SelectJoin A} {text : List (Token A)} {field : String}
    (hjoins : select.joins = [join]) (hcondition : select.condition = some text)
    (hkey : ∀ row ∈ rowsOf join.source, (row field).isSome)
    (hnull : ∀ joined, meaning.holds text joined = true →
      (column joined join.source.name field).isNone = true) :
    select.joinedRows meaning rowsOf =
      ((rowsOf select.source).filter fun row =>
        (partners join.source.name (rowsOf join.source) (meaning.holds join.condition)
          [(select.source.name, row)]).isEmpty &&
        meaning.holds text [(join.source.name, nullRow), (select.source.name, row)]).map
          fun row => [(join.source.name, nullRow), (select.source.name, row)] := by
  have hboth : ∀ joined, meaning.holds text joined =
      (meaning.holds text joined && (column joined join.source.name field).isNone) := by
    intro joined
    rw [Bool.eq_iff_iff, Bool.and_eq_true]
    exact ⟨fun hholds => ⟨hholds, hnull joined hholds⟩, And.left⟩
  rw [joinedRows, hjoins, hcondition]
  simp only [Option.all_some, joinAll]
  rw [List.filter_congr fun joined _ => hboth joined, ← List.filter_filter,
    filter_leftOuterJoin hkey, List.filter_map, List.filter_map, List.filter_map,
    List.filter_filter, List.map_map]
  apply congrArg (List.map _)
  apply List.filter_congr
  intro row _
  exact Bool.and_comm _ _

/-- A column that is never NULL is counted in every row. -/
theorem count_eq {field : String}
    (hnames : ∀ join ∈ select.joins, select.source.name ≠ join.source.name)
    (hkey : ∀ row ∈ rowsOf select.source, (row field).isSome) :
    select.count meaning rowsOf select.source.name field =
      (select.rows meaning rowsOf).map List.length := by
  rw [count, Select.rows]
  split
  · rw [Option.map_some, List.length_map, Option.some_inj, List.countP_eq_length]
    intro joined hmem
    obtain ⟨row, hrow, hcolumns⟩ := column_of_mem_joinedRows hnames hmem
    rw [hcolumns]
    exact hkey row hrow
  · rfl

/-- Without a condition, and with one partner at most in each join, there are as
many rows as in the main table. -/
theorem exists_rows_of_partners (hcondition : select.condition = none)
    (haccepted : select.accepted meaning = true)
    (hone : ∀ join ∈ select.joins, ∀ joined, (partners join.source.name (rowsOf join.source)
      (meaning.holds join.condition) joined).length ≤ 1) :
    ∃ rows, select.rows meaning rowsOf = some rows ∧
      rows.length = (rowsOf select.source).length := by
  rw [Select.rows, if_pos haccepted]
  refine ⟨_, rfl, ?_⟩
  rw [List.length_map, joinedRows, hcondition]
  simp only [Option.all_none]
  rw [List.filter_true, joinAll_eq_map hone, List.length_map, List.length_map]

end Select

variable {tables : String → List (Row V)}

/-- The tables of a WITH are found one after the other. -/
theorem WithSelect.rows_cons {name : String} {central main : Select A}
    {others : List (String × Select A)} {found : String × Select A → List (Row V)}
    (hothers : ∀ entry ∈ others,
      entry.2.rows meaning (tablesWith tables []) = some (found entry)) :
    WithSelect.rows meaning tables ⟨(name, central) :: others, main⟩ =
      (central.rows meaning (tablesWith tables [])).bind fun rows =>
        main.rows meaning (tablesWith tables
          ((name, rows) :: others.map fun entry => (entry.1, found entry))) := by
  have hfound : others.mapM (fun entry => (entry.2.rows meaning (tablesWith tables [])).map
      fun rows => (entry.1, rows)) = some (others.map fun entry => (entry.1, found entry)) := by
    apply PartialRuns.mapM_eq_some
    intro entry hmem
    rw [hothers entry hmem, Option.map_some]
  rw [WithSelect.rows, List.mapM_cons, hfound]
  cases central.rows meaning (tablesWith tables []) <;> rfl

end Joins

section Keys

variable {order : V → V → Ordering}

/-- No two rows have the same value in a column. -/
def DistinctIn (order : V → V → Ordering) (field : String) (rows : List (Row V)) : Prop :=
  rows.Pairwise fun first second => compared order (first field) (second field) ≠ some .eq

/-- What a primary key promises: its columns are never NULL, and no two rows agree
in all of them. -/
structure PrimaryKey (order : V → V → Ordering) (fields : List String)
    (rows : List (Row V)) : Prop where
  notNull : ∀ row ∈ rows, ∀ field ∈ fields, (row field).isSome
  unique : rows.Pairwise fun first second =>
    ∃ field ∈ fields, compared order (first field) (second field) ≠ some .eq

theorem PrimaryKey.distinctIn {field : String} {rows : List (Row V)}
    (hkey : PrimaryKey order [field] rows) : DistinctIn order field rows := by
  apply hkey.unique.imp
  rintro first second ⟨other, hother, hdiffer⟩
  rw [← List.mem_singleton.mp hother]
  exact hdiffer

theorem compared_eq_some {first second : Option V} {ordering : Ordering} :
    compared order first second = some ordering ↔
      ∃ left ∈ first, ∃ right ∈ second, order left right = ordering := by
  cases first <;> cases second <;> simp [compared]

theorem compared_eq_trans [Std.TransCmp order] {value first second : Option V}
    (hfirst : compared order value first = some .eq)
    (hsecond : compared order value second = some .eq) :
    compared order first second = some .eq := by
  obtain ⟨middle, hmiddle, left, hleft, heqLeft⟩ := compared_eq_some.mp hfirst
  obtain ⟨other, hother, right, hright, heqRight⟩ := compared_eq_some.mp hsecond
  obtain rfl := Option.mem_unique hmiddle hother
  have hback := Std.OrientedCmp.eq_symm heqLeft
  exact compared_eq_some.mpr ⟨left, hleft, right, hright, Std.TransCmp.eq_trans hback heqRight⟩

/-- A value is found at most once. -/
theorem DistinctIn.length_filter_le_one [Std.TransCmp order] {field : String}
    {rows : List (Row V)} (hdistinct : DistinctIn order field rows) (value : Option V)
    {keeps : Row V → Bool}
    (hkeeps : ∀ row, keeps row = true → compared order value (row field) = some .eq) :
    (rows.filter keeps).length ≤ 1 := by
  have hfiltered := List.Pairwise.sublist (List.filter_sublist (p := keeps)) hdistinct
  match hrows : rows.filter keeps with
  | [] => exact Nat.zero_le 1
  | [row] => exact Nat.le_refl 1
  | first :: second :: rest =>
      exfalso
      have hkept : ∀ row ∈ first :: second :: rest,
          compared order value (row field) = some .eq := by
        intro row hmem
        rw [← hrows] at hmem
        exact hkeeps row (List.of_mem_filter hmem)
      rw [hrows] at hfiltered
      apply List.rel_of_pairwise_cons hfiltered List.mem_cons_self
      exact compared_eq_trans (hkept first List.mem_cons_self)
        (hkept second (List.mem_cons_of_mem _ List.mem_cons_self))

end Keys

section Congruence

variable {meaning other : Meaning A V} {rowsOf : Source → List (Row V)}

/-- Two databases make the same of an atom. -/
def Meaning.AgreesOn (meaning other : Meaning A V) (atom : A) : Prop :=
  meaning.truth atom = other.truth atom ∧ meaning.accepted atom = other.accepted atom

theorem Meaning.holds_congr {text : List (Token A)}
    (hagrees : ∀ atom ∈ atoms text, meaning.AgreesOn other atom) :
    meaning.holds text = other.holds text := by
  have htexts : ∀ joined, text.map (Token.map fun atom => meaning.truth atom joined) =
      text.map (Token.map fun atom => other.truth atom joined) := by
    intro joined
    induction text with
    | nil => rfl
    | cons token rest ih =>
        cases token with
        | atom atom =>
            rw [atoms, List.forall_mem_cons] at hagrees
            rw [List.map_cons, List.map_cons, ih hagrees.2, Token.map, Token.map, hagrees.1.1]
        | _ =>
            rw [List.map_cons, List.map_cons, ih hagrees]
            rfl
  funext joined
  rw [Meaning.holds, Meaning.holds, htexts]

theorem Meaning.accepts_congr {text : List (Token A)}
    (hagrees : ∀ atom ∈ atoms text, meaning.AgreesOn other atom) :
    meaning.accepts text = other.accepts text := by
  have haccepted : (atoms text).all meaning.accepted = (atoms text).all other.accepted := by
    rw [Bool.eq_iff_iff, List.all_eq_true, List.all_eq_true]
    apply forall₂_congr
    intro atom hmem
    rw [(hagrees atom hmem).2]
  rw [Meaning.accepts, Meaning.accepts, haccepted]

theorem joinAll_congr {joins : List (SelectJoin A)} {all : List (JoinedRow V)}
    (hagrees : ∀ join ∈ joins, ∀ atom ∈ atoms join.condition, meaning.AgreesOn other atom) :
    joinAll meaning rowsOf joins all = joinAll other rowsOf joins all := by
  induction joins generalizing all with
  | nil => rfl
  | cons join rest ih =>
      rw [List.forall_mem_cons] at hagrees
      rw [joinAll, joinAll, ih hagrees.2, Meaning.holds_congr hagrees.1]

namespace Select

variable {select : Select A}

/-- A query is executed alike where its atoms are. -/
structure AgreesOn (meaning other : Meaning A V) (select : Select A) : Prop where
  joins : ∀ join ∈ select.joins, ∀ atom ∈ atoms join.condition, meaning.AgreesOn other atom
  condition : ∀ text ∈ select.condition, ∀ atom ∈ atoms text, meaning.AgreesOn other atom

theorem AgreesOn.joinedRows_eq (hagrees : AgreesOn meaning other select) :
    select.joinedRows meaning rowsOf = select.joinedRows other rowsOf := by
  rw [joinedRows, joinedRows, joinAll_congr hagrees.joins]
  cases hcondition : select.condition with
  | none => rfl
  | some text =>
      have hholds := Meaning.holds_congr (hagrees.condition text hcondition)
      simp only [Option.all_some, hholds]

theorem AgreesOn.accepted_eq (hagrees : AgreesOn meaning other select) :
    select.accepted meaning = select.accepted other := by
  have hjoins : select.joins.all (fun join => meaning.accepts join.condition) =
      select.joins.all (fun join => other.accepts join.condition) := by
    rw [Bool.eq_iff_iff, List.all_eq_true, List.all_eq_true]
    apply forall₂_congr
    intro join hmem
    rw [Meaning.accepts_congr (hagrees.joins join hmem)]
  rw [accepted, accepted, hjoins]
  cases hcondition : select.condition with
  | none => rfl
  | some text =>
      rw [Option.all_some, Option.all_some,
        Meaning.accepts_congr (hagrees.condition text hcondition)]

/-- What is selected does not matter for a count. -/
theorem AgreesOn.count_eq (hagrees : AgreesOn meaning other select) (table field : String) :
    select.count meaning rowsOf table field = select.count other rowsOf table field := by
  rw [count, count, hagrees.accepted_eq, hagrees.joinedRows_eq]

end Select

end Congruence

section Text

variable (fragment : A → Fragment)

def tokenFragment : Token A → Fragment
  | .leftParen => [.text "("]
  | .rightParen => [.text ")"]
  | .and => [.text " AND "]
  | .or => [.text " OR "]
  | .not => [.text "NOT "]
  | .atom atom => fragment atom

def conditionFragment (text : List (Token A)) : Fragment := text.flatMap (tokenFragment fragment)

def SelectJoin.join (join : SelectJoin A) : Join :=
  ⟨join.source, conditionFragment fragment join.condition⟩

/-- What follows the joins of a query. -/
def Select.rest (select : Select A) : Fragment :=
  match select.condition with
  | none => select.ordering
  | some text => .text "WHERE " :: conditionFragment fragment text ++ select.ordering

def Select.query (commons : List (String × Query)) (select : Select A) : Query :=
  .mk commons select.items select.source (select.joins.map (SelectJoin.join fragment))
    (select.rest fragment)

def WithSelect.query (select : WithSelect A) : Query :=
  select.main.query fragment (select.commons.map fun entry => (entry.1, entry.2.query fragment []))

variable {fragment}

theorem conditionFragment_append (first second : List (Token A)) :
    conditionFragment fragment (first ++ second) =
      conditionFragment fragment first ++ conditionFragment fragment second :=
  List.flatMap_append

/-- The text of a condition can be taken in two parts. -/
theorem Select.sql_rest {select : Select A} {base filter : List (Token A)} {wherePart : Fragment}
    (hcondition : select.condition = some (base ++ filter))
    (hbase : Fragment.sql (.text "WHERE " :: conditionFragment fragment base) =
      Fragment.sql wherePart) :
    Fragment.sql (select.rest fragment) =
      Fragment.sql (wherePart ++ (conditionFragment fragment filter ++ select.ordering)) := by
  have hrest : select.rest fragment = (.text "WHERE " :: conditionFragment fragment base) ++
      (conditionFragment fragment filter ++ select.ordering) := by
    simp only [rest, hcondition, conditionFragment_append, List.cons_append, List.append_assoc]
  rw [hrest, Fragment.sql_append, hbase, ← Fragment.sql_append]

end Text

end SqlSelects
