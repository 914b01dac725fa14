/-
The pages of the data points: the clauses that make a page of the query have the text that is
rendered for it, and select the rows that the pagination goes on with.
-/
import NFCompose.FilterMeaning
import NFCompose.Pagination
import NFCompose.PartialRuns
import NFCompose.QueryScope

namespace NFCompose

open SqlQueries

/-- The columns of the key of a page, each with the parameter that it starts at, and the
direction. -/
structure PageClauses where
  keyColumns : List (String × String)
  reverse : Bool
deriving DecidableEq, Repr

def pageClauses (useMaterializedTable reverse : Bool) : PageClauses where
  keyColumns :=
    (if useMaterializedTable then [("inserted_at", "inserted_at")] else []) ++ [("id", "start_id")]
  reverse := reverse

namespace PageClauses

section Text

def operator (clauses : PageClauses) : SqlOperator := if clauses.reverse then .lte else .gte

/-- One item stands for itself, and several are a row. -/
def rowSql : List String → String
  | [item] => item
  | items => "(" ++ ", ".intercalate items ++ ")"

def conditionSql (clauses : PageClauses) : String :=
  rowSql (clauses.keyColumns.map fun key => "ds_dp." ++ key.1) ++ " " ++ clauses.operator.sql ++
    " " ++ rowSql (clauses.keyColumns.map fun key => "%(" ++ key.2 ++ ")s")

def orderingSql (clauses : PageClauses) : String :=
  ", ".intercalate (clauses.keyColumns.map fun key =>
    "ds_dp." ++ key.1 ++ if clauses.reverse then " DESC" else " ASC")

variable {N : Type} {useMaterializedTable reverse : Bool}

theorem sql_pageStartAt {start : Json N} {fragment : Fragment}
    (hrendered : pageStartAt useMaterializedTable reverse start = .ok fragment) :
    fragment.sql = " AND " ++ (pageClauses useMaterializedTable reverse).conditionSql := by
  cases start with
  | object members =>
      cases useMaterializedTable <;> cases reverse <;> cases hrendered <;> decide
  | _ => cases hrendered

theorem sql_pageStartCondition {start : Json N} {fragment : Fragment}
    (hrendered : pageStartCondition useMaterializedTable reverse (some (some start)) =
      .ok fragment) :
    fragment.sql = " AND " ++ (pageClauses useMaterializedTable reverse).conditionSql := by
  obtain ⟨-, -, hrendered⟩ := PartialRuns.bind_eq_ok hrendered
  cases useMaterializedTable with
  | false => exact sql_pageStartAt hrendered
  | true =>
      change (checkContains "inserted_at" start >>= fun _ => pageStartAt true reverse start) =
        .ok fragment at hrendered
      obtain ⟨-, -, hrendered⟩ := PartialRuns.bind_eq_ok hrendered
      exact sql_pageStartAt hrendered

theorem sql_orderBy :
    (orderBy useMaterializedTable reverse).sql =
      " ORDER BY " ++ (pageClauses useMaterializedTable reverse).orderingSql := by
  cases useMaterializedTable <;> cases reverse <;> decide

/-- The text of a query that starts somewhere has the condition and the ordering of its page
around the filter. -/
theorem rawDisplayDataPointQuery_clauses {D : Type} {info : DataSeriesQueryInfo}
    {partitionTable : String → Uuid → String} {parseDatetime : Json N → Option D}
    {request : ReadRequest N} {start : Json N} {limit : Option Nat} {query : Query}
    (hok : NFCompose.rawDisplayDataPointQuery partitionTable parseDatetime info request none
      (some (some start)) reverse limit = .ok query) :
    let clauses := pageClauses (canUseMaterializedTable info request.pointInTime) reverse
    ∃ part condition ordering,
      Fragment.sql condition = " AND " ++ clauses.conditionSql ∧
      Fragment.sql ordering = " ORDER BY " ++ clauses.orderingSql ∧
      precomputeFilterPart request.externalIds request.filterValue info
        (canUseMaterializedTable info request.pointInTime) parseDatetime = .ok part ∧
      dataSeriesAsSqlTable (N := N) partitionTable request.includeInPayload true
        request.pointInTime request.changesSince request.shouldIncludeVersions
        (condition ++ filterFragment part.filterQueryStr ++ ordering ++
          if limit.isSome then [.text " LIMIT %(limit)s"] else [])
        request.externalIdAsDimensionIdentifier info none = .ok query := by
  obtain ⟨condition, hcondition, hok⟩ := PartialRuns.bind_eq_ok hok
  obtain ⟨part, hpart, hok⟩ := PartialRuns.bind_eq_ok hok
  exact ⟨part, condition, _, sql_pageStartCondition hcondition, sql_orderBy,
    filterError_eq_ok.mp hpart, hok⟩

end Text

section Rows

variable {V : Type}

/-- The first pair of values that differ decides. -/
def compareRows (order : V → V → Ordering) : List (V × V) → Ordering
  | [] => .eq
  | (first, second) :: rest => (order first second).then (compareRows order rest)

/-- Whether the condition holds of a row; with a NULL on either side it does not. -/
def admits (clauses : PageClauses) (order : V → V → Ordering) (row params : String → Option V) :
    Bool :=
  (clauses.keyColumns.mapM fun key => (row key.1).bind fun stored =>
    (params key.2).map fun start => (stored, start)).any fun pairs =>
      clauses.operator.holds (compareRows order pairs)

theorem holds_operator {useMaterializedTable reverse : Bool} {ordering : Ordering} :
    (pageClauses useMaterializedTable reverse).operator.holds ordering = true ↔
      if reverse then ordering ≠ .gt else ordering ≠ .lt := by
  cases reverse with
  | false => exact decide_eq_true_iff
  | true => exact decide_eq_true_iff

end Rows

end PageClauses

section DataPoints

variable {I T P : Type} [LinearOrder I] [LinearOrder T]

/-- Values of two kinds are never compared. -/
def PaginationValue.order : PaginationValue I T → PaginationValue I T → Ordering
  | .id first, .id second => compare first second
  | .insertedAt first, .insertedAt second => compare first second
  | .id _, .insertedAt _ => .lt
  | .insertedAt _, .id _ => .gt

def DataPointRow.column (row : DataPointRow I T P) (field : String) :
    Option (PaginationValue I T) :=
  if field = "id" then some (.id row.id)
  else if field = "inserted_at" then some (.insertedAt row.insertedAt)
  else none

/-- What `raw_display_data_point_query` binds of a start. -/
def startParams (pageStart : List (String × PaginationValue I T)) (param : String) :
    Option (PaginationValue I T) :=
  if param = "start_id" then pageStart.lookup "id"
  else if param = "inserted_at" then pageStart.lookup "inserted_at"
  else none

variable {json : JsonCodec (PaginationValue I T)} {useMaterialized includePrev : Bool}
  {resultOrder : List (DataPointRow I T P) → List (DataPointRow I T P)}
  {hperm : ∀ rows, (resultOrder rows).Perm rows}

omit [LinearOrder I] [LinearOrder T] in
/-- The start can be read when its columns are there. -/
theorem pageStart_eq_ok {text : String} {object : List (String × PaginationValue I T)}
    {start : PageKey I T} (hloads : json.loads text = some object)
    (hstart : pageStart json useMaterialized text = .ok start) :
    ∃ id, object.lookup "id" = some (.id id) ∧
      if useMaterialized then ∃ insertedAt, object.lookup "inserted_at" =
        some (.insertedAt insertedAt) ∧ start = toLex (↑insertedAt, id)
      else start = toLex (⊥, id) := by
  simp only [pageStart, hloads] at hstart
  split at hstart
  · cases hstart
  · cases hstart
  next id hid =>
  refine ⟨id, hid, ?_⟩
  cases useMaterialized with
  | false => exact (Except.ok.inj hstart).symm
  | true =>
      rw [if_pos rfl] at hstart ⊢
      split at hstart
      · cases hstart
      · cases hstart
      next insertedAt hinsertedAt => exact ⟨insertedAt, hinsertedAt, (Except.ok.inj hstart).symm⟩

/-- The condition holds of the rows from the start on, in the direction of the page. -/
theorem admits_iff {text : String} {object : List (String × PaginationValue I T)}
    {start : PageKey I T} (hloads : json.loads text = some object)
    (hstart : pageStart json useMaterialized text = .ok start) (reverse : Bool)
    (row : DataPointRow I T P) :
    (pageClauses useMaterialized reverse).admits PaginationValue.order row.column
        (startParams object) = true ↔
      if reverse then row.pageKey useMaterialized ≤ start
      else start ≤ row.pageKey useMaterialized := by
  obtain ⟨id, hid, hcolumns⟩ := pageStart_eq_ok hloads hstart
  cases useMaterialized with
  | false =>
      rw [if_neg Bool.false_ne_true] at hcolumns
      subst hcolumns
      have hadmits : (pageClauses false reverse).admits PaginationValue.order row.column
          (startParams object) =
          (pageClauses false reverse).operator.holds (compare row.id id) := by
        simp [PageClauses.admits, pageClauses, DataPointRow.column, startParams, hid,
          PageClauses.compareRows, PaginationValue.order, PageClauses.operator]
      rw [hadmits, PageClauses.holds_operator, DataPointRow.pageKey, Prod.Lex.toLex_le_toLex,
        Prod.Lex.toLex_le_toLex]
      simp [compare_le_iff_le, compare_ge_iff_ge]
  | true =>
      rw [if_pos rfl] at hcolumns
      obtain ⟨insertedAt, hinsertedAt, rfl⟩ := hcolumns
      have hadmits : (pageClauses true reverse).admits PaginationValue.order row.column
          (startParams object) =
          (pageClauses true reverse).operator.holds
            ((compare row.insertedAt insertedAt).then (compare row.id id)) := by
        simp [PageClauses.admits, pageClauses, DataPointRow.column, startParams, hid, hinsertedAt,
          PageClauses.compareRows, PaginationValue.order, PageClauses.operator]
      rw [hadmits, PageClauses.holds_operator, DataPointRow.pageKey, Prod.Lex.toLex_le_toLex',
        Prod.Lex.toLex_le_toLex']
      cases reverse with
      | true => simp [Ordering.then_eq_gt, compare_gt_iff_gt]
      | false => simp [Ordering.then_eq_lt, compare_lt_iff_lt, eq_comm (a := insertedAt)]

/-- A page that starts somewhere is cut out of the rows of which its condition holds. -/
theorem rawDisplayDataPointQuery_start {hooks : PageHooks (DataPointRow.pageKey useMaterialized)}
    (hhooks : (dataPointList json useMaterialized includePrev resultOrder hperm).hooks = some hooks)
    {text : String} {object : List (String × PaginationValue I T)} {start : PageKey I T}
    (hloads : json.loads text = some object)
    (hstart : pageStart json useMaterialized text = .ok start) (reverse : Bool) (limit : Nat)
    (rows : List (DataPointRow I T P)) :
    (dataPointList json useMaterialized includePrev resultOrder hperm).rawDisplayDataPointQuery
        hooks (some text) reverse limit rows =
      let selected := rows.filter fun row =>
        (pageClauses useMaterialized reverse).admits PaginationValue.order row.column
          (startParams object)
      some (resultOrder ((if reverse then selected.reverse else selected).take limit)) := by
  obtain rfl := Option.some.inj hhooks
  have hadmitted := fun row : DataPointRow I T P => admits_iff hloads hstart reverse row
  simp only [ListView.rawDisplayDataPointQuery, hstart, Except.toOption, Option.map_some]
  cases reverse with
  | false =>
      have hselected : (rows.filter fun row => start ≤ row.pageKey useMaterialized) =
          rows.filter fun row => (pageClauses useMaterialized false).admits PaginationValue.order
            row.column (startParams object) :=
        List.filter_congr fun row _ => by rw [Bool.eq_iff_iff, hadmitted row]; simp
      exact congrArg (fun selected => some (resultOrder (selected.take limit))) hselected
  | true =>
      have hselected : (rows.filter fun row => row.pageKey useMaterialized ≤ start) =
          rows.filter fun row => (pageClauses useMaterialized true).admits PaginationValue.order
            row.column (startParams object) :=
        List.filter_congr fun row _ => by rw [Bool.eq_iff_iff, hadmitted row]; simp
      exact congrArg (fun selected => some (resultOrder (selected.reverse.take limit))) hselected

end DataPoints

end NFCompose
