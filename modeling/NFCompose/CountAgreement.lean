/-
The count and the list of data points.  Both queries are put together by their
own functions; what they select from has the same rows, and no join with a
resolved dimension adds any.
-/
import NFCompose.QueryScope
import NFCompose.SqlSelects

namespace NFCompose

open SqlConditions SqlQueries SqlSelects

/-- The conditions of the read queries, and the atoms of a filter. -/
inductive ReadAtom where
  | isNull (table field : String)
  | isFalse (table field : String)
  | equal (table field other otherField : String)
  | older (first second : String)
  | compare (table field : String) (operator : SqlOperator) (param : String)
  | filter (atom : FilterAtom)

namespace ReadAtom

def fragment : ReadAtom → Fragment
  | .isNull table field => [.column table field, .text " IS NULL"]
  | .isFalse table field => [.column table field, .text " = false"]
  | .equal table field other otherField =>
      [.column table field, .text " = ", .column other otherField]
  | .older first second =>
      [.text "(", .column first "point_in_time", .text ", ", .column first "sub_clock",
        .text ") < (", .column second "point_in_time", .text ", ", .column second "sub_clock",
        .text ")"]
  | .compare table field operator param =>
      [.column table field, .text (" " ++ operator.sql ++ " %(" ++ param ++ ")s")]
  | .filter atom => atom.fragment

variable {N D V : Type} (db : Database N D V) (queryParams : AList fun _ : String => ParamValue N D)

/-- The left sides of a filter in rows that are joined. -/
def filterRow (joined : JoinedRow V) : SqlRow V
  | .dsDp field => column joined "ds_dp" field
  | .relation table => column joined table "value"

/-- The first pair of columns that differ decides how two versions are ordered. -/
def olderTruth (joined : JoinedRow V) (first second : String) : Truth :=
  match compared db.order (column joined first "point_in_time")
      (column joined second "point_in_time") with
  | none => .unknown
  | some .lt => .true
  | some .gt => .false
  | some .eq => nullable (compared db.order (column joined first "sub_clock")
      (column joined second "sub_clock")) fun ordering => ordering = .lt

def truth (joined : JoinedRow V) : ReadAtom → Truth
  | .isNull table field => .ofBool (column joined table field).isNone
  | .isFalse table field => nullable (column joined table field) fun stored =>
      db.order stored (db.value (.boolean false)) = .eq
  | .equal table field other otherField =>
      nullable (compared db.order (column joined table field) (column joined other otherField))
        fun ordering => ordering = .eq
  | .older first second => olderTruth db joined first second
  | .compare table field operator param =>
      match queryParams.lookup param with
      | some (.scalar scalar) => nullable (column joined table field) fun stored =>
          operator.holds (db.order stored (db.value scalar))
      | _ => .unknown
  | .filter atom => atomTruth db (filterRow joined) queryParams atom

/-- The driver refuses a parameter that is not bound. -/
def accepted : ReadAtom → Bool
  | .compare _ _ _ param => (queryParams.lookup param).isSome
  | .filter atom => atomAccepted db queryParams atom
  | _ => true

end ReadAtom

/-- `value` is what the database makes of the expressions that are selected. -/
def readMeaning {N D V : Type} (db : Database N D V) (value : Fragment → JoinedRow V → Option V)
    (queryParams : AList fun _ : String => ParamValue N D) : Meaning ReadAtom V where
  truth := fun atom joined => atom.truth db queryParams joined
  accepted := fun atom => atom.accepted db queryParams
  value := value

section Selects

def timeCondition (given : Bool) (table : String) (operator : SqlOperator) (param : String) :
    List (Token ReadAtom) :=
  if given then [.and, .atom (.compare table "point_in_time" operator param)] else []

def upToPointInTime (pointInTime : Bool) (table : String) : List (Token ReadAtom) :=
  timeCondition pointInTime table .lte "point_in_time"

def afterChangesSince (changesSince : Bool) (table : String) : List (Token ReadAtom) :=
  timeCondition changesSince table .gt "changes_since"

/-- The rows of a main table. -/
def currentSelect (table : String) (items : List SelectItem) (condition : List (Token ReadAtom))
    (ordering : Fragment) : Select ReadAtom where
  items := items
  source := .base table "ds_dp"
  joins := []
  condition := some condition
  ordering := ordering

/-- The rows of a history without a later version. -/
def latestSelect (table : String) (pointInTime changesSince : Bool) (items : List SelectItem)
    (filter : List (Token ReadAtom)) (ordering : Fragment) : Select ReadAtom where
  items := items
  source := .base table "ds_dp"
  joins := [⟨.base table "ds_dp2",
    [.atom (.equal "ds_dp" "id" "ds_dp2" "id"), .and, .atom (.older "ds_dp" "ds_dp2")] ++
      upToPointInTime pointInTime "ds_dp2" ++ afterChangesSince changesSince "ds_dp2"⟩]
  condition := some
    ([.atom (.isNull "ds_dp2" "id"), .and, .atom (.isFalse "ds_dp" "deleted")] ++
      upToPointInTime pointInTime "ds_dp" ++ afterChangesSince changesSince "ds_dp" ++ filter)
  ordering := ordering

variable (info : DataSeriesQueryInfo) (useMaterialized pointInTime changesSince : Bool)

def centralSelect (items : List SelectItem) (filterQueryStr : FilterText) (ordering : Fragment) :
    Select ReadAtom :=
  let filter := filterQueryStr.map (Token.map .filter)
  if useMaterialized then
    currentSelect (info.schemaName ++ "." ++ info.mainQueryTableName) items
      (.atom (.isNull "ds_dp" "deleted_at") :: afterChangesSince changesSince "ds_dp" ++ filter)
      ordering
  else
    latestSelect (info.schemaName ++ "." ++ info.materializedFlatHistoryTableName) pointInTime
      changesSince items filter ordering

def countSelect (filterQueryStr : FilterText) : Select ReadAtom :=
  centralSelect info useMaterialized pointInTime changesSince
    [.named [.text "count(", .column "ds_dp" "id", .text ")"] "count"] filterQueryStr []

def resolutionItems : List SelectItem :=
  [.named [.column "ds_dp" "id"] "data_point_id",
    .named [.column "ds_dp" "external_id"] "external_id"]

/-- Without a history a reference is alive when it has not been deleted, or not
before the point in time. -/
def resolutionSelect (reference : ReadOnlyDataSeries) : Select ReadAtom :=
  let mainTable := reference.schemaName ++ "." ++ reference.mainQueryTableName
  if useMaterialized then
    currentSelect mainTable resolutionItems [.atom (.isNull "ds_dp" "deleted_at")] []
  else if reference.backend = .dynamicSqlNoHistory then
    currentSelect mainTable resolutionItems
      [.atom (.isNull "ds_dp" "deleted_at"), .or,
        .atom (.compare "ds_dp" "deleted_at" .gte "point_in_time"), .and,
        .atom (.compare "ds_dp" "inserted_at" .lte "point_in_time")] []
  else
    latestSelect (reference.schemaName ++ "." ++ reference.materializedFlatHistoryTableName)
      pointInTime false resolutionItems [] []

def centralItems (payloadAsJson : Bool) : List SelectItem :=
  [.column "ds_dp" "id", .named [.text ("('" ++ info.dataSeriesId ++ "')")] "data_series_id"] ++
    renderPayloadSelects info useMaterialized (selectInfos info) payloadAsJson ++
    [renderPointInTime payloadAsJson] ++ renderPaginationDataSelect useMaterialized true ++
    renderMainExtraFieldsColumns "ds_dp" info.mainExtraFields ++ [.column "ds_dp" "external_id"]

def resolvedItems : List SelectItem :=
  [.column centralTable "id", .column centralTable "data_series_id"] ++
    renderSelects (selectInfos info) true (info.dimensions.map (·.id)) ++
    [renderCurrentVersionSelect true] ++ renderCentralPaginationDataSelect true ++
    renderMainExtraFieldsColumns centralTable info.mainExtraFields ++
    [.column centralTable "external_id"]

def resolutionJoin (dimension : DataSeriesDimensionQueryInfo) : SelectJoin ReadAtom :=
  ⟨.common (resolveTable dimension.id),
    [.atom (.equal centralTable (dataSeriesDimensionToSelectInfo dimension).selectAlias
      (resolveTable dimension.id) "data_point_id")]⟩

/-- The query around the central one. -/
def resolvedSelect : Select ReadAtom where
  items := resolvedItems info
  source := .common centralTable
  joins := info.dimensions.map resolutionJoin
  condition := none
  ordering := []

def listSelect (filterQueryStr : FilterText) (reverse resolve : Bool) : WithSelect ReadAtom :=
  let actuallyResolve := resolve && !info.dimensions.isEmpty
  let central := centralSelect info useMaterialized pointInTime changesSince
    (centralItems info useMaterialized !actuallyResolve) filterQueryStr
    (orderBy useMaterialized reverse)
  if actuallyResolve then
    { commons := (centralTable, central) :: info.dimensions.map fun dimension =>
        (resolveTable dimension.id,
          resolutionSelect useMaterialized pointInTime dimension.reference)
      main := resolvedSelect info }
  else ⟨[], central⟩

end Selects

section Text

variable {N : Type} (partitionTable : String → Uuid → String) {info : DataSeriesQueryInfo}
  {useMaterialized pointInTime changesSince : Bool}

theorem conditionFragment_filter (text : FilterText) :
    conditionFragment ReadAtom.fragment (text.map (Token.map .filter)) = filterFragment text := by
  rw [conditionFragment, filterFragment, List.flatMap_map]
  congr 1
  funext token
  cases token <;> rfl

/-- The text of the query in a history, whatever comes after its conditions. -/
theorem sql_latestSelect (table : String) (pointInTime changesSince : Bool)
    (items : List SelectItem) (filter : List (Token ReadAtom)) (ordering : Fragment) :
    let select := latestSelect table pointInTime changesSince items filter ordering
    (select.joins.map (SelectJoin.join ReadAtom.fragment)).map Join.sql =
        [(⟨.base table "ds_dp2",
          [.column "ds_dp" "id", .text " = ", .column "ds_dp2" "id"] ++
            olderThan "ds_dp" "ds_dp2" ++ pointInTimePart pointInTime "ds_dp2" ++
            changesSincePart changesSince "ds_dp2"⟩ : Join)].map Join.sql ∧
      Fragment.sql (select.rest ReadAtom.fragment) =
        Fragment.sql (renderWherePartFlatHistory pointInTime changesSince ++
          (conditionFragment ReadAtom.fragment filter ++ ordering)) := by
  constructor
  · apply congrArg fun sql => [sql]
    apply Join.sql_congr
    cases pointInTime <;> cases changesSince <;> rfl
  · apply Select.sql_rest rfl
    cases pointInTime <;> cases changesSince <;> rfl

/-- The text of the query of a main table. -/
theorem sql_currentSelect (table : String) (items : List SelectItem)
    (filter : List (Token ReadAtom)) (ordering : Fragment) :
    Fragment.sql ((currentSelect table items
        (.atom (.isNull "ds_dp" "deleted_at") :: afterChangesSince changesSince "ds_dp" ++ filter)
        ordering).rest ReadAtom.fragment) =
      Fragment.sql (.text "WHERE " :: AliveFilter.deletedAtIsNull.condition ++
        changesSincePart changesSince "ds_dp" ++
          (conditionFragment ReadAtom.fragment filter ++ ordering)) := by
  apply Select.sql_rest rfl
  cases changesSince <;> rfl

/-- The central query is read from the same tables, under the same conditions. -/
theorem sql_centralSelect (halive : info.mainAliveFilter = .deletedAtIsNull)
    (htables : useMaterialized = true ∨ info.backend = .dynamicSqlMaterializedFlatHistory)
    {wherePart : Fragment}
    (hwhere : renderWherePart (N := N) info useMaterialized pointInTime changesSince =
      .ok wherePart) (items : List SelectItem) (text : FilterText) (ordering : Fragment) :
    (Query.mk [] items
      (renderBaseSources partitionTable info useMaterialized pointInTime changesSince).1
      (renderBaseSources partitionTable info useMaterialized pointInTime changesSince).2
      (wherePart ++ (filterFragment text ++ ordering))).sql =
    ((centralSelect info useMaterialized pointInTime changesSince items text ordering).query
      ReadAtom.fragment []).sql := by
  rw [← conditionFragment_filter]
  cases useMaterialized with
  | true =>
      cases pointInTime with
      | true => cases hwhere
      | false =>
          rw [renderWherePart, if_pos rfl, renderWherePartMaterialized,
            if_neg Bool.false_ne_true, halive] at hwhere
          cases hwhere
          exact Query.sql_congr .nil rfl (sql_currentSelect _ items _ ordering).symm items _
  | false =>
      have hbackend : info.backend = .dynamicSqlMaterializedFlatHistory :=
        htables.resolve_left Bool.false_ne_true
      rw [renderWherePart, if_neg Bool.false_ne_true, if_pos hbackend] at hwhere
      cases hwhere
      rw [renderBaseSources, if_neg Bool.false_ne_true, if_pos hbackend]
      obtain ⟨hjoins, hrest⟩ := sql_latestSelect
        (info.schemaName ++ "." ++ info.materializedFlatHistoryTableName) pointInTime changesSince
        items (text.map (Token.map .filter)) ordering
      exact Query.sql_congr .nil hjoins.symm hrest.symm items _

theorem sql_resolutionSelect {reference : ReadOnlyDataSeries}
    (hsupported : reference.backend.Supported) {query : Query}
    (hok : dimensionResolution (N := N) partitionTable useMaterialized pointInTime reference =
      .ok query) :
    query.sql = ((resolutionSelect useMaterialized pointInTime reference).query
      ReadAtom.fragment []).sql := by
  cases useMaterialized with
  | true =>
      cases pointInTime with
      | true => cases hok
      | false =>
          cases hok
          exact Query.sql_congr .nil rfl rfl _ _
  | false =>
      rw [dimensionResolution, if_neg Bool.false_ne_true] at hok
      rw [resolutionSelect, if_neg Bool.false_ne_true]
      rcases hsupported with hbackend | hbackend
      · rw [if_pos hbackend] at hok ⊢
        cases hok
        exact Query.sql_congr .nil rfl rfl _ _
      · have hother : reference.backend ≠ .dynamicSqlNoHistory := by
          rw [hbackend]
          decide
        rw [if_neg hother, if_pos hbackend] at hok
        rw [if_neg hother]
        cases hok
        obtain ⟨hjoins, hrest⟩ := sql_latestSelect
          (reference.schemaName ++ "." ++ reference.materializedFlatHistoryTableName) pointInTime
          false resolutionItems [] []
        refine Query.sql_congr .nil ?_ ?_ _ _
        · rw [hjoins]
          apply congrArg fun sql => [sql]
          apply Join.sql_congr
          cases pointInTime <;> rfl
        · rw [hrest]
          cases pointInTime <;> rfl

theorem sql_dimensionResolutions {dimensions : List DataSeriesDimensionQueryInfo}
    (hsupported : ∀ dimension ∈ dimensions, dimension.reference.backend.Supported)
    {resolutions : List (String × Query)}
    (hok : dimensionResolutions (N := N) partitionTable useMaterialized pointInTime dimensions =
      .ok resolutions) :
    SameDefinitions resolutions (dimensions.map fun dimension =>
      (resolveTable dimension.id, (resolutionSelect useMaterialized pointInTime
        dimension.reference).query ReadAtom.fragment [])) := by
  have hqueries := dimensionResolutions_eq_ok hok
  clear hok
  induction hqueries with
  | nil => exact .nil
  | @cons dimension entry rest others hentry _ ih =>
      rw [List.forall_mem_cons] at hsupported
      exact .cons ⟨hentry.1, sql_resolutionSelect partitionTable hsupported.1 hentry.2⟩
        (ih hsupported.2)

/-- What the count has a copy of is the central query. -/
theorem dataSeriesDataPointCount_eq (hsupported : info.backend.Supported)
    (halive : info.mainAliveFilter = .deletedAtIsNull)
    (children : (type : StructureType) → AList fun _ : ExternalId => ChildQueryInfo type)
    (filterStr : Fragment) :
    CountQuery.dataSeriesDataPointCount (N := N) partitionTable
        { info with mainAliveFilter := .deletedAtIsNull, children := children } pointInTime
        changesSince filterStr =
      (renderWherePart info (canUseMaterializedTable info pointInTime) pointInTime
        changesSince).map fun wherePart =>
          let sources := renderBaseSources partitionTable info
            (canUseMaterializedTable info pointInTime) pointInTime changesSince
          .mk [] [.named [.text "count(", .column "ds_dp" "id", .text ")"] "count"] sources.1
            sources.2 (wherePart ++ filterStr) := by
  have hsame : canUseMaterializedTable
      { info with mainAliveFilter := .deletedAtIsNull, children := children } pointInTime =
        canUseMaterializedTable info pointInTime := rfl
  rw [CountQuery.dataSeriesDataPointCount, hsame]
  by_cases hmaterialized : canUseMaterializedTable info pointInTime = true
  · rw [hmaterialized, CountQuery.renderBaseSources, if_pos rfl, CountQuery.renderWherePart,
      if_pos rfl, renderBaseSources, if_pos rfl, renderWherePart, if_pos rfl,
      renderWherePartMaterialized, CountQuery.renderWherePartMaterialized, halive]
    cases pointInTime <;> rfl
  · have hbackend := (currentTables hsupported pointInTime).resolve_left hmaterialized
    rw [CountQuery.renderBaseSources, if_neg hmaterialized, if_pos hbackend,
      CountQuery.renderWherePart, if_neg hmaterialized, if_pos hbackend, renderBaseSources,
      if_neg hmaterialized, if_pos hbackend, renderWherePart, if_neg hmaterialized,
      if_pos hbackend]
    rfl

/-- The central query of a list without versions. -/
theorem singleDataSeriesAsSqlTable_eq (payloadAsJson : Bool) (filterStr : Fragment) :
    singleDataSeriesAsSqlTable (N := N) partitionTable info useMaterialized pointInTime
        changesSince (selectInfos info) payloadAsJson false true filterStr =
      (renderWherePart info useMaterialized pointInTime changesSince).map fun wherePart =>
        let sources := renderBaseSources partitionTable info useMaterialized pointInTime
          changesSince
        .mk [] (centralItems info useMaterialized payloadAsJson) sources.1 sources.2
          (wherePart ++ filterStr) := by
  have hversions : ∀ versionDsDp, versionsRenderSelect false versionDsDp info (selectInfos info) =
      [] := fun _ => rfl
  simp only [singleDataSeriesAsSqlTable, versionsRenderWithParts, versionsRenderWithJoinParts,
    Bool.not_false, if_true, hversions, List.append_nil, bind, Except.bind, pure, Except.pure]
  cases renderWherePart (N := N) info useMaterialized pointInTime changesSince <;> rfl

theorem sql_dataSeriesAsSqlTable (hsupported : info.backend.Supported)
    (halive : info.mainAliveFilter = .deletedAtIsNull)
    (hreferences : ∀ dimension ∈ info.dimensions, dimension.reference.backend.Supported)
    (text : FilterText) (reverse resolve : Bool) {query : Query}
    (hok : dataSeriesAsSqlTable (N := N) partitionTable none true pointInTime changesSince false
      (filterFragment text ++ orderBy (canUseMaterializedTable info pointInTime) reverse) resolve
      info none = .ok query) :
    query.sql = ((listSelect info (canUseMaterializedTable info pointInTime) pointInTime
      changesSince text reverse resolve).query ReadAtom.fragment).sql := by
  have htables := currentTables hsupported pointInTime
  simp only [dataSeriesAsSqlTable, payloadSelectInfos, Option.getD_none, bind, Except.bind,
    singleDataSeriesAsSqlTable_eq] at hok
  rw [listSelect]
  cases hwhere : renderWherePart (N := N) info (canUseMaterializedTable info pointInTime)
      pointInTime changesSince with
  | error error =>
      rw [hwhere] at hok
      cases hok
  | ok wherePart =>
      rw [hwhere] at hok
      simp only [Except.map] at hok
      split at hok
      · next hplain =>
          cases hok
          have hactual : (resolve && !info.dimensions.isEmpty) = false :=
            Bool.not_eq_true' _ ▸ hplain
          simp only [hactual]
          exact sql_centralSelect partitionTable halive htables hwhere _ text _
      · next hresolve =>
          have hactual : (resolve && !info.dimensions.isEmpty) = true := by simpa using hresolve
          split at hok
          · cases hok
          · next resolutions hresolutions =>
              have hitems : [SelectItem.column centralTable "id",
                  .column centralTable "data_series_id"] ++
                  renderSelects (selectInfos info) true
                    (info.dimensions.map fun dimension => dimension.id) ++
                  renderVersionSelect false ++ [renderCurrentVersionSelect true] ++
                  renderCentralPaginationDataSelect true ++
                  renderMainExtraFieldsColumns centralTable info.mainExtraFields ++
                  [.column centralTable "external_id"] = resolvedItems info := by
                simp [renderVersionSelect, resolvedItems]
              simp only [pure, Except.pure, hitems] at hok
              cases hok
              simp only [hactual, if_true, WithSelect.query]
              rw [List.map_cons, List.map_map]
              apply Query.sql_congr
              · apply List.Forall₂.cons
                · constructor
                  · rfl
                  · exact sql_centralSelect partitionTable halive htables hwhere _ text _
                · exact sql_dimensionResolutions partitionTable hreferences hresolutions
              · rw [resolutionJoins, resolvedSelect, List.map_map, List.map_map, List.map_map]
                rfl
              · rfl

end Text

section Parameters

variable {N D : Type}

/-- What a view takes from a request for a count, or for the whole list. -/
structure CountArguments (N D : Type) where
  filterValue : Json N
  externalIds : Option (List ExternalId)
  pointInTime : Option D
  changesSince : Option D

/-- The request without versions, and with everything in its payload. -/
def CountArguments.request (arguments : CountArguments N D) (resolve : Bool) : ReadRequest N where
  includeInPayload := none
  filterValue := arguments.filterValue
  externalIdAsDimensionIdentifier := resolve
  externalIds := arguments.externalIds
  pointInTime := arguments.pointInTime.isSome
  changesSince := arguments.changesSince.isSome
  shouldIncludeVersions := false

/-- A time that is not given has no placeholder. -/
def bindTime (name : String) (time : Option D)
    (queryParams : AList fun _ : String => ParamValue N D) :
    AList fun _ : String => ParamValue N D :=
  match time with
  | some time => queryParams.insert name (.scalar (.timestamp time))
  | none => queryParams

def countQueryParams (arguments : CountArguments N D) (part : UserDefinedFilter N D) :
    AList fun _ : String => ParamValue N D :=
  part.queryParams ∪ bindTime "changes_since" arguments.changesSince
    (bindTime "point_in_time" arguments.pointInTime ∅)

def payloadParams (info : DataSeriesQueryInfo) : AList fun _ : String => ParamValue N D :=
  (selectInfos info).foldl (fun queryParams selectInfo => queryParams.insert
    selectInfo.payloadVariableName (.scalar (.text selectInfo.unescapedDisplayId))) ∅

def listQueryParams (info : DataSeriesQueryInfo) (arguments : CountArguments N D)
    (part : UserDefinedFilter N D) : AList fun _ : String => ParamValue N D :=
  bindTime "changes_since" arguments.changesSince
    (bindTime "point_in_time" arguments.pointInTime (part.queryParams ∪ payloadParams info))

@[simp] theorem lookup_bindTime_self (name : String) (time : D)
    (queryParams : AList fun _ : String => ParamValue N D) :
    (bindTime name (some time) queryParams).lookup name = some (.scalar (.timestamp time)) :=
  AList.lookup_insert queryParams

theorem lookup_bindTime_of_ne {name other : String} (hne : other ≠ name) (time : Option D)
    (queryParams : AList fun _ : String => ParamValue N D) :
    (bindTime name time queryParams).lookup other = queryParams.lookup other := by
  cases time with
  | none => rfl
  | some time => exact AList.lookup_insert_ne hne

/-- The names of the parameters of a filter. -/
def FilterName (name : String) : Prop :=
  ∃ index, name = filterParamName index ∨ name = externalIdParamName index

theorem FilterName.head {name : String} (hname : FilterName name) :
    name.toList.head? = some 'f' ∨ name.toList.head? = some 'e' := by
  obtain ⟨index, rfl | rfl⟩ := hname
  · left
    simp [filterParamName]
  · right
    simp [externalIdParamName]

theorem FilterName.ne {name other : String} (hname : FilterName name)
    (hother : other.toList.head? = some 'p' ∨ other.toList.head? = some 'c') : name ≠ other := by
  rintro rfl
  rcases hname.head with hhead | hhead <;> rw [hhead] at hother <;> simp at hother

theorem not_mem_payloadParams {info : DataSeriesQueryInfo} {name : String}
    (hname : FilterName name) : name ∉ payloadParams (N := N) (D := D) info := by
  have hfold : ∀ (list : List SelectInfo) (queryParams : AList fun _ : String => ParamValue N D),
      (∀ selectInfo ∈ list, selectInfo.payloadVariableName.toList.head? = some 'p') →
        name ∉ queryParams → name ∉ list.foldl (fun queryParams selectInfo => queryParams.insert
          selectInfo.payloadVariableName (.scalar (.text selectInfo.unescapedDisplayId)))
            queryParams := by
    intro list
    induction list with
    | nil => exact fun _ _ hfresh => hfresh
    | cons selectInfo rest ih =>
        intro queryParams hnames hfresh
        rw [List.forall_mem_cons] at hnames
        apply ih _ hnames.2
        rw [AList.mem_insert, not_or]
        exact ⟨hname.ne (Or.inl hnames.1), hfresh⟩
  apply hfold _ _ _ (AList.notMem_empty name)
  intro selectInfo hmem
  rcases mem_selectInfos hmem with ⟨dimension, -, rfl⟩ | ⟨type, fact, rfl⟩
  · simp [dataSeriesDimensionToSelectInfo, payloadVariableName]
  · simp [factToSelectInfo, payloadVariableName]

variable {info : DataSeriesQueryInfo} {parseDatetime : Json N → Option D}
  {useMaterialized : Bool} {externalIds : List ExternalId} {filter : Json N} {text : FilterText}
  {part : UserDefinedFilter N D}

theorem AcceptedFilter.filterName
    (haccepted : AcceptedFilter useMaterialized info parseDatetime externalIds filter text part)
    {name : String} (hmem : name ∈ part.queryParams) : FilterName name := by
  rw [haccepted.queryParams, AList.mem_union] at hmem
  rcases hmem with hcompared | hexternal
  · rcases mem_queryParams_foldl.mp hcompared with hempty | ⟨entry, -, hname, -⟩
    · exact absurd hempty (AList.notMem_empty name)
    · exact ⟨entry.2, Or.inl hname⟩
  · rcases mem_bindExternalId.mp hexternal with hempty | ⟨entry, -, hname⟩
    · exact absurd hempty (AList.notMem_empty name)
    · exact ⟨entry.2, Or.inr hname⟩

/-- Neither query binds anything else to the parameters of its filter. -/
theorem lookup_countQueryParams (arguments : CountArguments N D) {name : String}
    (hname : FilterName name) :
    (countQueryParams arguments part).lookup name = part.queryParams.lookup name := by
  by_cases hmem : name ∈ part.queryParams
  · exact AList.lookup_union_left hmem
  · rw [countQueryParams, AList.lookup_union_right hmem,
      lookup_bindTime_of_ne (hname.ne (Or.inr rfl)), lookup_bindTime_of_ne (hname.ne (Or.inl rfl)),
      AList.lookup_eq_none.mpr hmem, AList.lookup_empty]

theorem lookup_listQueryParams (arguments : CountArguments N D) {name : String}
    (hname : FilterName name) :
    (listQueryParams info arguments part).lookup name = part.queryParams.lookup name := by
  rw [listQueryParams, lookup_bindTime_of_ne (hname.ne (Or.inr rfl)),
    lookup_bindTime_of_ne (hname.ne (Or.inl rfl))]
  by_cases hmem : name ∈ part.queryParams
  · exact AList.lookup_union_left hmem
  · rw [AList.lookup_union_right hmem, AList.lookup_eq_none.mpr hmem,
      AList.lookup_eq_none.mpr (not_mem_payloadParams hname)]

theorem lookup_listQueryParams_pointInTime {arguments : CountArguments N D} {time : D}
    (hgiven : arguments.pointInTime = some time) :
    (listQueryParams info arguments part).lookup "point_in_time" =
      some (.scalar (.timestamp time)) := by
  rw [listQueryParams, lookup_bindTime_of_ne (by decide), hgiven, lookup_bindTime_self]

theorem lookup_listQueryParams_changesSince {arguments : CountArguments N D} {time : D}
    (hgiven : arguments.changesSince = some time) :
    (listQueryParams info arguments part).lookup "changes_since" =
      some (.scalar (.timestamp time)) := by
  rw [listQueryParams, hgiven, lookup_bindTime_self]

/-- A time that is given is bound alike. -/
theorem AcceptedFilter.lookup_pointInTime
    (haccepted : AcceptedFilter useMaterialized info parseDatetime externalIds filter text part)
    {arguments : CountArguments N D} (hgiven : arguments.pointInTime.isSome = true) :
    (countQueryParams arguments part).lookup "point_in_time" =
      (listQueryParams info arguments part).lookup "point_in_time" := by
  obtain ⟨time, htime⟩ := Option.isSome_iff_exists.mp hgiven
  have hfresh : "point_in_time" ∉ part.queryParams :=
    fun hmem => (haccepted.filterName hmem).ne (Or.inl rfl) rfl
  rw [lookup_listQueryParams_pointInTime htime, countQueryParams,
    AList.lookup_union_right hfresh, lookup_bindTime_of_ne (by decide), htime,
    lookup_bindTime_self]

theorem AcceptedFilter.lookup_changesSince
    (haccepted : AcceptedFilter useMaterialized info parseDatetime externalIds filter text part)
    {arguments : CountArguments N D} (hgiven : arguments.changesSince.isSome = true) :
    (countQueryParams arguments part).lookup "changes_since" =
      (listQueryParams info arguments part).lookup "changes_since" := by
  obtain ⟨time, htime⟩ := Option.isSome_iff_exists.mp hgiven
  have hfresh : "changes_since" ∉ part.queryParams :=
    fun hmem => (haccepted.filterName hmem).ne (Or.inr rfl) rfl
  rw [lookup_listQueryParams_changesSince htime, countQueryParams,
    AList.lookup_union_right hfresh, htime, lookup_bindTime_self]

end Parameters

/-- The parameter that an atom of a filter has in its text. -/
def FilterAtom.param : FilterAtom → Option String
  | .compare _ _ param _ => some param
  | .inTuple _ _ param => some param
  | .hasPrefix _ param _ _ => some param
  | _ => none

section Atoms

variable {N D V : Type} {db : Database N D V} {value : Fragment → JoinedRow V → Option V}
  {first second : AList fun _ : String => ParamValue N D}

theorem agreesOn_compare {param : String} (hlookup : first.lookup param = second.lookup param)
    (table field : String) (operator : SqlOperator) :
    (readMeaning db value first).AgreesOn (readMeaning db value second)
      (.compare table field operator param) := by
  constructor
  · funext joined
    simp only [readMeaning, ReadAtom.truth, hlookup]
  · simp only [readMeaning, ReadAtom.accepted, hlookup]

/-- A time is compared when it is given. -/
theorem agreesOn_timeCondition {given : Bool} {param : String}
    (hlookup : given = true → first.lookup param = second.lookup param) (table : String)
    (operator : SqlOperator) : ∀ atom ∈ atoms (timeCondition given table operator param),
      (readMeaning db value first).AgreesOn (readMeaning db value second) atom := by
  intro atom hmem
  rw [timeCondition] at hmem
  split at hmem
  · next hgiven =>
      cases List.mem_singleton.mp hmem
      exact agreesOn_compare (hlookup hgiven) _ _ _
  · cases hmem

/-- An atom of a filter depends on what is bound to its own parameter. -/
theorem agreesOn_filter {atom : FilterAtom}
    (hlookup : ∀ param ∈ atom.param, first.lookup param = second.lookup param) :
    (readMeaning db value first).AgreesOn (readMeaning db value second) (.filter atom) := by
  cases atom with
  | always => exact ⟨rfl, rfl⟩
  | isNull lhs => exact ⟨rfl, rfl⟩
  | isNotNull lhs => exact ⟨rfl, rfl⟩
  | compare lhs operator param cast =>
      have hparam := hlookup param rfl
      constructor
      · funext joined
        simp only [readMeaning, ReadAtom.truth, atomTruth, hparam]
      · simp only [readMeaning, ReadAtom.accepted, atomAccepted, hparam]
  | inTuple lhs negated param =>
      have hparam := hlookup param rfl
      constructor
      · funext joined
        simp only [readMeaning, ReadAtom.truth, atomTruth, hparam]
      · simp only [readMeaning, ReadAtom.accepted, atomAccepted, hparam]
  | hasPrefix lhs param cast complete =>
      have hparam := hlookup param rfl
      constructor
      · funext joined
        simp only [readMeaning, ReadAtom.truth, atomTruth, hparam]
      · simp only [readMeaning, ReadAtom.accepted, atomAccepted, hparam]

theorem mem_param_conditionOf {lhs : Lhs} {type : StructureType} {comparison : Comparison N}
    {name param : String} (hmem : param ∈ (conditionOf lhs type comparison name).param) :
    param = name := by
  rw [conditionOf] at hmem
  split at hmem
  · cases hmem
  · split at hmem
    · cases hmem
    · split at hmem
      · exact (Option.some_inj.mp hmem).symm
      · split at hmem <;> exact (Option.some_inj.mp hmem).symm

variable {info : DataSeriesQueryInfo} {parseDatetime : Json N → Option D}
  {useMaterialized : Bool} {externalIds : List ExternalId} {filter : Json N} {text : FilterText}
  {part : UserDefinedFilter N D}

/-- Every parameter of the text of a filter has the name of one. -/
theorem AcceptedFilter.filterName_of_atom
    (haccepted : AcceptedFilter useMaterialized info parseDatetime externalIds filter text part)
    {atom : FilterAtom} (hatom : atom ∈ atoms part.filterQueryStr) {param : String}
    (hparam : param ∈ atom.param) : FilterName param := by
  rw [haccepted.atoms_filterQueryStr, List.mem_append, atoms_externalIdQueryStr] at hatom
  rcases hatom with hexternal | hcompared
  · obtain ⟨entry, -, rfl⟩ := List.mem_map.mp hexternal
    exact ⟨entry.2, Or.inr (Option.some_inj.mp hparam).symm⟩
  · have hnever : atom ≠ .always := by
      rintro rfl
      cases hparam
    obtain ⟨entry, -, rfl⟩ := haccepted.exists_entry hcompared hnever
    refine ⟨entry.2, Or.inl ?_⟩
    rw [atomOf] at hparam
    split at hparam
    · exact mem_param_conditionOf hparam
    · cases hparam

theorem atoms_map {A B : Type} (f : A → B) (text : List (Token A)) :
    atoms (text.map (Token.map f)) = (atoms text).map f := by
  induction text with
  | nil => rfl
  | cons token rest ih =>
      cases token with
      | atom value => exact congrArg (f value :: ·) ih
      | _ => exact ih

/-- The central query is executed alike for the count and for the list. -/
theorem AcceptedFilter.agreesOn_centralSelect
    (haccepted : AcceptedFilter useMaterialized info parseDatetime externalIds filter text part)
    (arguments : CountArguments N D) (materialized : Bool) (items : List SelectItem)
    (ordering : Fragment) :
    Select.AgreesOn (readMeaning db value (countQueryParams arguments part))
      (readMeaning db value (listQueryParams info arguments part))
      (centralSelect info materialized arguments.pointInTime.isSome arguments.changesSince.isSome
        items part.filterQueryStr ordering) := by
  have hpointInTime : ∀ table, ∀ atom ∈
      atoms (upToPointInTime arguments.pointInTime.isSome table),
      (readMeaning db value (countQueryParams arguments part)).AgreesOn
        (readMeaning db value (listQueryParams info arguments part)) atom := by
    exact fun table => agreesOn_timeCondition haccepted.lookup_pointInTime table _
  have hchangesSince : ∀ table, ∀ atom ∈
      atoms (afterChangesSince arguments.changesSince.isSome table),
      (readMeaning db value (countQueryParams arguments part)).AgreesOn
        (readMeaning db value (listQueryParams info arguments part)) atom := by
    exact fun table => agreesOn_timeCondition haccepted.lookup_changesSince table _
  have hfilter : ∀ atom ∈ atoms (part.filterQueryStr.map (Token.map ReadAtom.filter)),
      (readMeaning db value (countQueryParams arguments part)).AgreesOn
        (readMeaning db value (listQueryParams info arguments part)) atom := by
    rw [atoms_map, List.forall_mem_map]
    intro atom hatom
    apply agreesOn_filter
    intro param hparam
    have hname := haccepted.filterName_of_atom hatom hparam
    rw [lookup_countQueryParams arguments hname, lookup_listQueryParams arguments hname]
  cases materialized with
  | true =>
      constructor
      · intro join hjoin
        cases hjoin
      · rintro text' htext
        cases htext
        rw [atoms_append, List.forall_mem_append]
        refine ⟨?_, hfilter⟩
        rw [atoms, List.forall_mem_cons]
        exact ⟨⟨rfl, rfl⟩, hchangesSince "ds_dp"⟩
  | false =>
      constructor
      · intro join hjoin
        cases List.mem_singleton.mp hjoin
        rw [atoms_append, List.forall_mem_append, atoms_append, List.forall_mem_append]
        refine ⟨⟨?_, hpointInTime "ds_dp2"⟩, hchangesSince "ds_dp2"⟩
        simp only [atoms, List.forall_mem_cons]
        exact ⟨⟨rfl, rfl⟩, ⟨rfl, rfl⟩, List.forall_mem_nil _⟩
      · rintro text' htext
        cases htext
        rw [atoms_append, List.forall_mem_append, atoms_append, List.forall_mem_append,
          atoms_append, List.forall_mem_append]
        refine ⟨⟨⟨?_, hpointInTime "ds_dp"⟩, hchangesSince "ds_dp"⟩, hfilter⟩
        simp only [atoms, List.forall_mem_cons]
        exact ⟨⟨rfl, rfl⟩, ⟨rfl, rfl⟩, List.forall_mem_nil _⟩

end Atoms

/-- The primary keys of the tables of a data series. -/
structure TableKeys {V : Type} (order : V → V → Ordering) (tables : String → List (Row V))
    (schemaName mainQueryTableName materializedFlatHistoryTableName : String)
    (backend : StorageBackendType) : Prop where
  main : PrimaryKey order ["id"] (tables (schemaName ++ "." ++ mainQueryTableName))
  history : backend = .dynamicSqlMaterializedFlatHistory →
    PrimaryKey order ["id", "point_in_time", "sub_clock"]
      (tables (schemaName ++ "." ++ materializedFlatHistoryTableName))

section History

variable {N D V : Type} {db : Database N D V} {value : Fragment → JoinedRow V → Option V}
  {queryParams : AList fun _ : String => ParamValue N D}

/-- A row with its point in time and its sub clock. -/
theorem olderTruth_pair (joined : JoinedRow V) {first second : String} {time later clock next : V}
    (htime : column joined first "point_in_time" = some time)
    (hlater : column joined second "point_in_time" = some later)
    (hclock : column joined first "sub_clock" = some clock)
    (hnext : column joined second "sub_clock" = some next) :
    ReadAtom.olderTruth db joined first second =
      .ofBool ((db.order time later).then (db.order clock next) = .lt) := by
  rw [ReadAtom.olderTruth, htime, hlater, hclock, hnext]
  simp only [compared, nullable]
  cases db.order time later <;> rfl

/-- Of two versions of a data point one is older. -/
theorem older_or_older [Std.TransCmp db.order] {rows : List (Row V)}
    (hkey : PrimaryKey db.order ["id", "point_in_time", "sub_clock"] rows) {first second : Row V}
    (hfirst : first ∈ rows) (hsecond : second ∈ rows)
    (hsame : compared db.order (first "id") (second "id") = some .eq)
    (hdiffer : ∃ field ∈ ["id", "point_in_time", "sub_clock"],
      compared db.order (first field) (second field) ≠ some .eq) :
    ReadAtom.olderTruth db [("ds_dp2", second), ("ds_dp", first)] "ds_dp" "ds_dp2" = .true ∨
      ReadAtom.olderTruth db [("ds_dp2", first), ("ds_dp", second)] "ds_dp" "ds_dp2" = .true := by
  obtain ⟨time, htime⟩ := Option.isSome_iff_exists.mp
    (hkey.notNull first hfirst "point_in_time" (by simp))
  obtain ⟨clock, hclock⟩ := Option.isSome_iff_exists.mp
    (hkey.notNull first hfirst "sub_clock" (by simp))
  obtain ⟨later, hlater⟩ := Option.isSome_iff_exists.mp
    (hkey.notNull second hsecond "point_in_time" (by simp))
  obtain ⟨next, hnext⟩ := Option.isSome_iff_exists.mp
    (hkey.notNull second hsecond "sub_clock" (by simp))
  have hmain : ∀ (older newer : Row V) (field : String),
      column [("ds_dp2", newer), ("ds_dp", older)] "ds_dp" field = older field := by
    intro older newer field
    rw [column_cons_of_ne (by decide), column_cons_self]
  have hswapTime : db.order later time = (db.order time later).swap := Std.OrientedCmp.eq_swap
  have hswapClock : db.order next clock = (db.order clock next).swap := Std.OrientedCmp.eq_swap
  rw [olderTruth_pair _ ((hmain _ _ _).trans htime) ((column_cons_self _ _ _ _).trans hlater)
      ((hmain _ _ _).trans hclock) ((column_cons_self _ _ _ _).trans hnext),
    olderTruth_pair _ ((hmain _ _ _).trans hlater) ((column_cons_self _ _ _ _).trans htime)
      ((hmain _ _ _).trans hnext) ((column_cons_self _ _ _ _).trans hclock),
    hswapTime, hswapClock, ← Ordering.swap_then]
  cases hordering : (db.order time later).then (db.order clock next) with
  | lt => exact Or.inl rfl
  | gt => exact Or.inr rfl
  | eq =>
      exfalso
      obtain ⟨htimes, hclocks⟩ := Ordering.then_eq_eq.mp hordering
      obtain ⟨field, hfield, hne⟩ := hdiffer
      simp only [List.mem_cons, List.not_mem_nil, or_false] at hfield
      rcases hfield with rfl | rfl | rfl
      · exact hne hsame
      · exact hne (by rw [htime, hlater, compared, htimes])
      · exact hne (by rw [hclock, hnext, compared, hclocks])

variable (db queryParams) in
/-- A row is not after the point in time, if there is one. -/
def UpTo (pointInTime : Bool) (row : Row V) : Prop :=
  pointInTime = true → (ReadAtom.compare "ds_dp" "point_in_time" .lte "point_in_time").truth db
    queryParams [("ds_dp", row)] = .true

variable (db queryParams) in
theorem compare_truth_congr {joined other : JoinedRow V} {table otherTable field : String}
    (hcolumn : column joined table field = column other otherTable field) (operator : SqlOperator)
    (param : String) :
    (ReadAtom.compare table field operator param).truth db queryParams joined =
      (ReadAtom.compare otherTable field operator param).truth db queryParams other := by
  simp only [ReadAtom.truth, hcolumn]

variable (db queryParams) in
theorem reads_pair (first second : ReadAtom) (joined : JoinedRow V) :
    Reads .conjunction (([.atom first, .and, .atom second] : List (Token ReadAtom)).map
      (Token.map fun atom => atom.truth db queryParams joined))
      ((first.truth db queryParams joined).and (second.truth db queryParams joined)) :=
  (Reads.atom _).ofOperand.and (.atom _)

/-- A conjunction that ends with the point in time. -/
theorem holds_upToPointInTime {left : List (Token ReadAtom)} {joined : JoinedRow V} {truth : Truth}
    (hreads : Reads .conjunction (left.map (Token.map fun atom =>
      atom.truth db queryParams joined)) truth) {table : String} {row : Row V}
    (hrow : column joined table "point_in_time" = row "point_in_time") (pointInTime : Bool) :
    (readMeaning db value queryParams).holds (left ++ upToPointInTime pointInTime table)
        joined = true ↔ truth = .true ∧ UpTo db queryParams pointInTime row := by
  rw [Meaning.holds, decide_eq_true_iff]
  cases pointInTime with
  | false =>
      have hevaluate := hreads.ofConjunction.evaluate_eq
      rw [upToPointInTime, timeCondition, if_neg Bool.false_ne_true, List.append_nil]
      change evaluate (left.map (Token.map fun atom => atom.truth db queryParams joined)) = _ ↔ _
      rw [hevaluate, Option.some_inj]
      exact (and_iff_left fun hnone => absurd hnone Bool.false_ne_true).symm
  | true =>
      have htime := compare_truth_congr db queryParams
        (hrow.trans (column_cons_self [] "ds_dp" row _).symm) .lte "point_in_time"
      have hboth := (hreads.and (.atom ((ReadAtom.compare table "point_in_time" .lte
        "point_in_time").truth db queryParams joined))).ofConjunction.evaluate_eq
      rw [upToPointInTime, timeCondition, if_pos rfl, List.map_append]
      change evaluate (left.map (Token.map fun atom => atom.truth db queryParams joined) ++
        [.and, .atom ((ReadAtom.compare table "point_in_time" .lte "point_in_time").truth db
          queryParams joined)]) = _ ↔ _
      rw [hboth, Option.some_inj, Truth.and_eq_true, htime]
      exact and_congr_right' ⟨fun htrue _ => htrue, fun hup => hup rfl⟩

variable (db queryParams) in
/-- What a query in a history shows: a version that is not deleted, and no later
one of the same data point. -/
structure Shown (pointInTime : Bool) (rows : List (Row V)) (row : Row V) : Prop where
  upTo : UpTo db queryParams pointInTime row
  notDeleted : (ReadAtom.isFalse "ds_dp" "deleted").truth db queryParams [("ds_dp", row)] = .true
  latest : ∀ later ∈ rows, UpTo db queryParams pointInTime later →
    compared db.order (row "id") (later "id") = some .eq →
      ReadAtom.olderTruth db [("ds_dp2", later), ("ds_dp", row)] "ds_dp" "ds_dp2" ≠ .true

theorem nullable_eq_true {W : Type} {stored : Option W} {test : W → Bool} :
    nullable stored test = .true ↔ ∃ value ∈ stored, test value = true := by
  cases stored with
  | none => simp [nullable]
  | some value => cases htest : test value <;> simp [nullable, Truth.ofBool, htest]

variable {tables : String → List (Row V)} {table : String} {pointInTime : Bool}

theorem column_shown (row : Row V) (field : String) :
    column [("ds_dp2", nullRow), ("ds_dp", row)] "ds_dp" field = row field := by
  rw [column_cons_of_ne (by decide), column_cons_self]

/-- What the condition of the join says of two versions. -/
theorem holds_historyJoin (row later : Row V) :
    (readMeaning db value queryParams).holds
        ([.atom (.equal "ds_dp" "id" "ds_dp2" "id"), .and, .atom (.older "ds_dp" "ds_dp2")] ++
          upToPointInTime pointInTime "ds_dp2") [("ds_dp2", later), ("ds_dp", row)] = true ↔
      (compared db.order (row "id") (later "id") = some .eq ∧
        ReadAtom.olderTruth db [("ds_dp2", later), ("ds_dp", row)] "ds_dp" "ds_dp2" = .true) ∧
        UpTo db queryParams pointInTime later := by
  have hreads := reads_pair db queryParams (.equal "ds_dp" "id" "ds_dp2" "id")
    (.older "ds_dp" "ds_dp2") [("ds_dp2", later), ("ds_dp", row)]
  rw [holds_upToPointInTime hreads (column_cons_self _ _ _ _), Truth.and_eq_true]
  apply and_congr_left'
  apply and_congr_left'
  rw [ReadAtom.truth, nullable_eq_true, column_cons_of_ne (by decide), column_cons_self,
    column_cons_self]
  constructor
  · rintro ⟨ordering, hordering, heq⟩
    rw [← of_decide_eq_true heq]
    exact hordering
  · intro heq
    exact ⟨.eq, heq, rfl⟩

theorem holds_historyCondition (joined : JoinedRow V) :
    (readMeaning db value queryParams).holds
        ([.atom (.isNull "ds_dp2" "id"), .and, .atom (.isFalse "ds_dp" "deleted")] ++
          upToPointInTime pointInTime "ds_dp") joined = true ↔
      ((column joined "ds_dp2" "id").isNone = true ∧
        (ReadAtom.isFalse "ds_dp" "deleted").truth db queryParams joined = .true) ∧
        UpTo db queryParams pointInTime fun field => column joined "ds_dp" field := by
  have hreads := reads_pair db queryParams (.isNull "ds_dp2" "id") (.isFalse "ds_dp" "deleted")
    joined
  rw [holds_upToPointInTime hreads rfl, Truth.and_eq_true]
  apply and_congr_left'
  apply and_congr_left'
  rw [ReadAtom.truth]
  cases (column joined "ds_dp2" "id").isNone <;> decide

open Classical in
/-- The rows of a query in a history, without further conditions. -/
theorem joinedRows_latestSelect (hkey : ∀ row ∈ tables table, (row "id").isSome)
    (items : List SelectItem) (ordering : Fragment) :
    (latestSelect table pointInTime false items [] ordering).joinedRows
        (readMeaning db value queryParams) (tablesWith tables []) =
      ((tables table).filter fun row =>
        Shown db queryParams pointInTime (tables table) row).map
          fun row => [("ds_dp2", nullRow), ("ds_dp", row)] := by
  have hcondition : (latestSelect table pointInTime false items [] ordering).condition =
      some ([.atom (.isNull "ds_dp2" "id"), .and, .atom (.isFalse "ds_dp" "deleted")] ++
        upToPointInTime pointInTime "ds_dp") := by
    simp [latestSelect, afterChangesSince, timeCondition]
  have hjoin : (latestSelect table pointInTime false items [] ordering).joins =
      [⟨.base table "ds_dp2",
        [.atom (.equal "ds_dp" "id" "ds_dp2" "id"), .and, .atom (.older "ds_dp" "ds_dp2")] ++
          upToPointInTime pointInTime "ds_dp2"⟩] := by
    simp [latestSelect, afterChangesSince, timeCondition]
  rw [Select.joinedRows_antiJoin hjoin hcondition hkey
    fun joined hholds => ((holds_historyCondition joined).mp hholds).1.1]
  apply congrArg (List.map _)
  apply List.filter_congr
  intro row _
  have hrow : (fun field => column [("ds_dp2", nullRow), ("ds_dp", row)] "ds_dp" field) = row :=
    funext (column_shown row)
  have hdeleted : (ReadAtom.isFalse "ds_dp" "deleted").truth db queryParams
      [("ds_dp2", nullRow), ("ds_dp", row)] =
        (ReadAtom.isFalse "ds_dp" "deleted").truth db queryParams [("ds_dp", row)] := by
    rw [ReadAtom.truth, column_shown, ReadAtom.truth, column_cons_self]
  rw [Bool.eq_iff_iff, Bool.and_eq_true, List.isEmpty_iff, decide_eq_true_iff, partners,
    List.filter_eq_nil_iff]
  constructor
  · rintro ⟨hpartners, hholds⟩
    obtain ⟨⟨-, hfalse⟩, hupTo⟩ := (holds_historyCondition _).mp hholds
    change UpTo db queryParams pointInTime
      (fun field => column [("ds_dp2", nullRow), ("ds_dp", row)] "ds_dp" field) at hupTo
    rw [hrow] at hupTo
    refine ⟨hupTo, hdeleted ▸ hfalse, ?_⟩
    intro later hlater hlaterUpTo hsame holder
    exact hpartners later hlater ((holds_historyJoin row later).mpr ⟨⟨hsame, holder⟩, hlaterUpTo⟩)
  · intro hshown
    constructor
    · intro later hlater hholds
      obtain ⟨⟨hsame, holder⟩, hupTo⟩ := (holds_historyJoin row later).mp hholds
      exact hshown.latest later hlater hupTo hsame holder
    · apply (holds_historyCondition _).mpr
      refine ⟨⟨rfl, hdeleted.trans hshown.notDeleted⟩, ?_⟩
      change UpTo db queryParams pointInTime
        (fun field => column [("ds_dp2", nullRow), ("ds_dp", row)] "ds_dp" field)
      rw [hrow]
      exact hshown.upTo

/-- Of each data point at most one version is shown. -/
theorem Shown.ne_of_same [Std.TransCmp db.order] {rows : List (Row V)}
    (hkey : PrimaryKey db.order ["id", "point_in_time", "sub_clock"] rows) {first second : Row V}
    (hfirst : first ∈ rows) (hsecond : second ∈ rows)
    (hshown : Shown db queryParams pointInTime rows first)
    (hother : Shown db queryParams pointInTime rows second)
    (hdiffer : ∃ field ∈ ["id", "point_in_time", "sub_clock"],
      compared db.order (first field) (second field) ≠ some .eq) :
    compared db.order (first "id") (second "id") ≠ some .eq := by
  intro hsame
  rcases older_or_older hkey hfirst hsecond hsame hdiffer with holder | holder
  · exact hshown.latest second hsecond hother.upTo hsame holder
  · apply hother.latest first hfirst hshown.upTo ?_ holder
    obtain ⟨left, hleft, right, hright, heq⟩ := compared_eq_some.mp hsame
    exact compared_eq_some.mpr ⟨right, hright, left, hleft, Std.OrientedCmp.eq_symm heq⟩

end History

section Resolutions

variable {N D V : Type} {db : Database N D V} {value : Fragment → JoinedRow V → Option V}
  {queryParams : AList fun _ : String => ParamValue N D} {tables : String → List (Row V)}

/-- What a resolution selects of a row. -/
theorem project_resolutionItems {joined : JoinedRow V} {row : Row V}
    (hrow : ∀ field, column joined "ds_dp" field = row field) :
    (readMeaning db value queryParams).project resolutionItems joined "data_point_id" =
      row "id" ∧
    (readMeaning db value queryParams).project resolutionItems joined "external_id" =
      row "external_id" :=
  ⟨hrow "id", hrow "external_id"⟩

/-- A resolution finds each data point once. -/
theorem distinctIn_resolution {rows : List (Row V)} {shape : Row V → JoinedRow V}
    (hshape : ∀ row field, column (shape row) "ds_dp" field = row field)
    (hdistinct : DistinctIn db.order "id" rows) :
    DistinctIn db.order "data_point_id" ((rows.map shape).map
      ((readMeaning db value queryParams).project resolutionItems)) := by
  rw [DistinctIn, List.pairwise_map, List.pairwise_map]
  apply hdistinct.imp
  intro first second hdiffer
  rw [(project_resolutionItems (hshape first)).1, (project_resolutionItems (hshape second)).1]
  exact hdiffer

theorem distinctIn_currentSelect {table : String}
    (hkey : PrimaryKey db.order ["id"] (tables table)) (condition : List (Token ReadAtom)) :
    DistinctIn db.order "data_point_id"
      (((currentSelect table resolutionItems condition []).joinedRows
        (readMeaning db value queryParams) (tablesWith tables [])).map
          ((readMeaning db value queryParams).project resolutionItems)) := by
  have hrows : (currentSelect table resolutionItems condition []).joinedRows
      (readMeaning db value queryParams) (tablesWith tables []) =
        ((tables table).filter fun row => (readMeaning db value queryParams).holds condition
          [("ds_dp", row)]).map fun row => [("ds_dp", row)] := by
    exact List.filter_map
  rw [hrows]
  apply distinctIn_resolution fun row field => column_cons_self [] "ds_dp" row field
  exact hkey.distinctIn.filter _

open Classical in
theorem distinctIn_latestSelect [Std.TransCmp db.order] {table : String} (pointInTime : Bool)
    (hkey : PrimaryKey db.order ["id", "point_in_time", "sub_clock"] (tables table)) :
    DistinctIn db.order "data_point_id"
      (((latestSelect table pointInTime false resolutionItems [] []).joinedRows
        (readMeaning db value queryParams) (tablesWith tables [])).map
          ((readMeaning db value queryParams).project resolutionItems)) := by
  rw [joinedRows_latestSelect fun row hmem => hkey.notNull row hmem "id" List.mem_cons_self]
  apply distinctIn_resolution column_shown
  apply (hkey.unique.filter _).imp_of_mem
  intro first second hfirst hsecond hdiffer
  obtain ⟨hfirstMem, hfirstShown⟩ := List.mem_filter.mp hfirst
  obtain ⟨hsecondMem, hsecondShown⟩ := List.mem_filter.mp hsecond
  exact Shown.ne_of_same hkey hfirstMem hsecondMem (of_decide_eq_true hfirstShown)
    (of_decide_eq_true hsecondShown) hdiffer

/-- The database runs a resolution when the point in time that it reads is bound. -/
theorem accepted_resolutionSelect {useMaterialized pointInTime : Bool}
    {reference : ReadOnlyDataSeries}
    (hbound : useMaterialized = false → (queryParams.lookup "point_in_time").isSome = true) :
    (resolutionSelect useMaterialized pointInTime reference).accepted
      (readMeaning db value queryParams) = true := by
  cases useMaterialized with
  | true => rfl
  | false =>
      rw [resolutionSelect, if_neg Bool.false_ne_true]
      split
      · simp only [Select.accepted, currentSelect, List.all_nil, Option.all_some, Bool.true_and,
          Meaning.accepts, atoms, readMeaning, ReadAtom.accepted, hbound rfl, List.all_cons]
        rfl
      · cases pointInTime with
        | false => rfl
        | true =>
            simp only [Select.accepted, latestSelect, List.all_cons, List.all_nil,
              Option.all_some, Meaning.accepts, upToPointInTime, afterChangesSince, timeCondition,
              if_true, Bool.false_eq_true, if_false, List.cons_append, List.nil_append, atoms,
              readMeaning, ReadAtom.accepted, hbound rfl]
            rfl

/-- The rows of a resolution, each data point once. -/
theorem exists_rows_resolutionSelect [Std.TransCmp db.order] {useMaterialized pointInTime : Bool}
    {reference : ReadOnlyDataSeries} (hsupported : reference.backend.Supported)
    (hkeys : TableKeys db.order tables reference.schemaName reference.mainQueryTableName
      reference.materializedFlatHistoryTableName reference.backend)
    (hbound : useMaterialized = false → (queryParams.lookup "point_in_time").isSome = true) :
    ∃ rows, (resolutionSelect useMaterialized pointInTime reference).rows
        (readMeaning db value queryParams) (tablesWith tables []) = some rows ∧
      DistinctIn db.order "data_point_id" rows := by
  rw [Select.rows, if_pos (accepted_resolutionSelect hbound)]
  refine ⟨_, rfl, ?_⟩
  rw [resolutionSelect]
  split
  · exact distinctIn_currentSelect hkeys.main _
  · split
    · exact distinctIn_currentSelect hkeys.main _
    · next hother =>
        exact distinctIn_latestSelect pointInTime
          (hkeys.history (hsupported.resolve_left hother))

variable {info : DataSeriesQueryInfo} {useMaterialized : Bool}

/-- The tables of a data series and of what its dimensions refer to keep their
keys. -/
structure SeriesKeys (order : V → V → Ordering) (tables : String → List (Row V))
    (info : DataSeriesQueryInfo) : Prop where
  own : TableKeys order tables info.schemaName info.mainQueryTableName
    info.materializedFlatHistoryTableName info.backend
  references : ∀ dimension ∈ info.dimensions, TableKeys order tables
    dimension.reference.schemaName dimension.reference.mainQueryTableName
    dimension.reference.materializedFlatHistoryTableName dimension.reference.backend

/-- What is counted is never NULL. -/
theorem count_centralSelect (pointInTime changesSince : Bool) (items : List SelectItem)
    (text : FilterText) (ordering : Fragment)
    (hkeys : TableKeys db.order tables info.schemaName info.mainQueryTableName
      info.materializedFlatHistoryTableName info.backend)
    (htables : useMaterialized = true ∨ info.backend = .dynamicSqlMaterializedFlatHistory) :
    let select := centralSelect info useMaterialized pointInTime changesSince items text ordering
    select.count (readMeaning db value queryParams) (tablesWith tables []) "ds_dp" "id" =
      (select.rows (readMeaning db value queryParams) (tablesWith tables [])).map List.length := by
  cases useMaterialized with
  | true =>
      apply Select.count_eq
      · intro join hjoin
        cases hjoin
      · intro row hmem
        exact hkeys.main.notNull row hmem "id" List.mem_cons_self
  | false =>
      apply Select.count_eq
      · intro join hjoin
        cases List.mem_singleton.mp hjoin
        exact of_decide_eq_true rfl
      · intro row hmem
        exact (hkeys.history (htables.resolve_left Bool.false_ne_true)).notNull row hmem "id"
          List.mem_cons_self

theorem count_items {pointInTime changesSince : Bool} {text : FilterText}
    (items other : List SelectItem) (ordering otherOrdering : Fragment) :
    (centralSelect info useMaterialized pointInTime changesSince items text ordering).count
        (readMeaning db value queryParams) (tablesWith tables []) "ds_dp" "id" =
      (centralSelect info useMaterialized pointInTime changesSince other text otherOrdering).count
        (readMeaning db value queryParams) (tablesWith tables []) "ds_dp" "id" := by
  cases useMaterialized <;> rfl

/-- A dimension is resolved at most once for each row. -/
theorem length_partners_resolutionJoin [Std.TransCmp db.order]
    {dimension : DataSeriesDimensionQueryInfo} {rows : List (Row V)}
    (hdistinct : DistinctIn db.order "data_point_id" rows) (joined : JoinedRow V) :
    (partners (resolutionJoin dimension).source.name rows
      ((readMeaning db value queryParams).holds (resolutionJoin dimension).condition)
        joined).length ≤ 1 := by
  apply hdistinct.length_filter_le_one (column joined centralTable
    (dataSeriesDimensionToSelectInfo dimension).selectAlias)
  intro row hholds
  have hreads := (Reads.atom ((ReadAtom.equal centralTable
    (dataSeriesDimensionToSelectInfo dimension).selectAlias (resolveTable dimension.id)
      "data_point_id").truth db queryParams ((resolveTable dimension.id, row) :: joined))).ofOperand
  have htruth := Option.some_inj.mp (hreads.ofConjunction.evaluate_eq.symm.trans
    (of_decide_eq_true hholds))
  rw [ReadAtom.truth, nullable_eq_true, column_cons_self,
    column_cons_of_ne (resolveTable_ne dimension.id).symm] at htruth
  obtain ⟨ordering, hordering, heq⟩ := htruth
  rw [← of_decide_eq_true heq]
  exact hordering

/-- What a WITH defines is looked up by its name. -/
theorem rows_of_commons {commons : List (String × List (Row V))} {kept : List (Row V) → Prop}
    (hempty : kept []) (hkept : ∀ entry ∈ commons, kept entry.2) {name : String}
    (hname : name ≠ centralTable) (rows : List (Row V)) :
    kept (tablesWith tables ((centralTable, rows) :: commons) (.common name)) := by
  have hother : (name == centralTable) = false := beq_false_of_ne hname
  rw [tablesWith, List.lookup_cons, hother]
  cases hlookup : commons.lookup name with
  | none => exact hempty
  | some found =>
      obtain ⟨before, after, hcommons, -⟩ := List.lookup_eq_some_iff.mp hlookup
      apply hkept (name, found)
      rw [hcommons]
      exact List.mem_append_right before List.mem_cons_self

theorem exists_rows_resolvedSelect [Std.TransCmp db.order]
    {commons : List (String × List (Row V))}
    (hdistinct : ∀ entry ∈ commons, DistinctIn db.order "data_point_id" entry.2)
    (rows : List (Row V)) :
    ∃ resolved, (resolvedSelect info).rows (readMeaning db value queryParams)
        (tablesWith tables ((centralTable, rows) :: commons)) = some resolved ∧
      resolved.length = rows.length := by
  have haccepted : (resolvedSelect info).accepted (readMeaning db value queryParams) = true := by
    rw [Select.accepted, Bool.and_eq_true, List.all_eq_true]
    refine ⟨?_, rfl⟩
    intro join hjoin
    obtain ⟨dimension, -, rfl⟩ := List.mem_map.mp hjoin
    rfl
  have hone : ∀ join ∈ (resolvedSelect info).joins, ∀ joined, (partners join.source.name
      (tablesWith tables ((centralTable, rows) :: commons) join.source)
      ((readMeaning db value queryParams).holds join.condition) joined).length ≤ 1 := by
    intro join hjoin joined
    obtain ⟨dimension, -, rfl⟩ := List.mem_map.mp hjoin
    exact length_partners_resolutionJoin
      (rows_of_commons .nil hdistinct (resolveTable_ne dimension.id) rows) joined
  obtain ⟨resolved, hresolved, hlength⟩ := Select.exists_rows_of_partners rfl haccepted hone
  refine ⟨resolved, hresolved, hlength.trans ?_⟩
  change (tablesWith tables ((centralTable, rows) :: commons) (.common centralTable)).length = _
  rw [tablesWith, List.lookup_cons_self, Option.getD_some]

/-- Resolving dimensions keeps the number of rows. -/
theorem length_listSelect [Std.TransCmp db.order] {pointInTime changesSince reverse resolve : Bool}
    {text : FilterText}
    (hreferences : ∀ dimension ∈ info.dimensions, dimension.reference.backend.Supported)
    (hkeys : SeriesKeys db.order tables info)
    (hbound : useMaterialized = false → (queryParams.lookup "point_in_time").isSome = true) :
    let items := centralItems info useMaterialized !(resolve && !info.dimensions.isEmpty)
    ((listSelect info useMaterialized pointInTime changesSince text reverse resolve).rows
        (readMeaning db value queryParams) tables).map List.length =
      ((centralSelect info useMaterialized pointInTime changesSince items text
        (orderBy useMaterialized reverse)).rows (readMeaning db value queryParams)
          (tablesWith tables [])).map List.length := by
  cases hactual : resolve && !info.dimensions.isEmpty with
  | false =>
      simp only [listSelect, hactual, Bool.false_eq_true, if_false]
      rfl
  | true =>
      simp only [listSelect, hactual, if_true]
      have hothers : ∀ entry ∈ info.dimensions.map fun dimension => (resolveTable dimension.id,
          resolutionSelect useMaterialized pointInTime dimension.reference),
          ∃ rows, entry.2.rows (readMeaning db value queryParams) (tablesWith tables []) =
            some rows ∧ DistinctIn db.order "data_point_id" rows := by
        rw [List.forall_mem_map]
        intro dimension hdimension
        exact exists_rows_resolutionSelect (hreferences dimension hdimension)
          (hkeys.references dimension hdimension) hbound
      let found : String × Select ReadAtom → List (Row V) := fun entry =>
        (entry.2.rows (readMeaning db value queryParams) (tablesWith tables [])).getD []
      have hfound : ∀ entry ∈ info.dimensions.map fun dimension => (resolveTable dimension.id,
          resolutionSelect useMaterialized pointInTime dimension.reference),
          entry.2.rows (readMeaning db value queryParams) (tablesWith tables []) =
              some (found entry) ∧ DistinctIn db.order "data_point_id" (found entry) := by
        intro entry hentry
        obtain ⟨rows, hrows, hdistinct⟩ := hothers entry hentry
        have heq : found entry = rows := by simp only [found, hrows, Option.getD_some]
        rw [heq]
        exact ⟨hrows, hdistinct⟩
      rw [WithSelect.rows_cons fun entry hentry => (hfound entry hentry).1]
      cases Select.rows (readMeaning db value queryParams) (tablesWith tables [])
          (centralSelect info useMaterialized pointInTime changesSince
            (centralItems info useMaterialized !true) text (orderBy useMaterialized reverse)) with
      | none => rfl
      | some rows =>
          rw [Option.bind_some, Option.map_some]
          have hkept : ∀ entry ∈ (info.dimensions.map fun dimension =>
              (resolveTable dimension.id, resolutionSelect useMaterialized pointInTime
                dimension.reference)).map fun entry => (entry.1, found entry),
              DistinctIn db.order "data_point_id" entry.2 := by
            rw [List.forall_mem_map]
            exact fun entry hentry => (hfound entry hentry).2
          obtain ⟨resolved, hresolved, hlength⟩ := exists_rows_resolvedSelect hkept rows
          rw [hresolved, Option.map_some, hlength]

end Resolutions

section Agreement

variable {N D V : Type} (partitionTable : String → Uuid → String)
  (parseDatetime : Json N → Option D) (info : DataSeriesQueryInfo) (db : Database N D V)
  (value : Fragment → JoinedRow V → Option V) (tables : String → List (Row V))
  (arguments : CountArguments N D) (reverse resolve : Bool)

/-- Both queries are refused for the same reason.  Or the database gets the texts
of the two selects; then neither is in scope or both are, and the count is the
number of rows of the list. -/
inductive CountAgrees : Except (ReadError N) Query → Except (ReadError N) Query → Prop where
  | refused (error : ReadError N) : CountAgrees (.error error) (.error error)
  | answered {part : UserDefinedFilter N D} {count list : Query}
      (accepted : precomputeFilterPart arguments.externalIds arguments.filterValue info
        (canUseMaterializedTable info arguments.pointInTime.isSome) parseDatetime = .ok part)
      (countText : count.sql = ((countSelect info
        (canUseMaterializedTable info arguments.pointInTime.isSome) arguments.pointInTime.isSome
          arguments.changesSince.isSome part.filterQueryStr).query ReadAtom.fragment []).sql)
      (listText : list.sql = ((listSelect info
        (canUseMaterializedTable info arguments.pointInTime.isSome) arguments.pointInTime.isSome
          arguments.changesSince.isSome part.filterQueryStr reverse resolve).query
            ReadAtom.fragment).sql)
      (scope : WellScoped count ↔ WellScoped list)
      (number : (countSelect info (canUseMaterializedTable info arguments.pointInTime.isSome)
          arguments.pointInTime.isSome arguments.changesSince.isSome part.filterQueryStr).count
            (readMeaning db value (countQueryParams arguments part)) (tablesWith tables [])
              "ds_dp" "id" =
        ((listSelect info (canUseMaterializedTable info arguments.pointInTime.isSome)
          arguments.pointInTime.isSome arguments.changesSince.isSome part.filterQueryStr reverse
            resolve).rows (readMeaning db value (listQueryParams info arguments part))
              tables).map List.length) :
      CountAgrees (.ok count) (.ok list)

variable {info db value tables arguments reverse resolve}

section Accepted

variable {part : UserDefinedFilter N D}
  (hpart : precomputeFilterPart arguments.externalIds arguments.filterValue info
    (canUseMaterializedTable info arguments.pointInTime.isSome) parseDatetime = .ok part)
include hpart

theorem dataPointCount_eq (resolve : Bool) :
    dataPointCount partitionTable parseDatetime info (arguments.request resolve) =
      CountQuery.dataSeriesDataPointCount partitionTable part.usedDataSeriesChildren
        arguments.pointInTime.isSome arguments.changesSince.isSome
        (filterFragment part.filterQueryStr) := by
  simp only [dataPointCount, CountArguments.request, filterError_eq_ok.mpr hpart, bind, Except.bind]

theorem rawDisplayDataPointQuery_eq (reverse resolve : Bool) :
    rawDisplayDataPointQuery partitionTable parseDatetime info (arguments.request resolve) none
        none reverse none =
      dataSeriesAsSqlTable partitionTable none true arguments.pointInTime.isSome
        arguments.changesSince.isSome false (filterFragment part.filterQueryStr ++
          orderBy (canUseMaterializedTable info arguments.pointInTime.isSome) reverse)
        resolve info none := by
  simp [rawDisplayDataPointQuery, CountArguments.request, filterError_eq_ok.mpr hpart, bind,
    Except.bind, pageStartCondition, pure, Except.pure]

end Accepted

/-- The number of rows of the list is the count. -/
theorem number_agrees [Std.TransCmp db.order] {part : UserDefinedFilter N D} {text : FilterText}
    (hsupported : info.backend.Supported)
    (hreferences : ∀ dimension ∈ info.dimensions, dimension.reference.backend.Supported)
    (hkeys : SeriesKeys db.order tables info)
    (haccepted : AcceptedFilter (canUseMaterializedTable info arguments.pointInTime.isSome) info
      parseDatetime (arguments.externalIds.getD []) arguments.filterValue text part) :
    (countSelect info (canUseMaterializedTable info arguments.pointInTime.isSome)
        arguments.pointInTime.isSome arguments.changesSince.isSome part.filterQueryStr).count
          (readMeaning db value (countQueryParams arguments part)) (tablesWith tables [])
            "ds_dp" "id" =
      ((listSelect info (canUseMaterializedTable info arguments.pointInTime.isSome)
        arguments.pointInTime.isSome arguments.changesSince.isSome part.filterQueryStr reverse
          resolve).rows (readMeaning db value (listQueryParams info arguments part))
            tables).map List.length := by
  have hbound : canUseMaterializedTable info arguments.pointInTime.isSome = false →
      ((listQueryParams info arguments part).lookup "point_in_time").isSome = true := by
    intro hhistory
    obtain ⟨-, hgiven⟩ := (history_iff hsupported _).mp hhistory
    obtain ⟨time, htime⟩ := Option.isSome_iff_exists.mp hgiven
    rw [lookup_listQueryParams_pointInTime htime]
    rfl
  rw [length_listSelect hreferences hkeys hbound,
    ← count_centralSelect _ _ _ _ _ hkeys.own (currentTables hsupported _), countSelect,
    (haccepted.agreesOn_centralSelect arguments _ _ _).count_eq]
  exact count_items _ _ _ _

end Agreement

namespace CountAgreementWitness

open QueryScopeWitness

def row (columns : List (String × Int)) : Row Int := fun field => columns.lookup field

/-- One order with two versions, and two versions of its customer. -/
def tables (name : String) : List (Row Int) :=
  if name = "tenant._mfhist_0" then
    [row [("id", 1), ("point_in_time", 2), ("sub_clock", 0), ("deleted", 0)],
      row [("id", 1), ("point_in_time", 9), ("sub_clock", 1), ("deleted", 0)]]
  else if name = "tenant._mfhist_3" then
    [row [("id", 7), ("point_in_time", 1), ("sub_clock", 0), ("deleted", 0)],
      row [("id", 7), ("point_in_time", 1), ("sub_clock", 1), ("deleted", 0)]]
  else []

/-- Every value is a number here. -/
def database : Database Int Int Int where
  value := fun scalar =>
    match scalar with
    | .boolean value => if value then 1 else 0
    | .number value => value
    | .timestamp value => value
    | .text value => value.length
  order := compare
  like := fun _ _ => false
  accepts := fun _ _ _ => true

def arguments : CountArguments Int Int where
  filterValue := .object []
  externalIds := none
  pointInTime := some 5
  changesSince := none

theorem orders_keys : SeriesKeys database.order tables orders := by
  constructor
  · constructor
    · exact ⟨by decide, by decide⟩
    · intro _
      exact ⟨by decide, by decide⟩
  · intro dimension hdimension
    cases List.mem_singleton.mp hdimension
    constructor
    · exact ⟨by decide, by decide⟩
    · intro _
      exact ⟨by decide, by decide⟩

end CountAgreementWitness

end NFCompose
