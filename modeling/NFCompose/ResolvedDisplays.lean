/-
Display queries with resolved dimensions.  Such a query has the rows of the one
without, with external ids for the dimensions, unless a reference without a history
is asked for a point in time, or the payload is not one JSON object.
-/
import NFCompose.DimensionResolution

namespace NFCompose

open SqlConditions SqlQueries SqlSelects

/-- What a display query is asked for. -/
structure DisplayArguments (D : Type) where
  includeInPayload : Option (List ExternalId)
  payloadAsJson : Bool
  pointInTime : Option D
  changesSince : Bool
  includeVersions : Bool
  filterStr : Fragment

section Queries

variable {N D : Type} (partitionTable : String → Uuid → String) (info : DataSeriesQueryInfo)
  (arguments : DisplayArguments D)

def displayQuery (resolve : Bool) : Except (ReadError N) Query :=
  dataSeriesAsSqlTable partitionTable arguments.includeInPayload arguments.payloadAsJson
    arguments.pointInTime.isSome arguments.changesSince arguments.includeVersions
    arguments.filterStr resolve info none

/-- The central query of a display query. -/
def centralQuery (payloadAsJson : Bool) : Except (ReadError N) Query :=
  singleDataSeriesAsSqlTable partitionTable info
    (canUseMaterializedTable info arguments.pointInTime.isSome) arguments.pointInTime.isSome
    arguments.changesSince (payloadSelectInfos info arguments.includeInPayload) payloadAsJson
    arguments.includeVersions arguments.payloadAsJson arguments.filterStr

/-- The query that resolves the dimensions of a central one. -/
def resolvingSelect (central : Query) : DisplaySelect where
  central := central
  commons := info.dimensions.map fun dimension => (resolveTable dimension.id,
    resolutionSelect (canUseMaterializedTable info arguments.pointInTime.isSome)
      arguments.pointInTime.isSome dimension.reference)
  main := {
    items := displayItems info arguments.payloadAsJson arguments.includeVersions
      (payloadSelectInfos info arguments.includeInPayload)
    source := .common centralTable
    joins := info.dimensions.map resolutionJoin
    condition := none
    ordering := [] }

end Queries

section Exactness

variable {N D V : Type} (db : DisplayDatabase N D V)
  (queryParams : AList fun _ : String => ParamValue N D)
  (partitionTable : String → Uuid → String) (info : DataSeriesQueryInfo)
  (arguments : DisplayArguments D)

/-- A row with the external ids of the data points that exist, and NULL for the
others. -/
def withExternalIds (row : ResultRow V) : ResultRow V :=
  row.map (replaceDimension info arguments.payloadAsJson fun reference id =>
    externalIdAmong db (existingRows db reference arguments.pointInTime) id)

/-- Both queries are refused for the same reason.  Or resolving the dimensions
replaces their values by the external ids of what exists, and changes nothing else. -/
inductive ResolvesExactly : Except (ReadError N) Query → Except (ReadError N) Query → Prop where
  | refused (error : ReadError N) : ResolvesExactly (.error error) (.error error)
  | unchanged (query : Query) (nothing : info.dimensions = []) :
      ResolvesExactly (.ok query) (.ok query)
  | resolved {plain resolving central : Query}
      (centralOk : centralQuery (N := N) partitionTable info arguments false = .ok central)
      (text : resolving.sql = (resolvingSelect info arguments central).query.sql)
      (rows : (resolvingSelect info arguments central).answer db queryParams =
        (queryAnswer db plain).map (List.map (withExternalIds db info arguments))) :
      ResolvesExactly (.ok plain) (.ok resolving)

variable {db queryParams partitionTable info arguments} in
theorem ResolvesExactly.exists_central {plain : Query} {resolving : Except (ReadError N) Query}
    (hresolves : ResolvesExactly db queryParams partitionTable info arguments (.ok plain) resolving)
    (hdimensions : info.dimensions ≠ []) :
    ∃ central, centralQuery (N := N) partitionTable info arguments false = .ok central ∧
      (resolvingSelect info arguments central).answer db queryParams =
        (queryAnswer db plain).map (List.map (withExternalIds db info arguments)) := by
  cases hresolves with
  | unchanged query nothing => exact absurd nothing hdimensions
  | resolved centralOk text rows => exact ⟨_, centralOk, rows⟩

end Exactness

section Scope

variable {N D : Type} {info : DataSeriesQueryInfo} {arguments : DisplayArguments D}

theorem wellScoped_resolutionSelect (useMaterialized pointInTime : Bool)
    (reference : ReadOnlyDataSeries) :
    WellScoped ((resolutionSelect useMaterialized pointInTime reference).query
      ReadAtom.fragment []) := by
  rw [resolutionSelect]
  split
  · exact wellScoped_resolution (baseTables_current _) (by
      simp [Select.rest, currentSelect, conditionFragment, SqlSelects.tokenFragment,
        ReadAtom.fragment])
  · split
    · exact wellScoped_resolution (baseTables_current _) (by
        simp [Select.rest, currentSelect, conditionFragment, SqlSelects.tokenFragment,
          ReadAtom.fragment])
    · apply wellScoped_resolution (baseTables_history ?_)
      · cases pointInTime <;>
          simp [Select.rest, latestSelect, upToPointInTime, afterChangesSince, timeCondition,
            conditionFragment, SqlSelects.tokenFragment, ReadAtom.fragment]
      · cases pointInTime <;>
          simp [upToPointInTime, afterChangesSince, timeCondition, conditionFragment,
            SqlSelects.tokenFragment, ReadAtom.fragment]

variable (info arguments) in
theorem resolutions_resolvingSelect (central : Query) :
    Resolutions info.dimensions ((resolvingSelect info arguments central).commons.map fun entry =>
      (entry.1, entry.2.query ReadAtom.fragment [])) := by
  rw [resolvingSelect, List.map_map]
  refine ⟨?_, ?_, ?_⟩
  · rw [List.map_map]
    rfl
  · rw [List.forall_mem_map]
    intro dimension _
    exact wellScoped_resolutionSelect _ _ _
  · rw [List.forall_mem_map]
    intro dimension _
    simp only [Function.comp_apply, resolutionSelect]
    split
    · rfl
    · split <;> rfl

/-- The database finds the names of a query that resolves dimensions when the payload
includes all of them. -/
theorem namesFound_resolvingSelect {central : Query}
    (houtputs : central.outputs = centralOutputs info
      (payloadSelectInfos info arguments.includeInPayload) arguments.includeVersions
        arguments.payloadAsJson) :
    (resolvingSelect info arguments central).query.NamesFound ↔
      ∀ dimension ∈ info.dimensions, ∀ included ∈ arguments.includeInPayload,
        dimension.unescapedDisplayId ∈ included := by
  have hresolutions := resolutions_resolvingSelect info arguments central
  have hjoins : (info.dimensions.map resolutionJoin).map (SelectJoin.join ReadAtom.fragment) =
      resolutionJoins info.dimensions := by
    rw [resolutionJoins, List.map_map]
    rfl
  have hquery : (resolvingSelect info arguments central).query =
      .mk ((centralTable, central) :: (resolvingSelect info arguments central).commons.map
          fun entry => (entry.1, entry.2.query ReadAtom.fragment []))
        (displayItems info arguments.payloadAsJson arguments.includeVersions
          (payloadSelectInfos info arguments.includeInPayload)) (.common centralTable)
        (resolutionJoins info.dimensions) [] := by
    rw [← hjoins]
    rfl
  have hnames := hresolutions.namesFound_iff (scoped_resolvedSelect hresolutions houtputs)
  rw [houtputs] at hnames
  rw [hquery]
  refine hnames.trans (forall₂_congr ?_)
  intro dimension hdimension
  exact dimension_mem_centralOutputs hdimension

end Scope

section Rows

variable {N D V : Type} {db : DisplayDatabase N D V}
  {queryParams : AList fun _ : String => ParamValue N D} {info : DataSeriesQueryInfo}
  {arguments : DisplayArguments D}

/-- What a resolution has found for a value. -/
def resolvedId (db : DisplayDatabase N D V) (arguments : DisplayArguments D)
    (reference : ReadOnlyDataSeries) (id : Option V) : Option V :=
  externalIdAmong db (resolvableRows db reference arguments.pointInTime) id

theorem holds_resolutionJoin {dimension : DataSeriesDimensionQueryInfo} {joined : JoinedRow V}
    (row : Row V) :
    (readMeaning db.toDatabase db.expression queryParams).holds (resolutionJoin dimension).condition
        ((resolveTable dimension.id, row) :: joined) =
      sameValue db (column joined centralTable
        (dataSeriesDimensionToSelectInfo dimension).selectAlias) (row "data_point_id") := by
  have hreads := (Reads.atom ((ReadAtom.equal centralTable
    (dataSeriesDimensionToSelectInfo dimension).selectAlias (resolveTable dimension.id)
      "data_point_id").truth db.toDatabase queryParams
        ((resolveTable dimension.id, row) :: joined))).ofOperand.ofConjunction
  rw [Bool.eq_iff_iff, Meaning.holds, decide_eq_true_iff, sameValue_iff]
  refine (Eq.congr_left hreads.evaluate_eq).trans ?_
  rw [Option.some_inj, ReadAtom.truth, nullable_eq_true, column_cons_self,
    column_cons_of_ne (resolveTable_ne dimension.id).symm]
  simp

variable (queryParams) in
/-- The partner of a row in a join has the external id that has been found. -/
theorem partner_externalId {dimension : DataSeriesDimensionQueryInfo} {rows : List (Row V)}
    (joined : JoinedRow V) :
    (partners (resolveTable dimension.id) (rows.map resolutionRow)
        ((readMeaning db.toDatabase db.expression queryParams).holds
          (resolutionJoin dimension).condition) joined).headD nullRow "external_id" =
      externalIdAmong db rows (column joined centralTable
        (dataSeriesDimensionToSelectInfo dimension).selectAlias) := by
  rw [partners, List.filter_map, List.headD_eq_head?_getD, List.head?_map, List.head?_filter,
    externalIdAmong]
  have hsame : (fun row : Row V => (readMeaning db.toDatabase db.expression queryParams).holds
      (resolutionJoin dimension).condition ((resolveTable dimension.id, row) :: joined)) ∘
        resolutionRow = fun row => sameValue db (column joined centralTable
          (dataSeriesDimensionToSelectInfo dimension).selectAlias) (row "id") := by
    funext row
    exact holds_resolutionJoin (resolutionRow row)
  rw [hsame]
  cases rows.find? fun row => sameValue db (column joined centralTable
      (dataSeriesDimensionToSelectInfo dimension).selectAlias) (row "id") <;> rfl

theorem lookup_map_of_nodup {A B : Type} {name : A → String} (found : A → B) {items : List A}
    (hnames : (items.map name).Nodup) {item : A} (hmem : item ∈ items) :
    (items.map fun item => (name item, found item)).lookup (name item) = some (found item) := by
  induction items with
  | nil => cases hmem
  | cons first rest ih =>
      rw [List.map_cons, List.nodup_cons] at hnames
      rcases List.mem_cons.mp hmem with rfl | hrest
      · rw [List.map_cons, List.lookup_cons_self]
      · have hne : (name item == name first) = false := by
          apply beq_false_of_ne
          intro heq
          exact hnames.1 (heq ▸ List.mem_map_of_mem hrest)
        rw [List.map_cons, List.lookup_cons, hne, ih hnames.2 hrest]

/-- The tables that are read next to the central rows. -/
def resolutionTables (db : DisplayDatabase N D V) (info : DataSeriesQueryInfo)
    (arguments : DisplayArguments D) : List (String × List (Row V)) :=
  info.dimensions.map fun dimension => (resolveTable dimension.id,
    (resolvableRows db dimension.reference arguments.pointInTime).map resolutionRow)

theorem nodup_resolveTables (hdistinct : info.ChildrenDistinct) :
    (info.dimensions.map fun dimension => resolveTable dimension.id).Nodup := by
  have hids := (nodup_dimensionIds hdistinct).map (f := resolveTable) fun first second heq => by
    simpa using escape_inj heq
  rw [List.map_map] at hids
  exact hids

theorem tablesWith_resolve (hdistinct : info.ChildrenDistinct)
    {dimension : DataSeriesDimensionQueryInfo} (hdimension : dimension ∈ info.dimensions)
    (rows : List (Row V)) :
    tablesWith db.tables ((centralTable, rows) :: resolutionTables db info arguments)
        (.common (resolveTable dimension.id)) =
      (resolvableRows db dimension.reference arguments.pointInTime).map resolutionRow := by
  have hother : (resolveTable dimension.id == centralTable) = false :=
    beq_false_of_ne (resolveTable_ne dimension.id)
  rw [tablesWith, List.lookup_cons, hother, resolutionTables]
  have hlookup := lookup_map_of_nodup (fun dimension : DataSeriesDimensionQueryInfo =>
    (resolvableRows db dimension.reference arguments.pointInTime).map resolutionRow)
      (nodup_resolveTables hdistinct) hdimension
  simp only [hlookup, Option.getD_some]

/-- A central row with the rows that it is joined with. -/
def aroundRow (db : DisplayDatabase N D V)
    (queryParams : AList fun _ : String => ParamValue N D) (info : DataSeriesQueryInfo)
    (arguments : DisplayArguments D) (rows : List (Row V)) (row : Row V) : JoinedRow V :=
  joinedAlong (readMeaning db.toDatabase db.expression queryParams)
    (tablesWith db.tables ((centralTable, rows) :: resolutionTables db info arguments))
    (info.dimensions.map resolutionJoin) [(centralTable, row)]

theorem column_aroundRow_central (rows : List (Row V)) (row : Row V) (field : String) :
    column (aroundRow db queryParams info arguments rows row) centralTable field = row field := by
  rw [aroundRow, column_joinedAlong, column_cons_self]
  rw [List.forall_mem_map]
  intro dimension _
  exact (resolveTable_ne dimension.id).symm

theorem column_aroundRow_resolve (hdistinct : info.ChildrenDistinct)
    {dimension : DataSeriesDimensionQueryInfo} (hdimension : dimension ∈ info.dimensions)
    (rows : List (Row V)) (row : Row V) :
    column (aroundRow db queryParams info arguments rows row) (resolveTable dimension.id)
        "external_id" =
      resolvedId db arguments dimension.reference
        (row (dataSeriesDimensionToSelectInfo dimension).selectAlias) := by
  have hnames : ((info.dimensions.map resolutionJoin).map fun join => join.source.name).Nodup := by
    rw [List.map_map]
    exact nodup_resolveTables hdistinct
  obtain ⟨earlier, hearlier, hcolumn⟩ := column_joinedAlong_self
    (readMeaning db.toDatabase db.expression queryParams)
    (tablesWith db.tables ((centralTable, rows) :: resolutionTables db info arguments))
    hnames (List.mem_map_of_mem hdimension) [(centralTable, row)]
  have hcentral : column earlier centralTable
      (dataSeriesDimensionToSelectInfo dimension).selectAlias =
        row (dataSeriesDimensionToSelectInfo dimension).selectAlias := by
    rw [hearlier, column_cons_self]
    rw [List.forall_mem_map]
    intro other _
    exact (resolveTable_ne other.id).symm
  rw [resolvedId, ← hcentral, ← partner_externalId queryParams]
  refine (hcolumn "external_id").trans ?_
  change (partners (resolveTable dimension.id) (tablesWith db.tables
    ((centralTable, rows) :: resolutionTables db info arguments)
      (.common (resolveTable dimension.id))) _ earlier).headD nullRow "external_id" = _
  rw [tablesWith_resolve hdistinct hdimension]

section Answer

variable [Std.TransCmp db.order]
  (hsupported : ∀ dimension ∈ info.dimensions, dimension.reference.backend.Supported)
  (htables : ∀ dimension ∈ info.dimensions, ReferenceTables db dimension.reference)
  (hbound : ∀ instant ∈ arguments.pointInTime,
    queryParams.lookup "point_in_time" = some (.scalar (.timestamp instant)))
include hsupported htables hbound

theorem distinct_resolvable {dimension : DataSeriesDimensionQueryInfo}
    (hdimension : dimension ∈ info.dimensions) :
    DistinctIn db.order "data_point_id"
      ((resolvableRows db dimension.reference arguments.pointInTime).map resolutionRow) := by
  have hrows := rows_resolutionSelect (hsupported dimension hdimension)
    (htables dimension hdimension).keys hbound
  have hparam : (!arguments.pointInTime.isSome) = false →
      (queryParams.lookup "point_in_time").isSome = true := by
    intro hgiven
    obtain ⟨instant, hinstant⟩ := Option.isSome_iff_exists.mp (Bool.not_eq_false' _ ▸ hgiven)
    rw [hbound instant hinstant]
    rfl
  have hexists : ∃ rows, (resolutionSelect (!arguments.pointInTime.isSome)
      arguments.pointInTime.isSome dimension.reference).rows
        (readMeaning db.toDatabase db.expression queryParams) (tablesWith db.tables []) =
          some rows ∧ DistinctIn db.order "data_point_id" rows :=
    exists_rows_resolutionSelect (hsupported dimension hdimension)
      (htables dimension hdimension).keys hparam
  obtain ⟨rows, hfound, hdistinct⟩ := hexists
  rw [hrows] at hfound
  cases hfound
  exact hdistinct

/-- The answer has a row for each row of the central query. -/
theorem answer_resolvingSelect (hdistinct : info.ChildrenDistinct)
    (hmaterialized : canUseMaterializedTable info arguments.pointInTime.isSome =
      !arguments.pointInTime.isSome) {central : Query}
    (houtputs : central.outputs = centralOutputs info
      (payloadSelectInfos info arguments.includeInPayload) arguments.includeVersions
        arguments.payloadAsJson)
    (hincluded : ∀ dimension ∈ info.dimensions, ∀ included ∈ arguments.includeInPayload,
      dimension.unescapedDisplayId ∈ included) :
    (resolvingSelect info arguments central).answer db queryParams =
      (queryAnswer db central).map fun rows => rows.map fun row =>
        resultRow db (aroundRow db queryParams info arguments (rows.map tableRow) (tableRow row))
          (displayItems info arguments.payloadAsJson arguments.includeVersions
            (payloadSelectInfos info arguments.includeInPayload)) := by
  have hcommons : (resolvingSelect info arguments central).commons.mapM (fun entry =>
      (entry.2.rows (readMeaning db.toDatabase db.expression queryParams)
        (tablesWith db.tables [])).map fun rows => (entry.1, rows)) =
      some (resolutionTables db info arguments) := by
    rw [resolvingSelect, List.mapM_map, hmaterialized]
    apply PartialRuns.mapM_eq_some
    intro dimension hdimension
    have hrows := rows_resolutionSelect (hsupported dimension hdimension)
      (htables dimension hdimension).keys hbound
    simp only [Function.comp_apply, hrows, Option.map_some]
  have haccepted : (resolvingSelect info arguments central).main.accepted
      (readMeaning db.toDatabase db.expression queryParams) = true := by
    rw [Select.accepted, Bool.and_eq_true, List.all_eq_true]
    refine ⟨?_, rfl⟩
    intro join hjoin
    obtain ⟨dimension, -, rfl⟩ := List.mem_map.mp hjoin
    rfl
  have hnames := (namesFound_resolvingSelect houtputs).mpr hincluded
  have hjoined : ∀ rows : List (Row V), (resolvingSelect info arguments central).main.joinedRows
      (readMeaning db.toDatabase db.expression queryParams)
      (tablesWith db.tables ((centralTable, rows) :: resolutionTables db info arguments)) =
        rows.map (aroundRow db queryParams info arguments rows) := by
    intro rows
    have hone : ∀ join ∈ info.dimensions.map resolutionJoin, ∀ joined,
        (partners join.source.name (tablesWith db.tables
          ((centralTable, rows) :: resolutionTables db info arguments) join.source)
          ((readMeaning db.toDatabase db.expression queryParams).holds join.condition)
            joined).length ≤ 1 := by
      intro join hjoin joined
      obtain ⟨dimension, hdimension, rfl⟩ := List.mem_map.mp hjoin
      apply length_partners_resolutionJoin
      change DistinctIn db.order "data_point_id" (tablesWith db.tables
        ((centralTable, rows) :: resolutionTables db info arguments)
          (.common (resolveTable dimension.id)))
      rw [tablesWith_resolve hdistinct hdimension]
      exact distinct_resolvable hsupported htables hbound hdimension
    rw [Select.joinedRows]
    change (joinAll _ _ (info.dimensions.map resolutionJoin)
      (List.map (fun row => [(centralTable, row)])
        (tablesWith db.tables _ (.common centralTable)))).filter (fun _ => true) = _
    rw [List.filter_true, joinAll_eq_map hone, List.map_map, tablesWith, List.lookup_cons_self,
      Option.getD_some]
    rfl
  rw [DisplaySelect.answer_eq, hcommons]
  change (queryAnswer db central).bind _ = _
  cases queryAnswer db central with
  | none => rfl
  | some rows =>
      rw [Option.bind_some, Option.bind_some, if_pos ⟨hnames, haccepted⟩, hjoined, List.map_map,
        List.map_map]
      rfl

end Answer

/-- The value of a dimension in a row that the central query shows. -/
def dimensionValue (joined : JoinedRow V) (dimension : DataSeriesDimensionQueryInfo) : Option V :=
  column joined "ds_dp" (dataSeriesDimensionToSelectInfo dimension).materializedValueColumn

/-- The central row of a row that the central query shows. -/
def centralRow (db : DisplayDatabase N D V) (info : DataSeriesQueryInfo)
    (arguments : DisplayArguments D) (joined : JoinedRow V) : Row V :=
  tableRow (resultRow db joined (dataSeriesItems info
    (canUseMaterializedTable info arguments.pointInTime.isSome)
    (payloadSelectInfos info arguments.includeInPayload) false arguments.includeVersions
    arguments.payloadAsJson))

section RowValues

variable (hdistinct : info.ChildrenDistinct) (joined : JoinedRow V)
include hdistinct

theorem centralRow_of_mem {name : String} {stored : Option V}
    (hmem : (name, stored) ∈ resultRow db joined (dataSeriesItems info
      (canUseMaterializedTable info arguments.pointInTime.isSome)
      (payloadSelectInfos info arguments.includeInPayload) false arguments.includeVersions
      arguments.payloadAsJson)) :
    centralRow db info arguments joined name = stored := by
  apply tableRow_of_mem ?_ hmem
  rw [centralRow_keys]
  exact nodup_centralOutputs hdistinct _ _ _

theorem centralRow_selectAlias {selectInfo : SelectInfo}
    (hmem : selectInfo ∈ payloadSelectInfos info arguments.includeInPayload) :
    centralRow db info arguments joined selectInfo.selectAlias =
      exprValue db joined (centralValue info
        (canUseMaterializedTable info arguments.pointInTime.isSome) selectInfo) := by
  apply centralRow_of_mem hdistinct
  rw [resultRow_dataSeriesItems]
  simp only [List.mem_append]
  exact Or.inl (Or.inl (Or.inl (Or.inr (List.mem_map_of_mem hmem))))

theorem centralRow_pointInTime :
    centralRow db info arguments joined "point_in_time" =
      columnAtUtc db joined "ds_dp" "point_in_time" := by
  apply centralRow_of_mem hdistinct
  rw [resultRow_dataSeriesItems]
  simp only [List.mem_append]
  exact Or.inl (Or.inr (List.mem_singleton_self _))

end RowValues

theorem exprValue_centralValue_dimension (hbackend : info.backend.Supported)
    (joined : JoinedRow V) (dimension : DataSeriesDimensionQueryInfo) (pointInTime : Bool) :
    exprValue db joined (centralValue info (canUseMaterializedTable info pointInTime)
        (dataSeriesDimensionToSelectInfo dimension)) = dimensionValue joined dimension := by
  rw [centralValue, if_pos (currentTables hbackend pointInTime)]
  rfl

/-- Of a row of a query only the payload has values of dimensions. -/
theorem map_replaceDimension (part : ResultRow V)
    {resolve : ReadOnlyDataSeries → Option V → Option V}
    (hplain : ∀ name ∈ part.map Prod.fst, name ∈ ["id", "data_series_id", "versions",
      "point_in_time", "pagination_data", "sub_clock", "deleted", "external_id"]) :
    part.map (replaceDimension info arguments.payloadAsJson resolve) = part := by
  conv => rhs; rw [← List.map_id part]
  apply List.map_congr_left
  intro entry hmem
  have hname := hplain entry.1 (List.mem_map_of_mem hmem)
  apply replaceDimension_plain <;> intro hhead <;> revert hname <;>
    simp only [List.mem_cons, List.not_mem_nil, or_false] <;>
    rintro (heq | heq | heq | heq | heq | heq | heq | heq) <;> rw [heq] at hhead <;>
    exact absurd hhead (by decide)

/-- The row of the query without resolved dimensions, with external ids. -/
theorem withExternalIds_plainRow (useMaterialized : Bool) (joined : JoinedRow V) :
    withExternalIds db info arguments (resultRow db joined (dataSeriesItems info useMaterialized
        (payloadSelectInfos info arguments.includeInPayload) arguments.payloadAsJson
        arguments.includeVersions arguments.payloadAsJson)) =
      headEntries db joined info ++
        ((payloadSelectInfos info arguments.includeInPayload).map fun selectInfo =>
          replaceDimension info arguments.payloadAsJson
            (fun reference id =>
              externalIdAmong db (existingRows db reference arguments.pointInTime) id)
            (entryName arguments.payloadAsJson selectInfo,
              exprValue db joined (centralValue info useMaterialized selectInfo))) ++
        versionEntries db joined info arguments.includeVersions
          (payloadSelectInfos info arguments.includeInPayload) ++
        [("point_in_time", timeValue db joined arguments.payloadAsJson "ds_dp")] ++
        tailEntries db joined info useMaterialized arguments.payloadAsJson := by
  rw [withExternalIds, resultRow_dataSeriesItems]
  simp only [List.map_append]
  rw [map_replaceDimension (headEntries db joined info),
    map_replaceDimension (versionEntries db joined info arguments.includeVersions
      (payloadSelectInfos info arguments.includeInPayload)),
    map_replaceDimension [("point_in_time", _)],
    map_replaceDimension (tailEntries db joined info useMaterialized _), List.map_map]
  · rfl
  · rw [tailEntries_keys]
    intro name hmem
    simp only [List.mem_append, List.mem_map, List.mem_singleton] at hmem
    rcases hmem with (hpagination | ⟨field, -, rfl⟩) | rfl
    · split at hpagination
      · rw [List.mem_singleton.mp hpagination]
        decide
      · cases hpagination
    · cases field <;> decide
    · decide
  · simp
  · rw [versionEntries_keys]
    intro name hmem
    split at hmem
    · rw [List.mem_singleton.mp hmem]
      decide
    · cases hmem
  · rw [headEntries_eq]
    simp

variable (db queryParams) in
/-- The value that a query around the central one has for a child. -/
theorem exprValue_aroundRow (hbackend : info.backend.Supported)
    (hdistinct : info.ChildrenDistinct) (joined : JoinedRow V)
    (rows : List (Row V)) {selectInfo : SelectInfo}
    (hmem : selectInfo ∈ payloadSelectInfos info arguments.includeInPayload) :
    (∃ dimension ∈ info.dimensions, selectInfo = dataSeriesDimensionToSelectInfo dimension ∧
      exprValue db (aroundRow db queryParams info arguments rows
          (centralRow db info arguments joined)) (displayValue info selectInfo) =
        resolvedId db arguments dimension.reference (dimensionValue joined dimension)) ∨
    (selectInfo.actualId ∉ info.dimensions.map fun dimension => dimension.id) ∧
      exprValue db (aroundRow db queryParams info arguments rows
          (centralRow db info arguments joined)) (displayValue info selectInfo) =
        exprValue db joined (centralValue info
          (canUseMaterializedTable info arguments.pointInTime.isSome) selectInfo) := by
  by_cases hid : selectInfo.actualId ∈ info.dimensions.map fun dimension => dimension.id
  · left
    obtain ⟨dimension, hdimension, rfl⟩ := eq_dimension_of_actualId hdistinct
      (payloadSelectInfos_sublist.subset hmem) hid
    refine ⟨dimension, hdimension, rfl, ?_⟩
    rw [displayValue, if_pos hid, exprValue_column, ← exprValue_centralValue_dimension hbackend
      joined dimension arguments.pointInTime.isSome, ← centralRow_selectAlias hdistinct joined hmem]
    exact column_aroundRow_resolve hdistinct hdimension rows _
  · right
    refine ⟨hid, ?_⟩
    rw [displayValue, if_neg hid, exprValue_column, column_aroundRow_central,
      centralRow_selectAlias hdistinct joined hmem]

/-- A row is resolved exactly when its dimensions and its point in time are. -/
theorem row_eq_iff (hbackend : info.backend.Supported) (hdistinct : info.ChildrenDistinct)
    (hincluded : ∀ dimension ∈ info.dimensions, ∀ included ∈ arguments.includeInPayload,
      dimension.unescapedDisplayId ∈ included) (joined : JoinedRow V) (rows : List (Row V)) :
    resultRow db (aroundRow db queryParams info arguments rows
          (centralRow db info arguments joined))
        (displayItems info arguments.payloadAsJson arguments.includeVersions
          (payloadSelectInfos info arguments.includeInPayload)) =
      withExternalIds db info arguments (resultRow db joined (dataSeriesItems info
        (canUseMaterializedTable info arguments.pointInTime.isSome)
        (payloadSelectInfos info arguments.includeInPayload) arguments.payloadAsJson
        arguments.includeVersions arguments.payloadAsJson)) ↔
    (∀ dimension ∈ info.dimensions,
      resolvedId db arguments dimension.reference (dimensionValue joined dimension) =
        externalIdAmong db (existingRows db dimension.reference arguments.pointInTime)
          (dimensionValue joined dimension)) ∧
    timeValue db (aroundRow db queryParams info arguments rows
          (centralRow db info arguments joined)) arguments.payloadAsJson centralTable =
      timeValue db joined arguments.payloadAsJson "ds_dp" := by
  have hrow := resultRow_displayItems db joined
    (aroundRow db queryParams info arguments rows (centralRow db info arguments joined))
    (canUseMaterializedTable info arguments.pointInTime.isSome) arguments.payloadAsJson
    arguments.includeVersions arguments.includeInPayload hdistinct
    fun field => column_aroundRow_central rows _ field
  rw [hrow, withExternalIds_plainRow, List.append_left_inj]
  constructor
  · intro heq
    obtain ⟨hbefore, htime⟩ := List.append_inj' heq rfl
    have hpayload := List.append_cancel_left (List.append_cancel_right hbefore)
    constructor
    · intro dimension hdimension
      have hmem : dataSeriesDimensionToSelectInfo dimension ∈
          payloadSelectInfos info arguments.includeInPayload :=
        mem_payloadSelectInfos.mpr
          ⟨dimension_mem_selectInfos hdimension, hincluded dimension hdimension⟩
      have hentry := List.map_inj_left.mp hpayload _ hmem
      rw [replaceDimension_dimension hdistinct hdimension,
        exprValue_centralValue_dimension hbackend] at hentry
      have hvalue := congrArg Prod.snd hentry
      rcases exprValue_aroundRow db queryParams hbackend hdistinct joined
        rows hmem with ⟨other, hother, hinfo, hresolved⟩ | ⟨hid, -⟩
      · have hsame := dimension_inj hdistinct hother hdimension
          (congrArg SelectInfo.actualId hinfo.symm)
        rw [hsame] at hresolved
        exact hresolved.symm.trans hvalue
      · exact absurd (List.mem_map_of_mem hdimension) hid
    · injection htime with hpair
      exact congrArg Prod.snd hpair
  · rintro ⟨hdimensions, htime⟩
    rw [htime]
    congr 3
    apply List.map_congr_left
    intro selectInfo hmem
    rcases exprValue_aroundRow db queryParams hbackend hdistinct joined
      rows hmem with ⟨dimension, hdimension, rfl, hresolved⟩ | ⟨hid, hvalue⟩
    · rw [replaceDimension_dimension hdistinct hdimension, hresolved,
        exprValue_centralValue_dimension hbackend, hdimensions dimension hdimension]
    · rw [replaceDimension_other hdistinct (payloadSelectInfos_sublist.subset hmem) hid, hvalue]

end Rows

/-- The timestamps of a database, with a time zone and without one.  The text of
one with a time zone is in the time zone of the session. -/
structure Timestamps {N D V : Type} (db : DisplayDatabase N D V) where
  withZone : Int → V
  withoutZone : Int → V
  text : Int → V
  sessionOffset : Int → Int
  utc_withZone : ∀ instant, db.atTimeZoneUtc (withZone instant) = withoutZone instant
  utc_withoutZone : ∀ instant, db.atTimeZoneUtc (withoutZone instant) = withZone instant
  toChar_withoutZone : ∀ instant, db.toChar (withoutZone instant) = text instant
  toChar_withZone : ∀ instant,
    db.toChar (withZone instant) = text (instant + sessionOffset instant)
  withZone_injective : Function.Injective withZone
  withZone_ne : ∀ instant, withZone instant ≠ withoutZone instant
  text_shifted : ∀ instant, text (instant + sessionOffset instant) = text instant →
    sessionOffset instant = 0

section Times

variable {N D V : Type} {db : DisplayDatabase N D V} (times : Timestamps db)
  {joined around : JoinedRow V} {payloadAsJson : Bool} {instant : Int}

/-- A point in time is put into UTC twice, which only a text in UTC does not show. -/
theorem timeValue_eq_iff
    (hstamped : column joined "ds_dp" "point_in_time" = some (times.withZone instant))
    (haround : column around centralTable "point_in_time" =
      columnAtUtc db joined "ds_dp" "point_in_time") :
    timeValue db around payloadAsJson centralTable = timeValue db joined payloadAsJson "ds_dp" ↔
      payloadAsJson = true ∧ times.sessionOffset instant = 0 := by
  have honce : columnAtUtc db joined "ds_dp" "point_in_time" =
      some (times.withoutZone instant) := by
    rw [columnAtUtc, hstamped, Option.map_some, times.utc_withZone]
  have htwice : columnAtUtc db around centralTable "point_in_time" =
      some (times.withZone instant) := by
    rw [columnAtUtc, haround, honce, Option.map_some, times.utc_withoutZone]
  cases payloadAsJson with
  | false =>
      simp only [timeValue, honce, htwice, Bool.false_eq_true, if_false, Option.some_inj,
        false_and, iff_false]
      exact times.withZone_ne instant
  | true =>
      simp only [timeValue, honce, htwice, if_true, Option.map_some, Option.some_inj, true_and,
        times.toChar_withZone, times.toChar_withoutZone]
      constructor
      · exact times.text_shifted instant
      · intro hutc
        rw [hutc, Int.add_zero]

end Times

/-- Where a central query selects from. -/
structure CentralParts where
  withs : List (String × Query)
  source : Source
  joins : List Join
  rest : Fragment

def CentralParts.query {D : Type} (parts : CentralParts) (info : DataSeriesQueryInfo)
    (arguments : DisplayArguments D) (payloadAsJson : Bool) : Query :=
  .mk parts.withs (dataSeriesItems info
    (canUseMaterializedTable info arguments.pointInTime.isSome)
    (payloadSelectInfos info arguments.includeInPayload) payloadAsJson arguments.includeVersions
    arguments.payloadAsJson) parts.source parts.joins parts.rest

def CentralParts.shown {N D V : Type} (parts : CentralParts) (db : DisplayDatabase N D V) :
    Option (List (JoinedRow V)) :=
  db.selected parts.withs parts.source parts.joins parts.rest

section Central

variable {N D : Type} (partitionTable : String → Uuid → String)
  (info : DataSeriesQueryInfo) (arguments : DisplayArguments D)

/-- The payload does not matter for where a central query selects from. -/
theorem exists_centralParts : ∃ parts : Except (ReadError N) CentralParts,
    ∀ payloadAsJson, centralQuery partitionTable info arguments payloadAsJson =
      parts.map fun part => part.query info arguments payloadAsJson := by
  let materialized := canUseMaterializedTable info arguments.pointInTime.isSome
  let infos := payloadSelectInfos info arguments.includeInPayload
  let name := escape ("version_ds_dp_" ++ info.dataSeriesId)
  let sources := renderBaseSources partitionTable info materialized arguments.pointInTime.isSome
    arguments.changesSince
  refine ⟨do
    let withs ← versionsRenderWithParts partitionTable arguments.includeVersions name info infos
    let versionJoins ← versionsRenderWithJoinParts arguments.includeVersions name info infos
    let wherePart ← renderWherePart info materialized arguments.pointInTime.isSome
      arguments.changesSince
    return ⟨withs, sources.1, sources.2 ++ versionJoins, wherePart ++ arguments.filterStr⟩, ?_⟩
  intro payloadAsJson
  simp only [centralQuery, singleDataSeriesAsSqlTable, bind, Except.bind, pure, Except.pure]
  cases versionsRenderWithParts (N := N) partitionTable arguments.includeVersions name info
      infos with
  | error error => rfl
  | ok withs =>
      cases versionsRenderWithJoinParts (N := N) arguments.includeVersions name info infos with
      | error error => rfl
      | ok versionJoins =>
          cases renderWherePart (N := N) info materialized arguments.pointInTime.isSome
              arguments.changesSince with
          | error error => rfl
          | ok wherePart => rfl

/-- A query that resolves nothing is its central query. -/
theorem displayQuery_plain {resolve : Bool}
    (hnothing : (resolve && !info.dimensions.isEmpty) = false) :
    displayQuery (N := N) partitionTable info arguments resolve =
      centralQuery partitionTable info arguments arguments.payloadAsJson := by
  simp only [displayQuery, dataSeriesAsSqlTable, hnothing, Bool.not_false, Bool.and_true, if_true,
    Option.getD_none]
  exact bind_pure _

theorem displayQuery_resolving (hdimensions : info.dimensions ≠ []) :
    displayQuery (N := N) partitionTable info arguments true = do
      let central ← centralQuery partitionTable info arguments false
      let resolutions ← dimensionResolutions partitionTable
        (canUseMaterializedTable info arguments.pointInTime.isSome) arguments.pointInTime.isSome
        info.dimensions
      return .mk ((centralTable, central) :: resolutions)
        (displayItems info arguments.payloadAsJson arguments.includeVersions
          (payloadSelectInfos info arguments.includeInPayload)) (.common centralTable)
        (resolutionJoins info.dimensions) [] := by
  have hresolve : (true && !info.dimensions.isEmpty) = true := by
    simpa using hdimensions
  simp only [displayQuery, dataSeriesAsSqlTable, hresolve, Bool.not_true, Bool.and_false,
    Bool.false_eq_true, if_false, Option.getD_none]
  rfl

end Central

section Exact

variable {N D V : Type} {db : DisplayDatabase N D V} (times : Timestamps db)
  {queryParams : AList fun _ : String => ParamValue N D}
  (partitionTable : String → Uuid → String) {info : DataSeriesQueryInfo}
  {arguments : DisplayArguments D}

/-- A row has nothing that is resolved wrongly: its point in time is a text in UTC,
and of the references without a history it has no data point that is found but did
not exist. -/
structure ResolvedRight (times : Timestamps db) (info : DataSeriesQueryInfo)
    (arguments : DisplayArguments D) (joined : JoinedRow V) : Prop where
  time : arguments.payloadAsJson = true ∧ ∀ instant,
    column joined "ds_dp" "point_in_time" = some (times.withZone instant) →
      times.sessionOffset instant = 0
  references : ∀ instant ∈ arguments.pointInTime, ∀ dimension ∈ info.dimensions,
    dimension.reference.backend = .dynamicSqlNoHistory →
      ∀ row ∈ mainRows db dimension.reference,
        sameValue db (dimensionValue joined dimension) (row "id") = true →
          foundTooMany db (some (db.value (.timestamp instant))) row = false

/-- The rendered query is the one that has been given a meaning. -/
theorem sql_resolvingSelect (central : Query) {resolutions : List (String × Query)}
    (hsupported : ∀ dimension ∈ info.dimensions, dimension.reference.backend.Supported)
    (hresolutions : dimensionResolutions (N := N) partitionTable
      (canUseMaterializedTable info arguments.pointInTime.isSome) arguments.pointInTime.isSome
        info.dimensions = .ok resolutions) :
    (Query.mk ((centralTable, central) :: resolutions)
        (displayItems info arguments.payloadAsJson arguments.includeVersions
          (payloadSelectInfos info arguments.includeInPayload)) (.common centralTable)
        (resolutionJoins info.dimensions) []).sql =
      (resolvingSelect info arguments central).query.sql := by
  rw [DisplaySelect.query, resolvingSelect, Select.query, List.map_map]
  apply Query.sql_congr
  · exact .cons ⟨rfl, rfl⟩ (sql_dimensionResolutions partitionTable hsupported hresolutions)
  · rw [resolutionJoins, List.map_map, List.map_map, List.map_map]
    rfl
  · rfl

/-- When there is a central query, the current tables are read without a point in
time, and the history at one. -/
theorem materialized_of_centralQuery (hbackend : info.backend.Supported) {payloadAsJson : Bool}
    {central : Query}
    (hcentral : centralQuery (N := N) partitionTable info arguments payloadAsJson = .ok central) :
    canUseMaterializedTable info arguments.pointInTime.isSome = !arguments.pointInTime.isSome := by
  obtain ⟨-, -, wherePart, -, -, hwhere, -⟩ := singleDataSeriesAsSqlTable_eq_ok hcentral
  cases hmaterialized : canUseMaterializedTable info arguments.pointInTime.isSome with
  | true =>
      rw [hmaterialized, renderWherePart, if_pos rfl, renderWherePartMaterialized] at hwhere
      cases hgiven : arguments.pointInTime.isSome with
      | true =>
          rw [hgiven, if_pos rfl] at hwhere
          cases hwhere
      | false => rfl
  | false =>
      obtain ⟨-, hgiven⟩ := (history_iff hbackend _).mp hmaterialized
      rw [hgiven]
      rfl

section Answers

variable [Std.TransCmp db.order] (hbackend : info.backend.Supported)
  (hsupported : ∀ dimension ∈ info.dimensions, dimension.reference.backend.Supported)
  (hdistinct : info.ChildrenDistinct)
  (htables : ∀ dimension ∈ info.dimensions, ReferenceTables db dimension.reference)
  (hbound : ∀ instant ∈ arguments.pointInTime,
    queryParams.lookup "point_in_time" = some (.scalar (.timestamp instant)))
include hbackend hdistinct htables

/-- One row is resolved exactly when nothing in it is resolved wrongly. -/
theorem row_exact_iff
    (hincluded : ∀ dimension ∈ info.dimensions, ∀ included ∈ arguments.includeInPayload,
      dimension.unescapedDisplayId ∈ included) {joined : JoinedRow V} {instant : Int}
    (hstamped : column joined "ds_dp" "point_in_time" = some (times.withZone instant))
    (rows : List (Row V)) :
    resultRow db (aroundRow db queryParams info arguments rows
          (centralRow db info arguments joined))
        (displayItems info arguments.payloadAsJson arguments.includeVersions
          (payloadSelectInfos info arguments.includeInPayload)) =
      withExternalIds db info arguments (resultRow db joined (dataSeriesItems info
        (canUseMaterializedTable info arguments.pointInTime.isSome)
        (payloadSelectInfos info arguments.includeInPayload) arguments.payloadAsJson
        arguments.includeVersions arguments.payloadAsJson)) ↔
    ResolvedRight times info arguments joined := by
  have haround : column (aroundRow db queryParams info arguments rows
      (centralRow db info arguments joined)) centralTable "point_in_time" =
        columnAtUtc db joined "ds_dp" "point_in_time" := by
    rw [column_aroundRow_central, centralRow_pointInTime hdistinct]
  rw [row_eq_iff hbackend hdistinct hincluded, timeValue_eq_iff times hstamped haround]
  have hreferences : (∀ dimension ∈ info.dimensions,
      resolvedId db arguments dimension.reference (dimensionValue joined dimension) =
        externalIdAmong db (existingRows db dimension.reference arguments.pointInTime)
          (dimensionValue joined dimension)) ↔
      ∀ dimension ∈ info.dimensions, ∀ instant ∈ arguments.pointInTime,
        dimension.reference.backend = .dynamicSqlNoHistory →
          ∀ row ∈ mainRows db dimension.reference,
            sameValue db (dimensionValue joined dimension) (row "id") = true →
              foundTooMany db (some (db.value (.timestamp instant))) row = false :=
    forall₂_congr fun dimension hdimension =>
      externalIdAmong_resolvable_iff (htables dimension hdimension)
  rw [hreferences]
  constructor
  · rintro ⟨hexact, hjson, hutc⟩
    refine ⟨⟨hjson, ?_⟩, ?_⟩
    · intro other hother
      rw [← times.withZone_injective (Option.some_inj.mp (hstamped.symm.trans hother))]
      exact hutc
    · intro time htime dimension hdimension
      exact hexact dimension hdimension time htime
  · intro hright
    refine ⟨?_, hright.time.1, hright.time.2 instant hstamped⟩
    intro dimension hdimension time htime
    exact hright.references time htime dimension hdimension

include hsupported hbound

/-- The answers are the same up to the external ids exactly when every row is resolved
right. -/
theorem answer_exact_iff
    (hmaterialized : canUseMaterializedTable info arguments.pointInTime.isSome =
      !arguments.pointInTime.isSome) {parts : CentralParts}
    (hstamped : ∀ rows, parts.shown db = some rows → ∀ joined ∈ rows,
      ∃ instant, column joined "ds_dp" "point_in_time" = some (times.withZone instant)) :
    (resolvingSelect info arguments (parts.query info arguments false)).answer db queryParams =
      (queryAnswer db (parts.query info arguments arguments.payloadAsJson)).map
        (List.map (withExternalIds db info arguments)) ↔
      ∀ rows, parts.shown db = some rows →
        (∀ dimension ∈ info.dimensions, ∀ included ∈ arguments.includeInPayload,
          dimension.unescapedDisplayId ∈ included) ∧
        ∀ joined ∈ rows, ResolvedRight times info arguments joined := by
  have houtputs : (parts.query info arguments false).outputs = centralOutputs info
      (payloadSelectInfos info arguments.includeInPayload) arguments.includeVersions
        arguments.payloadAsJson := outputs_dataSeriesItems
  have hanswers : ∀ payloadAsJson, queryAnswer db (parts.query info arguments payloadAsJson) =
      (parts.shown db).map (List.map fun joined => resultRow db joined (dataSeriesItems info
        (canUseMaterializedTable info arguments.pointInTime.isSome)
        (payloadSelectInfos info arguments.includeInPayload) payloadAsJson
        arguments.includeVersions arguments.payloadAsJson)) := fun _ => rfl
  by_cases hincluded : ∀ dimension ∈ info.dimensions, ∀ included ∈ arguments.includeInPayload,
      dimension.unescapedDisplayId ∈ included
  · rw [answer_resolvingSelect hsupported htables hbound hdistinct hmaterialized houtputs hincluded,
      hanswers, hanswers]
    cases hrows : parts.shown db with
    | none => simp
    | some rows =>
        rw [Option.map_some, Option.map_some, Option.map_some, Option.map_some, Option.some_inj,
          List.map_map, List.map_map, List.map_map, List.map_inj_left]
        constructor
        · intro heq other hother
          cases hother
          refine ⟨hincluded, ?_⟩
          intro joined hjoined
          obtain ⟨instant, hinstant⟩ := hstamped rows hrows joined hjoined
          exact (row_exact_iff times hbackend hdistinct htables hincluded hinstant _).mp
            (heq joined hjoined)
        · intro hright joined hjoined
          obtain ⟨instant, hinstant⟩ := hstamped rows hrows joined hjoined
          exact (row_exact_iff times hbackend hdistinct htables hincluded hinstant _).mpr
            ((hright rows rfl).2 joined hjoined)
  · have hnames : ¬ (resolvingSelect info arguments
        (parts.query info arguments false)).query.NamesFound :=
      fun hfound => hincluded ((namesFound_resolvingSelect houtputs).mp hfound)
    have hrefused : (resolvingSelect info arguments (parts.query info arguments false)).answer db
        queryParams = none := by
      rw [DisplaySelect.answer_eq, Option.bind_eq_none_iff]
      intro rows _
      rw [Option.bind_eq_none_iff]
      intro commons _
      exact if_neg fun hboth => hnames hboth.1
    rw [hrefused, hanswers]
    cases parts.shown db with
    | none => simp
    | some rows =>
        constructor
        · intro heq
          cases heq
        · intro hright
          exact absurd (hright rows rfl).1 hincluded

end Answers

end Exact

namespace ResolutionWitness

/-- The customers of orders, without a history. -/
def customer : DataSeriesDimensionQueryInfo :=
  { QueryScopeWitness.customer with
    reference := { QueryScopeWitness.customer.reference with backend := .dynamicSqlNoHistory } }

def orders : DataSeriesQueryInfo :=
  { QueryScopeWitness.orders with
    children := fun type =>
      match type with
      | .dimension => AList.singleton "customer" customer
      | _ => ∅ }

inductive Value where
  | number (value : Int)
  | withZone (instant : Int)
  | withoutZone (instant : Int)
  | timeText (instant : Int)
  | text (value : String)
  | written (expression : Fragment)
deriving DecidableEq

def Value.rank : Value → Int
  | .number value => value
  | .withZone instant => instant
  | .withoutZone instant => instant
  | _ => 0

def row (columns : List (String × Value)) : Row Value := fun field => columns.lookup field

/-- An order of the second moment, with its customer. -/
def order : Row Value :=
  row [("id", .number 1), ("external_id", .text "order1"), ("point_in_time", .withZone 2),
    ((dataSeriesDimensionToSelectInfo customer).materializedValueColumn, .number 7)]

/-- A session in UTC, with one order whose customer has been inserted at a time. -/
def database (insertedAt : Int) : DisplayDatabase Int Int Value where
  value := fun scalar =>
    match scalar with
    | .boolean value => .number (if value then 1 else 0)
    | .number value => .number value
    | .timestamp instant => .withZone instant
    | .text value => .text value
  order := compareOn Value.rank
  like := fun _ _ => false
  accepts := fun _ _ _ => true
  tables := fun name =>
    if name = "tenant._mat_3" then
      [row [("id", .number 7), ("external_id", .text "customer1"),
        ("inserted_at", .withZone insertedAt)]]
    else []
  selected := fun _ _ _ _ => some [[("ds_dp", order)]]
  atTimeZoneUtc := fun value =>
    match value with
    | .withZone instant => .withoutZone instant
    | .withoutZone instant => .withZone instant
    | value => value
  toChar := fun value =>
    match value with
    | .withZone instant => .timeText instant
    | .withoutZone instant => .timeText instant
    | value => value
  expression := fun fragment _ => some (.written fragment)

instance (insertedAt : Int) : Std.TransCmp (database insertedAt).order :=
  inferInstanceAs (Std.TransCmp (compareOn Value.rank))

def times (insertedAt : Int) : Timestamps (database insertedAt) where
  withZone := .withZone
  withoutZone := .withoutZone
  text := .timeText
  sessionOffset := fun _ => 0
  utc_withZone := fun _ => rfl
  utc_withoutZone := fun _ => rfl
  toChar_withoutZone := fun _ => rfl
  toChar_withZone := fun instant => congrArg Value.timeText (Int.add_zero instant).symm
  withZone_injective := fun _ _ heq => Value.withZone.inj heq
  withZone_ne := nofun
  text_shifted := fun _ _ => rfl

def arguments : DisplayArguments Int where
  includeInPayload := none
  payloadAsJson := true
  pointInTime := some 5
  changesSince := false
  includeVersions := false
  filterStr := []

def queryParams : AList fun _ : String => ParamValue Int Int :=
  AList.singleton "point_in_time" (.scalar (.timestamp 5))

def partitionTable (table : String) (id : Uuid) : String := table ++ id

theorem orders_supported :
    ∀ dimension ∈ orders.dimensions, dimension.reference.backend.Supported := by
  intro dimension hdimension
  cases List.mem_singleton.mp hdimension
  exact Or.inl rfl

theorem selectInfos_orders : selectInfos orders = [dataSeriesDimensionToSelectInfo customer] :=
  List.mergeSort_singleton _

theorem orders_childrenDistinct : orders.ChildrenDistinct := by
  constructor
  · rw [selectInfos_orders]
    exact List.nodup_singleton _
  · rw [selectInfos_orders]
    exact List.nodup_singleton _
  · rw [selectInfos_orders]
    exact List.nodup_singleton _
  · exact List.nodup_nil

theorem orders_tables (insertedAt : Int) :
    ∀ dimension ∈ orders.dimensions,
      ReferenceTables (database insertedAt) dimension.reference := by
  intro dimension hdimension
  cases List.mem_singleton.mp hdimension
  refine ⟨⟨⟨?_, List.pairwise_singleton _ _⟩, nofun⟩, ?_⟩
  · intro row hrow field hfield
    cases List.mem_singleton.mp hrow
    cases List.mem_singleton.mp hfield
    rfl
  · intro row hrow
    cases List.mem_singleton.mp hrow
    rfl

theorem order_stamped (joined : JoinedRow Value) (hjoined : joined ∈ [[("ds_dp", order)]]) :
    ∃ instant, column joined "ds_dp" "point_in_time" = some (.withZone instant) := by
  cases List.mem_singleton.mp hjoined
  exact ⟨2, rfl⟩

theorem queryParams_bound : ∀ instant ∈ arguments.pointInTime,
    queryParams.lookup "point_in_time" = some (.scalar (.timestamp instant)) := by
  rintro _ ⟨⟩
  rfl

end ResolutionWitness

end NFCompose
