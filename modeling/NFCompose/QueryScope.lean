/-
The names in the read queries.  A query that is rendered reads from tables that it
introduces, unless it filters the history of a data series or resolves a
dimension that its payload leaves out.
-/
import NFCompose.CentralQuery
import NFCompose.FilterMeaning

namespace NFCompose

open SqlQueries

section Filters

open SqlConditions

variable {N D : Type} {info : DataSeriesQueryInfo} {parseDatetime : Json N → Option D}
  {useMaterialized : Bool} {externalIds : List ExternalId} {filter : Json N} {text : FilterText}
  {part : UserDefinedFilter N D}

theorem tables_filterFragment (text : FilterText) :
    tables (filterFragment text) = (atoms text).flatMap fun atom => tables atom.fragment := by
  induction text with
  | nil => rfl
  | cons token rest ih =>
      rw [filterFragment, List.flatMap_cons, tables_append]
      change tables (tokenFragment token) ++ tables (filterFragment rest) = _
      rw [ih]
      cases token <;> rfl

theorem tables_conditionOf (lhs : Lhs) (type : StructureType) (comparison : Comparison N)
    (name : String) :
    tables (conditionOf lhs type comparison name).fragment = tables [lhs.piece] := by
  have htext (text : String) : tables [lhs.piece, .text text] = tables [lhs.piece] := by
    cases lhs <;> rfl
  rw [conditionOf]
  split
  · exact htext _
  · split
    · exact htext _
    · split
      · exact htext _
      · split <;> exact htext _

/-- The table that a comparison reads. -/
def comparedTable (useMaterialized : Bool) (key : String) : String :=
  if useMaterialized then "ds_dp" else escape ("relation_" ++ key)

theorem tables_atomOf {comparison : Comparison N} (name : String) {type : StructureType}
    (htype : info.comparedType comparison.key = some type) :
    tables (atomOf useMaterialized info comparison name).fragment =
      [comparedTable useMaterialized comparison.key] := by
  obtain ⟨queryInfo, hlookup⟩ := exists_lookup_of_comparedType htype
  have hlhs : fieldLhs useMaterialized info comparison.key =
      some (lhsOf useMaterialized type comparison.key queryInfo) := by
    rw [fieldLhs, htype, Option.bind_some, hlookup, Option.map_some]
  simp only [atomOf, htype, hlhs, tables_conditionOf]
  cases useMaterialized <;> rfl

/-- A filter reads the data points for its external ids, and a table for each
comparison. -/
theorem AcceptedFilter.mem_tables
    (haccepted : AcceptedFilter useMaterialized info parseDatetime externalIds filter text part)
    {read : String} : read ∈ tables (filterFragment part.filterQueryStr) ↔
      (∃ externalId ∈ externalIds, read = "ds_dp") ∨
        ∃ comparison ∈ filterComparisons filter,
          read = comparedTable useMaterialized comparison.key := by
  rw [tables_filterFragment, haccepted.atoms_filterQueryStr, List.flatMap_append, List.mem_append,
    atoms_externalIdQueryStr, List.mem_flatMap, List.mem_flatMap]
  apply or_congr
  · constructor
    · rintro ⟨atom, hatom, hmem⟩
      obtain ⟨entry, hentry, rfl⟩ := List.mem_map.mp hatom
      exact ⟨entry.1, List.fst_mem_of_mem_zipIdx hentry, List.mem_singleton.mp hmem⟩
    · rintro ⟨externalId, hexternalId, rfl⟩
      obtain ⟨index, hentry⟩ := exists_index hexternalId
      exact ⟨_, List.mem_map_of_mem hentry, List.mem_singleton_self _⟩
  · constructor
    · rintro ⟨atom, hatom, hmem⟩
      have hnever : atom ≠ .always := by
        rintro rfl
        cases hmem
      obtain ⟨entry, hentry, rfl⟩ := haccepted.exists_entry hatom hnever
      have hcomparison := List.fst_mem_of_mem_zipIdx hentry
      obtain ⟨type, htype, -⟩ := haccepted.checked hcomparison
      rw [tables_atomOf _ htype] at hmem
      exact ⟨entry.1, hcomparison, List.mem_singleton.mp hmem⟩
    · rintro ⟨comparison, hcomparison, rfl⟩
      obtain ⟨index, hentry⟩ := exists_index hcomparison
      obtain ⟨type, htype, -⟩ := haccepted.checked hcomparison
      refine ⟨_, haccepted.atomOf_mem hentry, ?_⟩
      rw [tables_atomOf _ htype]
      exact List.mem_singleton_self _

theorem AcceptedFilter.filterTables
    (haccepted : AcceptedFilter useMaterialized info parseDatetime externalIds filter text part) :
    FilterTables (filterFragment part.filterQueryStr) := by
  intro read hmem
  rcases haccepted.mem_tables.mp hmem with ⟨-, -, hmain⟩ | ⟨comparison, -, rfl⟩
  · exact Or.inl hmain
  · cases useMaterialized with
    | true => exact Or.inl rfl
    | false => exact Or.inr ⟨comparison.key, rfl⟩

/-- In the history a filter reads the data points only when it compares nothing. -/
theorem AcceptedFilter.reads_main_iff
    (haccepted : AcceptedFilter useMaterialized info parseDatetime externalIds filter text part) :
    ReadsMain (filterFragment part.filterQueryStr) ↔
      (useMaterialized = false → filterComparisons filter = []) := by
  constructor
  · rintro hmain rfl
    apply List.eq_nil_iff_forall_not_mem.mpr
    intro comparison hcomparison
    have hrelation := hmain _ (haccepted.mem_tables.mpr (Or.inr ⟨comparison, hcomparison, rfl⟩))
    exact relation_ne_main comparison.key hrelation
  · intro hnothing read hmem
    rcases haccepted.mem_tables.mp hmem with ⟨-, -, hmain⟩ | ⟨comparison, hcomparison, rfl⟩
    · exact hmain
    · cases useMaterialized with
      | true => rfl
      | false =>
          rw [hnothing rfl] at hcomparison
          cases hcomparison

end Filters

section ListFilter

variable {N D : Type} {info : DataSeriesQueryInfo} {parseDatetime : Json N → Option D}
  {useMaterialized reverse : Bool}

theorem readsMain_pageStartAt {value : Json N} {fragment : Fragment}
    (hok : pageStartAt useMaterialized reverse value = .ok fragment) : ReadsMain fragment := by
  cases value with
  | object members => cases useMaterialized <;> cases hok <;> simp [ReadsMain]
  | _ => cases hok

theorem readsMain_pageStartCondition {startObject : Option (Option (Json N))}
    {fragment : Fragment}
    (hok : pageStartCondition useMaterialized reverse startObject = .ok fragment) :
    ReadsMain fragment := by
  match startObject with
  | none =>
      cases hok
      simp [ReadsMain]
  | some none => cases hok
  | some (some pageStart) =>
      simp only [pageStartCondition, bind, Except.bind] at hok
      split at hok
      · cases hok
      · split at hok
        · split at hok
          · cases hok
          · exact readsMain_pageStartAt hok
        · exact readsMain_pageStartAt hok

theorem filterError_eq_ok {A : Type} {result : Except (FilterError N) A} {value : A} :
    filterError result = .ok value ↔ result = .ok value := by
  cases result <;> simp [filterError, Except.mapError]

theorem readsMain_orderBy (useMaterialized reverse : Bool) :
    ReadsMain (orderBy useMaterialized reverse) := by
  cases useMaterialized <;> cases reverse <;> simp [ReadsMain, orderBy]

/-- Every other part of the filter of a list query reads the data points only. -/
theorem rawDisplayDataPointQuery_eq_ok {partitionTable : String → Uuid → String}
    {request : ReadRequest N} {dataPointId : Option Uuid}
    {startObject : Option (Option (Json N))} {limit : Option Nat} {query : Query}
    (hok : rawDisplayDataPointQuery partitionTable parseDatetime info request dataPointId
      startObject reverse limit = .ok query) :
    ∃ part before after, ReadsMain before ∧ ReadsMain after ∧
      precomputeFilterPart request.externalIds request.filterValue info
        (canUseMaterializedTable info request.pointInTime) parseDatetime = .ok part ∧
      dataSeriesAsSqlTable (N := N) partitionTable request.includeInPayload true
        request.pointInTime request.changesSince request.shouldIncludeVersions
        (before ++ filterFragment part.filterQueryStr ++ after)
        request.externalIdAsDimensionIdentifier info none = .ok query := by
  simp only [rawDisplayDataPointQuery, bind, Except.bind] at hok
  split at hok
  · cases hok
  · next pageStart hpageStart =>
      split at hok
      · cases hok
      · next part hpart =>
          have hlookup : ReadsMain (if dataPointId.isSome then
              [.text " AND ", .column "ds_dp" "id", .text " = %(data_point_lookup_id)s"]
              else []) := by
            split <;> simp [ReadsMain]
          have hlimit : ReadsMain (if limit.isSome then [.text " LIMIT %(limit)s"] else []) := by
            split <;> simp [ReadsMain]
          have hordering := readsMain_orderBy
            (canUseMaterializedTable info request.pointInTime) reverse
          refine ⟨part, _, _,
            readsMain_append.mpr ⟨hlookup, readsMain_pageStartCondition hpageStart⟩,
            readsMain_append.mpr ⟨hordering, hlimit⟩, filterError_eq_ok.mp hpart, ?_⟩
          rw [← List.append_assoc]
          exact hok

end ListFilter

section Resolution

variable {N : Type} {partitionTable : String → Uuid → String}
  {useMaterialized pointInTime : Bool} {query : Query}

/-- A query without versions is in scope when its filter is. -/
theorem wellScoped_plain_iff {source : Source} {joins : List Join} {select : List SelectItem}
    {wherePart : Fragment} (filterStr : Fragment) (hbase : BaseTables useMaterialized source joins)
    (hselect : ∀ item ∈ select, ReadsMain item.fragment)
    (hwhere : ∀ read ∈ tables wherePart,
      read = "ds_dp" ∨ useMaterialized = false ∧ read = "ds_dp2")
    (hfilter : FilterTables filterStr) :
    WellScoped (.mk [] select source joins (wherePart ++ filterStr)) ↔ ReadsMain filterStr := by
  have hscoped : ∀ item ∈ select, Scoped [] (allSources source (joins ++ [])) item.fragment := by
    intro item hmem
    apply scoped_of_tables
    intro read hread column
    rw [hselect item hmem read hread]
    exact hbase.readable_main [] [] column
  have hcentral := wellScoped_central_iff filterStr hbase
    (versionTables_nil (escape "version_ds_dp_")) hscoped hwhere
  rw [scoped_filter_iff "" hbase (versionTables_nil _).joined hfilter] at hcentral
  simpa only [List.append_nil] using hcentral

/-- The query that resolves a dimension, over the tables of what it refers to. -/
theorem wellScoped_resolution {source : Source} {joins : List Join} {wherePart : Fragment}
    (hbase : BaseTables useMaterialized source joins)
    (hwhere : ∀ read ∈ tables wherePart,
      read = "ds_dp" ∨ useMaterialized = false ∧ read = "ds_dp2") :
    WellScoped (.mk [] [.named [.column "ds_dp" "id"] "data_point_id",
      .named [.column "ds_dp" "external_id"] "external_id"] source joins wherePart) := by
  have hselect : ∀ item ∈ [SelectItem.named [.column "ds_dp" "id"] "data_point_id",
      .named [.column "ds_dp" "external_id"] "external_id"], ReadsMain item.fragment := by
    simp [ReadsMain, SelectItem.fragment]
  have hplain := wellScoped_plain_iff [] hbase hselect hwhere (by simp [FilterTables])
  rw [List.append_nil] at hplain
  exact hplain.mpr (by simp [ReadsMain])

theorem dimensionResolution_spec {reference : ReadOnlyDataSeries}
    (hok : dimensionResolution (N := N) partitionTable useMaterialized pointInTime reference =
      .ok query) :
    WellScoped query ∧ query.outputs = ["data_point_id", "external_id"] := by
  simp only [dimensionResolution] at hok
  split at hok
  · split at hok
    · cases hok
    · cases hok
      refine ⟨wellScoped_resolution (baseTables_current _) ?_, rfl⟩
      simp [AliveFilter.condition]
  · split at hok
    · cases hok
      refine ⟨wellScoped_resolution (baseTables_current _) ?_, rfl⟩
      simp
    · split at hok
      · cases hok
        refine ⟨wellScoped_resolution (baseTables_history ?_) ?_, rfl⟩
        · simp
        · simp
      · cases hok
        refine ⟨wellScoped_resolution (baseTables_history ?_) ?_, rfl⟩
        · simp
        · simp

/-- What the resolutions of dimensions define. -/
structure Resolutions (dimensions : List DataSeriesDimensionQueryInfo)
    (resolutions : List (String × Query)) : Prop where
  names : resolutions.map Prod.fst = dimensions.map fun dimension => resolveTable dimension.id
  wellScoped : ∀ entry ∈ resolutions, WellScoped entry.2
  outputs : ∀ entry ∈ resolutions, entry.2.outputs = ["data_point_id", "external_id"]

/-- Each dimension is resolved by a query of its own. -/
theorem dimensionResolutions_eq_ok {dimensions : List DataSeriesDimensionQueryInfo}
    {resolutions : List (String × Query)}
    (hok : dimensionResolutions (N := N) partitionTable useMaterialized pointInTime dimensions =
      .ok resolutions) :
    List.Forall₂ (fun dimension entry => entry.1 = resolveTable dimension.id ∧
      dimensionResolution (N := N) partitionTable useMaterialized pointInTime
        dimension.reference = .ok entry.2) dimensions resolutions := by
  induction dimensions generalizing resolutions with
  | nil =>
      cases hok
      exact .nil
  | cons dimension rest ih =>
      rw [dimensionResolutions, List.mapM_cons] at hok
      simp only [bind, Except.bind] at hok
      split at hok
      · cases hok
      · next entry hentry =>
          split at hok
          · cases hok
          · next others hothers =>
              cases hok
              split at hentry
              · cases hentry
              · next query hquery =>
                  cases hentry
                  exact .cons ⟨rfl, hquery⟩ (ih hothers)

theorem dimensionResolutions_spec {dimensions : List DataSeriesDimensionQueryInfo}
    {resolutions : List (String × Query)}
    (hok : dimensionResolutions (N := N) partitionTable useMaterialized pointInTime dimensions =
      .ok resolutions) : Resolutions dimensions resolutions := by
  have hqueries := dimensionResolutions_eq_ok hok
  clear hok
  induction hqueries with
  | nil =>
      refine ⟨rfl, ?_, ?_⟩
      · intro entry hmem
        cases hmem
      · intro entry hmem
        cases hmem
  | @cons dimension entry rest others hentry _ ih =>
      obtain ⟨hscoped, houtputs⟩ := dimensionResolution_spec hentry.2
      refine ⟨?_, ?_, ?_⟩
      · rw [List.map_cons, List.map_cons, hentry.1, ih.names]
      · exact List.forall_mem_cons.mpr ⟨hscoped, ih.wellScoped⟩
      · exact List.forall_mem_cons.mpr ⟨houtputs, ih.outputs⟩

variable {dimensions : List DataSeriesDimensionQueryInfo} {resolutions : List (String × Query)}
  {central : Query} {sources : List Source}

theorem Resolutions.exists_query (hresolutions : Resolutions dimensions resolutions)
    {id : Uuid} (hid : id ∈ dimensions.map fun dimension => dimension.id) :
    ∃ query, (resolveTable id, query) ∈ resolutions ∧
      query.outputs = ["data_point_id", "external_id"] := by
  obtain ⟨dimension, hdimension, rfl⟩ := List.mem_map.mp hid
  have hname : resolveTable dimension.id ∈ resolutions.map Prod.fst := by
    rw [hresolutions.names]
    exact List.mem_map_of_mem hdimension
  obtain ⟨entry, hentry, hfirst⟩ := List.mem_map.mp hname
  refine ⟨entry.2, ?_, hresolutions.outputs entry hentry⟩
  rw [← hfirst]
  exact hentry

theorem Resolutions.readable (hresolutions : Resolutions dimensions resolutions) {id : Uuid}
    (hid : id ∈ dimensions.map fun dimension => dimension.id)
    (hsource : .common (resolveTable id) ∈ sources) {column : String}
    (hcolumn : column = "data_point_id" ∨ column = "external_id") :
    Readable ((centralTable, central) :: resolutions) sources (resolveTable id) column := by
  obtain ⟨query, hquery, houtputs⟩ := hresolutions.exists_query hid
  apply readable_common hsource (List.mem_cons_of_mem _ hquery)
  rw [houtputs]
  rcases hcolumn with rfl | rfl
  · exact List.mem_cons_self
  · exact List.mem_cons_of_mem _ List.mem_cons_self

/-- Of the central table the columns that it selects can be read. -/
theorem Resolutions.readable_central_iff (hresolutions : Resolutions dimensions resolutions)
    (hcentral : .common centralTable ∈ sources)
    (hcommon : ∀ source ∈ sources, ∃ label, source = .common label) {column : String} :
    Readable ((centralTable, central) :: resolutions) sources centralTable column ↔
      column ∈ central.outputs := by
  constructor
  · rintro ⟨source, hmem, hname, hoffers⟩
    obtain ⟨label, rfl⟩ := hcommon source hmem
    obtain rfl : label = centralTable := hname
    obtain ⟨query, hquery, hcolumn⟩ := hoffers
    rcases List.mem_cons.mp hquery with heq | hresolution
    · cases heq
      exact hcolumn
    · exfalso
      have hlabel := List.mem_map_of_mem (f := Prod.fst) hresolution
      rw [hresolutions.names] at hlabel
      obtain ⟨dimension, -, heq⟩ := List.mem_map.mp hlabel
      exact resolveTable_ne dimension.id heq
  · intro hcolumn
    exact readable_common hcentral List.mem_cons_self hcolumn

theorem common_of_mem_allSources {source : Source}
    (hmem : source ∈ allSources (.common centralTable) (resolutionJoins dimensions)) :
    source = .common centralTable ∨
      ∃ dimension ∈ dimensions, source = .common (resolveTable dimension.id) := by
  rw [allSources, resolutionJoins, List.map_map] at hmem
  rcases List.mem_cons.mp hmem with rfl | hjoin
  · exact Or.inl rfl
  · obtain ⟨dimension, hdimension, rfl⟩ := List.mem_map.mp hjoin
    exact Or.inr ⟨dimension, hdimension, rfl⟩

/-- The names of a resolution are found when the central query selects every
dimension. -/
theorem Resolutions.namesFound_iff (hresolutions : Resolutions dimensions resolutions)
    {select : List SelectItem}
    (hselect : ∀ item ∈ select, Scoped ((centralTable, central) :: resolutions)
      (allSources (.common centralTable) (resolutionJoins dimensions)) item.fragment) :
    (Query.mk ((centralTable, central) :: resolutions) select (.common centralTable)
        (resolutionJoins dimensions) []).NamesFound ↔
      ∀ dimension ∈ dimensions,
        (dataSeriesDimensionToSelectInfo dimension).selectAlias ∈ central.outputs := by
  have hcommon : ∀ source ∈ allSources (.common centralTable) (resolutionJoins dimensions),
      ∃ label, source = .common label := by
    intro source hmem
    rcases common_of_mem_allSources hmem with rfl | ⟨dimension, -, rfl⟩
    · exact ⟨_, rfl⟩
    · exact ⟨_, rfl⟩
  constructor
  · rintro ⟨-, conditions, -⟩ dimension hdimension
    have hcondition := conditions.condition (List.mem_map_of_mem hdimension)
    exact (hresolutions.readable_central_iff List.mem_cons_self hcommon).mp
      (scoped_column.mp hcondition).1
  · intro halias
    refine ⟨?_, ?_, hselect, scoped_nil⟩
    · intro source hmem
      rcases common_of_mem_allSources hmem with rfl | ⟨dimension, hdimension, rfl⟩
      · exact ⟨central, List.mem_cons_self⟩
      · obtain ⟨query, hquery, -⟩ := hresolutions.exists_query (List.mem_map_of_mem hdimension)
        exact ⟨query, List.mem_cons_of_mem _ hquery⟩
    · apply joinsScoped_of_forall
      intro join hmem earlier hsubset
      obtain ⟨dimension, hdimension, rfl⟩ := List.mem_map.mp hmem
      have hsource : .common centralTable ∈
          earlier ++ [Source.common (resolveTable dimension.id)] :=
        List.mem_append_left _ (hsubset (List.mem_singleton_self _))
      have hown : .common (resolveTable dimension.id) ∈
          earlier ++ [Source.common (resolveTable dimension.id)] :=
        List.mem_append_right earlier (List.mem_singleton_self _)
      rw [scoped_column, scoped_text, scoped_column]
      refine ⟨?_, ?_, scoped_nil⟩
      · exact readable_common hsource List.mem_cons_self (halias dimension hdimension)
      · exact hresolutions.readable (List.mem_map_of_mem hdimension) hown (Or.inl rfl)

/-- Dimensions are resolved in scope when the central query is and selects every
dimension. -/
theorem Resolutions.wellScoped_iff (hresolutions : Resolutions dimensions resolutions)
    {select : List SelectItem}
    (hselect : ∀ item ∈ select, Scoped ((centralTable, central) :: resolutions)
      (allSources (.common centralTable) (resolutionJoins dimensions)) item.fragment) :
    WellScoped (.mk ((centralTable, central) :: resolutions) select (.common centralTable)
        (resolutionJoins dimensions) []) ↔
      WellScoped central ∧ ∀ dimension ∈ dimensions,
        (dataSeriesDimensionToSelectInfo dimension).selectAlias ∈ central.outputs := by
  rw [wellScoped_mk, hresolutions.namesFound_iff hselect, List.forall_mem_cons]
  apply and_congr_left'
  exact and_iff_left hresolutions.wellScoped

end Resolution

section Payload

variable {info : DataSeriesQueryInfo} {includeInPayload : Option (List ExternalId)}
  {selectInfo : SelectInfo}

theorem mem_selectInfos (hmem : selectInfo ∈ selectInfos info) :
    (∃ dimension ∈ info.dimensions, selectInfo = dataSeriesDimensionToSelectInfo dimension) ∨
      ∃ type fact, selectInfo = factToSelectInfo type fact := by
  rw [selectInfos, List.mem_mergeSort, unsortedSelectInfos, List.mem_append] at hmem
  rcases hmem with hdimension | hfact
  · obtain ⟨dimension, hmem, rfl⟩ := List.mem_map.mp hdimension
    exact Or.inl ⟨dimension, hmem, rfl⟩
  · obtain ⟨type, -, hmem⟩ := List.mem_flatMap.mp hfact
    obtain ⟨fact, -, rfl⟩ := List.mem_map.mp hmem
    exact Or.inr ⟨type, fact, rfl⟩

theorem dimension_mem_selectInfos {dimension : DataSeriesDimensionQueryInfo}
    (hdimension : dimension ∈ info.dimensions) :
    dataSeriesDimensionToSelectInfo dimension ∈ selectInfos info := by
  rw [selectInfos, List.mem_mergeSort, unsortedSelectInfos]
  exact List.mem_append_left _ (List.mem_map_of_mem hdimension)

theorem mem_payloadSelectInfos : selectInfo ∈ payloadSelectInfos info includeInPayload ↔
    selectInfo ∈ selectInfos info ∧
      ∀ included ∈ includeInPayload, selectInfo.unescapedDisplayId ∈ included := by
  cases includeInPayload <;> simp [payloadSelectInfos]

theorem selectAlias_mem_centralOutputs {allSelectInfos : List SelectInfo}
    (hmem : selectInfo ∈ allSelectInfos) (includeVersions includePaginationData : Bool) :
    selectInfo.selectAlias ∈
      centralOutputs info allSelectInfos includeVersions includePaginationData := by
  simp only [centralOutputs, List.mem_append]
  exact Or.inl (Or.inl (Or.inl (Or.inl (Or.inl (Or.inr (List.mem_map_of_mem hmem))))))

theorem escape_mem_centralOutputs {allSelectInfos : List SelectInfo} {name : String}
    {includeVersions includePaginationData : Bool} :
    escape name ∈ centralOutputs info allSelectInfos includeVersions includePaginationData ↔
      ∃ selectInfo ∈ allSelectInfos, selectInfo.selectAlias = escape name := by
  constructor
  · intro hmem
    simp only [centralOutputs, List.mem_append, List.mem_cons, List.not_mem_nil, or_false] at hmem
    rcases hmem with ((((((h | h) | h) | h) | h) | h) | h) | h
    · exact absurd h (escape_ne (by decide))
    · exact absurd h (escape_ne (by decide))
    · exact List.mem_map.mp h
    · split at h
      · exact absurd (List.mem_singleton.mp h) (escape_ne (by decide))
      · cases h
    · exact absurd h (escape_ne (by decide))
    · split at h
      · exact absurd (List.mem_singleton.mp h) (escape_ne (by decide))
      · cases h
    · obtain ⟨field, -, heq⟩ := List.mem_map.mp h
      exact absurd heq.symm (escape_ne (by cases field <;> decide))
    · exact absurd h (escape_ne (by decide))
  · rintro ⟨selectInfo, hmem, halias⟩
    rw [← halias]
    exact selectAlias_mem_centralOutputs hmem includeVersions includePaginationData

/-- A dimension is selected when the payload includes it. -/
theorem dimension_mem_centralOutputs {dimension : DataSeriesDimensionQueryInfo}
    (hdimension : dimension ∈ info.dimensions) {includeVersions includePaginationData : Bool} :
    (dataSeriesDimensionToSelectInfo dimension).selectAlias ∈
        centralOutputs info (payloadSelectInfos info includeInPayload) includeVersions
          includePaginationData ↔
      ∀ included ∈ includeInPayload, dimension.unescapedDisplayId ∈ included := by
  refine escape_mem_centralOutputs.trans ?_
  constructor
  · rintro ⟨selectInfo, hmem, halias⟩
    obtain ⟨hselectInfo, hincluded⟩ := mem_payloadSelectInfos.mp hmem
    rcases mem_selectInfos hselectInfo with ⟨other, -, rfl⟩ | ⟨type, fact, rfl⟩
    · have hid := escape_inj halias
      rw [String.append_right_inj] at hid
      rw [← hid]
      exact hincluded
    · exact absurd (escape_inj halias).symm (dim_ne_fact type _ _)
  · intro hincluded
    exact ⟨dataSeriesDimensionToSelectInfo dimension,
      mem_payloadSelectInfos.mpr ⟨dimension_mem_selectInfos hdimension, hincluded⟩, rfl⟩

end Payload

section ReadRequests

variable {N D : Type} {partitionTable : String → Uuid → String} {info : DataSeriesQueryInfo}
  {includeInPayload : Option (List ExternalId)}
  {payloadAsJson pointInTime changesSince includeVersions : Bool} {filterStr : Fragment}
  {query : Query}

theorem currentTables (hsupported : info.backend.Supported) (pointInTime : Bool) :
    canUseMaterializedTable info pointInTime = true ∨
      info.backend = .dynamicSqlMaterializedFlatHistory := by
  rcases hsupported with hbackend | hbackend
  · left
    simp [canUseMaterializedTable, hbackend]
  · exact Or.inr hbackend

theorem history_iff (hsupported : info.backend.Supported) (pointInTime : Bool) :
    canUseMaterializedTable info pointInTime = false ↔
      info.backend = .dynamicSqlMaterializedFlatHistory ∧ pointInTime = true := by
  rcases hsupported with hbackend | hbackend <;> simp [canUseMaterializedTable, hbackend]

/-- The query around the central one selects from what it defines. -/
theorem scoped_resolvedSelect {central : Query} {resolutions : List (String × Query)}
    {allSelectInfos : List SelectInfo} (hresolutions : Resolutions info.dimensions resolutions)
    (houtputs : central.outputs =
      centralOutputs info allSelectInfos includeVersions payloadAsJson) :
    ∀ item ∈ [.column centralTable "id", .column centralTable "data_series_id"] ++
        renderSelects allSelectInfos payloadAsJson
          (info.dimensions.map fun dimension => dimension.id) ++
        renderVersionSelect includeVersions ++ [renderCurrentVersionSelect payloadAsJson] ++
        renderCentralPaginationDataSelect payloadAsJson ++
        renderMainExtraFieldsColumns centralTable info.mainExtraFields ++
        [.column centralTable "external_id"],
      Scoped ((centralTable, central) :: resolutions)
        (allSources (.common centralTable) (resolutionJoins info.dimensions)) item.fragment := by
  have hread : ∀ column ∈ centralOutputs info allSelectInfos includeVersions payloadAsJson,
      Readable ((centralTable, central) :: resolutions)
        (allSources (.common centralTable) (resolutionJoins info.dimensions)) centralTable
        column := by
    intro column hcolumn
    rw [← houtputs] at hcolumn
    exact readable_common List.mem_cons_self List.mem_cons_self hcolumn
  have hcolumn : ∀ column ∈ centralOutputs info allSelectInfos includeVersions payloadAsJson,
      Scoped ((centralTable, central) :: resolutions)
        (allSources (.common centralTable) (resolutionJoins info.dimensions))
        [.column centralTable column] := by
    intro column hmem
    exact scoped_column.mpr ⟨hread column hmem, scoped_nil⟩
  intro item hmem
  simp only [List.mem_append, List.mem_cons, List.not_mem_nil, or_false] at hmem
  rcases hmem with ((((((rfl | rfl) | hpayload) | hversion) | rfl) | hpagination) | hextra) | rfl
  · exact hcolumn "id" (by simp [centralOutputs])
  · exact hcolumn "data_series_id" (by simp [centralOutputs])
  · refine scoped_payloadItems ?_ item hpayload
    intro selectInfo hselectInfo
    split
    · next hdimension =>
        rw [scoped_column]
        refine ⟨hresolutions.readable hdimension ?_ (Or.inr rfl), scoped_nil⟩
        obtain ⟨dimension, hmem, heq⟩ := List.mem_map.mp hdimension
        rw [← heq, allSources, resolutionJoins, List.map_map]
        exact List.mem_cons_of_mem _ (List.mem_map_of_mem hmem)
    · exact hcolumn _ (selectAlias_mem_centralOutputs hselectInfo _ _)
  · cases includeVersions with
    | false => cases hversion
    | true =>
        cases List.mem_singleton.mp hversion
        exact hcolumn "versions" (by simp [centralOutputs])
  · have htime := hread "point_in_time" (by simp [centralOutputs])
    cases payloadAsJson <;>
      simp [renderCurrentVersionSelect, SelectItem.fragment, htime]
  · cases payloadAsJson with
    | false => cases hpagination
    | true =>
        cases List.mem_singleton.mp hpagination
        exact hcolumn "pagination_data" (by simp [centralOutputs])
  · refine scoped_renderMainExtraFieldsColumns ?_ item hextra
    intro field hfield
    apply hread
    simp only [centralOutputs, List.mem_append]
    exact Or.inl (Or.inr (List.mem_map_of_mem hfield))
  · exact hcolumn "external_id" (by simp [centralOutputs])

/-- A list query is in scope when its filter is, and every dimension that it
resolves is in its payload. -/
theorem dataSeriesAsSqlTable_spec {resolve : Bool} (hsupported : info.backend.Supported)
    (hok : dataSeriesAsSqlTable (N := N) partitionTable includeInPayload payloadAsJson pointInTime
      changesSince includeVersions filterStr resolve info none = .ok query)
    (hfilter : FilterTables filterStr) :
    WellScoped query ↔ ReadsMain filterStr ∧
      (resolve = true → ∀ dimension ∈ info.dimensions, ∀ included ∈ includeInPayload,
        dimension.unescapedDisplayId ∈ included) := by
  have htables := currentTables hsupported pointInTime
  simp only [dataSeriesAsSqlTable, Option.getD_none, bind, Except.bind] at hok
  split at hok
  · cases hok
  · next central hcentral =>
      obtain ⟨hscoped, houtputs⟩ :=
        singleDataSeriesAsSqlTable_spec hsupported htables hcentral hfilter
      split at hok
      · next hplain =>
          cases hok
          have hnothing : resolve = true → info.dimensions = [] := by
            rintro rfl
            simpa using hplain
          rw [hscoped]
          refine (and_iff_left ?_).symm
          intro hresolve dimension hdimension
          rw [hnothing hresolve] at hdimension
          cases hdimension
      · next hresolve =>
          split at hok
          · cases hok
          · next resolutions hresolutions =>
              cases hok
              have hresolving : resolve = true := by
                cases resolve with
                | true => rfl
                | false => simp at hresolve
              have hcolumns := houtputs (by simpa using fun _ => hresolve)
              have hresolved := dimensionResolutions_spec hresolutions
              rw [hresolved.wellScoped_iff (scoped_resolvedSelect hresolved hcolumns), hscoped,
                hcolumns]
              apply and_congr_right'
              constructor
              · intro halias _ dimension hdimension
                exact (dimension_mem_centralOutputs hdimension).mp (halias dimension hdimension)
              · intro hincluded dimension hdimension
                exact (dimension_mem_centralOutputs hdimension).mpr
                  (hincluded hresolving dimension hdimension)

theorem count_renderWherePart_tables {useMaterialized : Bool}
    (htables : useMaterialized = true ∨ info.backend = .dynamicSqlMaterializedFlatHistory)
    {wherePart : Fragment}
    (hok : CountQuery.renderWherePart (N := N) info useMaterialized pointInTime changesSince =
      .ok wherePart) :
    ∀ read ∈ tables wherePart, read = "ds_dp" ∨ useMaterialized = false ∧ read = "ds_dp2" := by
  cases useMaterialized with
  | true =>
      rw [CountQuery.renderWherePart, if_pos rfl, CountQuery.renderWherePartMaterialized] at hok
      split at hok
      · cases hok
      · cases hok
        simp
  | false =>
      have hbackend : info.backend = .dynamicSqlMaterializedFlatHistory :=
        htables.resolve_left Bool.false_ne_true
      rw [CountQuery.renderWherePart, if_neg Bool.false_ne_true, if_pos hbackend] at hok
      cases hok
      intro read hmem
      exact (renderWherePartFlatHistory_tables hmem).imp_right fun heq => ⟨rfl, heq⟩

/-- A count is in scope when its filter is. -/
theorem dataSeriesDataPointCount_spec (hsupported : info.backend.Supported)
    (hok : CountQuery.dataSeriesDataPointCount (N := N) partitionTable info pointInTime
      changesSince filterStr = .ok query)
    (hfilter : FilterTables filterStr) : WellScoped query ↔ ReadsMain filterStr := by
  have htables := currentTables hsupported pointInTime
  simp only [CountQuery.dataSeriesDataPointCount, bind, Except.bind] at hok
  split at hok
  · cases hok
  · next wherePart hwhere =>
      cases hok
      refine wellScoped_plain_iff filterStr
        (renderBaseSources_spec partitionTable pointInTime changesSince htables) ?_
        (count_renderWherePart_tables htables hwhere) hfilter
      simp [ReadsMain, SelectItem.fragment]

variable {parseDatetime : Json N → Option D}

/-- Of a data series only the children are recorded. -/
theorem used_foldl_recordOf (comparisons : List (Comparison N)) (state : FilterState N D) :
    ∃ children, (comparisons.foldl (recordOf info parseDatetime) state).usedDataSeriesChildren =
      { state.usedDataSeriesChildren with children := children } := by
  induction comparisons generalizing state with
  | nil => exact ⟨state.usedDataSeriesChildren.children, rfl⟩
  | cons comparison rest ih =>
      obtain ⟨children, hrest⟩ := ih (recordOf info parseDatetime state comparison)
      refine ⟨children, ?_⟩
      rw [List.foldl_cons, hrest]
      rcases recordOf_cases info parseDatetime state comparison with
        ⟨-, hrecord⟩ | ⟨type, queryInfo, -, -, hrecord⟩
      · rw [hrecord]
      · rw [hrecord]
        rfl

theorem AcceptedFilter.used_eq {useMaterialized : Bool} {externalIds : List ExternalId}
    {filter : Json N} {text : FilterText} {part : UserDefinedFilter N D}
    (haccepted : AcceptedFilter useMaterialized info parseDatetime externalIds filter text part) :
    ∃ children, part.usedDataSeriesChildren =
      { info with mainAliveFilter := .deletedAtIsNull, children := children } := by
  rw [haccepted.used]
  exact used_foldl_recordOf (filterComparisons filter) (.initial info)

theorem AcceptedFilter.used_backend {useMaterialized : Bool} {externalIds : List ExternalId}
    {filter : Json N} {text : FilterText} {part : UserDefinedFilter N D}
    (haccepted : AcceptedFilter useMaterialized info parseDatetime externalIds filter text part) :
    part.usedDataSeriesChildren.backend = info.backend := by
  obtain ⟨children, hused⟩ := haccepted.used_eq
  rw [hused]

variable {request : ReadRequest N}

/-- The filter compares nothing in the history. -/
def HistoryUnfiltered (info : DataSeriesQueryInfo) (request : ReadRequest N) : Prop :=
  info.backend = .dynamicSqlMaterializedFlatHistory → request.pointInTime = true →
    filterComparisons request.filterValue = []

/-- The payload includes every dimension that is resolved. -/
def ResolvedIncluded (info : DataSeriesQueryInfo) (request : ReadRequest N) : Prop :=
  request.externalIdAsDimensionIdentifier = true → ∀ dimension ∈ info.dimensions,
    ∀ included ∈ request.includeInPayload, dimension.unescapedDisplayId ∈ included

theorem readsMain_filter_iff (hsupported : info.backend.Supported)
    {externalIds : List ExternalId} {text : FilterText} {part : UserDefinedFilter N D}
    (haccepted : AcceptedFilter (canUseMaterializedTable info request.pointInTime) info
      parseDatetime externalIds request.filterValue text part) :
    ReadsMain (filterFragment part.filterQueryStr) ↔ HistoryUnfiltered info request := by
  rw [haccepted.reads_main_iff, history_iff hsupported, HistoryUnfiltered, and_imp]

theorem rawDisplayDataPointQuery_spec (hsupported : info.backend.Supported)
    (hdistinct : info.ComparableDistinct) {dataPointId : Option Uuid}
    {startObject : Option (Option (Json N))} {reverse : Bool} {limit : Option Nat}
    (hok : rawDisplayDataPointQuery partitionTable parseDatetime info request dataPointId
      startObject reverse limit = .ok query) :
    WellScoped query ↔ HistoryUnfiltered info request ∧ ResolvedIncluded info request := by
  obtain ⟨part, before, after, hbefore, hafter, hpart, hquery⟩ :=
    rawDisplayDataPointQuery_eq_ok hok
  obtain ⟨text, haccepted⟩ := precomputeFilterPart_eq_ok hdistinct hpart
  have hfilter : FilterTables (before ++ filterFragment part.filterQueryStr ++ after) := by
    intro read hmem
    rw [tables_append, tables_append, List.mem_append, List.mem_append] at hmem
    rcases hmem with (hmem | hmem) | hmem
    · exact Or.inl (hbefore read hmem)
    · exact haccepted.filterTables read hmem
    · exact Or.inl (hafter read hmem)
  rw [dataSeriesAsSqlTable_spec hsupported hquery hfilter, readsMain_append, readsMain_append,
    and_iff_left hafter, and_iff_right hbefore, readsMain_filter_iff hsupported haccepted]
  rfl

theorem dataPointCount_spec (hsupported : info.backend.Supported)
    (hdistinct : info.ComparableDistinct)
    (hok : dataPointCount partitionTable parseDatetime info request = .ok query) :
    WellScoped query ↔ HistoryUnfiltered info request := by
  simp only [dataPointCount, bind, Except.bind] at hok
  split at hok
  · cases hok
  · next part hpart =>
      obtain ⟨text, haccepted⟩ :=
        precomputeFilterPart_eq_ok hdistinct (filterError_eq_ok.mp hpart)
      have husedSupported : part.usedDataSeriesChildren.backend.Supported := by
        rw [haccepted.used_backend]
        exact hsupported
      rw [dataSeriesDataPointCount_spec husedSupported hok haccepted.filterTables,
        readsMain_filter_iff hsupported haccepted]

end ReadRequests

section Rendering

variable {N D : Type} (partitionTable : String → Uuid → String) {info : DataSeriesQueryInfo}
  {useMaterialized pointInTime includeVersions : Bool} (changesSince : Bool)

theorem exists_versions
    (hversions : includeVersions = true → info.backend = .dynamicSqlMaterializedFlatHistory)
    (versionDsDp : String) (selectInfos : List SelectInfo) :
    (∃ withs, versionsRenderWithParts (N := N) partitionTable includeVersions versionDsDp info
      selectInfos = .ok withs) ∧
    ∃ joins, versionsRenderWithJoinParts (N := N) includeVersions versionDsDp info selectInfos =
      .ok joins := by
  cases includeVersions with
  | false => exact ⟨⟨_, rfl⟩, ⟨_, rfl⟩⟩
  | true =>
      have hbackend := hversions rfl
      have hother : info.backend ≠ .dynamicSqlNoHistory := by
        rw [hbackend]
        decide
      constructor
      · rw [versionsRenderWithParts, if_neg (by decide), if_neg hother, if_pos hbackend]
        exact ⟨_, rfl⟩
      · rw [versionsRenderWithJoinParts, if_neg (by decide), if_neg hother]
        exact ⟨_, rfl⟩

theorem exists_wherePart (info : DataSeriesQueryInfo)
    (hcurrent : useMaterialized = true → pointInTime = false) :
    (∃ wherePart, renderWherePart (N := N) info useMaterialized pointInTime changesSince =
      .ok wherePart) ∧
    ∃ wherePart, CountQuery.renderWherePart (N := N) info useMaterialized pointInTime
      changesSince = .ok wherePart := by
  cases useMaterialized with
  | true =>
      rw [hcurrent rfl]
      exact ⟨⟨_, rfl⟩, ⟨_, rfl⟩⟩
  | false =>
      rw [renderWherePart, CountQuery.renderWherePart, if_neg Bool.false_ne_true,
        if_neg Bool.false_ne_true]
      split <;> exact ⟨⟨_, rfl⟩, ⟨_, rfl⟩⟩

theorem exists_dimensionResolutions (hcurrent : useMaterialized = true → pointInTime = false)
    (dimensions : List DataSeriesDimensionQueryInfo) :
    ∃ resolutions, dimensionResolutions (N := N) partitionTable useMaterialized pointInTime
      dimensions = .ok resolutions := by
  have hquery : ∀ reference, ∃ query, dimensionResolution (N := N) partitionTable useMaterialized
      pointInTime reference = .ok query := by
    intro reference
    cases useMaterialized with
    | true =>
        rw [hcurrent rfl]
        exact ⟨_, rfl⟩
    | false =>
        simp only [dimensionResolution, if_neg Bool.false_ne_true]
        split
        · exact ⟨_, rfl⟩
        · split <;> exact ⟨_, rfl⟩
  induction dimensions with
  | nil => exact ⟨[], rfl⟩
  | cons dimension rest ih =>
      obtain ⟨query, hresolution⟩ := hquery dimension.reference
      obtain ⟨resolutions, hrest⟩ := ih
      refine ⟨(resolveTable dimension.id, query) :: resolutions, ?_⟩
      rw [dimensionResolutions] at hrest ⊢
      rw [List.mapM_cons, hresolution, hrest]
      rfl

theorem exists_dataSeriesAsSqlTable
    (hcurrent : canUseMaterializedTable info pointInTime = true → pointInTime = false)
    (hversions : includeVersions = true → info.backend = .dynamicSqlMaterializedFlatHistory)
    (includeInPayload : Option (List ExternalId)) (payloadAsJson resolve : Bool)
    (filterStr : Fragment) :
    ∃ query, dataSeriesAsSqlTable (N := N) partitionTable includeInPayload payloadAsJson
      pointInTime changesSince includeVersions filterStr resolve info none = .ok query := by
  obtain ⟨⟨withs, hwiths⟩, joins, hjoins⟩ := exists_versions (N := N) partitionTable hversions
    (escape ("version_ds_dp_" ++ info.dataSeriesId)) (payloadSelectInfos info includeInPayload)
  obtain ⟨⟨wherePart, hwhere⟩, -⟩ := exists_wherePart (N := N) changesSince info hcurrent
  obtain ⟨resolutions, hresolutions⟩ := exists_dimensionResolutions (N := N) partitionTable
    hcurrent info.dimensions
  simp only [dataSeriesAsSqlTable, singleDataSeriesAsSqlTable, Option.getD_none, bind,
    Except.bind, hwiths, hjoins, hwhere, hresolutions, pure, Except.pure]
  split <;> exact ⟨_, rfl⟩

theorem pointInTime_eq_false (hsupported : info.backend.Supported)
    (hhistory : pointInTime = true → info.backend = .dynamicSqlMaterializedFlatHistory)
    (hcurrent : canUseMaterializedTable info pointInTime = true) : pointInTime = false := by
  by_contra hpoint
  rw [Bool.not_eq_false] at hpoint
  have hfalse := (history_iff hsupported pointInTime).mpr ⟨hhistory hpoint, hpoint⟩
  rw [hfalse] at hcurrent
  cases hcurrent

/-- Whenever the filter and the page start are accepted, and versions and points in
time are asked of the history only, both queries are rendered. -/
theorem readQueries_rendered {parseDatetime : Json N → Option D} {request : ReadRequest N}
    (dataPointId : Option Uuid) {startObject : Option (Option (Json N))} {reverse : Bool}
    (limit : Option Nat) {part : UserDefinedFilter N D} {pageStart : Fragment}
    (hsupported : info.backend.Supported) (hdistinct : info.ComparableDistinct)
    (hpointInTime : request.pointInTime = true →
      info.backend = .dynamicSqlMaterializedFlatHistory)
    (hversions : request.shouldIncludeVersions = true →
      info.backend = .dynamicSqlMaterializedFlatHistory)
    (hfilter : precomputeFilterPart request.externalIds request.filterValue info
      (canUseMaterializedTable info request.pointInTime) parseDatetime = .ok part)
    (hpageStart : pageStartCondition (canUseMaterializedTable info request.pointInTime) reverse
      startObject = .ok pageStart) :
    (∃ list, rawDisplayDataPointQuery partitionTable parseDatetime info request dataPointId
      startObject reverse limit = .ok list) ∧
    ∃ count, dataPointCount partitionTable parseDatetime info request = .ok count := by
  constructor
  · simp only [rawDisplayDataPointQuery, hpageStart, filterError_eq_ok.mpr hfilter, bind,
      Except.bind]
    exact exists_dataSeriesAsSqlTable partitionTable request.changesSince
      (pointInTime_eq_false hsupported hpointInTime) hversions _ _ _ _
  · obtain ⟨text, haccepted⟩ := precomputeFilterPart_eq_ok hdistinct hfilter
    have hused := haccepted.used_backend
    rw [← hused] at hsupported hpointInTime
    obtain ⟨-, wherePart, hwhere⟩ := exists_wherePart (N := N) request.changesSince
      part.usedDataSeriesChildren (pointInTime_eq_false hsupported hpointInTime)
    simp only [dataPointCount, CountQuery.dataSeriesDataPointCount, filterError_eq_ok.mpr hfilter,
      hwhere, bind, Except.bind]
    exact ⟨_, rfl⟩

end Rendering

/-- The list query and the count of a request read from what they introduce
exactly when the request does not filter the history, and leaves no dimension
that it resolves out of the payload. -/
theorem readQueries_wellScoped_iff {N D : Type} (partitionTable : String → Uuid → String)
    (parseDatetime : Json N → Option D) (info : DataSeriesQueryInfo) (request : ReadRequest N)
    (dataPointId : Option Uuid) (startObject : Option (Option (Json N))) (reverse : Bool)
    (limit : Option Nat) {list count : Query} (hsupported : info.backend.Supported)
    (hdistinct : info.ComparableDistinct)
    (hlist : rawDisplayDataPointQuery partitionTable parseDatetime info request dataPointId
      startObject reverse limit = .ok list)
    (hcount : dataPointCount partitionTable parseDatetime info request = .ok count) :
    WellScoped list ∧ WellScoped count ↔
      HistoryUnfiltered info request ∧ ResolvedIncluded info request := by
  rw [rawDisplayDataPointQuery_spec hsupported hdistinct hlist,
    dataPointCount_spec hsupported hdistinct hcount]
  constructor
  · rintro ⟨hboth, -⟩
    exact hboth
  · intro hboth
    exact ⟨hboth, hboth.1⟩

namespace QueryScopeWitness

def customer : DataSeriesDimensionQueryInfo where
  toDataSeriesFactQueryInfo := FilterWitness.field "customer"
  reference := ⟨"3", "tenant", "_mat_3", "_mfhist_3", .dynamicSqlMaterializedFlatHistory⟩

/-- Orders with a history, which refer to a customer. -/
def orders : DataSeriesQueryInfo where
  dataSeriesId := "0"
  schemaName := "tenant"
  mainQueryTableName := "_mat_0"
  materializedFlatHistoryTableName := "_mfhist_0"
  backend := .dynamicSqlMaterializedFlatHistory
  locked := false
  mainAliveFilter := .deletedAtIsNull
  mainExtraFields := []
  children := fun type =>
    match type with
    | .dimension => AList.singleton "customer" customer
    | _ => ∅

theorem orders_distinct : orders.ComparableDistinct := by
  have honly : ∀ type key, key ∈ orders.children type → type = .dimension := by
    intro type key hmem
    cases type with
    | dimension => rfl
    | fact type => exact absurd hmem (AList.notMem_empty key)
  intro type _ other _ key htype hother
  rw [honly type key htype, honly other key hother]

/-- A request for the orders at a point in time, with their customers resolved. -/
def request (filterValue : Json Int) (includeInPayload : List ExternalId) : ReadRequest Int where
  includeInPayload := some includeInPayload
  filterValue := filterValue
  externalIdAsDimensionIdentifier := true
  externalIds := some ["order1"]
  pointInTime := true
  changesSince := true
  shouldIncludeVersions := true

def listQuery (filterValue : Json Int) (includeInPayload : List ExternalId) :
    Except (ReadError Int) Query :=
  rawDisplayDataPointQuery (fun table id => table ++ id) (fun _ => (none : Option Int)) orders
    (request filterValue includeInPayload) none none false (some 10)

def countQuery (filterValue : Json Int) (includeInPayload : List ExternalId) :
    Except (ReadError Int) Query :=
  dataPointCount (fun table id => table ++ id) (fun _ => (none : Option Int)) orders
    (request filterValue includeInPayload)

/-- A filter for a customer. -/
def customerFilter : Json Int := .object [("customer", .string "customer1")]

/-- Neither a filter for a customer nor a payload without the customer is
rendered in scope. -/
theorem orders_not_wellScoped :
    (∃ list count, listQuery customerFilter ["customer"] = .ok list ∧
      countQuery customerFilter ["customer"] = .ok count ∧
      ¬ WellScoped list ∧ ¬ WellScoped count) ∧
    ∃ list, listQuery (.object []) ["amount"] = .ok list ∧ ¬ WellScoped list := by
  constructor
  · obtain ⟨list, hlist⟩ : ∃ list, listQuery customerFilter ["customer"] = .ok list := ⟨_, rfl⟩
    obtain ⟨count, hcount⟩ : ∃ count, countQuery customerFilter ["customer"] = .ok count :=
      ⟨_, rfl⟩
    refine ⟨list, count, hlist, hcount, ?_, ?_⟩
    · intro hscoped
      have hboth := (rawDisplayDataPointQuery_spec (Or.inr rfl) orders_distinct hlist).mp hscoped
      cases hboth.1 rfl rfl
    · intro hscoped
      have hunfiltered := (dataPointCount_spec (Or.inr rfl) orders_distinct hcount).mp hscoped
      cases hunfiltered rfl rfl
  · obtain ⟨list, hlist⟩ : ∃ list, listQuery (.object []) ["amount"] = .ok list := ⟨_, rfl⟩
    refine ⟨list, hlist, ?_⟩
    intro hscoped
    have hboth := (rawDisplayDataPointQuery_spec (Or.inr rfl) orders_distinct hlist).mp hscoped
    have hincluded := hboth.2 rfl customer List.mem_cons_self ["amount"] rfl
    exact absurd hincluded (by decide)

theorem orders_wellScoped :
    ∃ list count, listQuery (.object []) ["customer"] = .ok list ∧
      countQuery (.object []) ["customer"] = .ok count ∧ WellScoped list ∧ WellScoped count := by
  obtain ⟨list, hlist⟩ : ∃ list, listQuery (.object []) ["customer"] = .ok list := ⟨_, rfl⟩
  obtain ⟨count, hcount⟩ : ∃ count, countQuery (.object []) ["customer"] = .ok count := ⟨_, rfl⟩
  refine ⟨list, count, hlist, hcount, ?_⟩
  apply (readQueries_wellScoped_iff (fun table id => table ++ id) (fun _ => (none : Option Int))
    orders (request (.object []) ["customer"]) none none false (some 10) (Or.inr rfl)
    orders_distinct hlist hcount).mpr
  constructor
  · intro _ _
    rfl
  · rintro - dimension hdimension included hincluded
    cases hincluded
    cases List.mem_singleton.mp hdimension
    exact List.mem_cons_self

end QueryScopeWitness

end NFCompose
