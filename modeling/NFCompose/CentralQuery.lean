/-
The names in the central query.  It reads from the data points, from their later
versions in the history and from what it defines for the versions, so that only
its filter can be out of scope.
-/
import NFCompose.ReadQueries

namespace NFCompose

open SqlQueries

section Names

theorem escape_inj {first second : String} (heq : escape first = escape second) :
    first = second := by
  have hlist := congrArg String.toList heq
  apply String.toList_inj.mp
  simpa [escape] using hlist

/-- A name in quotes is no plain name. -/
theorem escape_ne {name plain : String} (hplain : plain.toList.head? ≠ some '"') :
    escape name ≠ plain := by
  rintro rfl
  exact hplain (by simp [escape])

theorem relation_ne_main (key : String) : escape ("relation_" ++ key) ≠ "ds_dp" :=
  escape_ne (by decide)

theorem relation_ne_older (key : String) : escape ("relation_" ++ key) ≠ "ds_dp2" :=
  escape_ne (by decide)

theorem relation_ne_version (key id : String) :
    escape ("relation_" ++ key) ≠ escape ("version_ds_dp_" ++ id) := by
  intro heq
  have hlist := congrArg String.toList (escape_inj heq)
  simp at hlist

theorem resolveTable_ne (id : Uuid) : resolveTable id ≠ centralTable := by
  intro heq
  have hlist := congrArg String.toList (escape_inj heq)
  simp at hlist

theorem dim_ne_fact (type : FactType) (first second : ExternalId) :
    "dim_" ++ first ≠ type.aliasPrefix ++ "_" ++ second := by
  intro heq
  have hlist := congrArg String.toList heq
  cases type <;> simp [FactType.aliasPrefix] at hlist

end Names

section Parts

variable {withs : List (String × Query)} {sources : List Source}

@[simp] theorem mem_tables_pointInTimePart {pointInTime : Bool} {table other : String} :
    other ∈ tables (pointInTimePart pointInTime table) ↔ pointInTime = true ∧ other = table := by
  cases pointInTime <;> simp [pointInTimePart]

@[simp] theorem mem_tables_changesSincePart {changesSince : Bool} {table other : String} :
    other ∈ tables (changesSincePart changesSince table) ↔
      changesSince = true ∧ other = table := by
  cases changesSince <;> simp [changesSincePart]

@[simp] theorem tables_olderThan (first second : String) :
    tables (olderThan first second) = [first, first, second, second] := rfl

/-- Versions are compared between the data points and their later versions. -/
theorem joinsScoped_later {table other : String} {condition : Fragment}
    (htables : ∀ read ∈ tables condition, read = "ds_dp" ∨ read = "ds_dp2") :
    JoinsScoped withs [.base table "ds_dp"] [⟨.base other "ds_dp2", condition⟩] := by
  refine ⟨scoped_of_tables ?_, trivial⟩
  intro read hmem column
  rcases htables read hmem with rfl | rfl
  · exact readable_base List.mem_cons_self column
  · exact readable_base (List.mem_cons_of_mem _ List.mem_cons_self) column

theorem mem_of_mem_chunks {A : Type} {size : Nat} {items chunk : List A} {item : A}
    (hchunk : chunk ∈ chunks size items) (hitem : item ∈ chunk) : item ∈ items := by
  obtain ⟨index, -, rfl⟩ := List.mem_map.mp hchunk
  exact List.mem_of_mem_drop (List.mem_of_mem_take hitem)

theorem scoped_jsonObjects {value : SelectInfo → Fragment} {selectInfos : List SelectInfo}
    (hvalue : ∀ selectInfo ∈ selectInfos, Scoped withs sources (value selectInfo)) :
    Scoped withs sources (jsonObjects value selectInfos) := by
  rw [jsonObjects, scoped_text, scoped_flatMap]
  intro chunk hchunk
  rw [scoped_append, scoped_text]
  refine ⟨scoped_intercalate (by simp) ?_, by simp⟩
  rw [List.forall_mem_map]
  intro selectInfo hmem
  rw [scoped_text]
  exact hvalue selectInfo (mem_of_mem_chunks hchunk hmem)

theorem scoped_payloadItems {value : SelectInfo → Fragment} {selectInfos : List SelectInfo}
    {payloadAsJson : Bool}
    (hvalue : ∀ selectInfo ∈ selectInfos, Scoped withs sources (value selectInfo)) :
    ∀ item ∈ payloadItems value selectInfos payloadAsJson,
      Scoped withs sources item.fragment := by
  cases payloadAsJson with
  | false =>
      intro item hmem
      obtain ⟨selectInfo, hselectInfo, rfl⟩ := List.mem_map.mp hmem
      exact hvalue selectInfo hselectInfo
  | true =>
      intro item hmem
      cases List.mem_singleton.mp hmem
      exact scoped_jsonObjects hvalue

end Parts

section BaseTables

variable {N : Type} {info : DataSeriesQueryInfo} {useMaterialized pointInTime changesSince : Bool}

/-- The tables of a central query: the data points, and their later versions when
these are looked up in the history. -/
structure BaseTables (useMaterialized : Bool) (source : Source) (joins : List Join) : Prop where
  main : ∃ table, source = .base table "ds_dp"
  later : useMaterialized = false → ∃ table, .base table "ds_dp2" ∈ joins.map Join.source
  defined : ∀ join ∈ joins, ∃ table, join.source = .base table "ds_dp2"
  conditions : ∀ withs, JoinsScoped withs [source] joins

theorem baseTables_current (table : String) : BaseTables true (.base table "ds_dp") [] := by
  refine ⟨⟨table, rfl⟩, ?_, ?_, fun _ => trivial⟩
  · intro hmaterialized
    cases hmaterialized
  · intro join hmem
    cases hmem

theorem baseTables_history {table other : String} {condition : Fragment}
    (htables : ∀ read ∈ tables condition, read = "ds_dp" ∨ read = "ds_dp2") :
    BaseTables false (.base table "ds_dp") [⟨.base other "ds_dp2", condition⟩] := by
  refine ⟨⟨table, rfl⟩, fun _ => ⟨other, List.mem_singleton_self _⟩, ?_, ?_⟩
  · intro join hmem
    cases List.mem_singleton.mp hmem
    exact ⟨other, rfl⟩
  · intro withs
    exact joinsScoped_later htables

theorem renderBaseSources_spec (partitionTable : String → Uuid → String)
    (pointInTime changesSince : Bool)
    (htables : useMaterialized = true ∨ info.backend = .dynamicSqlMaterializedFlatHistory) :
    BaseTables useMaterialized
      (renderBaseSources partitionTable info useMaterialized pointInTime changesSince).1
      (renderBaseSources partitionTable info useMaterialized pointInTime changesSince).2 := by
  cases useMaterialized with
  | true => exact baseTables_current _
  | false =>
      have hbackend : info.backend = .dynamicSqlMaterializedFlatHistory :=
        htables.resolve_left Bool.false_ne_true
      rw [renderBaseSources, if_neg Bool.false_ne_true, if_pos hbackend]
      apply baseTables_history
      intro read hmem
      simp only [tables_append, tables_column, tables_text, tables_olderThan, tables_nil,
        List.mem_append, List.mem_cons, List.not_mem_nil, mem_tables_pointInTimePart,
        mem_tables_changesSincePart] at hmem
      tauto

theorem renderWherePartFlatHistory_tables {read : String}
    (hmem : read ∈ tables (renderWherePartFlatHistory pointInTime changesSince)) :
    read = "ds_dp" ∨ read = "ds_dp2" := by
  simp only [renderWherePartFlatHistory, tables_append, tables_column, tables_text, tables_nil,
    List.mem_append, List.mem_cons, List.not_mem_nil, mem_tables_pointInTimePart,
    mem_tables_changesSincePart] at hmem
  tauto

/-- The conditions read the data points, and their later versions in the history. -/
theorem renderWherePart_tables
    (htables : useMaterialized = true ∨ info.backend = .dynamicSqlMaterializedFlatHistory)
    {wherePart : Fragment}
    (hok : renderWherePart (N := N) info useMaterialized pointInTime changesSince = .ok wherePart) :
    ∀ read ∈ tables wherePart, read = "ds_dp" ∨ useMaterialized = false ∧ read = "ds_dp2" := by
  cases useMaterialized with
  | true =>
      rw [renderWherePart, if_pos rfl, renderWherePartMaterialized] at hok
      split at hok
      · cases hok
      · cases hok
        intro read hmem
        cases hfilter : info.mainAliveFilter <;>
          simp [hfilter, AliveFilter.condition] at hmem <;> tauto
  | false =>
      have hbackend : info.backend = .dynamicSqlMaterializedFlatHistory :=
        htables.resolve_left Bool.false_ne_true
      rw [renderWherePart, if_neg Bool.false_ne_true, if_pos hbackend] at hok
      cases hok
      intro read hmem
      exact (renderWherePartFlatHistory_tables hmem).imp_right fun heq => ⟨rfl, heq⟩

end BaseTables

section VersionTables

variable {N : Type} {partitionTable : String → Uuid → String} {info : DataSeriesQueryInfo}
  {includeVersions : Bool} {versionDsDp : String} {selectInfos : List SelectInfo}
  {withs : List (String × Query)} {joins : List Join}

theorem wellScoped_versionsQuery (id output table condition : String) :
    WellScoped (versionsQuery id output table condition) := by
  apply WellScoped.mk
  · intro entry hmem
    cases hmem
  · intro read hmem
    cases List.mem_singleton.mp hmem
    trivial
  · trivial
  · intro item hmem
    simp only [List.mem_cons, List.not_mem_nil, or_false] at hmem
    rcases hmem with rfl | rfl <;> simp [SelectItem.fragment, versionsAggregate]
  · simp

/-- What a query gets for the versions: at most one table, which it defines. -/
structure VersionTables (versionDsDp : String) (withs : List (String × Query))
    (joins : List Join) (select : List SelectItem) : Prop where
  common : ∀ entry ∈ withs, WellScoped entry.2
  joined : ∀ join ∈ joins, join.source = .common versionDsDp
  defined : ∀ join ∈ joins, join.source.Defined withs
  conditions : ∀ sources, (∀ column, Readable withs sources "ds_dp" column) →
    JoinsScoped withs sources joins
  selected : ∀ sources, joins.map Join.source ⊆ sources →
    ∀ item ∈ select, Scoped withs sources item.fragment

theorem versionTables_nil (versionDsDp : String) : VersionTables versionDsDp [] [] [] := by
  refine ⟨?_, ?_, ?_, fun _ _ => trivial, ?_⟩
  · intro entry hmem
    cases hmem
  · intro join hmem
    cases hmem
  · intro join hmem
    cases hmem
  · intro sources _ item hmem
    cases hmem

theorem versions_spec (hsupported : info.backend.Supported)
    (hwiths : versionsRenderWithParts (N := N) partitionTable includeVersions versionDsDp info
      selectInfos = .ok withs)
    (hjoins : versionsRenderWithJoinParts (N := N) includeVersions versionDsDp info selectInfos =
      .ok joins) :
    VersionTables versionDsDp withs joins
      (versionsRenderSelect includeVersions versionDsDp info selectInfos) := by
  cases includeVersions with
  | false =>
      cases hwiths
      cases hjoins
      exact versionTables_nil versionDsDp
  | true =>
      rcases hsupported with hbackend | hbackend
      · rw [versionsRenderWithParts, if_neg (by decide), if_pos hbackend] at hwiths
        cases hwiths
      · have hother : info.backend ≠ .dynamicSqlNoHistory := by
          rw [hbackend]
          decide
        rw [versionsRenderWithParts, if_neg (by decide), if_neg hother, if_pos hbackend] at hwiths
        rw [versionsRenderWithJoinParts, if_neg (by decide), if_neg hother,
          if_neg (not_not.mpr hbackend)] at hjoins
        rw [versionsRenderSelect, if_neg (by decide), if_pos hbackend]
        cases hwiths
        cases hjoins
        refine ⟨?_, ?_, ?_, ?_, ?_⟩
        · intro entry hmem
          cases List.mem_singleton.mp hmem
          exact wellScoped_versionsQuery _ _ _ _
        · intro join hmem
          cases List.mem_singleton.mp hmem
          rfl
        · intro join hmem
          cases List.mem_singleton.mp hmem
          exact ⟨_, List.mem_singleton_self _⟩
        · intro sources hmain
          refine ⟨?_, trivial⟩
          have hjoined : .common versionDsDp ∈ sources ++ [Source.common versionDsDp] :=
            List.mem_append_right sources (List.mem_singleton_self _)
          have hid := readable_common hjoined (List.mem_singleton_self
            (versionDsDp, versionsQuery "id" "data_point_versions"
              (info.schemaName ++ "." ++ info.materializedFlatHistoryTableName) ""))
            (List.mem_cons_self (a := "id"))
          simp [hid, (hmain "id").mono (List.subset_append_left sources _)]
        · intro sources hsubset item hmem
          cases List.mem_singleton.mp hmem
          have hversions := readable_common (hsubset (List.mem_singleton_self _))
            (List.mem_singleton_self (versionDsDp, versionsQuery "id" "data_point_versions"
              (info.schemaName ++ "." ++ info.materializedFlatHistoryTableName) ""))
            (List.mem_cons_of_mem "id" (List.mem_cons_self (a := "data_point_versions")))
          simp [SelectItem.fragment, hversions]

end VersionTables

section CentralQuery

variable {N : Type} {partitionTable : String → Uuid → String} {info : DataSeriesQueryInfo}
  {useMaterialized pointInTime changesSince payloadAsJson includeVersions includePaginationData :
    Bool} {allSelectInfos : List SelectInfo} {filterStr : Fragment} {query : Query}
  {withs : List (String × Query)} {sources : List Source}

theorem scoped_renderPayloadSelects
    (htables : useMaterialized = true ∨ info.backend = .dynamicSqlMaterializedFlatHistory)
    (hmain : ∀ column, Readable withs sources "ds_dp" column) :
    ∀ item ∈ renderPayloadSelects info useMaterialized allSelectInfos payloadAsJson,
      Scoped withs sources item.fragment := by
  rw [renderPayloadSelects, if_pos htables]
  apply scoped_payloadItems
  intro selectInfo _
  rw [scoped_column]
  refine ⟨hmain _, ?_⟩
  rw [atTimeZoneUtc]
  split <;> simp

theorem scoped_renderPointInTime (hmain : ∀ column, Readable withs sources "ds_dp" column) :
    Scoped withs sources (renderPointInTime payloadAsJson).fragment := by
  cases payloadAsJson <;> simp [renderPointInTime, SelectItem.fragment, hmain]

theorem scoped_renderPaginationDataSelect
    (hmain : ∀ column, Readable withs sources "ds_dp" column) :
    ∀ item ∈ renderPaginationDataSelect useMaterialized includePaginationData,
      Scoped withs sources item.fragment := by
  cases includePaginationData <;> cases useMaterialized <;>
    simp [renderPaginationDataSelect, SelectItem.fragment, hmain]

theorem scoped_renderMainExtraFieldsColumns {table : String} {fields : List MainExtraField}
    (hfields : ∀ field ∈ fields, Readable withs sources table field.column) :
    ∀ item ∈ renderMainExtraFieldsColumns table fields, Scoped withs sources item.fragment := by
  rw [renderMainExtraFieldsColumns, List.forall_mem_map]
  intro field hmem
  simp [SelectItem.fragment, hfields field hmem]

/-- A text that reads the data points only. -/
def ReadsMain (fragment : Fragment) : Prop := ∀ read ∈ tables fragment, read = "ds_dp"

theorem readsMain_append {first second : Fragment} :
    ReadsMain (first ++ second) ↔ ReadsMain first ∧ ReadsMain second := by
  rw [ReadsMain, tables_append, List.forall_mem_append]
  rfl

/-- The tables of a filter: the data points, or the relation of a child. -/
def FilterTables (filterStr : Fragment) : Prop :=
  ∀ read ∈ tables filterStr, read = "ds_dp" ∨ ∃ key, read = escape ("relation_" ++ key)

/-- A filter is in scope when it reads the data points only. -/
theorem scoped_filter_iff {source : Source} {joins versionJoins : List Join} (id : Uuid)
    (hbase : BaseTables useMaterialized source joins)
    (hversions : ∀ join ∈ versionJoins, join.source = .common (escape ("version_ds_dp_" ++ id)))
    (hfilter : FilterTables filterStr) :
    Scoped withs (allSources source (joins ++ versionJoins)) filterStr ↔ ReadsMain filterStr := by
  obtain ⟨table, rfl⟩ := hbase.main
  constructor
  · intro hscoped read hmem
    rcases hfilter read hmem with hmain | ⟨key, rfl⟩
    · exact hmain
    · exfalso
      obtain ⟨source, hsource, hname⟩ := hscoped.exists_source hmem
      rw [allSources, List.map_append, List.mem_cons, List.mem_append] at hsource
      rcases hsource with rfl | hjoin | hjoin
      · exact relation_ne_main key hname.symm
      · obtain ⟨join, hmemJoin, rfl⟩ := List.mem_map.mp hjoin
        obtain ⟨other, hother⟩ := hbase.defined join hmemJoin
        rw [hother] at hname
        exact relation_ne_older key hname.symm
      · obtain ⟨join, hmemJoin, rfl⟩ := List.mem_map.mp hjoin
        rw [hversions join hmemJoin] at hname
        exact relation_ne_version key id hname.symm
  · intro hmain
    apply scoped_of_tables
    intro read hmem column
    rw [hmain read hmem]
    exact readable_base List.mem_cons_self column

theorem BaseTables.readable_main {source : Source} {joins : List Join}
    (hbase : BaseTables useMaterialized source joins) (versionJoins : List Join)
    (withs : List (String × Query)) (column : String) :
    Readable withs (allSources source (joins ++ versionJoins)) "ds_dp" column := by
  obtain ⟨table, rfl⟩ := hbase.main
  exact readable_base List.mem_cons_self column

theorem BaseTables.readable_later {source : Source} {joins versionJoins : List Join}
    (hbase : BaseTables useMaterialized source joins) (hhistory : useMaterialized = false)
    (withs : List (String × Query)) (column : String) :
    Readable withs (allSources source (joins ++ versionJoins)) "ds_dp2" column := by
  obtain ⟨table, hmem⟩ := hbase.later hhistory
  have hsource : .base table "ds_dp2" ∈ allSources source (joins ++ versionJoins) := by
    rw [allSources, List.map_append]
    exact List.mem_cons_of_mem _ (List.mem_append_left _ hmem)
  exact readable_base hsource column

/-- What decides whether a central query is in scope is its filter. -/
theorem wellScoped_central_iff (filterStr : Fragment) {source : Source}
    {joins versionJoins : List Join}
    {versionDsDp : String} {select versionSelect : List SelectItem} {wherePart : Fragment}
    (hbase : BaseTables useMaterialized source joins)
    (hversions : VersionTables versionDsDp withs versionJoins versionSelect)
    (hselect : ∀ item ∈ select,
      Scoped withs (allSources source (joins ++ versionJoins)) item.fragment)
    (hwhere : ∀ read ∈ tables wherePart,
      read = "ds_dp" ∨ useMaterialized = false ∧ read = "ds_dp2") :
    WellScoped (.mk withs select source (joins ++ versionJoins) (wherePart ++ filterStr)) ↔
      Scoped withs (allSources source (joins ++ versionJoins)) filterStr := by
  constructor
  · intro hscoped
    cases hscoped with
    | mk _ _ _ _ trailing => exact (scoped_append.mp trailing).2
  · intro hscoped
    refine .mk hversions.common ?_ ?_ hselect (scoped_append.mpr ⟨?_, hscoped⟩)
    · obtain ⟨table, rfl⟩ := hbase.main
      intro read hmem
      rw [allSources, List.map_append, List.mem_cons, List.mem_append] at hmem
      rcases hmem with rfl | hjoin | hjoin
      · trivial
      · obtain ⟨join, hmemJoin, rfl⟩ := List.mem_map.mp hjoin
        obtain ⟨other, hother⟩ := hbase.defined join hmemJoin
        rw [hother]
        trivial
      · obtain ⟨join, hmemJoin, rfl⟩ := List.mem_map.mp hjoin
        exact hversions.defined join hmemJoin
    · rw [joinsScoped_append]
      refine ⟨hbase.conditions withs, hversions.conditions _ ?_⟩
      obtain ⟨table, rfl⟩ := hbase.main
      exact readable_base List.mem_cons_self
    · apply scoped_of_tables
      intro read hmem column
      rcases hwhere read hmem with rfl | ⟨hhistory, rfl⟩
      · exact hbase.readable_main versionJoins withs column
      · exact hbase.readable_later hhistory withs column

/-- The columns that a central query selects. -/
def centralOutputs (info : DataSeriesQueryInfo) (allSelectInfos : List SelectInfo)
    (includeVersions includePaginationData : Bool) : List String :=
  ["id", "data_series_id"] ++ allSelectInfos.map SelectInfo.selectAlias ++
    (if includeVersions then ["versions"] else []) ++ ["point_in_time"] ++
    (if includePaginationData then ["pagination_data"] else []) ++
    info.mainExtraFields.map MainExtraField.column ++ ["external_id"]

theorem outputs_renderPayloadSelects :
    (renderPayloadSelects info useMaterialized allSelectInfos false).map SelectItem.output =
      allSelectInfos.map SelectInfo.selectAlias := by
  rw [renderPayloadSelects]
  split
  · exact List.map_map
  · exact List.map_map

theorem outputs_versionsRenderSelect (versionDsDp : String) :
    (versionsRenderSelect includeVersions versionDsDp info allSelectInfos).map SelectItem.output =
      if includeVersions then ["versions"] else [] := by
  cases includeVersions with
  | false => rfl
  | true =>
      rw [versionsRenderSelect, if_neg (by decide), if_pos rfl]
      split <;> rfl

theorem outputs_renderPaginationDataSelect :
    (renderPaginationDataSelect useMaterialized includePaginationData).map SelectItem.output =
      if includePaginationData then ["pagination_data"] else [] := by
  cases includePaginationData <;> cases useMaterialized <;> rfl

theorem outputs_renderMainExtraFieldsColumns (table : String) (fields : List MainExtraField) :
    (renderMainExtraFieldsColumns table fields).map SelectItem.output =
      fields.map MainExtraField.column :=
  List.map_map

/-- What a central query selects. -/
def dataSeriesItems (info : DataSeriesQueryInfo) (useMaterialized : Bool)
    (allSelectInfos : List SelectInfo)
    (payloadAsJson includeVersions includePaginationData : Bool) : List SelectItem :=
  [.column "ds_dp" "id", .named [.text ("('" ++ info.dataSeriesId ++ "')")] "data_series_id"] ++
    renderPayloadSelects info useMaterialized allSelectInfos payloadAsJson ++
    versionsRenderSelect includeVersions (escape ("version_ds_dp_" ++ info.dataSeriesId)) info
      allSelectInfos ++
    [renderPointInTime payloadAsJson] ++
    renderPaginationDataSelect useMaterialized includePaginationData ++
    renderMainExtraFieldsColumns "ds_dp" info.mainExtraFields ++ [.column "ds_dp" "external_id"]

/-- The parts of a central query. -/
theorem singleDataSeriesAsSqlTable_eq_ok
    (hok : singleDataSeriesAsSqlTable (N := N) partitionTable info useMaterialized pointInTime
      changesSince allSelectInfos payloadAsJson includeVersions includePaginationData filterStr =
        .ok query) :
    ∃ withs versionJoins wherePart,
      versionsRenderWithParts (N := N) partitionTable includeVersions
          (escape ("version_ds_dp_" ++ info.dataSeriesId)) info allSelectInfos = .ok withs ∧
        versionsRenderWithJoinParts (N := N) includeVersions
          (escape ("version_ds_dp_" ++ info.dataSeriesId)) info allSelectInfos =
            .ok versionJoins ∧
        renderWherePart (N := N) info useMaterialized pointInTime changesSince = .ok wherePart ∧
        query = .mk withs
          (dataSeriesItems info useMaterialized allSelectInfos payloadAsJson includeVersions
            includePaginationData)
          (renderBaseSources partitionTable info useMaterialized pointInTime changesSince).1
          ((renderBaseSources partitionTable info useMaterialized pointInTime changesSince).2 ++
            versionJoins) (wherePart ++ filterStr) := by
  simp only [singleDataSeriesAsSqlTable, bind, Except.bind] at hok
  split at hok
  · cases hok
  · next withs hwiths =>
      split at hok
      · cases hok
      · next versionJoins hversionJoins =>
          split at hok
          · cases hok
          · next wherePart hwhere =>
              cases hok
              exact ⟨withs, versionJoins, wherePart, hwiths, hversionJoins, hwhere, rfl⟩

theorem outputs_dataSeriesItems :
    (dataSeriesItems info useMaterialized allSelectInfos false includeVersions
        includePaginationData).map SelectItem.output =
      centralOutputs info allSelectInfos includeVersions includePaginationData := by
  simp only [dataSeriesItems, List.map_append, outputs_renderPayloadSelects,
    outputs_versionsRenderSelect, outputs_renderPaginationDataSelect,
    outputs_renderMainExtraFieldsColumns, List.map_cons, List.map_nil, SelectItem.output,
    centralOutputs]
  rfl

/-- A central query is in scope when its filter is. -/
theorem singleDataSeriesAsSqlTable_spec (hsupported : info.backend.Supported)
    (htables : useMaterialized = true ∨ info.backend = .dynamicSqlMaterializedFlatHistory)
    (hok : singleDataSeriesAsSqlTable (N := N) partitionTable info useMaterialized pointInTime
      changesSince allSelectInfos payloadAsJson includeVersions includePaginationData filterStr =
        .ok query)
    (hfilter : FilterTables filterStr) :
    (WellScoped query ↔ ReadsMain filterStr) ∧
      (payloadAsJson = false → query.outputs =
        centralOutputs info allSelectInfos includeVersions includePaginationData) := by
  obtain ⟨withs, versionJoins, wherePart, hwiths, hversionJoins, hwhere, rfl⟩ :=
    singleDataSeriesAsSqlTable_eq_ok hok
  have hversions := versions_spec hsupported hwiths hversionJoins
  have hbase := renderBaseSources_spec partitionTable pointInTime changesSince htables
  have hmain := hbase.readable_main versionJoins withs
  constructor
  · rw [wellScoped_central_iff filterStr hbase hversions ?_
        (renderWherePart_tables htables hwhere),
      scoped_filter_iff info.dataSeriesId hbase hversions.joined hfilter]
    intro item hmem
    simp only [dataSeriesItems, List.mem_append, List.mem_cons, List.not_mem_nil, or_false] at hmem
    rcases hmem with
      ((((((rfl | rfl) | hpayload) | hversion) | rfl) | hpagination) | hextra) | rfl
    · simp [SelectItem.fragment, hmain]
    · simp [SelectItem.fragment]
    · exact scoped_renderPayloadSelects htables hmain item hpayload
    · apply hversions.selected _ ?_ item hversion
      rw [allSources, List.map_append]
      exact List.Subset.trans (List.subset_append_right _ _) (List.subset_cons_self _ _)
    · exact scoped_renderPointInTime hmain
    · exact scoped_renderPaginationDataSelect hmain item hpagination
    · exact scoped_renderMainExtraFieldsColumns (fun _ _ => hmain _) item hextra
    · simp [SelectItem.fragment, hmain]
  · rintro rfl
    exact outputs_dataSeriesItems

end CentralQuery

end NFCompose
