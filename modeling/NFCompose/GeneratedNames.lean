/-
The names that are generated for tables, columns and indexes, and the aliases of the facts
and dimensions in a query.  PostgreSQL keeps 63 bytes of a name, and the longest prefix of
an alias leaves 48 of them for the external id.
-/
import Mathlib.Data.Bool.AllAny
import NFCompose.ReadQueries
import NFCompose.UserDefinedIndexes

namespace NFCompose

namespace GeneratedNames

/-- The text of a uuid. -/
structure UuidText where
  value : Uuid
  length_eq : value.length = 36
  chars : ∀ c ∈ value.toList, c ∈ "0123456789abcdef-".toList

def UuidText.toIndexId (id : UuidText) : IndexId := ⟨id.value, id.length_eq⟩

/-- An external id that the validation accepts. -/
abbrev SqlSafeId := { externalId : ExternalId // validateExternalIdSqlSafe externalId = true }

/-- What PostgreSQL keeps of a quoted name.  All names here are ASCII, so its 63 bytes are
characters. -/
def identifier (quoted : String) : List Char := ((quoted.toList.drop 1).dropLast).take 63

/-- What a name is generated for. -/
inductive NamedObject where
  | table (type : TargetTableType) (id : UuidText) (externalId : SqlSafeId)
  | column (type : StructureType) (id : UuidText) (externalId : SqlSafeId)
  | index (type : TargetTableType) (id : UuidText)

def NamedObject.name : NamedObject → String
  | .table type id externalId => type.tableName id.value externalId.val
  | .column _ id externalId => materializedColumnName id.value externalId.val
  | .index type id => type.relName id.toIndexId

def NamedObject.sqlName (object : NamedObject) : List Char := identifier (escape object.name)

inductive ObjectKind where
  | table (type : TargetTableType)
  | column (type : StructureType)
  | index (type : TargetTableType)
deriving DecidableEq

def NamedObject.kind : NamedObject → ObjectKind
  | .table type _ _ => .table type
  | .column type _ _ => .column type
  | .index type _ => .index type

def NamedObject.uuid : NamedObject → Uuid
  | .table _ id _ => id.value
  | .column _ id _ => id.value
  | .index _ id => id.value

/-- A data series as a query sees it, its children under valid external ids. -/
structure NamedSeries where
  info : DataSeriesQueryInfo
  sqlSafe : ∀ type key, key ∈ info.children type → validateExternalIdSqlSafe key = true
  displayed : ∀ type, ∀ entry ∈ (info.children type).entries,
    (ChildQueryInfo.common type entry.2).unescapedDisplayId = entry.1

/-- The names of the columns in the result of a query. -/
def NamedSeries.aliases (series : NamedSeries) : List (List Char) :=
  (selectInfos series.info).map fun selectInfo => identifier selectInfo.selectAlias

/-- Two objects of different kinds or with different uuids have different names, and so have
the facts and dimensions of a data series. -/
structure NamesDiffer (object other : NamedObject) (series : NamedSeries) : Prop where
  objects : object.kind ≠ other.kind ∨ object.uuid ≠ other.uuid → object.sqlName ≠ other.sqlName
  aliases : series.aliases.Nodup

/-- The name of a column shows no more than 23 characters of the external id, and not the
kind of the element. -/
def SharesColumn : NamedObject → NamedObject → Prop
  | .column type id externalId, .column other otherId otherExternalId =>
      type ≠ other ∧ id.value = otherId.value ∧
        externalId.val.toList.take 23 = otherExternalId.val.toList.take 23
  | _, _ => False

/-- No two timestamp facts have the first 48 characters of their external ids in common. -/
def NamedSeries.TimestampsDiffer (series : NamedSeries) : Prop :=
  ∀ key ∈ series.info.children (.fact .timestamp),
    ∀ other ∈ series.info.children (.fact .timestamp),
      key.toList.take 48 = other.toList.take 48 → key = other

section Objects

theorem identifier_escape (name : String) : identifier (escape name) = name.toList.take 63 := by
  simp [identifier, escape]

theorem take_stem (count : Nat) (marker stem rest : List Char)
    (hcount : marker.length + stem.length ≤ count) :
    (marker ++ (stem ++ rest)).take count =
      marker ++ (stem ++ rest.take (count - (marker.length + stem.length))) := by
  rw [List.take_append, List.take_of_length_le (by omega), List.take_append,
    List.take_of_length_le (by omega), Nat.sub_sub]

/-- What the name of an object starts with, before the uuid. -/
def ObjectKind.marker : ObjectKind → List Char
  | .table .materialized => ['_', 'm', 'a', 't', '_']
  | .table .flatHistory => ['_', 'm', 'f', 'h', 'i', 's', 't', '_']
  | .column _ => []
  | .index .materialized =>
      ['_', 'm', 'a', 't', '_', 'u', 's', 'e', 'r', 'i', 'n', 'd', 'e', 'x', '_']
  | .index .flatHistory =>
      ['_', 'm', 'f', 'h', 'i', 's', 't', '_', 'u', 's', 'e', 'r', 'i', 'n', 'd', 'e', 'x', '_']

/-- What is left of the external id. -/
def NamedObject.rest : NamedObject → List Char
  | .table .materialized _ externalId => ('_' :: externalId.val.toList).take 19
  | .table .flatHistory _ externalId => ('_' :: externalId.val.toList).take 16
  | .column _ _ externalId => ('_' :: externalId.val.toList).take 24
  | .index _ _ => []

theorem UuidText.length_toList (id : UuidText) : id.value.toList.length = 36 := by
  rw [String.length_toList]
  exact id.length_eq

/-- The uuid is never cut. -/
theorem NamedObject.sqlName_eq (object : NamedObject) :
    object.sqlName = object.kind.marker ++ (object.uuid.toList ++ object.rest) := by
  rw [NamedObject.sqlName, identifier_escape]
  cases object with
  | table type id externalId =>
      have hlength := id.length_toList
      cases type with
      | materialized =>
          have hname : (NamedObject.table .materialized id externalId).name.toList =
              (ObjectKind.marker (.table .materialized) ++
                (id.value.toList ++ ('_' :: externalId.val.toList))).take 60 := by
            simp [NamedObject.name, TargetTableType.tableName, materializedTableName,
              ObjectKind.marker]
          rw [hname, List.take_take, take_stem _ _ _ _ (by rw [hlength]; decide), hlength]
          rfl
      | flatHistory =>
          have hname : (NamedObject.table .flatHistory id externalId).name.toList =
              (ObjectKind.marker (.table .flatHistory) ++
                (id.value.toList ++ ('_' :: externalId.val.toList))).take 60 := by
            simp [NamedObject.name, TargetTableType.tableName, materializedFlatHistoryTableName,
              ObjectKind.marker]
          rw [hname, List.take_take, take_stem _ _ _ _ (by rw [hlength]; decide), hlength]
          rfl
  | column type id externalId =>
      have hlength := id.length_toList
      have hname : (NamedObject.column type id externalId).name.toList =
          ([] ++ (id.value.toList ++ ('_' :: externalId.val.toList))).take 60 := by
        simp [NamedObject.name, materializedColumnName]
      rw [hname, List.take_take, take_stem _ _ _ _ (by rw [hlength]; decide), hlength]
      rfl
  | index type id =>
      have hlength := id.length_toList
      cases type with
      | materialized =>
          have hname : (NamedObject.index .materialized id).name.toList =
              ObjectKind.marker (.index .materialized) ++ (id.value.toList ++ []) := by
            simp [NamedObject.name, TargetTableType.relName, indexRelName_eq, UuidText.toIndexId,
              ObjectKind.marker]
          rw [hname, take_stem _ _ _ _ (by rw [hlength]; decide), List.take_nil]
          rfl
      | flatHistory =>
          have hname : (NamedObject.index .flatHistory id).name.toList =
              ObjectKind.marker (.index .flatHistory) ++ (id.value.toList ++ []) := by
            simp [NamedObject.name, TargetTableType.relName, indexRelNameFlatHistory_eq,
              UuidText.toIndexId, ObjectKind.marker]
          rw [hname, take_stem _ _ _ _ (by rw [hlength]; decide), List.take_nil]
          rfl

theorem NamedObject.length_uuid (object : NamedObject) : object.uuid.toList.length = 36 := by
  cases object with
  | table type id externalId => exact id.length_toList
  | column type id externalId => exact id.length_toList
  | index type id => exact id.length_toList

/-- A uuid starts with no letter of a marker. -/
theorem NamedObject.uuid_eq_cons (object : NamedObject) :
    ∃ c rest, object.uuid.toList = c :: rest ∧ c ≠ '_' ∧ c ≠ 'u' := by
  have hchars : ∀ c ∈ object.uuid.toList, c ∈ "0123456789abcdef-".toList := by
    cases object with
    | table type id externalId => exact id.chars
    | column type id externalId => exact id.chars
    | index type id => exact id.chars
  cases huuid : object.uuid.toList with
  | nil =>
      have hlength := object.length_uuid
      rw [huuid] at hlength
      cases hlength
  | cons c rest =>
      have hc := hchars c (by rw [huuid]; exact List.mem_cons_self)
      refine ⟨c, rest, rfl, ?_, ?_⟩
      · rintro rfl
        revert hc
        decide
      · rintro rfl
        revert hc
        decide

/-- Where a marker begins with another one, it goes on with a letter that no uuid begins
with. -/
theorem ObjectKind.marker_of_starts {kind other : ObjectKind}
    (hstarts : kind.marker <+: other.marker) :
    kind.marker = other.marker ∨ other.marker[kind.marker.length]? = some '_' ∨
      other.marker[kind.marker.length]? = some 'u' := by
  revert hstarts
  rcases kind with (_ | _) | _ | (_ | _) <;> rcases other with (_ | _) | _ | (_ | _) <;>
    simp [ObjectKind.marker]

theorem ObjectKind.marker_eq_of_starts {kind other : ObjectKind}
    (hstarts : kind.marker <+: other.marker) {c : Char} {rest others : List Char}
    (hname : kind.marker ++ c :: rest = other.marker ++ others) (hline : c ≠ '_') (hu : c ≠ 'u') :
    kind.marker = other.marker := by
  by_contra hne
  have hlt : kind.marker.length < other.marker.length := by
    refine lt_of_le_of_ne hstarts.length_le ?_
    exact fun hlength => hne (hstarts.eq_of_length hlength)
  have hc : other.marker[kind.marker.length]? = some c := by
    rw [← List.getElem?_append_left hlt, ← hname]
    simp
  obtain heq | hnext | hnext := ObjectKind.marker_of_starts hstarts
  · exact hne heq
  · rw [hc] at hnext
    exact hline (Option.some.inj hnext)
  · rw [hc] at hnext
    exact hu (Option.some.inj hnext)

theorem NamedObject.marker_eq {object other : NamedObject}
    (hname : object.sqlName = other.sqlName) : object.kind.marker = other.kind.marker := by
  rw [object.sqlName_eq, other.sqlName_eq] at hname
  obtain ⟨c, rest, hc, hline, hu⟩ := object.uuid_eq_cons
  obtain ⟨d, others, hd, hotherLine, hotherU⟩ := other.uuid_eq_cons
  rw [hc, hd, List.cons_append, List.cons_append] at hname
  have hstarts := List.prefix_append object.kind.marker (c :: (rest ++ object.rest))
  rw [hname] at hstarts
  obtain hstarts | hstarts :=
    List.prefix_or_prefix_of_prefix hstarts (List.prefix_append other.kind.marker _)
  · exact ObjectKind.marker_eq_of_starts hstarts hname hline hu
  · exact (ObjectKind.marker_eq_of_starts hstarts hname.symm hotherLine hotherU).symm

theorem NamedObject.sqlName_eq_iff {object other : NamedObject} :
    object.sqlName = other.sqlName ↔
      object.kind.marker = other.kind.marker ∧ object.uuid = other.uuid ∧
        object.rest = other.rest := by
  constructor
  · intro hname
    have hmarker := NamedObject.marker_eq hname
    rw [object.sqlName_eq, other.sqlName_eq, hmarker, List.append_cancel_left_eq] at hname
    have hlength : object.uuid.toList.length = other.uuid.toList.length := by
      rw [object.length_uuid, other.length_uuid]
    obtain ⟨huuid, hrest⟩ := List.append_inj hname hlength
    exact ⟨hmarker, String.toList_inj.mp huuid, hrest⟩
  · rintro ⟨hmarker, huuid, hrest⟩
    rw [object.sqlName_eq, other.sqlName_eq, hmarker, huuid, hrest]

theorem ObjectKind.marker_inj {kind other : ObjectKind} :
    kind.marker = other.marker ↔
      kind = other ∨ ∃ type otherType, kind = .column type ∧ other = .column otherType := by
  rcases kind with (_ | _) | _ | (_ | _) <;> rcases other with (_ | _) | _ | (_ | _) <;>
    simp [ObjectKind.marker]

/-- Only columns can share a name. -/
theorem sqlName_ne_iff {object other : NamedObject}
    (hdiffer : object.kind ≠ other.kind ∨ object.uuid ≠ other.uuid) :
    object.sqlName ≠ other.sqlName ↔ ¬ SharesColumn object other := by
  rw [Ne, NamedObject.sqlName_eq_iff, not_iff_not]
  constructor
  · rintro ⟨hmarker, huuid, hrest⟩
    have hkind := hdiffer.resolve_right (not_not_intro huuid)
    obtain ⟨type, otherType, hcolumn, hotherColumn⟩ :=
      (ObjectKind.marker_inj.mp hmarker).resolve_left hkind
    cases object <;> cases hcolumn
    cases other <;> cases hotherColumn
    refine ⟨fun htype => hkind (congrArg ObjectKind.column htype), huuid, ?_⟩
    simpa [NamedObject.rest] using hrest
  · intro hshares
    cases object <;> cases other <;> simp only [SharesColumn] at hshares
    obtain ⟨-, huuid, hrest⟩ := hshares
    exact ⟨rfl, huuid, congrArg (List.cons '_') hrest⟩

end Objects

section Aliases

/-- The alias of a child before its external id. -/
def aliasMarker : StructureType → List Char
  | .dimension => ['d', 'i', 'm', '_']
  | .fact type => type.aliasPrefix.toList ++ ['_']

theorem aliasMarker_take : ∀ type other : StructureType,
    (aliasMarker type).take 2 = (aliasMarker other).take 2 → type = other := by
  rintro (type | _) (other | _)
  · cases type <;> cases other <;> simp [aliasMarker, FactType.aliasPrefix]
  · cases type <;> simp [aliasMarker, FactType.aliasPrefix]
  · cases other <;> simp [aliasMarker, FactType.aliasPrefix]
  · simp

/-- The alias of a child as PostgreSQL sees it. -/
def sqlAlias (type : StructureType) (key : ExternalId) : List Char :=
  (aliasMarker type ++ key.toList).take 63

theorem length_aliasMarker (type : StructureType) :
    (aliasMarker type).length ≤ 15 ∧
      (type ≠ .fact .timestamp → (aliasMarker type).length ≤ 13) := by
  rcases type with type | _
  · cases type <;> simp [aliasMarker, FactType.aliasPrefix]
  · simp [aliasMarker]

theorem sqlAlias_eq (type : StructureType) (key : ExternalId) :
    sqlAlias type key = aliasMarker type ++ key.toList.take (63 - (aliasMarker type).length) := by
  rw [sqlAlias, List.take_append,
    List.take_of_length_le (le_trans (length_aliasMarker type).1 (by decide))]

theorem sqlAlias_type {type other : StructureType} {key otherKey : ExternalId}
    (halias : sqlAlias type key = sqlAlias other otherKey) : type = other := by
  have htake : ∀ (type : StructureType) (key : ExternalId),
      (sqlAlias type key).take 2 = (aliasMarker type).take 2 := by
    intro type key
    have hlength : 2 ≤ (aliasMarker type).length := by
      rcases type with type | _
      · cases type <;> simp [aliasMarker, FactType.aliasPrefix]
      · simp [aliasMarker]
    rw [sqlAlias_eq, List.take_append_of_le_length hlength]
  apply aliasMarker_take
  rw [← htake type key, ← htake other otherKey, halias]

theorem sqlAlias_timestamp {key other : ExternalId} :
    sqlAlias (.fact .timestamp) key = sqlAlias (.fact .timestamp) other ↔
      key.toList.take 48 = other.toList.take 48 := by
  have hlength : 63 - (aliasMarker (.fact .timestamp)).length = 48 := by
    simp [aliasMarker, FactType.aliasPrefix]
  rw [sqlAlias_eq, sqlAlias_eq, hlength, List.append_cancel_left_eq]

/-- Every other prefix leaves room for a whole external id. -/
theorem sqlAlias_inj {type : StructureType} (htype : type ≠ .fact .timestamp)
    {key other : ExternalId} (hkey : validateExternalIdSqlSafe key = true)
    (hother : validateExternalIdSqlSafe other = true)
    (halias : sqlAlias type key = sqlAlias type other) : key = other := by
  have hroom : 50 ≤ 63 - (aliasMarker type).length := by
    have hmarker := (length_aliasMarker type).2 htype
    omega
  have hwhole : ∀ key : ExternalId, validateExternalIdSqlSafe key = true →
      key.toList.take (63 - (aliasMarker type).length) = key.toList := by
    intro key hkey
    simp only [validateExternalIdSqlSafe, Bool.and_eq_true, decide_eq_true_eq] at hkey
    exact List.take_of_length_le (by rw [String.length_toList]; omega)
  rw [sqlAlias_eq, sqlAlias_eq, hwhole key hkey, hwhole other hother,
    List.append_cancel_left_eq] at halias
  exact String.toList_inj.mp halias

/-- The types in the order of `select_infos`. -/
def selectedTypes : List StructureType :=
  .dimension :: [.float, .string, .text, .json, .timestamp, .image, .file, .boolean].map .fact

theorem mem_selectedTypes (type : StructureType) : type ∈ selectedTypes := by
  rcases type with type | _
  · cases type <;> decide
  · decide

/-- The children of a data series with their types. -/
def NamedSeries.children (series : NamedSeries) : List (StructureType × ExternalId) :=
  selectedTypes.flatMap fun type => (series.info.children type).keys.map (Prod.mk type)

theorem NamedSeries.mem_children {series : NamedSeries} {type : StructureType}
    {key : ExternalId} : (type, key) ∈ series.children ↔ key ∈ series.info.children type := by
  simp [NamedSeries.children, mem_selectedTypes, AList.mem_keys]

theorem NamedSeries.nodup_children (series : NamedSeries) : series.children.Nodup := by
  rw [NamedSeries.children, List.nodup_flatMap]
  constructor
  · intro type _
    exact (AList.keys_nodup _).map fun key other heq => (Prod.mk.inj heq).2
  · have htypes : selectedTypes.Nodup := by decide
    refine htypes.imp fun hne child hleft hright => hne ?_
    obtain ⟨key, -, rfl⟩ := List.mem_map.mp hleft
    obtain ⟨other, -, heq⟩ := List.mem_map.mp hright
    exact (Prod.mk.inj heq).1.symm

/-- The aliases of one type are those of its keys. -/
theorem NamedSeries.map_sqlAlias (series : NamedSeries) (type : StructureType) :
    (series.info.values type).map (fun info =>
        sqlAlias type (ChildQueryInfo.common type info).unescapedDisplayId) =
      (series.info.children type).keys.map (sqlAlias type) := by
  rw [DataSeriesQueryInfo.values, AList.keys, List.keys, List.map_map, List.map_map]
  refine List.map_congr_left fun entry hentry => ?_
  exact congrArg (sqlAlias type) (series.displayed type entry hentry)

theorem identifier_dimension (info : DataSeriesDimensionQueryInfo) :
    identifier (dataSeriesDimensionToSelectInfo info).selectAlias =
      sqlAlias .dimension info.unescapedDisplayId := by
  rw [dataSeriesDimensionToSelectInfo, identifier_escape]
  simp [sqlAlias, aliasMarker]

theorem identifier_fact (type : FactType) (info : DataSeriesFactQueryInfo) :
    identifier (factToSelectInfo type info).selectAlias =
      sqlAlias (.fact type) info.unescapedDisplayId := by
  rw [factToSelectInfo, identifier_escape]
  simp [sqlAlias, aliasMarker]

theorem NamedSeries.aliases_perm (series : NamedSeries) :
    series.aliases.Perm (series.children.map fun child => sqlAlias child.1 child.2) := by
  refine ((List.mergeSort_perm _ _).map _).trans (List.Perm.of_eq ?_)
  have hdimensions := series.map_sqlAlias .dimension
  have hfacts := fun type => series.map_sqlAlias (.fact type)
  rw [NamedSeries.children, selectedTypes, List.flatMap_cons, List.map_append, List.map_map,
    unsortedSelectInfos, List.map_append, List.map_map, List.map_flatMap, List.flatMap_map,
    List.map_flatMap]
  congr 1
  · simp only [Function.comp_def, identifier_dimension]
    exact hdimensions
  · refine List.flatMap_congr fun type _ => ?_
    rw [List.map_map, List.map_map]
    simp only [Function.comp_def, identifier_fact]
    exact hfacts type

/-- Only the aliases of timestamp facts can collide. -/
theorem NamedSeries.nodup_aliases_iff (series : NamedSeries) :
    series.aliases.Nodup ↔ series.TimestampsDiffer := by
  rw [series.aliases_perm.nodup_iff, List.nodup_map_iff_inj_on series.nodup_children]
  constructor
  · intro hinj key hkey other hother htake
    have hchild := hinj (.fact .timestamp, key) (NamedSeries.mem_children.mpr hkey)
      (.fact .timestamp, other) (NamedSeries.mem_children.mpr hother)
      (sqlAlias_timestamp.mpr htake)
    exact (Prod.mk.inj hchild).2
  · rintro hdiffer ⟨type, key⟩ hkey ⟨other, otherKey⟩ hother halias
    have htype : type = other := sqlAlias_type halias
    subst htype
    rw [NamedSeries.mem_children] at hkey hother
    have hsame : key = otherKey := by
      by_cases htimestamp : type = .fact .timestamp
      · subst htimestamp
        exact hdiffer key hkey otherKey hother (sqlAlias_timestamp.mp halias)
      · exact sqlAlias_inj htimestamp (series.sqlSafe type key hkey)
          (series.sqlSafe type otherKey hother) halias
    rw [hsame]

/-- The names differ exactly when no two elements of different kinds have one uuid and ids
that start alike, and no two timestamp facts have ids that start alike. -/
theorem namesDiffer_iff (object other : NamedObject) (series : NamedSeries) :
    NamesDiffer object other series ↔ ¬ SharesColumn object other ∧ series.TimestampsDiffer := by
  constructor
  · intro hnames
    refine ⟨fun hshares => ?_, series.nodup_aliases_iff.mp hnames.aliases⟩
    have hkind : object.kind ≠ other.kind := by
      cases object <;> cases other <;> simp only [SharesColumn] at hshares
      exact fun hkind => hshares.1 (ObjectKind.column.inj hkind)
    exact (sqlName_ne_iff (Or.inl hkind)).mp (hnames.objects (Or.inl hkind)) hshares
  · rintro ⟨hshares, htimestamps⟩
    exact ⟨fun hdiffer => (sqlName_ne_iff hdiffer).mpr hshares,
      series.nodup_aliases_iff.mpr htimestamps⟩

end Aliases

namespace NamesWitness

def firstPump : ExternalId := "time_of_the_last_maintenance_of_the_cooling_pump_1"

def secondPump : ExternalId := "time_of_the_last_maintenance_of_the_cooling_pump_2"

def fact (id : Uuid) (externalId : ExternalId) : DataSeriesFactQueryInfo :=
  ⟨id, id, externalId, escape (materializedColumnName id externalId), 0⟩

/-- The timestamp facts of a data series. -/
def timestamps : AList fun _ : ExternalId => DataSeriesFactQueryInfo where
  entries := [⟨firstPump, fact "1" firstPump⟩, ⟨secondPump, fact "2" secondPump⟩]
  nodupKeys := by
    have hkeys : [firstPump, secondPump].Nodup := by decide
    exact hkeys

def pumps : NamedSeries where
  info :=
    { dataSeriesId := "0"
      schemaName := "tenant"
      mainQueryTableName := "_mat_0"
      materializedFlatHistoryTableName := "_mfhist_0"
      backend := .dynamicSqlNoHistory
      locked := false
      mainAliveFilter := .deletedAtIsNull
      mainExtraFields := []
      children := fun type =>
        match type with
        | .fact .timestamp => timestamps
        | _ => ∅ }
  sqlSafe := by
    intro type key hkey
    cases type with
    | dimension => exact absurd hkey (AList.notMem_empty key)
    | fact type =>
        cases type with
        | timestamp =>
            have hkeys : key ∈ [firstPump, secondPump] := hkey
            simp only [List.mem_cons, List.not_mem_nil, or_false] at hkeys
            rcases hkeys with rfl | rfl <;> decide
        | _ => exact absurd hkey (AList.notMem_empty key)
  displayed := by
    intro type entry hentry
    cases type with
    | dimension => cases hentry
    | fact type =>
        cases type with
        | timestamp =>
            have hentries : entry ∈ timestamps.entries := hentry
            simp only [timestamps, List.mem_cons, List.not_mem_nil, or_false] at hentries
            rcases hentries with rfl | rfl <;> rfl
        | _ => cases hentry

def id : UuidText :=
  ⟨"00000000-0000-4000-8000-000000000001", by decide, List.all_iff_forall_prop.mp (by decide)⟩

/-- Two timestamp facts get one alias, whatever the tables are called. -/
theorem timestamp_aliases_collide :
    ¬ NamesDiffer (.table .materialized id ⟨"pumps", by decide⟩)
      (.table .flatHistory id ⟨"pumps", by decide⟩) pumps := by
  intro hnames
  have htimestamps := pumps.nodup_aliases_iff.mp hnames.aliases
  have hfirst : firstPump ∈ timestamps := by decide
  have hsecond : secondPump ∈ timestamps := by decide
  have heq := htimestamps firstPump hfirst secondPump hsecond (by decide)
  revert heq
  decide

end NamesWitness

end GeneratedNames

end NFCompose
