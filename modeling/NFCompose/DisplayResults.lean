/-
The rows that display queries give.  What they select is evaluated on the rows
that they select from; a payload counts with each of its values.
-/
import NFCompose.CountAgreement

namespace NFCompose

open SqlConditions SqlQueries SqlSelects

/-- A database with what a central query selects from, and with the functions and
other expressions in what is selected. -/
structure DisplayDatabase (N D V : Type) extends Database N D V where
  tables : String → List (Row V)
  selected : List (String × Query) → Source → List Join → Fragment → Option (List (JoinedRow V))
  atTimeZoneUtc : V → V
  toChar : V → V
  expression : Fragment → JoinedRow V → Option V

/-- The columns of a row of a result, and the values in its payload, one after the
other. -/
abbrev ResultRow (V : Type) := List (String × Option V)

section Values

variable {N D V : Type} (db : DisplayDatabase N D V) (joined : JoinedRow V)

def columnAtUtc (table field : String) : Option V :=
  (column joined table field).map db.atTimeZoneUtc

def exprValue : Fragment → Option V
  | [.column table field] => column joined table field
  | [.column table field, .text operator] =>
      if operator = " AT TIME ZONE 'utc'" then columnAtUtc db joined table field
      else db.expression [.column table field, .text operator] joined
  | [.text function, .column table field, .text format] =>
      if function = "to_char(" ∧
          format = " AT TIME ZONE 'utc', 'YYYY-MM-DD\"T\"HH24:MI:SS.US')" then
        (columnAtUtc db joined table field).map db.toChar
      else db.expression [.text function, .column table field, .text format] joined
  | fragment => db.expression fragment joined

/-- The arguments of `jsonb_build_object` with the placeholders of their names. -/
def jsonArguments : Fragment → ResultRow V
  | .text name :: .column table field :: .text operator :: rest =>
      (name, if operator = " AT TIME ZONE 'utc'" then columnAtUtc db joined table field
        else column joined table field) :: jsonArguments rest
  | _ :: rest => jsonArguments rest
  | [] => []

def itemEntries : SelectItem → ResultRow V
  | .column table field => [(field, column joined table field)]
  | .named value output =>
      if value.head? = some (.text "'\x7b\x7d'::jsonb") then jsonArguments db joined value.tail
      else [(output, exprValue db joined value)]

def resultRow (items : List SelectItem) : ResultRow V := items.flatMap (itemEntries db joined)

end Values

/-- A row as a row of a table. -/
def tableRow {V : Type} (row : ResultRow V) : Row V := fun field => (row.lookup field).join

section Answers

variable {N D V : Type} (db : DisplayDatabase N D V)
  (queryParams : AList fun _ : String => ParamValue N D)

/-- The rows that a query selects from. -/
def shownRows : Query → Option (List (JoinedRow V))
  | .mk withs _ source joins rest => db.selected withs source joins rest

def queryItems : Query → List SelectItem
  | .mk _ select _ _ _ => select

def queryAnswer (query : Query) : Option (List (ResultRow V)) :=
  (shownRows db query).map (List.map fun joined => resultRow db joined (queryItems query))

/-- A query around a central one, with the tables that it defines besides. -/
structure DisplaySelect where
  central : Query
  commons : List (String × Select ReadAtom)
  main : Select ReadAtom

namespace DisplaySelect

variable (select : DisplaySelect)

def query : Query :=
  select.main.query ReadAtom.fragment ((centralTable, select.central) ::
    select.commons.map fun entry => (entry.1, entry.2.query ReadAtom.fragment []))

/-- The database refuses a query with a name that it does not find. -/
def answer : Option (List (ResultRow V)) := do
  let meaning := readMeaning db.toDatabase db.expression queryParams
  let rows ← queryAnswer db select.central
  let commons ← select.commons.mapM fun entry =>
    (entry.2.rows meaning (tablesWith db.tables [])).map fun rows => (entry.1, rows)
  if select.query.NamesFound ∧ select.main.accepted meaning then
    some ((select.main.joinedRows meaning
      (tablesWith db.tables ((centralTable, rows.map tableRow) :: commons))).map
        fun joined => resultRow db joined select.main.items)
  else none

theorem answer_eq : select.answer db queryParams =
    (queryAnswer db select.central).bind fun rows =>
      (select.commons.mapM fun entry : String × Select ReadAtom =>
        (entry.2.rows (readMeaning db.toDatabase db.expression queryParams)
          (tablesWith db.tables [])).map fun rows => (entry.1, rows)).bind fun commons =>
      if select.query.NamesFound ∧
          select.main.accepted (readMeaning db.toDatabase db.expression queryParams) = true then
        some ((select.main.joinedRows (readMeaning db.toDatabase db.expression queryParams)
          (tablesWith db.tables ((centralTable, rows.map tableRow) :: commons))).map
            fun joined => resultRow db joined select.main.items)
      else none := rfl

end DisplaySelect

end Answers

section Chunks

variable {A : Type}

theorem flatten_take_drop (size count : Nat) (items : List A) :
    ((List.range count).map fun index => (items.drop (index * size)).take size).flatten =
      items.take (count * size) := by
  induction count with
  | zero => simp
  | succ count ih =>
      rw [List.range_succ, List.map_append, List.flatten_append, ih, Nat.succ_mul, List.take_add]
      simp

/-- The chunks carry all items, in their order. -/
theorem flatten_chunks {size : Nat} (hsize : 0 < size) (items : List A) :
    (chunks size items).flatten = items := by
  rw [chunks, flatten_take_drop, List.take_of_length_le]
  have hround : items.length + size - 1 < ((items.length + size - 1) / size + 1) * size :=
    Nat.lt_mul_of_div_lt (Nat.lt_succ_self _) hsize
  rw [Nat.add_mul] at hround
  omega

end Chunks

section Payload

variable {N D V : Type} {db : DisplayDatabase N D V} {joined : JoinedRow V}

/-- What is put into a payload is a column, or a timestamp in UTC. -/
inductive PayloadExpression : Fragment → Prop where
  | column (table field : String) : PayloadExpression [.column table field]
  | utc (table field : String) :
      PayloadExpression [.column table field, .text " AT TIME ZONE 'utc'"]

/-- A text begins with no column. -/
def NoColumn (fragment : Fragment) : Prop :=
  ∀ table field, fragment.head? ≠ some (.column table field)

theorem noColumn_nil : NoColumn [] := by
  intro table field heq
  cases heq

theorem noColumn_text (sql : String) (rest : Fragment) : NoColumn (.text sql :: rest) := by
  intro table field heq
  cases heq

theorem jsonArguments_text (sql : String) {rest : Fragment} (hrest : NoColumn rest) :
    jsonArguments db joined (.text sql :: rest) = jsonArguments db joined rest := by
  match rest with
  | [] => rfl
  | .text _ :: _ => rfl
  | .column table field :: _ => exact absurd rfl (hrest table field)

theorem exprValue_column (table field : String) :
    exprValue db joined [.column table field] = column joined table field := rfl

theorem exprValue_utc (table field : String) :
    exprValue db joined [.column table field, .text " AT TIME ZONE 'utc'"] =
      columnAtUtc db joined table field := by
  rw [exprValue, if_pos rfl]

variable (db joined) in
/-- One argument is read, up to the separator after it. -/
theorem jsonArguments_value {value : Fragment} (hvalue : PayloadExpression value)
    (name separator : String) (hseparator : separator ≠ " AT TIME ZONE 'utc'") {rest : Fragment}
    (hrest : NoColumn rest) :
    jsonArguments db joined (.text name :: value ++ .text separator :: rest) =
      (name, exprValue db joined value) :: jsonArguments db joined rest := by
  cases hvalue with
  | column table field =>
      rw [exprValue_column]
      simp only [List.cons_append, List.nil_append, jsonArguments, if_neg hseparator]
  | utc table field =>
      rw [exprValue_utc]
      simp only [List.cons_append, List.nil_append, jsonArguments, if_true]
      rw [← jsonArguments_text separator hrest]

variable {value : SelectInfo → Fragment}

def argumentName (selectInfo : SelectInfo) : String :=
  "%(" ++ selectInfo.payloadVariableName ++ ")s,"

/-- The arguments of one chunk. -/
theorem jsonArguments_chunk {chunk : List SelectInfo}
    (hvalue : ∀ selectInfo ∈ chunk, PayloadExpression (value selectInfo)) {rest : Fragment}
    (hrest : NoColumn rest) :
    jsonArguments db joined (List.intercalate [.text ",\n"] (chunk.map fun selectInfo =>
        .text (argumentName selectInfo) :: value selectInfo) ++ .text ")::jsonb)" :: rest) =
      (chunk.map fun selectInfo => (argumentName selectInfo,
        exprValue db joined (value selectInfo))) ++ jsonArguments db joined rest := by
  induction chunk with
  | nil => exact jsonArguments_text _ hrest
  | cons first others ih =>
      rw [List.forall_mem_cons] at hvalue
      cases others with
      | nil =>
          have hone := jsonArguments_value db joined hvalue.1 (argumentName first) ")::jsonb)"
            (by decide) hrest
          simpa using hone
      | cons second more =>
          have hnext : NoColumn (List.intercalate [.text ",\n"] ((second :: more).map
              fun selectInfo => .text (argumentName selectInfo) :: value selectInfo) ++
                .text ")::jsonb)" :: rest) := by
            cases more <;> exact noColumn_text _ _
          have hone := jsonArguments_value db joined hvalue.1 (argumentName first) ",\n"
            (by decide) hnext
          rw [ih hvalue.2] at hone
          simpa using hone

variable (db joined) in
theorem jsonArguments_chunks {parts : List (List SelectInfo)}
    (hvalue : ∀ chunk ∈ parts, ∀ selectInfo ∈ chunk, PayloadExpression (value selectInfo)) :
    NoColumn (parts.flatMap fun chunk => .text "||(jsonb_build_object(" ::
      List.intercalate [.text ",\n"] (chunk.map fun selectInfo =>
        .text (argumentName selectInfo) :: value selectInfo) ++ [.text ")::jsonb)"]) ∧
    jsonArguments db joined (parts.flatMap fun chunk => .text "||(jsonb_build_object(" ::
        List.intercalate [.text ",\n"] (chunk.map fun selectInfo =>
          .text (argumentName selectInfo) :: value selectInfo) ++ [.text ")::jsonb)"]) =
      parts.flatten.map fun selectInfo => (argumentName selectInfo,
        exprValue db joined (value selectInfo)) := by
  induction parts with
  | nil => exact ⟨noColumn_nil, rfl⟩
  | cons chunk others ih =>
      rw [List.forall_mem_cons] at hvalue
      obtain ⟨hrest, harguments⟩ := ih hvalue.2
      constructor
      · exact noColumn_text _ _
      · rw [List.flatMap_cons, List.flatten_cons, List.map_append, ← harguments]
        rw [← jsonArguments_chunk hvalue.1 hrest, List.cons_append, List.cons_append]
        rw [List.append_assoc]
        apply jsonArguments_text
        cases chunk with
        | nil => exact noColumn_text _ _
        | cons first more => cases more <;> exact noColumn_text _ _

/-- Under which name a value of a payload is found. -/
def entryName (payloadAsJson : Bool) (selectInfo : SelectInfo) : String :=
  if payloadAsJson then argumentName selectInfo else selectInfo.selectAlias

theorem itemEntries_named {fragment : Fragment} (hplain : PayloadExpression fragment)
    (output : String) :
    itemEntries db joined (.named fragment output) =
      [(output, exprValue db joined fragment)] := by
  cases hplain <;> rfl

/-- The values of a payload are the same, whether or not it is one JSON object. -/
theorem resultRow_payloadItems {selectInfos : List SelectInfo}
    (hvalue : ∀ selectInfo ∈ selectInfos, PayloadExpression (value selectInfo))
    (payloadAsJson : Bool) :
    resultRow db joined (payloadItems value selectInfos payloadAsJson) =
      selectInfos.map fun selectInfo => (entryName payloadAsJson selectInfo,
        exprValue db joined (value selectInfo)) := by
  cases payloadAsJson with
  | true =>
      have hchunks : ∀ chunk ∈ chunks 30 selectInfos, ∀ selectInfo ∈ chunk,
          PayloadExpression (value selectInfo) := by
        intro chunk hchunk selectInfo hmem
        exact hvalue selectInfo (mem_of_mem_chunks hchunk hmem)
      have harguments := (jsonArguments_chunks db joined hchunks).2
      rw [flatten_chunks (by decide)] at harguments
      rw [payloadItems, if_pos rfl, resultRow, List.flatMap_singleton, itemEntries, jsonObjects,
        List.head?_cons, if_pos rfl]
      exact harguments
  | false =>
      rw [payloadItems, if_neg Bool.false_ne_true, resultRow, List.flatMap_map]
      induction selectInfos with
      | nil => rfl
      | cons first rest ih =>
          rw [List.forall_mem_cons] at hvalue
          rw [List.flatMap_cons, ih hvalue.2, itemEntries_named hvalue.1]
          rfl

end Payload

section Rows

variable {N D V : Type} (db : DisplayDatabase N D V) (joined : JoinedRow V)
  (info : DataSeriesQueryInfo) (useMaterialized payloadAsJson includeVersions : Bool)
  (allSelectInfos : List SelectInfo)

/-- What the central query has in the payload for a select info. -/
def centralValue (selectInfo : SelectInfo) : Fragment :=
  (if useMaterialized ∨ info.backend = .dynamicSqlMaterializedFlatHistory then
    .column "ds_dp" selectInfo.materializedValueColumn
  else .column (escape ("relation_" ++ selectInfo.unescapedDisplayId)) selectInfo.valueColumn) ::
    atTimeZoneUtc selectInfo

/-- What the query around the central one has in the payload. -/
def displayValue (selectInfo : SelectInfo) : Fragment :=
  if selectInfo.actualId ∈ info.dimensions.map (·.id) then
    [.column (resolveTable selectInfo.actualId) "external_id"]
  else [.column centralTable selectInfo.selectAlias]

/-- What the query around the central one selects. -/
def displayItems : List SelectItem :=
  [.column centralTable "id", .column centralTable "data_series_id"] ++
    renderSelects allSelectInfos payloadAsJson (info.dimensions.map (·.id)) ++
    renderVersionSelect includeVersions ++ [renderCurrentVersionSelect payloadAsJson] ++
    renderCentralPaginationDataSelect payloadAsJson ++
    renderMainExtraFieldsColumns centralTable info.mainExtraFields ++
    [.column centralTable "external_id"]

def headEntries : ResultRow V :=
  resultRow db joined
    [.column "ds_dp" "id", .named [.text ("('" ++ info.dataSeriesId ++ "')")] "data_series_id"]

def versionEntries : ResultRow V :=
  resultRow db joined (versionsRenderSelect includeVersions
    (escape ("version_ds_dp_" ++ info.dataSeriesId)) info allSelectInfos)

def tailEntries (includePaginationData : Bool) : ResultRow V :=
  resultRow db joined (renderPaginationDataSelect useMaterialized includePaginationData ++
    renderMainExtraFieldsColumns "ds_dp" info.mainExtraFields ++ [.column "ds_dp" "external_id"])

/-- The point in time as it is selected. -/
def timeValue (table : String) : Option V :=
  let atUtc := columnAtUtc db joined table "point_in_time"
  if payloadAsJson then atUtc.map db.toChar else atUtc

variable {db joined info useMaterialized payloadAsJson includeVersions allSelectInfos}

theorem payloadExpression_centralValue (selectInfo : SelectInfo) :
    PayloadExpression (centralValue info useMaterialized selectInfo) := by
  rw [centralValue, atTimeZoneUtc]
  split <;> split <;> constructor

theorem payloadExpression_displayValue (selectInfo : SelectInfo) :
    PayloadExpression (displayValue info selectInfo) := by
  rw [displayValue]
  split <;> constructor

theorem renderPayloadSelects_eq : renderPayloadSelects info useMaterialized allSelectInfos
    payloadAsJson = payloadItems (centralValue info useMaterialized) allSelectInfos
      payloadAsJson := by
  unfold renderPayloadSelects renderPayloadSelectsSingularTable renderPayloadSelectsSplitTables
    centralValue
  split <;> rfl

theorem resultRow_append (first second : List SelectItem) :
    resultRow db joined (first ++ second) =
      resultRow db joined first ++ resultRow db joined second :=
  List.flatMap_append

theorem resultRow_renderPointInTime :
    resultRow db joined [renderPointInTime payloadAsJson] =
      [("point_in_time", timeValue db joined payloadAsJson "ds_dp")] := by
  cases payloadAsJson <;> rfl

theorem resultRow_renderCurrentVersionSelect :
    resultRow db joined [renderCurrentVersionSelect payloadAsJson] =
      [("point_in_time", timeValue db joined payloadAsJson centralTable)] := by
  cases payloadAsJson <;> rfl

variable (db joined info useMaterialized payloadAsJson includeVersions allSelectInfos) in
/-- A row of the central query, part by part. -/
theorem resultRow_dataSeriesItems (includePaginationData : Bool) :
    resultRow db joined (dataSeriesItems info useMaterialized allSelectInfos payloadAsJson
        includeVersions includePaginationData) =
      headEntries db joined info ++
        (allSelectInfos.map fun selectInfo => (entryName payloadAsJson selectInfo,
          exprValue db joined (centralValue info useMaterialized selectInfo))) ++
        versionEntries db joined info includeVersions allSelectInfos ++
        [("point_in_time", timeValue db joined payloadAsJson "ds_dp")] ++
        tailEntries db joined info useMaterialized includePaginationData := by
  rw [← resultRow_payloadItems fun selectInfo _ => payloadExpression_centralValue selectInfo,
    ← renderPayloadSelects_eq, ← resultRow_renderPointInTime]
  simp only [dataSeriesItems, headEntries, versionEntries, tailEntries, resultRow_append,
    List.append_assoc]

theorem headEntries_eq : headEntries db joined info =
    [("id", column joined "ds_dp" "id"), ("data_series_id",
      exprValue db joined [.text ("('" ++ info.dataSeriesId ++ "')")])] := by
  have hconstant : [Piece.text ("('" ++ info.dataSeriesId ++ "')")].head? ≠
      some (.text "'\x7b\x7d'::jsonb") := by
    intro heq
    injection heq with hpiece
    injection hpiece with hsql
    have hlist := congrArg String.toList hsql
    simp at hlist
  simp only [headEntries, resultRow, List.flatMap_cons, List.flatMap_nil, itemEntries,
    if_neg hconstant, List.append_nil, List.cons_append, List.nil_append]

theorem versionEntries_keys : (versionEntries db joined info includeVersions
    allSelectInfos).map Prod.fst = if includeVersions then ["versions"] else [] := by
  cases includeVersions with
  | false => rfl
  | true =>
      rw [versionEntries, versionsRenderSelect, if_neg (by decide), if_pos rfl]
      split <;> rfl

theorem resultRow_renderMainExtraFieldsColumns (table : String) (fields : List MainExtraField) :
    resultRow db joined (renderMainExtraFieldsColumns table fields) =
      fields.map fun field => (field.column, column joined table field.column) := by
  rw [resultRow, renderMainExtraFieldsColumns, List.flatMap_map, List.flatMap_def]
  induction fields with
  | nil => rfl
  | cons field rest ih => rw [List.map_cons, List.flatten_cons, ih, List.map_cons]; rfl

theorem tailEntries_keys (includePaginationData : Bool) :
    (tailEntries db joined info useMaterialized includePaginationData).map Prod.fst =
      (if includePaginationData then ["pagination_data"] else []) ++
        info.mainExtraFields.map MainExtraField.column ++ ["external_id"] := by
  rw [tailEntries, resultRow_append, resultRow_append, resultRow_renderMainExtraFieldsColumns,
    List.map_append, List.map_append, List.map_map]
  cases includePaginationData <;> cases useMaterialized <;> rfl

variable (db joined info useMaterialized includeVersions allSelectInfos) in
/-- The row of a central query without JSON has its own columns. -/
theorem centralRow_keys (includePaginationData : Bool) :
    (resultRow db joined (dataSeriesItems info useMaterialized allSelectInfos false
        includeVersions includePaginationData)).map Prod.fst =
      centralOutputs info allSelectInfos includeVersions includePaginationData := by
  rw [resultRow_dataSeriesItems, headEntries_eq]
  simp only [List.map_append, versionEntries_keys, tailEntries_keys, List.map_map, centralOutputs,
    List.append_assoc]
  rfl

theorem tableRow_of_mem {row : ResultRow V} (hkeys : (row.map Prod.fst).Nodup) {name : String}
    {stored : Option V} (hmem : (name, stored) ∈ row) : tableRow row name = stored := by
  induction row with
  | nil => cases hmem
  | cons entry rest ih =>
      rw [List.map_cons, List.nodup_cons] at hkeys
      rcases List.mem_cons.mp hmem with rfl | hrest
      · rw [tableRow, List.lookup_cons_self, Option.join_some]
      · have hne : (name == entry.1) = false := by
          apply beq_false_of_ne
          rintro rfl
          have hkey := List.mem_map_of_mem (f := Prod.fst) hrest
          exact hkeys.1 hkey
        rw [← ih hkeys.2 hrest, tableRow, tableRow, List.lookup_cons, hne]

/-- The entries of a row are found under their names. -/
theorem map_tableRow {row part : ResultRow V} (hkeys : (row.map Prod.fst).Nodup)
    (hpart : part ⊆ row) : (part.map Prod.fst).map (fun name => (name, tableRow row name)) =
      part := by
  rw [List.map_map]
  conv => rhs; rw [← List.map_id part]
  apply List.map_congr_left
  rintro ⟨name, stored⟩ hmem
  exact Prod.ext rfl (tableRow_of_mem hkeys (hpart hmem))

end Rows

/-- The children of a data series differ in their ids and names. -/
structure DataSeriesQueryInfo.ChildrenDistinct (info : DataSeriesQueryInfo) : Prop where
  ids : ((selectInfos info).map SelectInfo.actualId).Nodup
  placeholders : ((selectInfos info).map SelectInfo.payloadVariableName).Nodup
  aliases : ((selectInfos info).map SelectInfo.selectAlias).Nodup
  extraFields : info.mainExtraFields.Nodup

section Distinct

variable {info : DataSeriesQueryInfo} {included : Option (List ExternalId)}

theorem selectAlias_escaped {selectInfo : SelectInfo} (hmem : selectInfo ∈ selectInfos info) :
    ∃ name, selectInfo.selectAlias = escape name := by
  rcases mem_selectInfos hmem with ⟨dimension, -, rfl⟩ | ⟨type, fact, rfl⟩
  · exact ⟨_, rfl⟩
  · exact ⟨_, rfl⟩

theorem payloadSelectInfos_sublist :
    (payloadSelectInfos info included).Sublist (selectInfos info) := by
  cases included with
  | none => exact List.Sublist.refl _
  | some keys => exact List.filter_sublist

/-- No two columns of a central query have one name. -/
theorem nodup_centralOutputs (hdistinct : info.ChildrenDistinct)
    (included : Option (List ExternalId)) (includeVersions includePaginationData : Bool) :
    (centralOutputs info (payloadSelectInfos info included) includeVersions
      includePaginationData).Nodup := by
  have haliases : ((payloadSelectInfos info included).map SelectInfo.selectAlias).Nodup :=
    hdistinct.aliases.sublist (payloadSelectInfos_sublist.map _)
  have hescaped : ∀ name ∈ (payloadSelectInfos info included).map SelectInfo.selectAlias,
      name.toList.head? = some '"' := by
    intro name hmem
    obtain ⟨selectInfo, hselectInfo, rfl⟩ := List.mem_map.mp hmem
    obtain ⟨plain, halias⟩ := selectAlias_escaped (payloadSelectInfos_sublist.subset hselectInfo)
    rw [halias, escape]
    simp
  have hfields : (info.mainExtraFields.map MainExtraField.column).Nodup := by
    apply hdistinct.extraFields.map
    intro first second heq
    cases first <;> cases second <;> first | rfl | exact absurd heq (by decide)
  have hfield : ∀ name ∈ info.mainExtraFields.map MainExtraField.column,
      name = "sub_clock" ∨ name = "deleted" := by
    intro name hmem
    obtain ⟨field, -, rfl⟩ := List.mem_map.mp hmem
    cases field
    · exact Or.inl rfl
    · exact Or.inr rfl
  have hplain : ∀ name ∈ (if includeVersions then ["versions"] else []) ++ (["point_in_time"] ++
      ((if includePaginationData then ["pagination_data"] else []) ++
        (info.mainExtraFields.map MainExtraField.column ++ ["external_id"]))),
      name = "versions" ∨ name = "point_in_time" ∨ name = "pagination_data" ∨
        name = "sub_clock" ∨ name = "deleted" ∨ name = "external_id" := by
    intro name hmem
    have hcolumn := hfield name
    split at hmem <;> split at hmem <;>
      simp only [List.mem_append, List.mem_cons, List.not_mem_nil, or_false, false_or] at hmem <;>
        tauto
  have htail : ((if includeVersions then ["versions"] else []) ++ (["point_in_time"] ++
      ((if includePaginationData then ["pagination_data"] else []) ++
        (info.mainExtraFields.map MainExtraField.column ++ ["external_id"])))).Nodup := by
    have hother : ∀ name ∈ ["versions", "point_in_time", "pagination_data", "external_id"],
        name ∉ info.mainExtraFields.map MainExtraField.column := by
      intro name hname hmem
      rcases hfield name hmem with rfl | rfl <;> simp at hname
    simp only [List.forall_mem_cons, List.not_mem_nil] at hother
    obtain ⟨hversions, htime, hpagination, hid, -⟩ := hother
    split <;> split <;>
      simp only [List.cons_append, List.nil_append, List.nodup_cons, List.mem_cons,
        List.mem_append, List.not_mem_nil, List.nodup_append, or_false, not_or] <;>
      simp_all
  rw [centralOutputs]
  simp only [List.append_assoc]
  rw [List.nodup_append, List.nodup_append]
  refine ⟨by decide, ⟨haliases, htail, ?_⟩, ?_⟩
  · rintro name hmem other hother rfl
    have hquoted := hescaped name hmem
    rcases hplain name hother with rfl | rfl | rfl | rfl | rfl | rfl <;>
      exact absurd hquoted (by decide)
  · rintro name hmem other hother rfl
    rcases List.mem_append.mp hother with halias | hlater
    · have hquoted := hescaped name halias
      simp only [List.mem_cons, List.not_mem_nil, or_false] at hmem
      rcases hmem with rfl | rfl <;> exact absurd hquoted (by decide)
    · rcases hplain name hlater with rfl | rfl | rfl | rfl | rfl | rfl <;>
        exact absurd hmem (by decide)

end Distinct

section Around

variable {N D V : Type} {db : DisplayDatabase N D V} {joined around : JoinedRow V}
  {info : DataSeriesQueryInfo} {useMaterialized payloadAsJson includeVersions : Bool}
  {included : Option (List ExternalId)}

/-- Columns that are taken over from the central query keep their values. -/
theorem taken_over (part : ResultRow V) {names : List String} {row : ResultRow V}
    (hcentral : ∀ field, column around centralTable field = tableRow row field)
    (hkeys : (row.map Prod.fst).Nodup) (hpart : part ⊆ row) (hnames : part.map Prod.fst = names) :
    (names.map fun name => (name, column around centralTable name)) = part := by
  have hmap := map_tableRow hkeys hpart
  rw [hnames] at hmap
  rw [← hmap]
  apply List.map_congr_left
  intro name _
  rw [hcentral]

variable (db joined around useMaterialized payloadAsJson includeVersions included) in
/-- A row of the query around a row of the central one, part by part. -/
theorem resultRow_displayItems (hdistinct : info.ChildrenDistinct)
    (hcentral : ∀ field, column around centralTable field = tableRow (resultRow db joined
      (dataSeriesItems info useMaterialized (payloadSelectInfos info included) false
        includeVersions payloadAsJson)) field) :
    resultRow db around (displayItems info payloadAsJson includeVersions
        (payloadSelectInfos info included)) =
      headEntries db joined info ++
        ((payloadSelectInfos info included).map fun selectInfo =>
          (entryName payloadAsJson selectInfo,
            exprValue db around (displayValue info selectInfo))) ++
        versionEntries db joined info includeVersions (payloadSelectInfos info included) ++
        [("point_in_time", timeValue db around payloadAsJson centralTable)] ++
        tailEntries db joined info useMaterialized payloadAsJson := by
  have hkeys := centralRow_keys db joined info useMaterialized includeVersions
    (payloadSelectInfos info included) payloadAsJson
  have hnodup := nodup_centralOutputs hdistinct included includeVersions payloadAsJson
  rw [← hkeys] at hnodup
  have hparts := resultRow_dataSeriesItems db joined info useMaterialized false includeVersions
    (payloadSelectInfos info included) payloadAsJson
  have hmem : ∀ entry, entry ∈ headEntries db joined info ∨
      entry ∈ versionEntries db joined info includeVersions (payloadSelectInfos info included) ∨
        entry ∈ tailEntries db joined info useMaterialized payloadAsJson →
      entry ∈ resultRow db joined (dataSeriesItems info useMaterialized
        (payloadSelectInfos info included) false includeVersions payloadAsJson) := by
    intro entry hentry
    rw [hparts]
    simp only [List.mem_append]
    tauto
  have hhead := taken_over (headEntries db joined info) hcentral hnodup
    (fun entry hentry => hmem entry (Or.inl hentry)) (by rw [headEntries_eq])
  have hversions := taken_over (versionEntries db joined info includeVersions
    (payloadSelectInfos info included)) hcentral hnodup
    (fun entry hentry => hmem entry (Or.inr (Or.inl hentry))) versionEntries_keys
  have htail := taken_over (tailEntries db joined info useMaterialized payloadAsJson)
    hcentral hnodup (fun entry hentry => hmem entry (Or.inr (Or.inr hentry)))
    (tailEntries_keys payloadAsJson)
  rw [← resultRow_payloadItems fun selectInfo _ => payloadExpression_displayValue selectInfo,
    ← resultRow_renderCurrentVersionSelect, ← hhead, ← hversions, ← htail]
  simp only [displayItems, resultRow_append, List.append_assoc, List.map_append, List.map_map,
    resultRow_renderMainExtraFieldsColumns]
  cases includeVersions <;> cases payloadAsJson <;> rfl

end Around

end NFCompose
