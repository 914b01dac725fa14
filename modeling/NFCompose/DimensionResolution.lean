/-
Dimensions as external ids.  A resolution finds the data points of a reference
that exist, now or at a point in time; of one without a history it finds too many.
-/
import NFCompose.DisplayResults

namespace NFCompose

open SqlConditions SqlQueries SqlSelects

section Existence

variable {N D V : Type} (db : DisplayDatabase N D V)

def sameValue (first second : Option V) : Bool := compared db.order first second = some .eq

def notAfter (first second : Option V) : Bool :=
  (compared db.order first second).any Ordering.isLE

/-- A row of a main table that is not deleted. -/
def existsNow (row : Row V) : Bool := (row "deleted_at").isNone

/-- By its row in a main table a data point had been created at a time, and not
deleted yet. -/
def existedInTable (time : Option V) (row : Row V) : Bool :=
  notAfter db (row "inserted_at") time && !notAfter db (row "deleted_at") time

def supersedes (row later : Row V) : Bool :=
  match compared db.order (row "point_in_time") (later "point_in_time") with
  | some .lt => true
  | some .eq => compared db.order (row "sub_clock") (later "sub_clock") = some .lt
  | _ => false

/-- The last version up to a time, unless the data point is deleted in it. -/
def existedInHistory (rows : List (Row V)) (time : Option V) (row : Row V) : Bool :=
  notAfter db (row "point_in_time") time &&
    sameValue db (row "deleted") (some (db.value (.boolean false))) &&
    rows.all fun later => !(sameValue db (row "id") (later "id") &&
      notAfter db (later "point_in_time") time && supersedes db row later)

def mainRows (reference : ReadOnlyDataSeries) : List (Row V) :=
  db.tables (reference.schemaName ++ "." ++ reference.mainQueryTableName)

def historyRows (reference : ReadOnlyDataSeries) : List (Row V) :=
  db.tables (reference.schemaName ++ "." ++ reference.materializedFlatHistoryTableName)

/-- The data points of a reference that exist, now or at a time. -/
def existingRows (reference : ReadOnlyDataSeries) : Option D → List (Row V)
  | none => (mainRows db reference).filter existsNow
  | some time =>
      let time := some (db.value (.timestamp time))
      if reference.backend = .dynamicSqlNoHistory then
        (mainRows db reference).filter (existedInTable db time)
      else (historyRows db reference).filter (existedInHistory db (historyRows db reference) time)

def externalIdAmong (rows : List (Row V)) (id : Option V) : Option V :=
  (rows.find? fun row => sameValue db id (row "id")).bind fun row => row "external_id"

/-- A data point that a resolution finds although it did not exist: it has not been
deleted, but was created later, or it was deleted at that very time. -/
def foundTooMany (time : Option V) (row : Row V) : Bool :=
  existsNow row && !notAfter db (row "inserted_at") time ||
    sameValue db (row "deleted_at") time && notAfter db (row "inserted_at") time

end Existence

section Replacement

variable {V : Type} (info : DataSeriesQueryInfo) (payloadAsJson : Bool)
  (resolve : ReadOnlyDataSeries → Option V → Option V)

/-- The value of a dimension is resolved; everything else stays. -/
def replaceDimension (entry : String × Option V) : String × Option V :=
  match info.dimensions.find? fun dimension =>
      entryName payloadAsJson (dataSeriesDimensionToSelectInfo dimension) = entry.1 with
  | some dimension => (entry.1, resolve dimension.reference entry.2)
  | none => entry

variable {info payloadAsJson resolve}

variable (payloadAsJson) in
theorem entryName_head {selectInfo : SelectInfo} (hmem : selectInfo ∈ selectInfos info) :
    (entryName payloadAsJson selectInfo).toList.head? = some '%' ∨
      (entryName payloadAsJson selectInfo).toList.head? = some '"' := by
  cases payloadAsJson with
  | true =>
      left
      rw [entryName, if_pos rfl, argumentName]
      simp
  | false =>
      right
      obtain ⟨name, halias⟩ := selectAlias_escaped hmem
      rw [entryName, if_neg Bool.false_ne_true, halias, escape]
      simp

theorem replaceDimension_plain {entry : String × Option V}
    (hpercent : entry.1.toList.head? ≠ some '%') (hquote : entry.1.toList.head? ≠ some '"') :
    replaceDimension info payloadAsJson resolve entry = entry := by
  have hnone : (info.dimensions.find? fun dimension =>
      entryName payloadAsJson (dataSeriesDimensionToSelectInfo dimension) = entry.1) = none := by
    rw [List.find?_eq_none]
    intro dimension hdimension hname
    have hhead := entryName_head payloadAsJson (dimension_mem_selectInfos hdimension)
    rw [of_decide_eq_true hname] at hhead
    exact hhead.elim hpercent hquote
  rw [replaceDimension, hnone]

/-- The names of the children differ, and so do the names of their values. -/
theorem entryName_inj (hdistinct : info.ChildrenDistinct) {first second : SelectInfo}
    (hfirst : first ∈ selectInfos info) (hsecond : second ∈ selectInfos info)
    (heq : entryName payloadAsJson first = entryName payloadAsJson second) : first = second := by
  cases payloadAsJson with
  | true =>
      apply List.inj_on_of_nodup_map hdistinct.placeholders hfirst hsecond
      rw [entryName, entryName, if_pos rfl, if_pos rfl, argumentName, argumentName] at heq
      simpa using heq
  | false => exact List.inj_on_of_nodup_map hdistinct.aliases hfirst hsecond heq

theorem nodup_dimensionIds (hdistinct : info.ChildrenDistinct) :
    (info.dimensions.map fun dimension => dimension.id).Nodup := by
  have hperm := (List.mergeSort_perm (unsortedSelectInfos info) SelectInfo.sortsBefore).map
    SelectInfo.actualId
  have hall := hperm.nodup_iff.mp hdistinct.ids
  rw [unsortedSelectInfos, List.map_append, List.nodup_append] at hall
  have hids := hall.1
  rw [List.map_map] at hids
  exact hids

theorem dimension_inj (hdistinct : info.ChildrenDistinct)
    {first second : DataSeriesDimensionQueryInfo} (hfirst : first ∈ info.dimensions)
    (hsecond : second ∈ info.dimensions) (heq : first.id = second.id) : first = second :=
  List.inj_on_of_nodup_map (nodup_dimensionIds hdistinct) hfirst hsecond heq

/-- A child with the id of a dimension is that dimension. -/
theorem eq_dimension_of_actualId (hdistinct : info.ChildrenDistinct) {selectInfo : SelectInfo}
    (hmem : selectInfo ∈ selectInfos info)
    (hid : selectInfo.actualId ∈ info.dimensions.map fun dimension => dimension.id) :
    ∃ dimension ∈ info.dimensions, selectInfo = dataSeriesDimensionToSelectInfo dimension := by
  obtain ⟨dimension, hdimension, heq⟩ := List.mem_map.mp hid
  refine ⟨dimension, hdimension, ?_⟩
  exact List.inj_on_of_nodup_map hdistinct.ids hmem (dimension_mem_selectInfos hdimension) heq.symm

theorem replaceDimension_dimension (hdistinct : info.ChildrenDistinct)
    {dimension : DataSeriesDimensionQueryInfo} (hdimension : dimension ∈ info.dimensions)
    (stored : Option V) :
    replaceDimension info payloadAsJson resolve
        (entryName payloadAsJson (dataSeriesDimensionToSelectInfo dimension), stored) =
      (entryName payloadAsJson (dataSeriesDimensionToSelectInfo dimension),
        resolve dimension.reference stored) := by
  rw [replaceDimension]
  split
  · next other hfound =>
      have hother := List.mem_of_find?_eq_some hfound
      have hfoundName := List.find?_some hfound
      have hname := of_decide_eq_true hfoundName
      have hinfos := entryName_inj hdistinct (dimension_mem_selectInfos hother)
        (dimension_mem_selectInfos hdimension) hname
      rw [dimension_inj hdistinct hother hdimension (congrArg SelectInfo.actualId hinfos)]
  · next hnone =>
      exfalso
      exact List.find?_eq_none.mp hnone dimension hdimension (decide_eq_true rfl)

theorem replaceDimension_other (hdistinct : info.ChildrenDistinct) {selectInfo : SelectInfo}
    (hmem : selectInfo ∈ selectInfos info)
    (hother : selectInfo.actualId ∉ info.dimensions.map fun dimension => dimension.id)
    (stored : Option V) :
    replaceDimension info payloadAsJson resolve (entryName payloadAsJson selectInfo, stored) =
      (entryName payloadAsJson selectInfo, stored) := by
  rw [replaceDimension]
  split
  · next dimension hfound =>
      exfalso
      have hdimension := List.mem_of_find?_eq_some hfound
      have hfoundName := List.find?_some hfound
      have hname := of_decide_eq_true hfoundName
      have hinfos := entryName_inj hdistinct (dimension_mem_selectInfos hdimension) hmem hname
      apply hother
      rw [← hinfos]
      exact List.mem_map_of_mem hdimension
  · rfl

end Replacement

section Finding

variable {N D V : Type} {db : DisplayDatabase N D V} {rows : List (Row V)} {id : Option V}

theorem sameValue_iff {first second : Option V} :
    sameValue db first second = true ↔ compared db.order first second = some .eq :=
  decide_eq_true_iff

theorem sameValue_symm [Std.TransCmp db.order] {first second : Option V}
    (hsame : sameValue db first second = true) : sameValue db second first = true := by
  obtain ⟨left, hleft, right, hright, heq⟩ := compared_eq_some.mp (sameValue_iff.mp hsame)
  exact sameValue_iff.mpr (compared_eq_some.mpr
    ⟨right, hright, left, hleft, Std.OrientedCmp.eq_symm heq⟩)

theorem eq_of_sameValue [Std.TransCmp db.order] (hdistinct : DistinctIn db.order "id" rows)
    {first second : Row V} (hfirst : first ∈ rows) (hsecond : second ∈ rows)
    (hsameFirst : sameValue db id (first "id") = true)
    (hsameSecond : sameValue db id (second "id") = true) : first = second := by
  by_contra hne
  have : Std.Symm fun first second : Row V =>
      compared db.order (first "id") (second "id") ≠ some .eq := by
    constructor
    intro left right hdiffer hsame
    exact hdiffer (sameValue_iff.mp (sameValue_symm (sameValue_iff.mpr hsame)))
  apply List.Pairwise.forall hdistinct hfirst hsecond hne
  exact compared_eq_trans (sameValue_iff.mp hsameFirst) (sameValue_iff.mp hsameSecond)

/-- Of rows that differ in their ids one at most is found. -/
theorem externalIdAmong_filter [Std.TransCmp db.order] (hdistinct : DistinctIn db.order "id" rows)
    {row : Row V} (hrow : row ∈ rows) (hsame : sameValue db id (row "id") = true)
    (keeps : Row V → Bool) :
    externalIdAmong db (rows.filter keeps) id =
      if keeps row then row "external_id" else none := by
  rw [externalIdAmong]
  cases hfound : (rows.filter keeps).find? fun row => sameValue db id (row "id") with
  | none =>
      have hdropped : keeps row = false := by
        by_contra hkept
        rw [Bool.not_eq_false] at hkept
        exact List.find?_eq_none.mp hfound row (List.mem_filter.mpr ⟨hrow, hkept⟩) hsame
      rw [hdropped]
      rfl
  | some other =>
      obtain ⟨hother, hkept⟩ := List.mem_filter.mp (List.mem_of_find?_eq_some hfound)
      have hsameOther := List.find?_some hfound
      rw [eq_of_sameValue hdistinct hrow hother hsame hsameOther, hkept]
      rfl

theorem externalIdAmong_none (habsent : ∀ row ∈ rows, sameValue db id (row "id") = false) :
    externalIdAmong db rows id = none := by
  have hnone : (rows.find? fun row => sameValue db id (row "id")) = none := by
    rw [List.find?_eq_none]
    intro row hmem
    rw [habsent row hmem]
    exact Bool.false_ne_true
  rw [externalIdAmong, hnone, Option.bind_none]

end Finding

section Resolving

variable {N D V : Type} (db : DisplayDatabase N D V)

/-- The data points that a resolution finds. -/
def resolvableRows (reference : ReadOnlyDataSeries) : Option D → List (Row V)
  | none => (mainRows db reference).filter existsNow
  | some time =>
      let time := some (db.value (.timestamp time))
      if reference.backend = .dynamicSqlNoHistory then
        (mainRows db reference).filter fun row => existsNow row ||
          notAfter db time (row "deleted_at") && notAfter db (row "inserted_at") time
      else (historyRows db reference).filter (existedInHistory db (historyRows db reference) time)

def resolutionRow (row : Row V) : Row V := fun field =>
  if field = "data_point_id" then row "id"
  else if field = "external_id" then row "external_id"
  else none

variable {db} {queryParams : AList fun _ : String => ParamValue N D} {joined : JoinedRow V}

theorem project_resolutionRow {row : Row V}
    (hrow : ∀ field, column joined "ds_dp" field = row field) :
    (readMeaning db.toDatabase db.expression queryParams).project resolutionItems joined =
      resolutionRow row := by
  funext field
  rw [resolutionRow]
  split
  · next hid =>
      rw [hid, (project_resolutionItems hrow).1]
  · next hid =>
      split
      · next hexternal =>
          rw [hexternal, (project_resolutionItems hrow).2]
      · next hexternal =>
          have hnone : (resolutionItems.find? fun item => item.output = field) = none := by
            simp [resolutionItems, SelectItem.output, Ne.symm hid, Ne.symm hexternal]
          rw [Meaning.project, hnone, Option.bind_none]

theorem notAfter_iff {first second : Option V} :
    notAfter db first second = true ↔
      ∃ left ∈ first, ∃ right ∈ second, db.order left right ≠ .gt := by
  cases first <;> cases second <;> simp [notAfter, compared, Ordering.isLE_iff_ne_gt]

section Comparisons

variable {param : String} {time : D}
  (hlookup : queryParams.lookup param = some (.scalar (.timestamp time))) (db)
  (joined : JoinedRow V) (table field : String)
include hlookup

theorem lte_truth : (ReadAtom.compare table field .lte param).truth db.toDatabase queryParams
      joined = .true ↔
    notAfter db (column joined table field) (some (db.value (.timestamp time))) = true := by
  rw [ReadAtom.truth, hlookup, notAfter_iff, nullable_eq_true]
  simp [SqlOperator.holds]

theorem gte_truth [Std.TransCmp db.order] :
    (ReadAtom.compare table field .gte param).truth db.toDatabase queryParams joined = .true ↔
      notAfter db (some (db.value (.timestamp time))) (column joined table field) = true := by
  have hswap : ∀ stored, db.order stored (db.value (.timestamp time)) ≠ .lt ↔
      db.order (db.value (.timestamp time)) stored ≠ .gt := by
    intro stored
    have hswap : db.order stored (db.value (.timestamp time)) =
        (db.order (db.value (.timestamp time)) stored).swap := Std.OrientedCmp.eq_swap
    rw [hswap, ne_eq, Ordering.swap_eq_lt]
  rw [ReadAtom.truth, hlookup, notAfter_iff, nullable_eq_true]
  simp [SqlOperator.holds, hswap]

end Comparisons

theorem or_eq_true {first second : Truth} :
    first.or second = .true ↔ first = .true ∨ second = .true := by
  cases first <;> cases second <;> decide

variable {table : String}

theorem rows_currentSelect {condition : List (Token ReadAtom)} {keeps : Row V → Bool}
    (hholds : ∀ row, (readMeaning db.toDatabase db.expression queryParams).holds condition
      [("ds_dp", row)] = keeps row) :
    ((currentSelect table resolutionItems condition []).joinedRows
        (readMeaning db.toDatabase db.expression queryParams) (tablesWith db.tables [])).map
          ((readMeaning db.toDatabase db.expression queryParams).project resolutionItems) =
      ((db.tables table).filter keeps).map resolutionRow := by
  have hrows : (currentSelect table resolutionItems condition []).joinedRows
      (readMeaning db.toDatabase db.expression queryParams) (tablesWith db.tables []) =
        ((db.tables table).filter keeps).map fun row => [("ds_dp", row)] := by
    rw [← funext hholds]
    exact List.filter_map
  rw [hrows, List.map_map]
  apply List.map_congr_left
  intro row _
  exact project_resolutionRow fun field => column_cons_self [] "ds_dp" row field

theorem isFalse_truth (row : Row V) :
    (ReadAtom.isFalse "ds_dp" "deleted").truth db.toDatabase queryParams [("ds_dp", row)] =
        .true ↔
      sameValue db (row "deleted") (some (db.value (.boolean false))) = true := by
  rw [ReadAtom.truth, nullable_eq_true, column_cons_self, sameValue_iff, compared_eq_some]
  simp

theorem olderTruth_iff (row later : Row V) :
    ReadAtom.olderTruth db.toDatabase [("ds_dp2", later), ("ds_dp", row)] "ds_dp" "ds_dp2" =
        .true ↔
      supersedes db row later = true := by
  have hrow : ∀ field, column [("ds_dp2", later), ("ds_dp", row)] "ds_dp" field = row field := by
    intro field
    rw [column_cons_of_ne (by decide), column_cons_self]
  rw [ReadAtom.olderTruth, supersedes, hrow, hrow, column_cons_self, column_cons_self]
  cases compared db.order (row "point_in_time") (later "point_in_time") with
  | none => simp
  | some ordering =>
      cases ordering with
      | lt => simp
      | gt => simp
      | eq =>
          change nullable _ _ = .true ↔ _
          rw [nullable_eq_true]
          cases compared db.order (row "sub_clock") (later "sub_clock") <;> simp

theorem upTo_iff {time : D}
    (hlookup : queryParams.lookup "point_in_time" = some (.scalar (.timestamp time)))
    (row : Row V) :
    UpTo db.toDatabase queryParams true row ↔
      notAfter db (row "point_in_time") (some (db.value (.timestamp time))) = true := by
  have htruth := lte_truth db hlookup [("ds_dp", row)] "ds_dp" "point_in_time"
  rw [column_cons_self] at htruth
  rw [← htruth]
  exact ⟨fun hup => hup rfl, fun hup _ => hup⟩

/-- What a query in a history shows existed at its point in time. -/
theorem shown_iff {time : D}
    (hlookup : queryParams.lookup "point_in_time" = some (.scalar (.timestamp time)))
    (rows : List (Row V)) (row : Row V) :
    Shown db.toDatabase queryParams true rows row ↔
      existedInHistory db rows (some (db.value (.timestamp time))) row = true := by
  simp only [existedInHistory, Bool.and_eq_true, List.all_eq_true, Bool.not_eq_true',
    Bool.and_eq_false_iff]
  constructor
  · rintro ⟨hupTo, hdeleted, hlatest⟩
    refine ⟨⟨(upTo_iff hlookup row).mp hupTo, (isFalse_truth row).mp hdeleted⟩, ?_⟩
    intro later hlater
    have hnot := hlatest later hlater
    rw [upTo_iff hlookup, Ne, olderTruth_iff, ← sameValue_iff] at hnot
    grind
  · rintro ⟨⟨hupTo, hdeleted⟩, hlatest⟩
    refine ⟨(upTo_iff hlookup row).mpr hupTo, (isFalse_truth row).mpr hdeleted, ?_⟩
    intro later hlater hlaterUpTo hsame holder
    rw [upTo_iff hlookup] at hlaterUpTo
    rw [olderTruth_iff] at holder
    rw [← sameValue_iff] at hsame
    have hnot := hlatest later hlater
    grind

open Classical in
theorem rows_latestSelect (hkey : ∀ row ∈ db.tables table, (row "id").isSome) {time : D}
    (hlookup : queryParams.lookup "point_in_time" = some (.scalar (.timestamp time))) :
    ((latestSelect table true false resolutionItems [] []).joinedRows
        (readMeaning db.toDatabase db.expression queryParams) (tablesWith db.tables [])).map
          ((readMeaning db.toDatabase db.expression queryParams).project resolutionItems) =
      ((db.tables table).filter (existedInHistory db (db.tables table)
        (some (db.value (.timestamp time))))).map resolutionRow := by
  rw [joinedRows_latestSelect hkey, List.map_map]
  simp only [shown_iff hlookup, Bool.decide_eq_true]
  apply List.map_congr_left
  intro row _
  exact project_resolutionRow (column_shown row)

theorem holds_existsNow (row : Row V) :
    (readMeaning db.toDatabase db.expression queryParams).holds
        [.atom (.isNull "ds_dp" "deleted_at")] [("ds_dp", row)] = existsNow row := by
  have hnull : column [("ds_dp", row)] "ds_dp" "deleted_at" = row "deleted_at" :=
    column_cons_self [] "ds_dp" row "deleted_at"
  rw [Meaning.holds, existsNow, ← hnull]
  change decide (evaluate [.atom (.ofBool _)] = some .true) = _
  cases (column [("ds_dp", row)] "ds_dp" "deleted_at").isNone <;> rfl

/-- OR is weaker than AND: the time of the insertion counts for deleted data points
only. -/
theorem holds_resolvable [Std.TransCmp db.order] {time : D}
    (hlookup : queryParams.lookup "point_in_time" = some (.scalar (.timestamp time)))
    (row : Row V) :
    (readMeaning db.toDatabase db.expression queryParams).holds
        [.atom (.isNull "ds_dp" "deleted_at"), .or,
          .atom (.compare "ds_dp" "deleted_at" .gte "point_in_time"), .and,
          .atom (.compare "ds_dp" "inserted_at" .lte "point_in_time")] [("ds_dp", row)] =
      (existsNow row || notAfter db (some (db.value (.timestamp time))) (row "deleted_at") &&
        notAfter db (row "inserted_at") (some (db.value (.timestamp time)))) := by
  have hlte := lte_truth db hlookup [("ds_dp", row)] "ds_dp" "inserted_at"
  have hgte := gte_truth db hlookup [("ds_dp", row)] "ds_dp" "deleted_at"
  have hnull : (ReadAtom.isNull "ds_dp" "deleted_at").truth db.toDatabase queryParams
      [("ds_dp", row)] = .true ↔ existsNow row = true := by
    rw [ReadAtom.truth, column_cons_self, existsNow]
    cases (row "deleted_at").isNone <;> decide
  rw [column_cons_self] at hlte hgte
  have hreads := (Reads.atom ((ReadAtom.isNull "ds_dp" "deleted_at").truth db.toDatabase
    queryParams [("ds_dp", row)])).ofOperand.ofConjunction.or
      (reads_pair db.toDatabase queryParams (.compare "ds_dp" "deleted_at" .gte "point_in_time")
        (.compare "ds_dp" "inserted_at" .lte "point_in_time") [("ds_dp", row)])
  rw [Bool.eq_iff_iff, Bool.or_eq_true, Bool.and_eq_true, ← hnull, ← hgte, ← hlte,
    ← Truth.and_eq_true, ← or_eq_true, Meaning.holds, decide_eq_true_iff]
  exact Eq.congr_left hreads.evaluate_eq |>.trans Option.some_inj

theorem rows_resolutionSelect [Std.TransCmp db.order] {reference : ReadOnlyDataSeries}
    (hsupported : reference.backend.Supported)
    (hkeys : TableKeys db.order db.tables reference.schemaName reference.mainQueryTableName
      reference.materializedFlatHistoryTableName reference.backend) {time : Option D}
    (hbound : ∀ instant ∈ time,
      queryParams.lookup "point_in_time" = some (.scalar (.timestamp instant))) :
    (resolutionSelect (!time.isSome) time.isSome reference).rows
        (readMeaning db.toDatabase db.expression queryParams) (tablesWith db.tables []) =
      some ((resolvableRows db reference time).map resolutionRow) := by
  cases time with
  | none =>
      have haccepted : (resolutionSelect true false reference).accepted
          (readMeaning db.toDatabase db.expression queryParams) = true := rfl
      change (resolutionSelect true false reference).rows _ _ = _
      rw [Select.rows, if_pos haccepted]
      exact congrArg some (rows_currentSelect holds_existsNow)
  | some instant =>
      have hlookup := hbound instant rfl
      have haccepted : (resolutionSelect false true reference).accepted
          (readMeaning db.toDatabase db.expression queryParams) = true := by
        apply accepted_resolutionSelect
        intro _
        rw [hlookup]
        rfl
      change (resolutionSelect false true reference).rows _ _ = _
      rw [Select.rows, if_pos haccepted, resolutionSelect, if_neg Bool.false_ne_true,
        resolvableRows]
      split
      · next hbackend =>
          exact congrArg some (rows_currentSelect (holds_resolvable hlookup))
      · next hbackend =>
          have hkey := hkeys.history (hsupported.resolve_left hbackend)
          exact congrArg some (rows_latestSelect
            (fun row hmem => hkey.notNull row hmem "id" List.mem_cons_self) hlookup)

end Resolving

/-- The tables of a reference keep their keys, and every data point has an external
id. -/
structure ReferenceTables {N D V : Type} (db : DisplayDatabase N D V)
    (reference : ReadOnlyDataSeries) : Prop where
  keys : TableKeys db.order db.tables reference.schemaName reference.mainQueryTableName
    reference.materializedFlatHistoryTableName reference.backend
  externalId : ∀ row ∈ mainRows db reference, (row "external_id").isSome

section Comparison

variable {N D V : Type} {db : DisplayDatabase N D V} [Std.TransCmp db.order]
  {reference : ReadOnlyDataSeries} {time : Option D} {id : Option V}

variable (db) in
/-- What is found of a table are the data points that existed, and some more. -/
theorem found_eq (time : V) (row : Row V) :
    (existsNow row || notAfter db (some time) (row "deleted_at") &&
        notAfter db (row "inserted_at") (some time)) =
      (existedInTable db (some time) row || foundTooMany db (some time) row) ∧
    (existedInTable db (some time) row && foundTooMany db (some time) row) = false := by
  rw [existedInTable, foundTooMany, existsNow]
  generalize notAfter db (row "inserted_at") (some time) = created
  cases row "deleted_at" with
  | none => cases created <;> exact ⟨rfl, rfl⟩
  | some deleted =>
      have hswap : db.order time deleted = (db.order deleted time).swap := Std.OrientedCmp.eq_swap
      simp only [notAfter, sameValue, compared, Option.any_some, hswap, Option.isNone_some,
        Option.some_inj]
      cases db.order deleted time <;> cases created <;> exact ⟨rfl, rfl⟩

/-- The data points that a resolution finds are those that exist, unless it finds
one too many. -/
theorem externalIdAmong_resolvable_iff (htables : ReferenceTables db reference) :
    externalIdAmong db (resolvableRows db reference time) id =
        externalIdAmong db (existingRows db reference time) id ↔
      ∀ instant ∈ time, reference.backend = .dynamicSqlNoHistory →
        ∀ row ∈ mainRows db reference, sameValue db id (row "id") = true →
          foundTooMany db (some (db.value (.timestamp instant))) row = false := by
  cases time with
  | none =>
      refine ⟨?_, fun _ => rfl⟩
      intro _ instant hinstant
      cases hinstant
  | some instant =>
      rw [resolvableRows, existingRows]
      split
      · next hbackend =>
          have hdistinct : DistinctIn db.order "id" (mainRows db reference) :=
            htables.keys.main.distinctIn
          constructor
          · intro heq other hother _ row hrow hsame
            cases hother
            obtain ⟨externalId, hexternal⟩ :=
              Option.isSome_iff_exists.mp (htables.externalId row hrow)
            obtain ⟨hfound, hdisjoint⟩ := found_eq db (db.value (.timestamp instant)) row
            rw [externalIdAmong_filter hdistinct hrow hsame,
              externalIdAmong_filter hdistinct hrow hsame, hexternal, hfound] at heq
            by_contra hmany
            rw [Bool.not_eq_false] at hmany
            rw [hmany, Bool.and_true] at hdisjoint
            rw [hmany, hdisjoint] at heq
            cases heq
          · intro hnone
            by_cases hpresent : ∃ row ∈ mainRows db reference, sameValue db id (row "id") = true
            · obtain ⟨row, hrow, hsame⟩ := hpresent
              have hfound := (found_eq db (db.value (.timestamp instant)) row).1
              rw [hnone instant rfl hbackend row hrow hsame, Bool.or_false] at hfound
              rw [externalIdAmong_filter hdistinct hrow hsame,
                externalIdAmong_filter hdistinct hrow hsame, hfound]
            · have habsent : ∀ row ∈ mainRows db reference, sameValue db id (row "id") = false := by
                intro row hrow
                by_contra hsame
                exact hpresent ⟨row, hrow, Bool.not_eq_false _ ▸ hsame⟩
              rw [externalIdAmong_none fun row hrow => habsent row (List.mem_of_mem_filter hrow),
                externalIdAmong_none fun row hrow => habsent row (List.mem_of_mem_filter hrow)]
      · next hbackend =>
          refine ⟨fun _ _ _ hother => absurd hother hbackend, fun _ => rfl⟩

end Comparison

end NFCompose
