/-
Filters with `$prefix`, on PostgreSQL.  On a text fact the operand is the start
of a LIKE pattern, so that it means its prefix as long as it has no symbol of
patterns; on a string fact the placeholder is not one that the driver takes.
-/
import NFCompose.FilterAcceptance
import NFCompose.LikePatterns
import NFCompose.StructureServer

namespace NFCompose

open SqlConditions LikePatterns

variable {N D : Type}

/-- `{field: {"$prefix": operand}}`. -/
def prefixFilter (field operand : String) : Json N :=
  .object [(field, .object [("$prefix", .string operand)])]

def prefixComparison (field operand : String) : Comparison N :=
  ⟨field, "$prefix", .string operand⟩

/-- The symbols of LIKE. -/
def postgresMarks : Marks Char where
  many := '%'
  one := '_'
  escape := '\\'
  many_ne_one := by decide
  many_ne_escape := by decide
  one_ne_escape := by decide

/-- Texts have no NUL, in a row or as an operand. -/
def Storable (value : String) : Prop := ∀ c ∈ value.toList, c ≠ '\x00'

instance (value : String) : Decidable (Storable value) :=
  List.decidableBAll (fun c => c ≠ '\x00') value.toList

def postgresText : Database N D String where
  value := fun scalar =>
    match scalar with
    | .text value => value
    | _ => ""
  order := compare
  like := fun stored operand => like postgresMarks (operand.toList ++ ['%']) stored.toList
  accepts := fun _ _ operand =>
    match operand with
    | .scalar (.text value) => decide (Storable value)
    | _ => true

/-- The query has no other condition. -/
def unconditional : OtherConditions := ⟨[.atom .true], .true, (Reads.atom .true).ofOperand⟩

section Meaning

variable (useMaterializedTable : Bool) (info : DataSeriesQueryInfo)
  (parseDatetime : Json N → Option D)

/-- A row has a value in a field. -/
def HasValue (field value : String) (row : SqlRow String) : Prop :=
  ∀ lhs ∈ fieldLhs useMaterializedTable info field, row lhs = some value

/-- What a query with a prefix finds out about a row; nothing when it fails. -/
def prefixAnswer (row : SqlRow String) (field operand : String) : Option Truth :=
  match computeUserDefinedFilterForRawQuery useMaterializedTable info parseDatetime
      (prefixFilter field operand) with
  | .ok part => executeQuery postgresText row part.queryParams unconditional part.filterQueryStr
  | .error _ => none

/-- The condition is well formed, has the operand bound to it, and holds of the
values that start with the operand. -/
structure MeansPrefix (field operand : String) : Prop where
  binds : ∃ part, computeUserDefinedFilterForRawQuery useMaterializedTable info parseDatetime
    (prefixFilter field operand) = .ok part ∧
      (placeholders part.filterQueryStr).map (fun name => part.queryParams.lookup name) =
        [some (.scalar (.text operand))]
  exact : ∀ value, Storable value → ∀ row, HasValue useMaterializedTable info field value row →
    prefixAnswer useMaterializedTable info parseDatetime row field operand =
      some (.ofBool (decide (operand.toList <+: value.toList)))

/-- Two fields with the same value give the same answer. -/
def SameAnswers (field other operand : String) : Prop :=
  ∀ value, Storable value → ∀ row, HasValue useMaterializedTable info field value row →
    HasValue useMaterializedTable info other value row →
      prefixAnswer useMaterializedTable info parseDatetime row field operand =
        prefixAnswer useMaterializedTable info parseDatetime row other operand

end Meaning

section Compilation

variable {useMaterializedTable : Bool} {info : DataSeriesQueryInfo}
  {parseDatetime : Json N → Option D} {field operand : String} {type : StructureType}

theorem head_ne_dollar (hsafe : validateExternalIdSqlSafe field = true) :
    field.toList.head? ≠ some '$' := by
  intro hhead
  have hmem : '$' ∈ field.toList := List.mem_of_head? hhead
  simp only [validateExternalIdSqlSafe, Bool.and_eq_true, List.all_eq_true] at hsafe
  have hdollar := hsafe.1.1 '$' hmem
  revert hdollar
  decide

theorem filterComparisons_prefixFilter (hsafe : validateExternalIdSqlSafe field = true) :
    filterComparisons (prefixFilter field operand : Json N) =
      [prefixComparison field operand] := by
  obtain ⟨hand, hor, hnot⟩ := ne_operator (head_ne_dollar hsafe)
  rw [prefixFilter, filterComparisons, memberComparisons, keyComparisons_column hand hor hnot,
    memberComparisons, columnComparisons, operatorComparisons, operatorComparisons,
    columnComparisons_of_flat rfl]
  rfl

theorem filterMeaning_prefixFilter (hsafe : validateExternalIdSqlSafe field = true)
    (holds : Comparison N → Truth) :
    filterMeaning holds (prefixFilter field operand) =
      holds (prefixComparison field operand) := by
  obtain ⟨hand, hor, hnot⟩ := ne_operator (head_ne_dollar hsafe)
  rw [prefixFilter, filterMeaning, memberMeanings, keyMeaning_column hand hor hnot,
    memberMeanings, columnMeaning, operatorMeanings, operatorMeanings]
  simp [Truth.all, columnMeaning, prefixComparison]

theorem refusal_prefixFilter (hdistinct : info.ComparableDistinct)
    (htype : info.comparedType field = some type)
    (hprefixed : type = .fact .string ∨ type = .fact .text) :
    refusal info parseDatetime (prefixComparison field operand) = none := by
  rw [refusal, List.findSome?_eq_none_iff]
  intro handler hhandler
  split
  · next hkey =>
      have hmem : handler.type ∈ comparableTypes := by
        rw [← handlers_types parseDatetime]
        exact List.mem_map_of_mem hhandler
      have hsame := (DataSeriesQueryInfo.comparedType_eq_some hdistinct).mpr ⟨hmem, hkey⟩
      have heq : type = handler.type := Option.some.inj (htype.symm.trans hsame)
      rw [heq] at hprefixed
      simp only [handlers, List.mem_cons, List.not_mem_nil, or_false] at hhandler
      rcases hhandler with rfl | rfl | rfl | rfl | rfl | rfl <;>
        rcases hprefixed with hstring | htext <;> first | rfl | cases hstring | cases htext
  · rfl

theorem raised_prefixFilter (hsafe : validateExternalIdSqlSafe field = true)
    (hdistinct : info.ComparableDistinct) (htype : info.comparedType field = some type)
    (hprefixed : type = .fact .string ∨ type = .fact .text) :
    raised (placesOf info parseDatetime (prefixFilter field operand)) = none := by
  have hdollar := head_ne_dollar hsafe
  obtain ⟨hand, hor, hnot⟩ := ne_operator hdollar
  have hrefusal : refusal info parseDatetime (prefixComparison field operand) = none :=
    refusal_prefixFilter hdistinct htype hprefixed
  rw [prefixComparison] at hrefusal
  rw [placesOf, prefixFilter, filterPlaces, memberPlaces, keyPlaces_column hand hor hnot,
    if_neg hdollar, memberPlaces, columnPlaces, operatorPlaces, operatorPlaces, columnPlaces,
    hrefusal]
  · rfl
  · simp

theorem accepted_prefixFilter (hsafe : validateExternalIdSqlSafe field = true)
    (hdistinct : info.ComparableDistinct) (htype : info.comparedType field = some type)
    (hprefixed : type = .fact .string ∨ type = .fact .text) :
    ∃ part text, computeUserDefinedFilterForRawQuery useMaterializedTable info parseDatetime
        (prefixFilter field operand) = .ok part ∧
      AcceptedFilter useMaterializedTable info parseDatetime [] (prefixFilter field operand) text
        part := by
  have hknown : ∀ comparison ∈ filterComparisons (prefixFilter field operand : Json N),
      Known info comparison := by
    rw [filterComparisons_prefixFilter hsafe, List.forall_mem_singleton]
    exact Option.isSome_of_eq_some htype
  obtain ⟨part, hok⟩ := @compute_eq_ok N D info parseDatetime useMaterializedTable _ hdistinct
    (raised_prefixFilter hsafe hdistinct htype hprefixed) hknown
  obtain ⟨text, haccepted⟩ := acceptedFilter_of_compute hdistinct hok
  exact ⟨part, text, hok, haccepted⟩

/-- The comparison of the filter, with the condition that it becomes. -/
theorem numberedAtoms_prefixFilter (hsafe : validateExternalIdSqlSafe field = true)
    (htype : info.comparedType field = some type) {lhs : Lhs}
    (hlhs : fieldLhs useMaterializedTable info field = some lhs) :
    numberedAtoms useMaterializedTable info
        (filterComparisons (prefixFilter field operand : Json N)) 0 =
      [.hasPrefix lhs (filterParamName 0) (prefixSyntaxOf type).cast
        (prefixSyntaxOf type).complete] := by
  rw [filterComparisons_prefixFilter hsafe, numberedAtoms]
  simp only [List.zipIdx_singleton, List.map_singleton, atomOf, prefixComparison, htype, hlhs]
  rfl

variable {part : UserDefinedFilter N D} {text : FilterText}

theorem lookup_prefixFilter
    (haccepted : AcceptedFilter useMaterializedTable info parseDatetime []
      (prefixFilter field operand) text part)
    (hsafe : validateExternalIdSqlSafe field = true)
    (htype : info.comparedType field = some type)
    (hprefixed : type = .fact .string ∨ type = .fact .text) :
    part.queryParams.lookup (filterParamName 0) = some (.scalar (.text operand)) := by
  have hentry : ((prefixComparison field operand : Comparison N), 0) ∈
      (filterComparisons (prefixFilter field operand : Json N)).zipIdx := by
    rw [filterComparisons_prefixFilter hsafe]
    exact List.mem_cons_self
  rw [haccepted.lookup_comparison hentry, operandAt, prefixComparison, htype]
  rcases hprefixed with rfl | rfl
  · rfl
  · rfl

/-- Only conditions that are not always true can be refused. -/
theorem all_accepted_filter {V : Type} (db : Database N D V)
    (queryParams : AList fun _ : String => ParamValue N D) (list : List FilterAtom) :
    list.all (atomAccepted db queryParams) =
      (list.filter fun atom => atom ≠ .always).all (atomAccepted db queryParams) := by
  rw [List.all_filter]
  congr 1
  funext atom
  by_cases halways : atom = .always
  · rw [halways]
    rfl
  · simp [halways]

theorem atoms_prefixFilter
    (haccepted : AcceptedFilter useMaterializedTable info parseDatetime []
      (prefixFilter field operand) text part) :
    atoms part.filterQueryStr = atoms text :=
  haccepted.atoms_filterQueryStr

/-- The answer to a prefix. -/
theorem prefixAnswer_eq (hsafe : validateExternalIdSqlSafe field = true)
    (hdistinct : info.ComparableDistinct) (htype : info.comparedType field = some type)
    (hprefixed : type = .fact .string ∨ type = .fact .text) {value : String} {row : SqlRow String}
    (hvalue : HasValue useMaterializedTable info field value row) :
    prefixAnswer useMaterializedTable info parseDatetime row field operand =
      if (prefixSyntaxOf type).complete ∧ Storable operand then
        some (.ofBool (like postgresMarks (operand.toList ++ ['%']) value.toList))
      else none := by
  obtain ⟨part, text, hok, haccepted⟩ := @accepted_prefixFilter N D useMaterializedTable info
    parseDatetime field operand type hsafe hdistinct htype hprefixed
  obtain ⟨lhs, hlhs⟩ := exists_fieldLhs useMaterializedTable htype
  have hlookup := lookup_prefixFilter haccepted hsafe htype hprefixed
  have hatom : atomTruth postgresText row part.queryParams
      (atomOf useMaterializedTable info
        (prefixComparison field operand : Comparison N) (filterParamName 0)) =
        .ofBool (like postgresMarks (operand.toList ++ ['%']) value.toList) := by
    simp only [atomOf, prefixComparison, htype, hlhs]
    change atomTruth postgresText row part.queryParams (.hasPrefix lhs (filterParamName 0) _ _) = _
    rw [atomTruth, hlookup, hvalue lhs hlhs]
    rfl
  have hagrees : Agrees useMaterializedTable info (atomTruth postgresText row part.queryParams)
      (fun _ => .ofBool (like postgresMarks (operand.toList ++ ['%']) value.toList))
      (filterComparisons (prefixFilter field operand : Json N)) 0 := by
    refine ⟨rfl, ?_⟩
    rw [filterComparisons_prefixFilter hsafe, List.zipIdx_singleton, List.forall_mem_singleton]
    exact hatom
  have haccept : (atoms part.filterQueryStr).all (atomAccepted postgresText part.queryParams) =
      ((prefixSyntaxOf type).complete && decide (Storable operand)) := by
    rw [atoms_prefixFilter haccepted, all_accepted_filter, haccepted.atoms_eq,
      numberedAtoms_prefixFilter hsafe htype hlhs, List.all_cons, List.all_nil, Bool.and_true,
      atomAccepted, hlookup]
    rfl
  have hevaluate : evaluate (unconditional.text ++
      part.filterQueryStr.map (Token.map (atomTruth postgresText row part.queryParams))) =
        some (.ofBool (like postgresMarks (operand.toList ++ ['%']) value.toList)) := by
    rw [haccepted.evaluate_of_agrees postgresText row hagrees, filterMeaning_prefixFilter hsafe]
    exact congrArg some (Truth.true_and _)
  rw [prefixAnswer, hok]
  simp only [executeQuery, haccept, hevaluate, Bool.and_eq_true, decide_eq_true_eq]

theorem placeholders_prefixFilter
    (haccepted : AcceptedFilter useMaterializedTable info parseDatetime []
      (prefixFilter field operand) text part)
    (hsafe : validateExternalIdSqlSafe field = true)
    (htype : info.comparedType field = some (.fact .text)) :
    placeholders part.filterQueryStr = [filterParamName 0] := by
  obtain ⟨lhs, hlhs⟩ := exists_fieldLhs useMaterializedTable htype
  rw [placeholders, atoms_prefixFilter haccepted, filterMap_placeholder, haccepted.atoms_eq,
    numberedAtoms_prefixFilter hsafe htype hlhs]
  rfl

end Compilation

section Main

variable {useMaterializedTable : Bool} {info : DataSeriesQueryInfo}
  {parseDatetime : Json N → Option D} {field operand : String} {type : StructureType}

/-- An operand without NUL in which every symbol stands for itself. -/
def StandsForItself (operand : String) : Prop :=
  Storable operand ∧ Literal postgresMarks operand.toList

instance (operand : String) : Decidable (StandsForItself operand) :=
  haveI : Decidable (Literal postgresMarks operand.toList) := List.decidableBAll _ _
  inferInstanceAs (Decidable (Storable operand ∧ Literal postgresMarks operand.toList))

theorem storable_ofList {symbols : List Char} (hsymbols : ∀ c ∈ symbols, c ≠ '\x00') :
    Storable (String.ofList symbols) := by
  rw [Storable, String.toList_ofList]
  exact hsymbols

theorem ofBool_inj {first second : Bool} (heq : Truth.ofBool first = Truth.ofBool second) :
    first = second := by
  cases first <;> cases second <;> first | rfl | cases heq

/-- LIKE tells apart the values with the prefix exactly when the operand stands
for itself. -/
theorem like_exact_iff :
    (∀ value, Storable value →
      (if Storable operand then
        some (Truth.ofBool (like postgresMarks (operand.toList ++ ['%']) value.toList))
      else none) = some (.ofBool (decide (operand.toList <+: value.toList)))) ↔
      StandsForItself operand := by
  by_cases hstorable : Storable operand
  · have hprefixes := @like_iff_prefix_iff Char _ postgresMarks 'a' (by decide)
      (fun c => c ≠ '\x00') (by decide) (by decide) operand.toList hstorable
    rw [StandsForItself, ← hprefixes]
    simp only [if_pos hstorable]
    constructor
    · intro hexact
      refine ⟨hstorable, ?_⟩
      intro found hfound
      have hanswer := ofBool_inj (Option.some.inj (hexact _ (storable_ofList hfound)))
      rw [String.toList_ofList] at hanswer
      exact (Bool.eq_iff_iff.mp hanswer).trans decide_eq_true_iff
    · intro hlike value hvalue
      have hfound : like postgresMarks (operand.toList ++ ['%']) value.toList = true ↔
          operand.toList <+: value.toList := hlike.2 value.toList hvalue
      rw [Bool.eq_iff_iff.mpr (hfound.trans decide_eq_true_iff.symm)]
  · constructor
    · intro hexact
      have hanswer := hexact "" (by decide)
      rw [if_neg hstorable] at hanswer
      cases hanswer
    · intro hstands
      exact absurd hstands.1 hstorable

theorem exists_row (useMaterializedTable : Bool) (info : DataSeriesQueryInfo)
    (value : String) : ∃ row : SqlRow String, ∀ field,
      HasValue useMaterializedTable info field value row :=
  ⟨fun _ => some value, fun _ _ _ => rfl⟩

variable
  (hsafe : ∀ field, (info.comparedType field).isSome → validateExternalIdSqlSafe field = true)
  (hdistinct : info.ComparableDistinct)
include hsafe hdistinct

theorem meansPrefix_text_iff (htype : info.comparedType field = some (.fact .text)) :
    MeansPrefix useMaterializedTable info parseDatetime field operand ↔
      StandsForItself operand := by
  have hfield := hsafe field (Option.isSome_of_eq_some htype)
  rw [← like_exact_iff]
  constructor
  · intro hmeans value hvalue
    obtain ⟨row, hrow⟩ := exists_row useMaterializedTable info value
    rw [← hmeans.exact value hvalue row (hrow field),
      prefixAnswer_eq hfield hdistinct htype (Or.inr rfl) (hrow field)]
    simp [prefixSyntaxOf]
  · intro hexact
    obtain ⟨part, text, hok, haccepted⟩ := @accepted_prefixFilter N D useMaterializedTable info
      parseDatetime field operand _ hfield hdistinct htype (Or.inr rfl)
    refine ⟨⟨part, hok, ?_⟩, ?_⟩
    · rw [placeholders_prefixFilter haccepted hfield htype, List.map_singleton,
        lookup_prefixFilter haccepted hfield htype (Or.inr rfl)]
    · intro value hvalue row hrow
      rw [← hexact value hvalue, prefixAnswer_eq hfield hdistinct htype (Or.inr rfl) hrow]
      simp [prefixSyntaxOf]

/-- On a string fact the driver refuses the placeholder. -/
theorem prefixAnswer_string (htype : info.comparedType field = some (.fact .string))
    {value : String} {row : SqlRow String}
    (hrow : HasValue useMaterializedTable info field value row) :
    prefixAnswer useMaterializedTable info parseDatetime row field operand = none := by
  have hfield := hsafe field (Option.isSome_of_eq_some htype)
  rw [prefixAnswer_eq hfield hdistinct htype (Or.inl rfl) hrow]
  simp [prefixSyntaxOf]

theorem not_meansPrefix_string (htype : info.comparedType field = some (.fact .string)) :
    ¬ MeansPrefix useMaterializedTable info parseDatetime field operand := by
  intro hmeans
  obtain ⟨row, hrow⟩ := exists_row useMaterializedTable info ""
  have hanswer := hmeans.exact "" (by decide) row (hrow field)
  rw [prefixAnswer_string hsafe hdistinct htype (hrow field)] at hanswer
  cases hanswer

theorem sameAnswers_iff {other : String} (htype : info.comparedType field = some (.fact .string))
    (hother : info.comparedType other = some (.fact .text)) :
    SameAnswers useMaterializedTable info parseDatetime field other operand ↔
      ¬ Storable operand := by
  have hfield := hsafe other (Option.isSome_of_eq_some hother)
  constructor
  · intro hsame hstorable
    obtain ⟨row, hrow⟩ := exists_row useMaterializedTable info ""
    have hanswer := hsame "" (by decide) row (hrow field) (hrow other)
    rw [prefixAnswer_string hsafe hdistinct htype (hrow field),
      prefixAnswer_eq hfield hdistinct hother (Or.inr rfl) (hrow other),
      if_pos ⟨rfl, hstorable⟩] at hanswer
    cases hanswer
  · intro hrefused value hvalue row hrow hrowOther
    rw [prefixAnswer_string hsafe hdistinct htype hrow,
      prefixAnswer_eq hfield hdistinct hother (Or.inr rfl) hrowOther,
      if_neg fun hboth => hrefused hboth.2]

end Main

/-- A prefix means its prefix exactly on text facts, for operands that stand for
themselves, and the two types of facts agree only in refusing an operand. -/
theorem prefix_filter_iff (useMaterializedTable : Bool) (info : DataSeriesQueryInfo)
    (parseDatetime : Json N → Option D) (operand : String)
    (hsafe : ∀ field, (info.comparedType field).isSome → validateExternalIdSqlSafe field = true)
    (hdistinct : info.ComparableDistinct) :
    (∀ field type, info.comparedType field = some type →
      type = .fact .string ∨ type = .fact .text →
        (MeansPrefix useMaterializedTable info parseDatetime field operand ↔
          type = .fact .text ∧ StandsForItself operand)) ∧
    ∀ field other, info.comparedType field = some (.fact .string) →
      info.comparedType other = some (.fact .text) →
        (SameAnswers useMaterializedTable info parseDatetime field other operand ↔
          ¬ Storable operand) := by
  refine ⟨?_, fun field other htype hother => sameAnswers_iff hsafe hdistinct htype hother⟩
  rintro field type htype (rfl | rfl)
  · refine iff_of_false (not_meansPrefix_string hsafe hdistinct htype) ?_
    rintro ⟨hstring, -⟩
    cases hstring
  · rw [meansPrefix_text_iff hsafe hdistinct htype]
    exact (and_iff_right rfl).symm

namespace PrefixWitness

/-- A data series with a string fact and a text fact. -/
def info : DataSeriesQueryInfo :=
  { FilterWitness.info with
    children := fun type =>
      match type with
      | .fact .string => AList.singleton "f" (FilterWitness.field "f")
      | .fact .text => AList.singleton "t" (FilterWitness.field "t")
      | _ => ∅ }

theorem mem_children {type : StructureType} {field : String} (hmem : field ∈ info.children type) :
    type = .fact .string ∧ field = "f" ∨ type = .fact .text ∧ field = "t" := by
  cases type with
  | dimension => exact absurd hmem (AList.notMem_empty field)
  | fact type =>
      cases type with
      | string => exact Or.inl ⟨rfl, List.mem_singleton.mp hmem⟩
      | text => exact Or.inr ⟨rfl, List.mem_singleton.mp hmem⟩
      | _ => exact absurd hmem (AList.notMem_empty field)

theorem info_distinct : info.ComparableDistinct := by
  intro type _ other _ field hmem hother
  rcases mem_children hmem with ⟨rfl, rfl⟩ | ⟨rfl, rfl⟩ <;>
    rcases mem_children hother with ⟨rfl, hsame⟩ | ⟨rfl, hsame⟩ <;>
      first | rfl | exact absurd hsame (by decide)

theorem info_safe (field : String) (hsome : (info.comparedType field).isSome) :
    validateExternalIdSqlSafe field = true := by
  obtain ⟨type, htype⟩ := Option.isSome_iff_exists.mp hsome
  have hmem := ((DataSeriesQueryInfo.comparedType_eq_some info_distinct).mp htype).2
  rcases mem_children hmem with ⟨-, rfl⟩ | ⟨-, rfl⟩
  · decide
  · decide

/-- The operand `a` means its prefix on the text fact and on the string fact it
does not. -/
theorem letter_stands_for_itself :
    MeansPrefix true info (fun _ : Json Int => (none : Option Int)) "t" "a" ∧
      ¬ SameAnswers true info (fun _ : Json Int => (none : Option Int)) "f" "t" "a" := by
  obtain ⟨hmeans, hsame⟩ := prefix_filter_iff true info
    (fun _ : Json Int => (none : Option Int)) "a" info_safe info_distinct
  constructor
  · exact (hmeans "t" (.fact .text) rfl (Or.inr rfl)).mpr ⟨rfl, by decide⟩
  · rw [hsame "f" "t" rfl rfl]
    decide

/-- `{"f": {"$prefix": "a"}}` fails on a string fact, and `{"t": {"$prefix": "_"}}`
holds of a text without the prefix. -/
theorem string_prefix_fails :
    ¬ MeansPrefix true info (fun _ : Json Int => (none : Option Int)) "f" "a" ∧
      ¬ MeansPrefix true info (fun _ : Json Int => (none : Option Int)) "t" "_" := by
  have hrow : ∀ field, HasValue true info field "a" fun _ => some "a" := fun _ _ _ => rfl
  constructor
  · intro hmeans
    have hanswer := hmeans.exact "a" (by decide) (fun _ => some "a") (hrow "f")
    cases hanswer
  · intro hmeans
    have hanswer := hmeans.exact "a" (by decide) (fun _ => some "a") (hrow "t")
    revert hanswer
    decide

end PrefixWitness

end NFCompose
