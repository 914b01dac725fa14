/-
What an accepted filter can leave out.  The columns of a filter are read as they
are written; an accepted filter uses all of it unless a column has an empty
dictionary, or a dictionary as an operand, or an operand that only passes for
one of the type.
-/
import NFCompose.FilterErrors
import NFCompose.PartialRuns

namespace NFCompose

open PartialRuns SqlConditions

variable {N D : Type}

section Columns

mutual

/-- The columns of a filter, in order, with what is written under them. -/
def filterColumns : Json N → List (String × Json N)
  | .object members => memberColumns members
  | _ => []

def memberColumns : List (String × Json N) → List (String × Json N)
  | [] => []
  | (key, value) :: rest => keyColumns key value ++ memberColumns rest

def keyColumns (key : String) (value : Json N) : List (String × Json N) :=
  if key = "$and" ∨ key = "$or" then
    match value with
    | .array items => itemColumns items
    | _ => []
  else if key = "$not" then
    match value with
    | .object members => memberColumns members
    | _ => []
  else [(key, value)]

def itemColumns : List (Json N) → List (String × Json N)
  | [] => []
  | item :: rest => filterColumns item ++ itemColumns rest

end

/-- What is written under a column: one comparison for each operator of a
dictionary. -/
def writtenUnder (column : String) : Json N → List (Comparison N)
  | .object members => members.map fun member => ⟨column, member.1, member.2⟩
  | value => [⟨column, "$eq", value⟩]

def writtenComparisons (filter : Json N) : List (Comparison N) :=
  (filterColumns filter).flatMap fun column => writtenUnder column.1 column.2

def Json.isObject : Json N → Bool
  | .object _ => true
  | _ => false

end Columns

section Specification

/-- The operators that a type of children knows. -/
def supportedOperators (type : StructureType) : List String :=
  singleValuedSqlOperators.map Prod.fst ++
    (if type = .fact .string ∨ type = .fact .text then ["$prefix"] else []) ++
    multiValuedSqlOperators.map Prod.fst

variable (parseDatetime : Json N → Option D)

/-- A value is one of the type itself. -/
def hasOwnType : StructureType → Json N → Bool
  | .fact .float, .number _ => true
  | .fact .string, .string _ => true
  | .fact .text, .string _ => true
  | .fact .timestamp, .string text => (parseDatetime (.string text)).isSome
  | .fact .boolean, .boolean _ => true
  | .dimension, .string _ => true
  | _, _ => false

/-- The values that a column is compared with; a test for null has none. -/
def operandValues (comparison : Comparison N) : List (Json N) :=
  if (comparison.operator = "$eq" ∨ comparison.operator = "$ne") ∧ comparison.value.isNull then []
  else if comparison.operator = "$in" ∨ comparison.operator = "$nin" then
    match comparison.value with
    | .array items => items
    | value => [value]
  else [comparison.value]

/-- A value that passes for one of the type: a boolean for a number, and any
text that a value has for a timestamp. -/
def passesFor : StructureType → Json N → Bool
  | .fact .float, .boolean _ => true
  | .fact .timestamp, .string _ => false
  | .fact .timestamp, _ => true
  | _, _ => false

/-- Everything that is written in a filter is used as it is written. -/
structure IgnoresNothing (useMaterializedTable : Bool) (info : DataSeriesQueryInfo)
    (filter : Json N) (part : UserDefinedFilter N D) : Prop where
  filterable : ∀ column ∈ filterColumns filter, (info.comparedType column.1).isSome
  supported : ∀ comparison ∈ writtenComparisons filter,
    ∀ type ∈ info.comparedType comparison.key, comparison.operator ∈ supportedOperators type
  lists : ∀ comparison ∈ writtenComparisons filter,
    comparison.operator = "$in" ∨ comparison.operator = "$nin" →
      ∃ items, comparison.value = .array items
  typed : ∀ comparison ∈ writtenComparisons filter,
    ∀ type ∈ info.comparedType comparison.key, ∀ value ∈ operandValues comparison,
      hasOwnType parseDatetime type value = true
  contributes : (atoms part.filterQueryStr).filter (fun atom => atom ≠ .always) =
    numberedAtoms useMaterializedTable info (writtenComparisons filter) 0
  operands : ∀ entry ∈ (writtenComparisons filter).zipIdx,
    part.queryParams.lookup (filterParamName entry.2) = operandAt info parseDatetime entry.1

/-- Nothing in a filter slips through: an empty dictionary is under a field, no
operand is a dictionary, and none only passes for one of the type. -/
structure NothingSlips (info : DataSeriesQueryInfo) (filter : Json N) : Prop where
  empty : ∀ column, (column, Json.object []) ∈ filterColumns filter →
    (info.comparedType column).isSome
  flat : ∀ comparison ∈ writtenComparisons filter, comparison.value.isObject = false
  own : ∀ comparison ∈ writtenComparisons filter, ∀ type ∈ info.comparedType comparison.key,
    ∀ value ∈ operandValues comparison, passesFor type value = false

end Specification

section Reading

mutual

theorem filterComparisons_eq (filter : Json N) :
    filterComparisons filter = (filterColumns filter).flatMap fun column =>
      columnComparisons column.1 "$eq" column.2 := by
  cases filter with
  | object members =>
      rw [filterComparisons, filterColumns]
      exact memberComparisons_eq members
  | _ => rfl

theorem memberComparisons_eq (members : List (String × Json N)) :
    memberComparisons members = (memberColumns members).flatMap fun column =>
      columnComparisons column.1 "$eq" column.2 := by
  match members with
  | [] => rfl
  | (key, value) :: rest =>
      rw [memberComparisons, memberColumns, List.flatMap_append, keyComparisons_eq key value,
        memberComparisons_eq rest]

theorem keyComparisons_eq (key : String) (value : Json N) :
    keyComparisons key value = (keyColumns key value).flatMap fun column =>
      columnComparisons column.1 "$eq" column.2 := by
  by_cases hboth : key = "$and" ∨ key = "$or"
  · cases value with
    | array items =>
        simp only [keyComparisons, keyColumns, if_pos hboth]
        exact itemComparisons_eq items
    | _ => simp [keyComparisons, keyColumns, if_pos hboth]
  · by_cases hnot : key = "$not"
    · cases value with
      | object members =>
          simp only [keyComparisons, keyColumns, if_neg hboth, if_pos hnot]
          exact memberComparisons_eq members
      | _ => simp [keyComparisons, keyColumns, if_neg hboth, if_pos hnot]
    · cases value <;>
        simp [keyComparisons, keyColumns, if_neg hboth, if_neg hnot]

theorem itemComparisons_eq (items : List (Json N)) :
    itemComparisons items = (itemColumns items).flatMap fun column =>
      columnComparisons column.1 "$eq" column.2 := by
  match items with
  | [] => rfl
  | item :: rest =>
      rw [itemComparisons, itemColumns, List.flatMap_append, filterComparisons_eq item,
        itemComparisons_eq rest]

end

theorem columnComparisons_of_flat {column operator : String} {value : Json N}
    (hflat : value.isObject = false) :
    columnComparisons column operator value = [⟨column, operator, value⟩] := by
  cases value with
  | object members => cases hflat
  | _ => rfl

theorem operatorComparisons_of_flat {column : String} {members : List (String × Json N)}
    (hflat : ∀ member ∈ members, member.2.isObject = false) :
    operatorComparisons column members =
      members.map fun member => ⟨column, member.1, member.2⟩ := by
  induction members with
  | nil => rfl
  | cons member rest ih =>
      rw [List.forall_mem_cons] at hflat
      obtain ⟨operator, value⟩ := member
      rw [operatorComparisons, columnComparisons_of_flat hflat.1, ih hflat.2]
      rfl

theorem columnComparisons_eq_written {column : String} {value : Json N}
    (hflat : ∀ comparison ∈ writtenUnder column value, comparison.value.isObject = false) :
    columnComparisons column "$eq" value = writtenUnder column value := by
  cases value with
  | object members =>
      rw [columnComparisons, writtenUnder]
      apply operatorComparisons_of_flat
      intro member hmember
      exact hflat ⟨column, member.1, member.2⟩ (List.mem_map_of_mem hmember)
  | _ => rfl

/-- Without dictionaries among the operands, a filter is compiled as it is
written. -/
theorem writtenComparisons_eq {filter : Json N}
    (hflat : ∀ comparison ∈ writtenComparisons filter, comparison.value.isObject = false) :
    filterComparisons filter = writtenComparisons filter := by
  rw [filterComparisons_eq, writtenComparisons]
  apply List.flatMap_congr
  intro column hcolumn
  apply columnComparisons_eq_written
  intro comparison hmem
  exact hflat comparison (List.mem_flatMap_of_mem hcolumn hmem)

end Reading

section Acceptance

variable {info : DataSeriesQueryInfo} {parseDatetime : Json N → Option D} {maxDepth : Nat}

theorem raised_append_eq_none {first second : List (Place N)} :
    raised (first ++ second) = none ↔ raised first = none ∧ raised second = none := by
  rw [raised_append, Option.or_eq_none_iff]

mutual

theorem refusal_column {frames : Nat} {column operator : String} {value : Json N}
    (hnone : raised (columnPlaces info parseDatetime frames column operator value) = none) :
    ∀ comparison ∈ columnComparisons column operator value,
      refusal info parseDatetime comparison = none := by
  cases value with
  | object members =>
      rw [columnComparisons]
      rw [columnPlaces] at hnone
      exact refusal_operators hnone
  | _ =>
      rw [columnComparisons]
      · simpa [columnPlaces, raised] using hnone
      all_goals simp

theorem refusal_operators {frames : Nat} {column : String} {members : List (String × Json N)}
    (hnone : raised (operatorPlaces info parseDatetime frames column members) = none) :
    ∀ comparison ∈ operatorComparisons column members,
      refusal info parseDatetime comparison = none := by
  match members with
  | [] =>
      intro comparison hmem
      cases hmem
  | (operator, value) :: rest =>
      rw [operatorPlaces, raised_append_eq_none] at hnone
      rw [operatorComparisons, List.forall_mem_append]
      exact ⟨refusal_column hnone.1, refusal_operators hnone.2⟩

end

mutual

/-- Where nothing is raised, no comparison is refused. -/
theorem refusal_filter {depth : Nat} {filter : Json N}
    (hnone : raised (filterPlaces info parseDatetime maxDepth depth filter) = none) :
    ∀ comparison ∈ filterComparisons filter, refusal info parseDatetime comparison = none := by
  cases filter with
  | object members =>
      rw [filterComparisons]
      rw [filterPlaces, ← List.singleton_append, raised_append_eq_none] at hnone
      exact refusal_members hnone.2
  | _ =>
      intro comparison hmem
      cases hmem

theorem refusal_members {depth : Nat} {members : List (String × Json N)}
    (hnone : raised (memberPlaces info parseDatetime maxDepth depth members) = none) :
    ∀ comparison ∈ memberComparisons members, refusal info parseDatetime comparison = none := by
  match members with
  | [] =>
      intro comparison hmem
      cases hmem
  | (key, value) :: rest =>
      rw [memberPlaces, raised_append_eq_none] at hnone
      rw [memberComparisons, List.forall_mem_append]
      exact ⟨refusal_key hnone.1, refusal_members hnone.2⟩

theorem refusal_key {depth : Nat} {key : String} {value : Json N}
    (hnone : raised (keyPlaces info parseDatetime maxDepth depth key value) = none) :
    ∀ comparison ∈ keyComparisons key value, refusal info parseDatetime comparison = none := by
  by_cases hboth : key = "$and" ∨ key = "$or"
  · cases value with
    | array items =>
        have hitems : raised (itemPlaces info parseDatetime maxDepth (depth + 1) items) = none := by
          cases items with
          | nil =>
              rw [itemPlaces]
              rfl
          | cons item rest =>
              rcases hboth with rfl | rfl
              · simpa [keyPlaces] using hnone
              · simpa [keyPlaces] using hnone
        simp only [keyComparisons, if_pos hboth]
        exact refusal_items hitems
    | _ => simp [keyComparisons, if_pos hboth]
  · obtain ⟨hand, hor⟩ := not_or.mp hboth
    by_cases hnot : key = "$not"
    · cases value with
      | object members =>
          have hmembers : raised
              (memberPlaces info parseDatetime maxDepth (depth + 1) members) = none := by
            cases members with
            | nil =>
                rw [memberPlaces]
                rfl
            | cons member rest =>
                simp only [keyPlaces, hnot, String.reduceEq, ↓reduceIte, List.isEmpty_cons,
                  Bool.false_eq_true] at hnone
                rw [← List.singleton_append, raised_append_eq_none] at hnone
                exact hnone.2
          simp only [keyComparisons, hnot, String.reduceEq, or_self, ↓reduceIte]
          exact refusal_members hmembers
      | _ => simp [keyComparisons, hnot]
    · rw [keyPlaces_column hand hor hnot] at hnone
      rw [keyComparisons_column hand hor hnot]
      split at hnone
      · cases hnone
      · exact refusal_column hnone

theorem refusal_items {depth : Nat} {items : List (Json N)}
    (hnone : raised (itemPlaces info parseDatetime maxDepth depth items) = none) :
    ∀ comparison ∈ itemComparisons items, refusal info parseDatetime comparison = none := by
  match items with
  | [] =>
      intro comparison hmem
      cases hmem
  | item :: rest =>
      rw [itemPlaces, raised_append_eq_none] at hnone
      rw [itemComparisons, List.forall_mem_append]
      exact ⟨refusal_filter hnone.1, refusal_items hnone.2⟩

end

/-- An accepted filter has no comparison that its handler refuses. -/
theorem refusal_of_accepted {useMaterializedTable : Bool} {filter : Json N}
    {part : UserDefinedFilter N D}
    (hok : computeUserDefinedFilterForRawQuery useMaterializedTable info parseDatetime filter =
      .ok part) :
    ∀ comparison ∈ filterComparisons filter, refusal info parseDatetime comparison = none := by
  have htraced : Traced (complexFilterToSqlFilter (fun column value => handleColumn
      useMaterializedTable info parseDatetime column "$eq" value) 10 0 filter)
      (placesOf info parseDatetime filter) := traced_complexFilter 0 filter
  have herror := htraced (.initial info)
  simp only [computeUserDefinedFilterForRawQuery, bind, Except.bind] at hok
  split at hok
  · cases hok
  · next pair hcomplex =>
      rw [hcomplex] at herror
      exact refusal_filter herror.symm

theorem refusal_eq_none {comparison : Comparison N} {type : StructureType}
    (hnone : refusal info parseDatetime comparison = none)
    (htype : info.comparedType comparison.key = some type) :
    ∃ handler ∈ handlers parseDatetime, handler.type = type ∧
      handler.refusal comparison = none := by
  have hfound := List.find?_some htype
  have hmem := List.mem_of_find?_eq_some htype
  rw [← handlers_types parseDatetime] at hmem
  obtain ⟨handler, hhandler, rfl⟩ := List.mem_map.mp hmem
  have hrefusal := List.findSome?_eq_none_iff.mp hnone handler hhandler
  rw [if_pos (by simpa using hfound)] at hrefusal
  exact ⟨handler, hhandler, rfl, hrefusal⟩

theorem hasOwnType_of_scalar {handler : FieldHandler N D}
    (hhandler : handler ∈ handlers parseDatetime) {value : Json N}
    (hscalar : (handler.scalar value).isSome) (hown : passesFor handler.type value = false) :
    hasOwnType parseDatetime handler.type value = true := by
  simp only [handlers, List.mem_cons, List.not_mem_nil, or_false] at hhandler
  rcases hhandler with rfl | rfl | rfl | rfl | rfl | rfl <;>
    cases value <;> simp_all [floatHandler, stringHandler, textHandler, timestampHandler,
      booleanHandler, dimensionHandler, numericScalar, textScalar, booleanScalar, hasOwnType,
      passesFor]

theorem prefixSyntax_isSome {handler : FieldHandler N D}
    (hhandler : handler ∈ handlers parseDatetime) (hsome : handler.prefixSyntax.isSome) :
    handler.type = .fact .string ∨ handler.type = .fact .text := by
  simp only [handlers, List.mem_cons, List.not_mem_nil, or_false] at hhandler
  rcases hhandler with rfl | rfl | rfl | rfl | rfl | rfl
  · cases hsome
  · exact Or.inl rfl
  · exact Or.inr rfl
  · cases hsome
  · cases hsome
  · cases hsome

theorem lookup_isSome_mem {B : Type} {entries : List (String × B)} {key : String}
    (hsome : (entries.lookup key).isSome) : key ∈ entries.map Prod.fst := by
  obtain ⟨value, hlookup⟩ := Option.isSome_iff_exists.mp hsome
  obtain ⟨before, after, rfl, -⟩ := List.lookup_eq_some_iff.mp hlookup
  simp

/-- A handler that does not refuse knows the operator, and takes the values. -/
theorem supported_of_refusal {handler : FieldHandler N D}
    (hhandler : handler ∈ handlers parseDatetime) {comparison : Comparison N}
    (hnone : handler.refusal comparison = none) :
    comparison.operator ∈ supportedOperators handler.type ∧
      (comparison.operator = "$in" ∨ comparison.operator = "$nin" →
        ∃ items, comparison.value = .array items) ∧
      ∀ value ∈ operandValues comparison, (handler.scalar value).isSome := by
  rw [FieldHandler.refusal] at hnone
  by_cases hnull : (comparison.operator = "$eq" ∨ comparison.operator = "$ne") ∧
      comparison.value.isNull
  · rw [operandValues, if_pos hnull]
    rcases hnull.1 with heq | heq
    · rw [heq]
      simp [supportedOperators, singleValuedSqlOperators]
    · rw [heq]
      simp [supportedOperators, singleValuedSqlOperators]
  · rw [if_neg hnull] at hnone
    rw [operandValues, if_neg hnull]
    by_cases hsingle : (singleValuedSqlOperators.lookup comparison.operator).isSome ∨
        (comparison.operator = "$prefix" ∧ handler.prefixSyntax.isSome)
    · rw [if_pos hsingle] at hnone
      have hscalar : (handler.scalar comparison.value).isSome := by
        by_contra hno
        rw [if_neg hno] at hnone
        cases hnone
      have hmulti : ¬ (comparison.operator = "$in" ∨ comparison.operator = "$nin") := by
        rcases hsingle with hlookup | ⟨hstarts, -⟩
        · obtain ⟨sqlOperator, hsome⟩ := Option.isSome_iff_exists.mp hlookup
          obtain ⟨hin, hnin⟩ := lookup_singleValued hsome
          exact fun hmulti => hmulti.elim hin hnin
        · rw [hstarts]
          decide
      rw [if_neg hmulti, List.forall_mem_singleton]
      refine ⟨?_, fun hoperator => absurd hoperator hmulti, hscalar⟩
      rw [supportedOperators, List.mem_append, List.mem_append]
      rcases hsingle with hlookup | ⟨hstarts, hsome⟩
      · exact Or.inl (Or.inl (lookup_isSome_mem hlookup))
      · rw [if_pos (prefixSyntax_isSome hhandler hsome), hstarts]
        exact Or.inl (Or.inr List.mem_cons_self)
    · rw [if_neg hsingle] at hnone
      by_cases hlookup : (multiValuedSqlOperators.lookup comparison.operator).isSome
      · rw [if_pos hlookup] at hnone
        obtain ⟨negated, hsome⟩ := Option.isSome_iff_exists.mp hlookup
        obtain ⟨hmulti, -⟩ := lookup_multiValued hsome
        refine ⟨List.mem_append_right _ (lookup_isSome_mem hlookup), ?_⟩
        rw [if_pos hmulti]
        cases hvalue : comparison.value with
        | array items =>
            rw [hvalue] at hnone
            refine ⟨fun _ => ⟨items, rfl⟩, ?_⟩
            apply isSome_of_mapM
            by_contra hno
            simp only [if_neg hno] at hnone
            cases hnone
        | _ =>
            rw [hvalue] at hnone
            cases hnone
      · rw [if_neg hlookup] at hnone
        cases hnone

end Acceptance

section Main

variable {info : DataSeriesQueryInfo} {parseDatetime : Json N → Option D}

/-- An accepted filter is one of the compiled filters, without external ids. -/
theorem acceptedFilter_of_compute {useMaterializedTable : Bool} {filter : Json N}
    {part : UserDefinedFilter N D} (hdistinct : info.ComparableDistinct)
    (hok : computeUserDefinedFilterForRawQuery useMaterializedTable info parseDatetime filter =
      .ok part) :
    ∃ text, AcceptedFilter useMaterializedTable info parseDatetime [] filter text part := by
  have hpart : precomputeFilterPart none filter info useMaterializedTable parseDatetime =
      .ok ⟨part.filterQueryStr, part.queryParams ∪ ∅, part.usedDataSeriesChildren⟩ := by
    rw [precomputeFilterPart, hok]
    rfl
  rw [AList.union_empty] at hpart
  exact precomputeFilterPart_eq_ok hdistinct hpart

/-- A filter is accepted when nothing is raised at its places and its keys are
known. -/
theorem compute_eq_ok {useMaterializedTable : Bool} {filter : Json N}
    (hdistinct : info.ComparableDistinct)
    (hraised : raised (placesOf info parseDatetime filter) = none)
    (hknown : ∀ comparison ∈ filterComparisons filter, Known info comparison) :
    ∃ part, computeUserDefinedFilterForRawQuery useMaterializedTable info parseDatetime filter =
      .ok part := by
  have htraced : Traced (complexFilterToSqlFilter (fun column value => handleColumn
      useMaterializedTable info parseDatetime column "$eq" value) 10 0 filter)
      (placesOf info parseDatetime filter) := traced_complexFilter 0 filter
  have herror := htraced (.initial info)
  rw [hraised] at herror
  cases hcomplex : complexFilterToSqlFilter (fun column value => handleColumn
      useMaterializedTable info parseDatetime column "$eq" value) 10 0 filter (.initial info) with
  | error error =>
      rw [hcomplex] at herror
      cases herror
  | ok pair =>
      have hcompiled := compiled_complexFilter hdistinct 0 filter hcomplex
      have hhandled : pair.2.keysOverall.filter (fun key => key ∉ pair.2.handledKeys) = [] := by
        rw [List.filter_eq_nil_iff, hcompiled.state_eq]
        intro key hkey
        rw [decide_eq_true_eq, not_not, mem_handledKeys_foldl]
        rcases mem_keysOverall_foldl.mp hkey with hinitial | ⟨comparison, hmem, rfl⟩
        · cases hinitial
        · exact Or.inr ⟨comparison, hmem, rfl, hknown comparison hmem⟩
      simp only [computeUserDefinedFilterForRawQuery, hcomplex, bind, Except.bind, ne_eq,
        if_neg (not_not.mpr hhandled)]
      exact ⟨_, rfl⟩

theorem mem_writtenComparisons {filter : Json N} {column : String × Json N}
    (hcolumn : column ∈ filterColumns filter) {comparison : Comparison N}
    (hmem : comparison ∈ writtenUnder column.1 column.2) :
    comparison ∈ writtenComparisons filter :=
  List.mem_flatMap_of_mem hcolumn hmem

theorem key_of_mem_written {filter : Json N} {comparison : Comparison N}
    (hmem : comparison ∈ writtenComparisons filter) :
    ∃ column ∈ filterColumns filter, comparison.key = column.1 := by
  obtain ⟨column, hcolumn, hunder⟩ := List.mem_flatMap.mp hmem
  refine ⟨column, hcolumn, ?_⟩
  obtain ⟨name, value⟩ := column
  cases value with
  | object members =>
      obtain ⟨member, -, rfl⟩ := List.mem_map.mp hunder
      rfl
  | _ =>
      cases List.mem_singleton.mp hunder
      rfl

/-- Under a column that is not an empty dictionary something is written. -/
theorem exists_written {filter : Json N} {column : String × Json N}
    (hcolumn : column ∈ filterColumns filter) :
    column.2 = .object [] ∨ ∃ comparison ∈ writtenComparisons filter,
      comparison.key = column.1 := by
  obtain ⟨name, value⟩ := column
  cases value with
  | object members =>
      cases members with
      | nil => exact Or.inl rfl
      | cons member rest =>
          right
          exact ⟨⟨name, member.1, member.2⟩,
            mem_writtenComparisons hcolumn List.mem_cons_self, rfl⟩
  | _ =>
      right
      exact ⟨_, mem_writtenComparisons hcolumn List.mem_cons_self, rfl⟩

theorem hasOwnType_object {type : StructureType} {members : List (String × Json N)} :
    hasOwnType parseDatetime type (.object members) = false := by
  cases type with
  | dimension => rfl
  | fact type => cases type <;> rfl

theorem passesFor_of_hasOwnType {type : StructureType} {value : Json N}
    (hown : hasOwnType parseDatetime type value = true) : passesFor type value = false := by
  cases type with
  | dimension => rfl
  | fact type => cases type <;> cases value <;> first | rfl | cases hown

theorem nothingSlips_of_ignoresNothing {useMaterializedTable : Bool} {filter : Json N}
    {part : UserDefinedFilter N D}
    (hnothing : IgnoresNothing parseDatetime useMaterializedTable info filter part) :
    NothingSlips info filter := by
  refine ⟨?_, ?_, ?_⟩
  · intro column hcolumn
    exact hnothing.filterable _ hcolumn
  · intro comparison hmem
    obtain ⟨column, hcolumn, hkey⟩ := key_of_mem_written hmem
    have hknown := hnothing.filterable column hcolumn
    rw [← hkey] at hknown
    obtain ⟨type, htype⟩ := Option.isSome_iff_exists.mp hknown
    have htyped := hnothing.typed comparison hmem type htype
    cases hvalue : comparison.value with
    | object members =>
        have hin : comparison.value ∈ operandValues comparison := by
          rw [operandValues, hvalue]
          simp [Json.isNull]
        have hown := htyped comparison.value hin
        rw [hvalue, hasOwnType_object] at hown
        cases hown
    | _ => rfl
  · intro comparison hmem type htype value hvalue
    exact passesFor_of_hasOwnType (hnothing.typed comparison hmem type htype value hvalue)

theorem ignoresNothing_of_nothingSlips {useMaterializedTable : Bool} {filter : Json N}
    {part : UserDefinedFilter N D} (hdistinct : info.ComparableDistinct)
    (hok : computeUserDefinedFilterForRawQuery useMaterializedTable info parseDatetime filter =
      .ok part) (hslips : NothingSlips info filter) :
    IgnoresNothing parseDatetime useMaterializedTable info filter part := by
  have hwritten := writtenComparisons_eq hslips.flat
  obtain ⟨text, haccepted⟩ := acceptedFilter_of_compute hdistinct hok
  have hknown := haccepted.known
  have hatoms := haccepted.atoms_eq
  have htext : part.filterQueryStr = .and :: text := haccepted.filterQueryStr
  have hlookup : ∀ entry ∈ (filterComparisons filter).zipIdx,
      part.queryParams.lookup (filterParamName entry.2) = operandAt info parseDatetime entry.1 :=
    fun _ hentry => haccepted.lookup_comparison hentry
  have hrefusal := refusal_of_accepted hok
  rw [hwritten] at hknown hatoms hlookup hrefusal
  have hhandled : ∀ comparison ∈ writtenComparisons filter,
      ∀ type ∈ info.comparedType comparison.key, comparison.operator ∈ supportedOperators type ∧
        (comparison.operator = "$in" ∨ comparison.operator = "$nin" →
          ∃ items, comparison.value = .array items) ∧
        ∀ value ∈ operandValues comparison, hasOwnType parseDatetime type value = true := by
    intro comparison hmem type htype
    obtain ⟨handler, hhandler, rfl, hnone⟩ := refusal_eq_none (hrefusal comparison hmem) htype
    obtain ⟨hoperator, hlist, hscalars⟩ := supported_of_refusal hhandler hnone
    refine ⟨hoperator, hlist, ?_⟩
    intro value hvalue
    exact hasOwnType_of_scalar hhandler (hscalars value hvalue)
      (hslips.own comparison hmem handler.type htype value hvalue)
  refine ⟨?_, ?_, ?_, ?_, ?_, hlookup⟩
  · intro column hcolumn
    rcases exists_written hcolumn with hempty | ⟨comparison, hmem, hkey⟩
    · apply hslips.empty
      rw [← hempty]
      exact hcolumn
    · rw [← hkey]
      exact hknown comparison hmem
  · intro comparison hmem type htype
    exact (hhandled comparison hmem type htype).1
  · intro comparison hmem
    obtain ⟨type, htype⟩ := Option.isSome_iff_exists.mp (hknown comparison hmem)
    exact (hhandled comparison hmem type htype).2.1
  · intro comparison hmem type htype
    exact (hhandled comparison hmem type htype).2.2
  · rw [htext]
    exact hatoms

/-- An accepted filter ignores nothing exactly when nothing slips through. -/
theorem ignoresNothing_iff (useMaterializedTable : Bool) (info : DataSeriesQueryInfo)
    (parseDatetime : Json N → Option D) (filter : Json N) (part : UserDefinedFilter N D)
    (hdistinct : info.ComparableDistinct)
    (hok : computeUserDefinedFilterForRawQuery useMaterializedTable info parseDatetime filter =
      .ok part) :
    IgnoresNothing parseDatetime useMaterializedTable info filter part ↔
      NothingSlips info filter :=
  ⟨nothingSlips_of_ignoresNothing, ignoresNothing_of_nothingSlips hdistinct hok⟩

end Main

namespace FilterAcceptanceWitness

open FilterWitness

def compute (filter : Json Int) : Except (FilterError Int) (UserDefinedFilter Int Int) :=
  computeUserDefinedFilterForRawQuery true info (fun _ => none) filter

/-- `{"$not": {"g": {}}}`, where there is no field `g`: everything is filtered
out. -/
def unknownField : Json Int := .object [("$not", .object [("g", .object [])])]

theorem unknown_field_ignored :
    ∃ part, compute unknownField = .ok part ∧
      ¬ IgnoresNothing (fun _ => (none : Option Int)) true info unknownField part := by
  refine ⟨_, rfl, ?_⟩
  intro hnothing
  have hknown := hnothing.filterable ("g", .object []) (by simp [unknownField, filterColumns,
    memberColumns, keyColumns])
  cases hknown

/-- `{"f": {"$gte": "a", "$lt": "b"}}`. -/
def range : Json Int :=
  .object [("f", .object [("$gte", .string "a"), ("$lt", .string "b")])]

theorem range_ignores_nothing :
    ∃ part, compute range = .ok part ∧
      IgnoresNothing (fun _ => (none : Option Int)) true info range part := by
  refine ⟨_, rfl, ?_⟩
  apply (ignoresNothing_iff true info (fun _ => none) range _ info_distinct rfl).mpr
  have hcolumns : filterColumns range =
      [("f", .object [("$gte", .string "a"), ("$lt", .string "b")])] := by
    simp [range, filterColumns, memberColumns, keyColumns]
  have hwritten : writtenComparisons range =
      [⟨"f", "$gte", .string "a"⟩, ⟨"f", "$lt", .string "b"⟩] := by
    simp [writtenComparisons, hcolumns, writtenUnder]
  refine ⟨?_, ?_, ?_⟩
  · rw [hcolumns]
    simp
  · rw [hwritten]
    simp [Json.isObject]
  · rw [hwritten]
    intro comparison hmem type htype value hvalue
    have hstring : type = .fact .string := by
      rcases List.mem_cons.mp hmem with rfl | hlast
      · exact (Option.some.inj htype).symm
      · cases List.mem_singleton.mp hlast
        exact (Option.some.inj htype).symm
    rw [hstring]
    rfl

end FilterAcceptanceWitness

end NFCompose
