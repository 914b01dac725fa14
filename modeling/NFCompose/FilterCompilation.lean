/-
What the compilation of a filter does: the comparisons of the filter are
numbered in order, each becomes one condition of the text and leaves one record
in the state, and the text reads as the filter is built.
-/
import NFCompose.UserDefinedFilter

namespace NFCompose

open SqlConditions

variable {N D : Type}

/-- A column compared with a value. -/
structure Comparison (N : Type) where
  key : String
  operator : String
  value : Json N

section Comparisons

mutual

def columnComparisons (column operator : String) : Json N → List (Comparison N)
  | .object members => operatorComparisons column members
  | value => [⟨column, operator, value⟩]

def operatorComparisons (column : String) : List (String × Json N) → List (Comparison N)
  | [] => []
  | (operator, value) :: rest =>
      columnComparisons column operator value ++ operatorComparisons column rest

end

mutual

/-- The comparisons of a filter, in order. -/
def filterComparisons : Json N → List (Comparison N)
  | .object members => memberComparisons members
  | _ => []

def memberComparisons : List (String × Json N) → List (Comparison N)
  | [] => []
  | (key, value) :: rest => keyComparisons key value ++ memberComparisons rest

def keyComparisons (key : String) (value : Json N) : List (Comparison N) :=
  if key = "$and" ∨ key = "$or" then
    match value with
    | .array items => itemComparisons items
    | _ => []
  else if key = "$not" then
    match value with
    | .object members => memberComparisons members
    | _ => []
  else columnComparisons key "$eq" value

def itemComparisons : List (Json N) → List (Comparison N)
  | [] => []
  | item :: rest => filterComparisons item ++ itemComparisons rest

end

end Comparisons

section Meaning

variable (holds : Comparison N → Truth)

mutual

def columnMeaning (column operator : String) : Json N → Truth
  | .object members => Truth.all (operatorMeanings column members)
  | value => holds ⟨column, operator, value⟩

def operatorMeanings (column : String) : List (String × Json N) → List Truth
  | [] => []
  | (operator, value) :: rest =>
      columnMeaning column operator value :: operatorMeanings column rest

end

mutual

/-- The compositional meaning of a filter, over what its comparisons mean. -/
def filterMeaning : Json N → Truth
  | .object members => Truth.all (memberMeanings members)
  | _ => .true

def memberMeanings : List (String × Json N) → List Truth
  | [] => []
  | (key, value) :: rest => keyMeaning key value :: memberMeanings rest

def keyMeaning (key : String) (value : Json N) : Truth :=
  if key = "$and" then
    match value with
    | .array items => Truth.all (itemMeanings items)
    | _ => .true
  else if key = "$or" then
    match value with
    | .array items => Truth.any (itemMeanings items)
    | _ => .true
  else if key = "$not" then
    match value with
    | .object members => (Truth.all (memberMeanings members)).not
    | _ => .true
  else columnMeaning holds key "$eq" value

def itemMeanings : List (Json N) → List Truth
  | [] => []
  | item :: rest => filterMeaning item :: itemMeanings rest

end

end Meaning

section Records

variable (useMaterializedTable : Bool) (info : DataSeriesQueryInfo)
  (parseDatetime : Json N → Option D)

/-- The scalar that a literal stands for in a column of a type. -/
def literal : StructureType → Json N → Option (Scalar N D)
  | .fact .timestamp, value => (parseDatetime value).map .timestamp
  | _, .string value => some (.text value)
  | _, .number value => some (.number value)
  | _, .boolean value => some (.boolean value)
  | _, _ => none

/-- What a comparison is with: nothing for null, and several values for a
list. -/
def operandOf (type : StructureType) (comparison : Comparison N) : Option (ParamValue N D) :=
  if (comparison.operator = "$eq" ∨ comparison.operator = "$ne") ∧ comparison.value.isNull then
    none
  else if comparison.operator = "$in" ∨ comparison.operator = "$nin" then
    match comparison.value with
    | .array items => (items.mapM (literal parseDatetime type)).map .tuple
    | _ => none
  else (literal parseDatetime type comparison.value).map .scalar

/-- The type that a single operand is cast to. -/
def castOf : StructureType → Option String
  | .fact .float => some "double precision"
  | .fact .text => some "text"
  | _ => none

/-- How the types that have prefixes compare with one. -/
def prefixSyntaxOf : StructureType → PrefixSyntax
  | .fact .string => ⟨none, false⟩
  | _ => ⟨some "text", true⟩

/-- A comparison that a handler accepts. -/
inductive Checked (type : StructureType) (comparison : Comparison N) : Prop where
  | null (operator : comparison.operator = "$eq" ∨ comparison.operator = "$ne")
      (value : comparison.value.isNull)
  | single {sqlOperator : SqlOperator} {scalar : Scalar N D}
      (operator : singleValuedSqlOperators.lookup comparison.operator = some sqlOperator)
      (value : literal parseDatetime type comparison.value = some scalar)
  | prefixed {scalar : Scalar N D} (operator : comparison.operator = "$prefix")
      (value : literal parseDatetime type comparison.value = some scalar)
  | multi {items : List (Json N)} {scalars : List (Scalar N D)}
      (operator : comparison.operator = "$in" ∨ comparison.operator = "$nin")
      (value : comparison.value = .array items)
      (values : items.mapM (literal parseDatetime type) = some scalars)

/-- The left side of the comparisons under a key. -/
def fieldLhs (key : String) : Option Lhs :=
  (info.comparedType key).bind fun type =>
    ((info.children type).lookup key).map (lhsOf useMaterializedTable type key)

/-- The condition that a comparison becomes. -/
def conditionOf (lhs : Lhs) (type : StructureType) (comparison : Comparison N)
    (queryParamName : String) : FilterAtom :=
  if comparison.operator = "$eq" ∧ comparison.value.isNull then .isNull lhs
  else if comparison.operator = "$ne" ∧ comparison.value.isNull then .isNotNull lhs
  else match singleValuedSqlOperators.lookup comparison.operator with
    | some operator => .compare lhs operator queryParamName (castOf type)
    | none =>
        if comparison.operator = "$prefix" then
          .hasPrefix lhs queryParamName (prefixSyntaxOf type).cast (prefixSyntaxOf type).complete
        else .inTuple lhs (decide (comparison.operator = "$nin")) queryParamName

def atomOf (comparison : Comparison N) (queryParamName : String) : FilterAtom :=
  match info.comparedType comparison.key, fieldLhs useMaterializedTable info comparison.key with
  | some type, some lhs => conditionOf lhs type comparison queryParamName
  | _, _ => .always

/-- What a comparison leaves in the state. -/
def recordOf (state : FilterState N D) (comparison : Comparison N) : FilterState N D :=
  let counted := { state with
    keysOverall := state.keysOverall.insert comparison.key
    queryParamIdx := state.queryParamIdx + 1 }
  match info.comparedType comparison.key with
  | none => counted
  | some type =>
      match (info.children type).lookup comparison.key with
      | none => counted
      | some queryInfo => counted.record type comparison.key queryInfo
          (filterParamName state.queryParamIdx) (operandOf parseDatetime type comparison)

end Records

section Handlers

theorem bind_eq_ok {α β : Type} {action : FilterM N D α} {next : α → FilterM N D β}
    {state : FilterState N D} {result : β × FilterState N D} :
    (action >>= next) state = .ok result ↔
      ∃ value later, action state = .ok (value, later) ∧ next value later = .ok result := by
  simp only [bind, StateT.bind, Except.bind]
  cases action state with
  | error error => simp
  | ok pair =>
      constructor
      · intro hnext
        exact ⟨pair.1, pair.2, rfl, hnext⟩
      · rintro ⟨value, later, hpair, hnext⟩
        cases hpair
        exact hnext

theorem pure_eq_ok {α : Type} {value : α} {state : FilterState N D}
    {result : α × FilterState N D} :
    (pure value : FilterM N D α) state = .ok result ↔ (value, state) = result := by
  change Except.ok (value, state) = .ok result ↔ _
  rw [Except.ok.injEq]

/-- The handlers, in the order in which they are tried. -/
def handlers (parseDatetime : Json N → Option D) : List (FieldHandler N D) :=
  [floatHandler, stringHandler, textHandler, timestampHandler parseDatetime, booleanHandler,
    dimensionHandler]

theorem handlers_types (parseDatetime : Json N → Option D) :
    (handlers parseDatetime).map FieldHandler.type = comparableTypes := rfl

theorem scalar_literal {handler : FieldHandler N D} {parseDatetime : Json N → Option D}
    (hhandler : handler ∈ handlers parseDatetime)
    {value : Json N} {scalar : Scalar N D} (hscalar : handler.scalar value = some scalar) :
    literal parseDatetime handler.type value = some scalar := by
  simp only [handlers, List.mem_cons, List.not_mem_nil, or_false] at hhandler
  rcases hhandler with rfl | rfl | rfl | rfl | rfl | rfl <;>
    cases value <;> simp_all [floatHandler, stringHandler, textHandler, timestampHandler,
      booleanHandler, dimensionHandler, numericScalar, textScalar, booleanScalar, literal]

theorem cast_castOf {handler : FieldHandler N D} {parseDatetime : Json N → Option D}
    (hhandler : handler ∈ handlers parseDatetime) : handler.cast = castOf handler.type := by
  simp only [handlers, List.mem_cons, List.not_mem_nil, or_false] at hhandler
  rcases hhandler with rfl | rfl | rfl | rfl | rfl | rfl <;> rfl

theorem prefixSyntax_eq {handler : FieldHandler N D} {parseDatetime : Json N → Option D}
    (hhandler : handler ∈ handlers parseDatetime) {prefixSyntax : PrefixSyntax}
    (hform : handler.prefixSyntax = some prefixSyntax) :
    prefixSyntax = prefixSyntaxOf handler.type := by
  simp only [handlers, List.mem_cons, List.not_mem_nil, or_false] at hhandler
  rcases hhandler with rfl | rfl | rfl | rfl | rfl | rfl
  · cases hform
  · cases hform
    rfl
  · cases hform
    rfl
  · cases hform
  · cases hform
  · cases hform

theorem mapM_literal {literalOf scalarOf : Json N → Option (Scalar N D)}
    (hliteral : ∀ value scalar, scalarOf value = some scalar → literalOf value = some scalar)
    {items : List (Json N)} {scalars : List (Scalar N D)}
    (hscalars : items.mapM scalarOf = some scalars) : items.mapM literalOf = some scalars := by
  induction items generalizing scalars with
  | nil => exact hscalars
  | cons item rest ih =>
      simp only [List.mapM_cons, Option.pure_def, Option.bind_eq_bind,
        Option.bind_eq_some_iff] at hscalars ⊢
      obtain ⟨scalar, hscalar, others, hothers, hpure⟩ := hscalars
      exact ⟨scalar, hliteral item scalar hscalar, others, ih hothers, hpure⟩

theorem lookup_singleValued {operator : String} {sqlOperator : SqlOperator}
    (hlookup : singleValuedSqlOperators.lookup operator = some sqlOperator) :
    operator ≠ "$in" ∧ operator ≠ "$nin" := by
  constructor
  · rintro rfl
    cases hlookup
  · rintro rfl
    cases hlookup

theorem lookup_multiValued {operator : String} {negated : Bool}
    (hlookup : multiValuedSqlOperators.lookup operator = some negated) :
    (operator = "$in" ∨ operator = "$nin") ∧ negated = decide (operator = "$nin") := by
  by_cases hin : operator = "$in"
  · subst hin
    cases hlookup
    decide
  · by_cases hnin : operator = "$nin"
    · subst hnin
      cases hlookup
      decide
    · simp [multiValuedSqlOperators, List.lookup_cons, hin, hnin,
        beq_eq_false_iff_ne.mpr] at hlookup

theorem checkScalar_eq_ok {handler : FieldHandler N D} {key : String} {value : Json N}
    {scalar : Scalar N D} (hok : handler.checkScalar key value = .ok scalar) :
    handler.scalar value = some scalar := by
  rw [FieldHandler.checkScalar] at hok
  split at hok
  · next found hfound =>
      cases hok
      exact hfound
  · cases hok

theorem checkElements_eq_ok {handler : FieldHandler N D} {operator key : String} {value : Json N}
    {scalars : List (Scalar N D)} (hok : handler.checkElements operator key value = .ok scalars) :
    ∃ items, value = .array items ∧ items.mapM handler.scalar = some scalars := by
  cases value with
  | array items =>
      cases hscalars : items.mapM handler.scalar with
      | none =>
          simp only [FieldHandler.checkElements, hscalars] at hok
          cases hok
      | some found =>
          simp only [FieldHandler.checkElements, hscalars] at hok
          cases hok
          exact ⟨items, rfl, hscalars⟩
  | _ => cases hok

/-- What a handler makes of an operator. -/
theorem condition_eq_ok {handler : FieldHandler N D} {parseDatetime : Json N → Option D}
    (hhandler : handler ∈ handlers parseDatetime)
    {lhs : Lhs} {name : String} {comparison : Comparison N} {atom : FilterAtom}
    {param : Option (ParamValue N D)}
    (hok : handler.condition lhs name comparison.key comparison.value comparison.operator =
      .ok (atom, param)) :
    atom = conditionOf lhs handler.type comparison name ∧
      param = operandOf parseDatetime handler.type comparison ∧
      Checked parseDatetime handler.type comparison := by
  rw [FieldHandler.condition] at hok
  by_cases hnull : comparison.operator = "$eq" ∧ comparison.value.isNull
  · rw [if_pos hnull] at hok
    cases hok
    have hchecked : Checked parseDatetime handler.type comparison := .null (Or.inl hnull.1) hnull.2
    simp [conditionOf, operandOf, hnull, hchecked]
  · rw [if_neg hnull] at hok
    by_cases hnotNull : comparison.operator = "$ne" ∧ comparison.value.isNull
    · rw [if_pos hnotNull] at hok
      cases hok
      have hchecked : Checked parseDatetime handler.type comparison :=
        .null (Or.inr hnotNull.1) hnotNull.2
      simp [conditionOf, operandOf, hnotNull, hchecked]
    · rw [if_neg hnotNull] at hok
      have hoperand : ¬ ((comparison.operator = "$eq" ∨ comparison.operator = "$ne") ∧
          comparison.value.isNull) := by tauto
      simp only [conditionOf, operandOf, if_neg hnull, if_neg hnotNull, if_neg hoperand]
      cases hsingle : singleValuedSqlOperators.lookup comparison.operator with
      | some sqlOperator =>
          obtain ⟨hin, hnin⟩ := lookup_singleValued hsingle
          simp only [hsingle, bind, Except.bind] at hok
          split at hok
          · cases hok
          · next scalar hscalar =>
              cases hok
              have hliteral := scalar_literal hhandler (checkScalar_eq_ok hscalar)
              have hchecked : Checked parseDatetime handler.type comparison :=
                .single hsingle hliteral
              simp [hin, hnin, hliteral, hchecked, cast_castOf hhandler]
      | none =>
          simp only [hsingle] at hok
          cases hsome : handler.prefixSyntax.filter fun _ => comparison.operator = "$prefix" with
          | some prefixSyntax =>
              obtain ⟨hform, hoperator⟩ := Option.filter_eq_some_iff.mp hsome
              have hprefixOperator : comparison.operator = "$prefix" := by simpa using hoperator
              simp only [hsome, bind, Except.bind] at hok
              split at hok
              · cases hok
              · next scalar hscalar =>
                  cases hok
                  have hliteral := scalar_literal hhandler (checkScalar_eq_ok hscalar)
                  have hchecked : Checked parseDatetime handler.type comparison :=
                    .prefixed hprefixOperator hliteral
                  simp [hprefixOperator, hliteral, hchecked, prefixSyntax_eq hhandler hform]
          | none =>
              simp only [hsome] at hok
              cases hmulti : multiValuedSqlOperators.lookup comparison.operator with
              | none =>
                  simp only [hmulti] at hok
                  cases hok
              | some negated =>
                  obtain ⟨hoperator, hnegated⟩ := lookup_multiValued hmulti
                  have hprefixOperator : comparison.operator ≠ "$prefix" := by
                    rcases hoperator with heq | heq <;> rw [heq] <;> decide
                  simp only [hmulti, bind, Except.bind] at hok
                  split at hok
                  · cases hok
                  · next scalars hscalars =>
                      cases hok
                      obtain ⟨items, hvalue, hitems⟩ := checkElements_eq_ok hscalars
                      have hliterals := mapM_literal
                        (fun _ _ => scalar_literal hhandler) hitems
                      have hchecked : Checked parseDatetime handler.type comparison :=
                        .multi hoperator hvalue hliterals
                      simp [if_pos hoperator, hprefixOperator, hvalue, hliterals, hnegated,
                        hchecked]

variable {useMaterializedTable : Bool} {info : DataSeriesQueryInfo}
  {parseDatetime : Json N → Option D}

theorem handleIfChild_of_notMem {handler : FieldHandler N D} {name key operator : String}
    {value : Json N} (hkey : key ∉ info.children handler.type) (state : FilterState N D) :
    handleIfChild useMaterializedTable info handler name key value operator state =
      .ok ([], state) := by
  rw [← AList.lookup_eq_none] at hkey
  simp only [handleIfChild, hkey]

theorem handleIfChild_eq_ok {handler : FieldHandler N D}
    (hhandler : handler ∈ handlers parseDatetime) {name : String} {comparison : Comparison N}
    {queryInfo : ChildQueryInfo handler.type}
    (hlookup : (info.children handler.type).lookup comparison.key = some queryInfo)
    {state later : FilterState N D} {parts : List FilterAtom}
    (hok : handleIfChild useMaterializedTable info handler name comparison.key comparison.value
      comparison.operator state = .ok (parts, later)) :
    parts = [conditionOf (lhsOf useMaterializedTable handler.type comparison.key queryInfo)
        handler.type comparison name] ∧
      later = state.record handler.type comparison.key queryInfo name
        (operandOf parseDatetime handler.type comparison) ∧
      Checked parseDatetime handler.type comparison := by
  simp only [handleIfChild, hlookup, bind, Except.bind, pure, Except.pure] at hok
  split at hok
  · cases hok
  · next pair hpair =>
      cases hok
      obtain ⟨hatom, hparam, hchecked⟩ := condition_eq_ok hhandler hpair
      rw [hatom, hparam]
      exact ⟨rfl, rfl, hchecked⟩

/-- Handlers that do not know the key leave everything as it is. -/
theorem mapM_handleIfChild_of_notMem {handlers : List (FieldHandler N D)}
    {name key operator : String} {value : Json N}
    (hkey : ∀ handler ∈ handlers, key ∉ info.children handler.type) {state later : FilterState N D}
    {parts : List (List FilterAtom)}
    (hok : handlers.mapM (fun handler => handleIfChild useMaterializedTable info handler name key
      value operator) state = .ok (parts, later)) : parts.flatten = [] ∧ later = state := by
  induction handlers generalizing parts with
  | nil =>
      rw [List.mapM_nil, pure_eq_ok] at hok
      cases hok
      exact ⟨rfl, rfl⟩
  | cons handler rest ih =>
      rw [List.mapM_cons, bind_eq_ok] at hok
      obtain ⟨first, next, hfirst, hrest⟩ := hok
      rw [handleIfChild_of_notMem (hkey handler List.mem_cons_self)] at hfirst
      cases hfirst
      rw [bind_eq_ok] at hrest
      obtain ⟨others, last, hothers, hpure⟩ := hrest
      rw [pure_eq_ok] at hpure
      cases hpure
      rw [List.flatten_cons, List.nil_append]
      exact ih (fun other hother => hkey other (List.mem_cons_of_mem handler hother)) hothers

/-- One handler knows the key. -/
theorem mapM_handleIfChild {known : FieldHandler N D} (hknown : known ∈ handlers parseDatetime)
    {list : List (FieldHandler N D)} (hmem : known ∈ list)
    (htypes : (list.map FieldHandler.type).Nodup) {name : String} {comparison : Comparison N}
    {queryInfo : ChildQueryInfo known.type}
    (hlookup : (info.children known.type).lookup comparison.key = some queryInfo)
    (hothers : ∀ handler ∈ list, handler.type ≠ known.type →
      comparison.key ∉ info.children handler.type)
    {state later : FilterState N D} {parts : List (List FilterAtom)}
    (hok : list.mapM (fun handler => handleIfChild useMaterializedTable info handler name
      comparison.key comparison.value comparison.operator) state = .ok (parts, later)) :
    parts.flatten = [conditionOf (lhsOf useMaterializedTable known.type comparison.key queryInfo)
        known.type comparison name] ∧
      later = state.record known.type comparison.key queryInfo name
        (operandOf parseDatetime known.type comparison) ∧
      Checked parseDatetime known.type comparison := by
  induction list generalizing state parts with
  | nil => cases hmem
  | cons handler rest ih =>
      rw [List.map_cons, List.nodup_cons] at htypes
      rw [List.mapM_cons, bind_eq_ok] at hok
      obtain ⟨first, next, hfirst, hrest⟩ := hok
      rw [bind_eq_ok] at hrest
      obtain ⟨others, last, hlast, hpure⟩ := hrest
      rw [pure_eq_ok] at hpure
      cases hpure
      rcases List.mem_cons.mp hmem with rfl | hmemRest
      · obtain ⟨rfl, rfl, hchecked⟩ := handleIfChild_eq_ok hknown hlookup hfirst
        have hnone : ∀ other ∈ rest, comparison.key ∉ info.children other.type := by
          intro other hother
          apply hothers other (List.mem_cons_of_mem known hother)
          intro htype
          exact htypes.1 (htype ▸ List.mem_map_of_mem hother)
        obtain ⟨hflatten, rfl⟩ := mapM_handleIfChild_of_notMem hnone hlast
        simp [hflatten, hchecked]
      · have hne : handler.type ≠ known.type := by
          intro htype
          exact htypes.1 (htype ▸ List.mem_map_of_mem hmemRest)
        rw [handleIfChild_of_notMem (hothers handler List.mem_cons_self hne)] at hfirst
        cases hfirst
        rw [List.flatten_cons, List.nil_append]
        exact ih hmemRest htypes.2
          (fun other hother => hothers other (List.mem_cons_of_mem handler hother)) hlast

/-- Whether a filter can compare anything under the key of a comparison. -/
def Known (info : DataSeriesQueryInfo) (comparison : Comparison N) : Prop :=
  (info.comparedType comparison.key).isSome

/-- A comparison leaves its record, and its condition when its key is known. -/
theorem primitiveFilter_eq_ok (hdistinct : info.ComparableDistinct) {comparison : Comparison N}
    {state later : FilterState N D} {text : FilterText}
    (hok : primitiveFilter useMaterializedTable info parseDatetime comparison.key comparison.value
      comparison.operator state = .ok (text, later)) :
    later = recordOf info parseDatetime state comparison ∧
      (Known info comparison → text = [.atom (atomOf useMaterializedTable info comparison
        (filterParamName state.queryParamIdx))]) ∧
      ∀ type, info.comparedType comparison.key = some type →
        Checked parseDatetime type comparison := by
  rw [primitiveFilter, bind_eq_ok] at hok
  obtain ⟨current, unchanged, hget, hok⟩ := hok
  cases hget
  rw [bind_eq_ok] at hok
  obtain ⟨value, counted, hset, hok⟩ := hok
  cases hset
  rw [bind_eq_ok] at hok
  obtain ⟨parts, last, hparts, hpure⟩ := hok
  rw [pure_eq_ok] at hpure
  cases hpure
  change (handlers parseDatetime).mapM (fun handler => handleIfChild useMaterializedTable info
    handler (filterParamName state.queryParamIdx) comparison.key comparison.value
    comparison.operator) _ = _ at hparts
  have htypes : ((handlers parseDatetime).map FieldHandler.type).Nodup := by
    rw [handlers_types]
    decide
  cases htype : info.comparedType comparison.key with
  | none =>
      have hnone : ∀ handler ∈ handlers parseDatetime,
          comparison.key ∉ info.children handler.type := by
        intro handler hhandler
        have hmem : handler.type ∈ comparableTypes := by
          rw [← handlers_types parseDatetime]
          exact List.mem_map_of_mem hhandler
        have hfind := List.find?_eq_none.mp htype handler.type hmem
        simpa using hfind
      obtain ⟨-, rfl⟩ := mapM_handleIfChild_of_notMem hnone hparts
      refine ⟨?_, ?_, ?_⟩
      · simp only [recordOf, htype]
      · intro hknown
        rw [Known, htype] at hknown
        cases hknown
      · intro type hfound
        cases hfound
  | some type =>
      obtain ⟨hmem, hkey⟩ := (DataSeriesQueryInfo.comparedType_eq_some hdistinct).mp htype
      rw [← handlers_types parseDatetime] at hmem
      obtain ⟨known, hknown, rfl⟩ := List.mem_map.mp hmem
      obtain ⟨queryInfo, hlookup⟩ := Option.isSome_iff_exists.mp (AList.lookup_isSome.mpr hkey)
      have hothers : ∀ handler ∈ handlers parseDatetime, handler.type ≠ known.type →
          comparison.key ∉ info.children handler.type := by
        intro handler hhandler hne hother
        have hmemOther : handler.type ∈ comparableTypes := by
          rw [← handlers_types parseDatetime]
          exact List.mem_map_of_mem hhandler
        rw [handlers_types] at hmem
        exact hne (hdistinct handler.type hmemOther known.type hmem comparison.key hother hkey)
      obtain ⟨hflatten, rfl, hchecked⟩ :=
        mapM_handleIfChild hknown hknown htypes hlookup hothers hparts
      refine ⟨?_, ?_, ?_⟩
      · simp only [recordOf, htype, hlookup]
      · intro _
        simp [hflatten, atomOf, fieldLhs, htype, hlookup]
      · intro type hfound
        cases hfound
        exact hchecked

end Handlers

section Compiled

variable (useMaterializedTable : Bool) (info : DataSeriesQueryInfo)
  (parseDatetime : Json N → Option D)

/-- The conditions of numbered comparisons are as true as the comparisons. -/
structure Agrees (truthOf : FilterAtom → Truth) (holds : Comparison N → Truth)
    (comparisons : List (Comparison N)) (index : Nat) : Prop where
  always : truthOf .always = .true
  atom : ∀ entry ∈ comparisons.zipIdx index,
    truthOf (atomOf useMaterializedTable info entry.1 (filterParamName entry.2)) = holds entry.1

/-- The conditions of numbered comparisons. -/
def numberedAtoms (comparisons : List (Comparison N)) (index : Nat) : List FilterAtom :=
  (comparisons.zipIdx index).map fun entry =>
    atomOf useMaterializedTable info entry.1 (filterParamName entry.2)

/-- A text compiled from comparisons, with what it means. -/
structure Compiled (comparisons : List (Comparison N)) (meaning : (Comparison N → Truth) → Truth)
    (text : FilterText) (state later : FilterState N D) : Prop where
  checked : ∀ comparison ∈ comparisons, ∀ type, info.comparedType comparison.key = some type →
    Checked parseDatetime type comparison
  state_eq : later = comparisons.foldl (recordOf info parseDatetime) state
  reads : (∀ comparison ∈ comparisons, Known info comparison) → ∀ truthOf holds,
    Agrees useMaterializedTable info truthOf holds comparisons state.queryParamIdx →
      Reads .conjunction (text.map (Token.map truthOf)) (meaning holds)
  atoms_eq : (∀ comparison ∈ comparisons, Known info comparison) →
    (atoms text).filter (fun atom => atom ≠ .always) =
      numberedAtoms useMaterializedTable info comparisons state.queryParamIdx

/-- Several texts, one after the other. -/
structure CompiledList (comparisons : List (Comparison N))
    (meanings : (Comparison N → Truth) → List Truth)
    (texts : List FilterText) (state later : FilterState N D) : Prop where
  length_eq : ∀ holds, (meanings holds).length = texts.length
  checked : ∀ comparison ∈ comparisons, ∀ type, info.comparedType comparison.key = some type →
    Checked parseDatetime type comparison
  state_eq : later = comparisons.foldl (recordOf info parseDatetime) state
  reads : (∀ comparison ∈ comparisons, Known info comparison) → ∀ truthOf holds,
    Agrees useMaterializedTable info truthOf holds comparisons state.queryParamIdx →
      List.Forall₂ (fun text truth => Reads .conjunction (text.map (Token.map truthOf)) truth)
        texts (meanings holds)
  atoms_eq : (∀ comparison ∈ comparisons, Known info comparison) →
    (texts.flatMap atoms).filter (fun atom => atom ≠ .always) =
      numberedAtoms useMaterializedTable info comparisons state.queryParamIdx

end Compiled

section Composition

variable {useMaterializedTable : Bool} {info : DataSeriesQueryInfo}
  {parseDatetime : Json N → Option D}

@[simp] theorem recordOf_queryParamIdx (state : FilterState N D) (comparison : Comparison N) :
    (recordOf info parseDatetime state comparison).queryParamIdx = state.queryParamIdx + 1 := by
  simp only [recordOf]
  split
  · rfl
  · split
    · rfl
    · rfl

theorem foldl_recordOf_queryParamIdx (comparisons : List (Comparison N))
    (state : FilterState N D) :
    (comparisons.foldl (recordOf info parseDatetime) state).queryParamIdx =
      state.queryParamIdx + comparisons.length := by
  induction comparisons generalizing state with
  | nil => rfl
  | cons comparison rest ih =>
      rw [List.foldl_cons, ih, recordOf_queryParamIdx, List.length_cons]
      omega

theorem Agrees.left {truthOf : FilterAtom → Truth} {holds : Comparison N → Truth}
    {first second : List (Comparison N)} {index : Nat}
    (hagrees : Agrees useMaterializedTable info truthOf holds (first ++ second) index) :
    Agrees useMaterializedTable info truthOf holds first index := by
  refine ⟨hagrees.always, ?_⟩
  intro entry hentry
  apply hagrees.atom
  rw [List.zipIdx_append]
  exact List.mem_append_left _ hentry

theorem Agrees.right {truthOf : FilterAtom → Truth} {holds : Comparison N → Truth}
    {first second : List (Comparison N)} {index : Nat}
    (hagrees : Agrees useMaterializedTable info truthOf holds (first ++ second) index) :
    Agrees useMaterializedTable info truthOf holds second (index + first.length) := by
  refine ⟨hagrees.always, ?_⟩
  intro entry hentry
  apply hagrees.atom
  rw [List.zipIdx_append]
  exact List.mem_append_right _ hentry

theorem numberedAtoms_append (first second : List (Comparison N)) (index : Nat) :
    numberedAtoms useMaterializedTable info (first ++ second) index =
      numberedAtoms useMaterializedTable info first index ++
        numberedAtoms useMaterializedTable info second (index + first.length) := by
  rw [numberedAtoms, List.zipIdx_append, List.map_append]
  rfl

theorem Compiled.always (state : FilterState N D) :
    Compiled useMaterializedTable info parseDatetime [] (fun _ => .true) [.atom .always] state
      state := by
  refine ⟨by simp, rfl, ?_, fun _ => rfl⟩
  intro _ truthOf holds hagrees
  rw [← hagrees.always]
  exact (Reads.atom _).ofOperand

theorem map_parenthesized (truthOf : FilterAtom → Truth) (text : FilterText) :
    (parenthesized text).map (Token.map truthOf) =
      .leftParen :: text.map (Token.map truthOf) ++ [.rightParen] := by
  simp [parenthesized, Token.map]

theorem atoms_parenthesized (text : FilterText) : atoms (parenthesized text) = atoms text := by
  change atoms (text ++ [.rightParen]) = atoms text
  rw [atoms_append]
  exact List.append_nil _

variable {comparisons : List (Comparison N)} {state later : FilterState N D}

theorem Compiled.parenthesized {meaning : (Comparison N → Truth) → Truth} {text : FilterText}
    (hcompiled : Compiled useMaterializedTable info parseDatetime comparisons meaning text state
      later) :
    Compiled useMaterializedTable info parseDatetime comparisons meaning
      (NFCompose.parenthesized text) state later := by
  refine ⟨hcompiled.checked, hcompiled.state_eq, ?_, ?_⟩
  · intro hknown truthOf holds hagrees
    rw [map_parenthesized]
    exact (hcompiled.reads hknown truthOf holds hagrees).ofConjunction.parens.ofOperand
  · rw [atoms_parenthesized]
    exact hcompiled.atoms_eq

theorem Compiled.not {meaning : (Comparison N → Truth) → Truth} {text : FilterText}
    (hcompiled : Compiled useMaterializedTable info parseDatetime comparisons meaning text state
      later) :
    Compiled useMaterializedTable info parseDatetime comparisons (fun holds => (meaning holds).not)
      (NFCompose.parenthesized (.not :: NFCompose.parenthesized text)) state later := by
  refine ⟨hcompiled.checked, hcompiled.state_eq, ?_, ?_⟩
  · intro hknown truthOf holds hagrees
    have hreads := (hcompiled.reads hknown truthOf holds hagrees).ofConjunction.parens.not
    rw [map_parenthesized, List.map_cons, map_parenthesized]
    exact hreads.ofOperand.ofConjunction.parens.ofOperand
  · rw [atoms_parenthesized]
    change _ → (atoms (NFCompose.parenthesized text)).filter _ = _
    rw [atoms_parenthesized]
    exact hcompiled.atoms_eq

theorem CompiledList.nil (state : FilterState N D) :
    CompiledList useMaterializedTable info parseDatetime [] (fun _ => []) [] state state :=
  ⟨fun _ => rfl, by simp, rfl, fun _ _ _ _ => .nil, fun _ => rfl⟩

theorem CompiledList.cons {rest : List (Comparison N)} {meaning : (Comparison N → Truth) → Truth}
    {meanings : (Comparison N → Truth) → List Truth} {text : FilterText} {texts : List FilterText}
    {last : FilterState N D}
    (hfirst : Compiled useMaterializedTable info parseDatetime comparisons meaning text state later)
    (hrest : CompiledList useMaterializedTable info parseDatetime rest meanings texts later last) :
    CompiledList useMaterializedTable info parseDatetime (comparisons ++ rest)
      (fun holds => meaning holds :: meanings holds) (text :: texts) state last := by
  have hindex : later.queryParamIdx = state.queryParamIdx + comparisons.length := by
    rw [hfirst.state_eq, foldl_recordOf_queryParamIdx]
  refine ⟨?_, List.forall_mem_append.mpr ⟨hfirst.checked, hrest.checked⟩, ?_, ?_, ?_⟩
  · intro holds
    rw [List.length_cons, List.length_cons, hrest.length_eq]
  · rw [hrest.state_eq, hfirst.state_eq, List.foldl_append]
  · intro hknown truthOf holds hagrees
    rw [List.forall_mem_append] at hknown
    have hright := hagrees.right
    rw [← hindex] at hright
    exact .cons (hfirst.reads hknown.1 truthOf holds hagrees.left)
      (hrest.reads hknown.2 truthOf holds hright)
  · intro hknown
    rw [List.forall_mem_append] at hknown
    rw [List.flatMap_cons, List.filter_append, hfirst.atoms_eq hknown.1, hrest.atoms_eq hknown.2,
      numberedAtoms_append, hindex]

theorem CompiledList.ne_nil {meanings : (Comparison N → Truth) → List Truth}
    {texts : List FilterText}
    (hcompiled : CompiledList useMaterializedTable info parseDatetime comparisons meanings texts
      state later)
    (hne : meanings (fun _ => .true) ≠ []) : texts ≠ [] := by
  rintro rfl
  exact hne (List.length_eq_zero_iff.mp (hcompiled.length_eq _))

theorem CompiledList.joinAnd {meanings : (Comparison N → Truth) → List Truth}
    {texts : List FilterText} (hne : texts ≠ [])
    (hcompiled : CompiledList useMaterializedTable info parseDatetime comparisons meanings texts
      state later) :
    Compiled useMaterializedTable info parseDatetime comparisons
      (fun holds => Truth.all (meanings holds)) (List.intercalate [.and] texts) state later := by
  refine ⟨hcompiled.checked, hcompiled.state_eq, ?_, ?_⟩
  · intro hknown truthOf holds hagrees
    exact Reads.intercalate_and (hcompiled.reads hknown truthOf holds hagrees) hne
  · rw [atoms_intercalate rfl]
    exact hcompiled.atoms_eq

theorem CompiledList.joinOr {meanings : (Comparison N → Truth) → List Truth}
    {texts : List FilterText} (hne : texts ≠ [])
    (hcompiled : CompiledList useMaterializedTable info parseDatetime comparisons meanings texts
      state later) :
    Compiled useMaterializedTable info parseDatetime comparisons
      (fun holds => Truth.any (meanings holds))
      (NFCompose.parenthesized (List.intercalate [.or] texts)) state later := by
  refine ⟨hcompiled.checked, hcompiled.state_eq, ?_, ?_⟩
  · intro hknown truthOf holds hagrees
    rw [map_parenthesized]
    have hreads := Reads.intercalate_or (hcompiled.reads hknown truthOf holds hagrees) hne
    exact hreads.parens.ofOperand
  · rw [atoms_parenthesized, atoms_intercalate rfl]
    exact hcompiled.atoms_eq

end Composition

section Recursion

variable {useMaterializedTable : Bool} {info : DataSeriesQueryInfo}
  {parseDatetime : Json N → Option D}

theorem exists_lookup_of_comparedType {key : String} {type : StructureType}
    (htype : info.comparedType key = some type) :
    ∃ queryInfo, (info.children type).lookup key = some queryInfo := by
  have hfound := List.find?_some htype
  exact Option.isSome_iff_exists.mp (AList.lookup_isSome.mpr (of_decide_eq_true hfound))

theorem exists_fieldLhs (useMaterializedTable : Bool) {key : String} {type : StructureType}
    (htype : info.comparedType key = some type) :
    ∃ lhs, fieldLhs useMaterializedTable info key = some lhs := by
  obtain ⟨queryInfo, hqueryInfo⟩ := exists_lookup_of_comparedType htype
  refine ⟨lhsOf useMaterializedTable type key queryInfo, ?_⟩
  rw [fieldLhs, htype, Option.bind_some, hqueryInfo, Option.map_some]

theorem atomOf_ne_always (useMaterializedTable : Bool) {comparison : Comparison N}
    (hknown : Known info comparison) (name : String) :
    atomOf useMaterializedTable info comparison name ≠ .always := by
  obtain ⟨type, htype⟩ := Option.isSome_iff_exists.mp hknown
  obtain ⟨lhs, hlhs⟩ := exists_fieldLhs useMaterializedTable htype
  simp only [atomOf, hlhs, htype, conditionOf]
  split
  · simp
  · split
    · simp
    · split
      · simp
      · split
        · simp
        · simp

theorem compiled_primitiveFilter (hdistinct : info.ComparableDistinct)
    {comparison : Comparison N}
    {state later : FilterState N D} {text : FilterText}
    (hok : primitiveFilter useMaterializedTable info parseDatetime comparison.key comparison.value
      comparison.operator state = .ok (text, later)) :
    Compiled useMaterializedTable info parseDatetime [comparison] (fun holds => holds comparison)
      text state later := by
  obtain ⟨hlater, htext, hchecked⟩ :=
    primitiveFilter_eq_ok hdistinct hok
  refine ⟨List.forall_mem_singleton.mpr hchecked, hlater, ?_, ?_⟩
  · intro hknown truthOf holds hagrees
    rw [htext (hknown comparison List.mem_cons_self), ← hagrees.atom (comparison, _)
      List.mem_cons_self]
    exact (Reads.atom _).ofOperand
  · intro hknown
    have hcomparison := hknown comparison List.mem_cons_self
    have hne := atomOf_ne_always useMaterializedTable hcomparison
      (filterParamName state.queryParamIdx)
    rw [htext hcomparison]
    simp [atoms, numberedAtoms, hne]

mutual

theorem compiled_handleColumn (hdistinct : info.ComparableDistinct) (column operator : String)
    (value : Json N)
    {state later : FilterState N D} {text : FilterText}
    (hok : handleColumn useMaterializedTable info parseDatetime column operator value state =
      .ok (text, later)) :
    Compiled useMaterializedTable info parseDatetime (columnComparisons column operator value)
      (fun holds => columnMeaning holds column operator value) text state later := by
  cases value with
  | object members =>
      rw [columnComparisons]
      simp only [columnMeaning]
      rw [handleColumn] at hok
      cases members with
      | nil =>
          cases hok
          exact Compiled.always state
      | cons member rest =>
          rw [if_neg (by simp), bind_eq_ok] at hok
          obtain ⟨texts, last, htexts, hpure⟩ := hok
          cases hpure
          have hlist := compiled_handleOperators hdistinct column (member :: rest) htexts
          exact hlist.joinAnd (hlist.ne_nil (by simp [operatorMeanings]))
  | null => exact compiled_primitiveFilter hdistinct hok
  | boolean truth => exact compiled_primitiveFilter hdistinct hok
  | number number => exact compiled_primitiveFilter hdistinct hok
  | string string => exact compiled_primitiveFilter hdistinct hok
  | array items => exact compiled_primitiveFilter hdistinct hok

theorem compiled_handleOperators (hdistinct : info.ComparableDistinct) (column : String)
    (members : List (String × Json N))
    {state later : FilterState N D} {texts : List FilterText}
    (hok : handleOperators useMaterializedTable info parseDatetime column members state =
      .ok (texts, later)) :
    CompiledList useMaterializedTable info parseDatetime (operatorComparisons column members)
      (fun holds => operatorMeanings holds column members) texts state later := by
  match members with
  | [] =>
      cases hok
      exact CompiledList.nil state
  | (operator, value) :: rest =>
      rw [operatorComparisons]
      rw [handleOperators, bind_eq_ok] at hok
      obtain ⟨clause, next, hclause, hok⟩ := hok
      rw [bind_eq_ok] at hok
      obtain ⟨clauses, last, hclauses, hpure⟩ := hok
      cases hpure
      have hfirst := compiled_handleColumn hdistinct column operator value hclause
      have hrest := compiled_handleOperators hdistinct column rest hclauses
      simp only [operatorMeanings]
      exact CompiledList.cons hfirst.parenthesized hrest

end

theorem compiled_joinMembers {maxDepth depth : Nat} {members : List (String × Json N)}
    {parts : FilterM N D (List FilterText)} {state later : FilterState N D} {text : FilterText}
    (hparts : ∀ texts last, parts state = .ok (texts, last) →
      CompiledList useMaterializedTable info parseDatetime (memberComparisons members)
        (fun holds => memberMeanings holds members) texts state last)
    (hok : joinMembers maxDepth depth members parts state = .ok (text, later)) :
    Compiled useMaterializedTable info parseDatetime (memberComparisons members)
      (fun holds => Truth.all (memberMeanings holds members)) text state later := by
  rw [joinMembers] at hok
  by_cases hdepth : depth > maxDepth
  · rw [if_pos hdepth, bind_eq_ok] at hok
    obtain ⟨value, last, hthrow, -⟩ := hok
    cases hthrow
  · rw [if_neg hdepth] at hok
    cases members with
    | nil =>
        cases hok
        exact Compiled.always state
    | cons member rest =>
        simp only [List.isEmpty_cons] at hok
        have hbind : (parts >>= fun texts =>
            pure (texts.flatMap fun part => part ++ [.and]).dropLast) state =
              .ok (text, later) := hok
        rw [bind_eq_ok] at hbind
        obtain ⟨texts, last, htexts, hpure⟩ := hbind
        cases hpure
        have hlist := hparts texts later htexts
        rw [dropLast_flatMap_separator]
        exact hlist.joinAnd (hlist.ne_nil (by simp [memberMeanings]))

theorem compiled_noDictionary {maxDepth depth : Nat} {isEmpty : Bool} {error : FilterError N}
    {state later : FilterState N D} {text : FilterText}
    (hok : noDictionary maxDepth depth isEmpty error state = .ok (text, later)) :
    Compiled useMaterializedTable info parseDatetime [] (fun _ => .true) text state later := by
  rw [noDictionary] at hok
  by_cases hdepth : depth > maxDepth
  · rw [if_pos hdepth] at hok
    cases hok
  · rw [if_neg hdepth] at hok
    cases isEmpty with
    | true =>
        cases hok
        exact Compiled.always state
    | false => cases hok

section Column

variable {key : String} (hand : key ≠ "$and") (hor : key ≠ "$or") (hnot : key ≠ "$not")
include hand hor hnot

/-- Every other key is taken for a column. -/
theorem filterMember_column {column : String → Json N → FilterM N D FilterText}
    {maxDepth depth : Nat} {value : Json N} :
    filterMember column maxDepth depth key value =
      if key.toList.head? = some '$' then throw (.valueError ("Unsupported operator: " ++ key))
      else column key value := by
  cases value <;> simp [filterMember, hand, hor, hnot]

theorem keyComparisons_column {value : Json N} :
    keyComparisons key value = columnComparisons key "$eq" value := by
  cases value <;> simp [keyComparisons, hand, hor, hnot]

theorem keyMeaning_column {holds : Comparison N → Truth} {value : Json N} :
    keyMeaning holds key value = columnMeaning holds key "$eq" value := by
  cases value <;> simp [keyMeaning, hand, hor, hnot]

end Column

mutual

theorem compiled_complexFilter (hdistinct : info.ComparableDistinct) {maxDepth : Nat} (depth : Nat)
    (filter : Json N)
    {state later : FilterState N D} {text : FilterText}
    (hok : complexFilterToSqlFilter (fun column value => handleColumn useMaterializedTable info
      parseDatetime column "$eq" value) maxDepth depth filter state = .ok (text, later)) :
    Compiled useMaterializedTable info parseDatetime (filterComparisons filter)
      (fun holds => filterMeaning holds filter) text state later := by
  cases filter with
  | object members =>
      rw [filterComparisons]
      simp only [filterMeaning]
      rw [complexFilterToSqlFilter] at hok
      exact compiled_joinMembers
        (fun _ _ hparts => compiled_filterMembers hdistinct depth members hparts) hok
  | null => exact compiled_noDictionary hok
  | boolean truth => exact compiled_noDictionary hok
  | number number => exact compiled_noDictionary hok
  | string string => exact compiled_noDictionary hok
  | array items => exact compiled_noDictionary hok

theorem compiled_filterMembers (hdistinct : info.ComparableDistinct) {maxDepth : Nat} (depth : Nat)
    (members : List (String × Json N))
    {state later : FilterState N D} {texts : List FilterText}
    (hok : filterMembers (fun column value => handleColumn useMaterializedTable info
      parseDatetime column "$eq" value) maxDepth depth members state = .ok (texts, later)) :
    CompiledList useMaterializedTable info parseDatetime (memberComparisons members)
      (fun holds => memberMeanings holds members) texts state later := by
  match members with
  | [] =>
      cases hok
      exact CompiledList.nil state
  | (key, value) :: rest =>
      rw [memberComparisons]
      rw [filterMembers, bind_eq_ok] at hok
      obtain ⟨part, next, hpart, hok⟩ := hok
      rw [bind_eq_ok] at hok
      obtain ⟨parts, last, hparts, hpure⟩ := hok
      cases hpure
      have hfirst := compiled_filterMember hdistinct depth key value hpart
      have hrest := compiled_filterMembers hdistinct depth rest hparts
      simp only [memberMeanings]
      exact CompiledList.cons hfirst hrest

theorem compiled_filterMember (hdistinct : info.ComparableDistinct) {maxDepth : Nat} (depth : Nat)
    (key : String) (value : Json N)
    {state later : FilterState N D} {text : FilterText}
    (hok : filterMember (fun column value => handleColumn useMaterializedTable info
      parseDatetime column "$eq" value) maxDepth depth key value state = .ok (text, later)) :
    Compiled useMaterializedTable info parseDatetime (keyComparisons key value)
      (fun holds => keyMeaning holds key value) text state later := by
  by_cases hand : key = "$and"
  · cases value with
    | array items =>
        simp only [keyComparisons, hand, true_or, ↓reduceIte]
        simp only [keyMeaning, ↓reduceIte]
        simp only [filterMember, hand, ↓reduceIte] at hok
        cases items with
        | nil => cases hok
        | cons item rest =>
            rw [if_neg (by simp), bind_eq_ok] at hok
            obtain ⟨texts, last, htexts, hpure⟩ := hok
            cases hpure
            have hlist := compiled_filterItems hdistinct (depth + 1) (item :: rest) htexts
            exact (hlist.joinAnd (hlist.ne_nil (by simp [itemMeanings]))).parenthesized
    | _ =>
        simp only [filterMember, hand, ↓reduceIte] at hok
        cases hok
  · by_cases hor : key = "$or"
    · cases value with
      | array items =>
          simp only [keyComparisons, hor, or_true, ↓reduceIte]
          simp only [keyMeaning, ↓reduceIte]
          simp only [filterMember, hor, ↓reduceIte] at hok
          cases items with
          | nil => cases hok
          | cons item rest =>
              rw [if_neg (by decide), if_neg (by simp), bind_eq_ok] at hok
              obtain ⟨texts, last, htexts, hpure⟩ := hok
              cases hpure
              have hlist := compiled_filterItems hdistinct (depth + 1) (item :: rest) htexts
              exact hlist.joinOr (hlist.ne_nil (by simp [itemMeanings]))
      | _ =>
          simp only [filterMember, hor, ↓reduceIte] at hok
          cases hok
    · by_cases hnot : key = "$not"
      · cases value with
        | object members =>
            simp only [keyComparisons, hnot, ↓reduceIte, String.reduceEq, or_self]
            simp only [keyMeaning, ↓reduceIte, String.reduceEq]
            simp only [filterMember, hnot, ↓reduceIte, String.reduceEq] at hok
            cases members with
            | nil => cases hok
            | cons member rest =>
                rw [if_neg (by simp), bind_eq_ok] at hok
                obtain ⟨child, last, hchild, hpure⟩ := hok
                cases hpure
                have hcompiled := compiled_joinMembers
                  (fun _ _ hparts =>
                    compiled_filterMembers hdistinct (depth + 1) (member :: rest) hparts)
                  hchild
                exact hcompiled.not
        | _ =>
            simp only [filterMember, hnot, ↓reduceIte, String.reduceEq] at hok
            cases hok
      · rw [filterMember_column hand hor hnot] at hok
        rw [keyComparisons_column hand hor hnot]
        simp only [keyMeaning_column hand hor hnot]
        have hcolumn : handleColumn useMaterializedTable info parseDatetime key "$eq" value state =
            .ok (text, later) := by
          split at hok
          · cases hok
          · exact hok
        exact compiled_handleColumn hdistinct key "$eq" value hcolumn

theorem compiled_filterItems (hdistinct : info.ComparableDistinct) {maxDepth : Nat} (depth : Nat)
    (items : List (Json N))
    {state later : FilterState N D} {texts : List FilterText}
    (hok : filterItems (fun column value => handleColumn useMaterializedTable info
      parseDatetime column "$eq" value) maxDepth depth items state = .ok (texts, later)) :
    CompiledList useMaterializedTable info parseDatetime (itemComparisons items)
      (fun holds => itemMeanings holds items) texts state later := by
  match items with
  | [] =>
      cases hok
      exact CompiledList.nil state
  | item :: rest =>
      rw [itemComparisons]
      rw [filterItems, bind_eq_ok] at hok
      obtain ⟨clause, next, hclause, hok⟩ := hok
      rw [bind_eq_ok] at hok
      obtain ⟨clauses, last, hclauses, hpure⟩ := hok
      cases hpure
      have hfirst := compiled_complexFilter hdistinct depth item hclause
      have hrest := compiled_filterItems hdistinct depth rest hclauses
      simp only [itemMeanings]
      exact CompiledList.cons hfirst.parenthesized hrest

end

end Recursion

end NFCompose
