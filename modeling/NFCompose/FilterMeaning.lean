/-
The meaning of user defined filters.  A query with a compiled filter selects the
rows that the filter means, as long as the driver and the database accept the
operands; every placeholder has its operand, and every field that is compared is
recorded.
-/
import NFCompose.FilterCompilation

namespace NFCompose

open SqlConditions

variable {N D V : Type}

section Records

variable {info : DataSeriesQueryInfo} {parseDatetime : Json N → Option D}

/-- What is bound for a comparison. -/
def operandAt (info : DataSeriesQueryInfo) (parseDatetime : Json N → Option D)
    (comparison : Comparison N) : Option (ParamValue N D) :=
  (info.comparedType comparison.key).bind fun type => operandOf parseDatetime type comparison

/-- A comparison is counted, and recorded when its key is known. -/
theorem recordOf_cases (info : DataSeriesQueryInfo) (parseDatetime : Json N → Option D)
    (state : FilterState N D) (comparison : Comparison N) :
    let counted := { state with
      keysOverall := state.keysOverall.insert comparison.key
      queryParamIdx := state.queryParamIdx + 1 }
    (info.comparedType comparison.key = none ∧
      recordOf info parseDatetime state comparison = counted) ∨
    ∃ type queryInfo, info.comparedType comparison.key = some type ∧
      (info.children type).lookup comparison.key = some queryInfo ∧
      recordOf info parseDatetime state comparison = counted.record type comparison.key queryInfo
        (filterParamName state.queryParamIdx) (operandAt info parseDatetime comparison) := by
  cases htype : info.comparedType comparison.key with
  | none =>
      left
      refine ⟨rfl, ?_⟩
      simp only [recordOf, htype]
  | some type =>
      right
      obtain ⟨queryInfo, hlookup⟩ := exists_lookup_of_comparedType htype
      refine ⟨type, queryInfo, rfl, hlookup, ?_⟩
      simp only [recordOf, htype, hlookup, operandAt, Option.bind_some]

theorem mem_keysOverall_recordOf {state : FilterState N D} {comparison : Comparison N}
    {key : String} : key ∈ (recordOf info parseDatetime state comparison).keysOverall ↔
      key = comparison.key ∨ key ∈ state.keysOverall := by
  rcases recordOf_cases info parseDatetime state comparison with
    ⟨-, hrecord⟩ | ⟨type, queryInfo, -, -, hrecord⟩
  · rw [hrecord, List.mem_insert_iff]
  · rw [hrecord]
    exact List.mem_insert_iff

theorem mem_handledKeys_recordOf {state : FilterState N D} {comparison : Comparison N}
    {key : String} : key ∈ (recordOf info parseDatetime state comparison).handledKeys ↔
      key = comparison.key ∧ Known info comparison ∨ key ∈ state.handledKeys := by
  rcases recordOf_cases info parseDatetime state comparison with
    ⟨htype, hrecord⟩ | ⟨type, queryInfo, htype, -, hrecord⟩
  · rw [hrecord]
    simp [Known, htype]
  · rw [hrecord]
    simp [Known, htype, FilterState.record]

theorem mem_keysOverall_foldl {comparisons : List (Comparison N)} {state : FilterState N D}
    {key : String} :
    key ∈ (comparisons.foldl (recordOf info parseDatetime) state).keysOverall ↔
      key ∈ state.keysOverall ∨ ∃ comparison ∈ comparisons, key = comparison.key := by
  induction comparisons generalizing state with
  | nil => simp
  | cons comparison rest ih =>
      rw [List.foldl_cons, ih, mem_keysOverall_recordOf, List.exists_mem_cons_iff]
      tauto

theorem mem_handledKeys_foldl {comparisons : List (Comparison N)} {state : FilterState N D}
    {key : String} :
    key ∈ (comparisons.foldl (recordOf info parseDatetime) state).handledKeys ↔
      key ∈ state.handledKeys ∨
        ∃ comparison ∈ comparisons, key = comparison.key ∧ Known info comparison := by
  induction comparisons generalizing state with
  | nil => simp
  | cons comparison rest ih =>
      rw [List.foldl_cons, ih, mem_handledKeys_recordOf, List.exists_mem_cons_iff]
      tauto

/-- When nothing is left over, every key is known. -/
theorem known_of_handled {comparisons : List (Comparison N)} {later : FilterState N D}
    (hlater : later = comparisons.foldl (recordOf info parseDatetime) (.initial info))
    (hhandled : later.keysOverall.filter (fun key => key ∉ later.handledKeys) = []) :
    ∀ comparison ∈ comparisons, Known info comparison := by
  intro comparison hmem
  subst hlater
  have hkey := List.filter_eq_nil_iff.mp hhandled comparison.key
    (mem_keysOverall_foldl.mpr (Or.inr ⟨comparison, hmem, rfl⟩))
  rw [decide_eq_true_eq, not_not, mem_handledKeys_foldl] at hkey
  rcases hkey with hinitial | ⟨other, -, heq, hknown⟩
  · cases hinitial
  · rw [Known, heq]
    exact hknown

theorem setChild_children (used : DataSeriesQueryInfo) (type : StructureType) (key : String)
    (queryInfo : ChildQueryInfo type) : (used.setChild type key queryInfo).children =
      Function.update used.children type ((used.children type).insert key queryInfo) := rfl

theorem lookup_setChild_self (used : DataSeriesQueryInfo) (type : StructureType) (key : String)
    (queryInfo : ChildQueryInfo type) (other : String) :
    ((used.setChild type key queryInfo).children type).lookup other =
      if other = key then some queryInfo else (used.children type).lookup other := by
  rw [setChild_children, Function.update_self]
  by_cases hkey : other = key
  · rw [if_pos hkey, hkey, AList.lookup_insert]
  · rw [if_neg hkey, AList.lookup_insert_ne hkey]

theorem lookup_used_recordOf (state : FilterState N D) (comparison : Comparison N)
    (type : StructureType) (key : String) :
    ((recordOf info parseDatetime state comparison).usedDataSeriesChildren.children type).lookup
        key =
      if comparison.key = key ∧ info.comparedType key = some type then
        (info.children type).lookup key
      else (state.usedDataSeriesChildren.children type).lookup key := by
  rcases recordOf_cases info parseDatetime state comparison with
    ⟨hnone, hrecord⟩ | ⟨found, queryInfo, hfound, hlookup, hrecord⟩
  · have hno : ¬ (comparison.key = key ∧ info.comparedType key = some type) := by
      rintro ⟨rfl, htype⟩
      rw [hnone] at htype
      cases htype
    rw [hrecord, if_neg hno]
  · rw [hrecord]
    change ((state.usedDataSeriesChildren.setChild found comparison.key queryInfo).children
      type).lookup key = _
    by_cases htype : type = found
    · subst htype
      rw [lookup_setChild_self]
      by_cases hkey : comparison.key = key
      · subst hkey
        rw [if_pos rfl, if_pos ⟨rfl, hfound⟩, hlookup]
      · rw [if_neg (Ne.symm hkey), if_neg fun hboth => hkey hboth.1]
    · have hno : ¬ (comparison.key = key ∧ info.comparedType key = some type) := by
        rintro ⟨rfl, hsome⟩
        rw [hfound] at hsome
        exact htype (Option.some.inj hsome).symm
      rw [setChild_children, Function.update_of_ne htype, if_neg hno]

/-- The fields that are compared are recorded as the data series has them. -/
theorem lookup_used_foldl {comparisons : List (Comparison N)} {state : FilterState N D}
    (type : StructureType) (key : String) :
    ((comparisons.foldl (recordOf info parseDatetime) state).usedDataSeriesChildren.children
        type).lookup key =
      if (∃ comparison ∈ comparisons, comparison.key = key) ∧ info.comparedType key = some type then
        (info.children type).lookup key
      else (state.usedDataSeriesChildren.children type).lookup key := by
  induction comparisons generalizing state with
  | nil => simp
  | cons comparison rest ih =>
      rw [List.foldl_cons, ih, lookup_used_recordOf]
      simp only [List.exists_mem_cons_iff]
      by_cases htype : info.comparedType key = some type
      · by_cases hrest : ∃ other ∈ rest, other.key = key
        · rw [if_pos ⟨hrest, htype⟩, if_pos ⟨Or.inr hrest, htype⟩]
        · by_cases hkey : comparison.key = key
          · rw [if_neg fun hboth => hrest hboth.1, if_pos ⟨hkey, htype⟩,
              if_pos ⟨Or.inl hkey, htype⟩]
          · rw [if_neg fun hboth => hrest hboth.1, if_neg fun hboth => hkey hboth.1,
              if_neg fun hboth => hboth.1.elim hkey hrest]
      · rw [if_neg fun hboth => htype hboth.2, if_neg fun hboth => htype hboth.2,
          if_neg fun hboth => htype hboth.2]

theorem filterParamName_inj {first second : Nat}
    (heq : filterParamName first = filterParamName second) : first = second := by
  have hrepr : first.repr = second.repr := by simpa [filterParamName] using heq
  have hdigits : Nat.toDigits 10 first = Nat.toDigits 10 second := by
    rw [← Nat.toList_repr, ← Nat.toList_repr, hrepr]
  simpa using congrArg (fun digits => Nat.ofDigitChars 10 digits 0) hdigits

theorem lookup_queryParams_recordOf (state : FilterState N D) (comparison : Comparison N)
    (name : String) :
    (recordOf info parseDatetime state comparison).queryParams.lookup name =
      if name = filterParamName state.queryParamIdx ∧
        (operandAt info parseDatetime comparison).isSome then
          operandAt info parseDatetime comparison
      else state.queryParams.lookup name := by
  rcases recordOf_cases info parseDatetime state comparison with
    ⟨hnone, hrecord⟩ | ⟨found, queryInfo, -, -, hrecord⟩
  · rw [hrecord]
    simp [operandAt, hnone]
  · rw [hrecord]
    cases hoperand : operandAt info parseDatetime comparison with
    | none => simp [FilterState.record]
    | some value =>
        simp only [FilterState.record, Option.isSome_some, and_true]
        by_cases hname : name = filterParamName state.queryParamIdx
        · rw [if_pos hname, hname, AList.lookup_insert]
        · rw [if_neg hname, AList.lookup_insert_ne hname]

theorem lookup_queryParams_of_lt {comparisons : List (Comparison N)} {state : FilterState N D}
    {index : Nat} (hindex : index < state.queryParamIdx) :
    (comparisons.foldl (recordOf info parseDatetime) state).queryParams.lookup
      (filterParamName index) = state.queryParams.lookup (filterParamName index) := by
  induction comparisons generalizing state with
  | nil => rfl
  | cons comparison rest ih =>
      rw [List.foldl_cons, ih, lookup_queryParams_recordOf]
      · apply if_neg
        rintro ⟨hname, -⟩
        exact absurd (filterParamName_inj hname) (Nat.ne_of_lt hindex)
      · rw [recordOf_queryParamIdx]
        omega

/-- Each comparison has its operand under its own name. -/
theorem lookup_queryParams_foldl {comparisons : List (Comparison N)} {state : FilterState N D}
    (hfresh : ∀ index, state.queryParamIdx ≤ index →
      state.queryParams.lookup (filterParamName index) = none)
    {entry : Comparison N × Nat} (hentry : entry ∈ comparisons.zipIdx state.queryParamIdx) :
    (comparisons.foldl (recordOf info parseDatetime) state).queryParams.lookup
      (filterParamName entry.2) = operandAt info parseDatetime entry.1 := by
  induction comparisons generalizing state with
  | nil => cases hentry
  | cons comparison rest ih =>
      rw [List.zipIdx_cons, List.mem_cons] at hentry
      rw [List.foldl_cons]
      rcases hentry with rfl | hrest
      · rw [lookup_queryParams_of_lt, lookup_queryParams_recordOf]
        · cases hoperand : operandAt info parseDatetime comparison with
          | none => simpa using hfresh state.queryParamIdx le_rfl
          | some value => simp
        · rw [recordOf_queryParamIdx]
          exact Nat.lt_succ_self _
      · apply ih
        · intro index hindex
          rw [recordOf_queryParamIdx] at hindex
          rw [lookup_queryParams_recordOf, if_neg]
          · exact hfresh index (by omega)
          · rintro ⟨hname, -⟩
            have := filterParamName_inj hname
            omega
        · rw [recordOf_queryParamIdx]
          exact hrest

theorem mem_queryParams_recordOf {state : FilterState N D} {comparison : Comparison N}
    {name : String} : name ∈ (recordOf info parseDatetime state comparison).queryParams ↔
      (name = filterParamName state.queryParamIdx ∧
        (operandAt info parseDatetime comparison).isSome) ∨ name ∈ state.queryParams := by
  rw [← AList.lookup_isSome, lookup_queryParams_recordOf]
  split
  · next hboth => simp [hboth]
  · next hno => simp [hno, AList.lookup_isSome]

/-- Nothing else is bound. -/
theorem mem_queryParams_foldl {comparisons : List (Comparison N)} {state : FilterState N D}
    {name : String} :
    name ∈ (comparisons.foldl (recordOf info parseDatetime) state).queryParams ↔
      name ∈ state.queryParams ∨ ∃ entry ∈ comparisons.zipIdx state.queryParamIdx,
        name = filterParamName entry.2 ∧ (operandAt info parseDatetime entry.1).isSome := by
  induction comparisons generalizing state with
  | nil => simp
  | cons comparison rest ih =>
      rw [List.foldl_cons, ih, mem_queryParams_recordOf, recordOf_queryParamIdx, List.zipIdx_cons,
        List.exists_mem_cons_iff]
      tauto

end Records

/-- What the driver and the database do with values: the value of a scalar, how
values are ordered, which prefixes a value has, and which operands can be put
into a comparison with a column. -/
structure Database (N D V : Type) where
  value : Scalar N D → V
  order : V → V → Ordering
  like : V → V → Bool
  accepts : Lhs → Option String → ParamValue N D → Bool

/-- The values of the left sides in one row. -/
abbrev SqlRow (V : Type) := Lhs → Option V

def SqlOperator.holds : SqlOperator → Ordering → Bool
  | .eq, ordering => ordering = .eq
  | .lt, ordering => ordering = .lt
  | .lte, ordering => ordering ≠ .gt
  | .ne, ordering => ordering ≠ .eq
  | .gte, ordering => ordering ≠ .lt
  | .gt, ordering => ordering = .gt

/-- A test of a value that may be NULL. -/
def nullable (stored : Option V) (test : V → Bool) : Truth :=
  match stored with
  | none => .unknown
  | some value => .ofBool (test value)

section Execution

variable (db : Database N D V) (row : SqlRow V)
  (queryParams : AList fun _ : String => ParamValue N D)

def atomTruth : FilterAtom → Truth
  | .always => .true
  | .isNull lhs => .ofBool (row lhs).isNone
  | .isNotNull lhs => .ofBool (row lhs).isSome
  | .compare lhs operator param _ =>
      match queryParams.lookup param with
      | some (.scalar scalar) =>
          nullable (row lhs) fun stored => operator.holds (db.order stored (db.value scalar))
      | _ => .unknown
  | .inTuple lhs negated param =>
      match queryParams.lookup param with
      | some (.tuple scalars) =>
          nullable (row lhs) fun stored =>
            negated ^^ scalars.any fun scalar => db.order stored (db.value scalar) = .eq
      | _ => .unknown
  | .hasPrefix lhs param _ _ =>
      match queryParams.lookup param with
      | some (.scalar scalar) => nullable (row lhs) fun stored => db.like stored (db.value scalar)
      | _ => .unknown

def atomAccepted : FilterAtom → Bool
  | .compare lhs _ param cast => (queryParams.lookup param).any (db.accepts lhs cast)
  | .inTuple lhs _ param => (queryParams.lookup param).any (db.accepts lhs none)
  | .hasPrefix lhs param cast complete =>
      complete && (queryParams.lookup param).any (db.accepts lhs cast)
  | _ => true

/-- The other conditions of a query, as they are in a row. -/
structure OtherConditions where
  text : List (Token Truth)
  truth : Truth
  reads : Reads .conjunction text truth

/-- The condition of a query with a compiled filter; there is none when the
driver or the database refuses an operand. -/
def executeQuery (others : OtherConditions) (filterQueryStr : FilterText) : Option Truth :=
  if (atoms filterQueryStr).all (atomAccepted db queryParams) then
    evaluate (others.text ++ filterQueryStr.map (Token.map (atomTruth db row queryParams)))
  else none

end Execution

section Specification

variable (db : Database N D V) (useMaterializedTable : Bool) (info : DataSeriesQueryInfo)
  (parseDatetime : Json N → Option D) (row : SqlRow V)

/-- What an operator with one value means. -/
def operatorMeaning (operator : String) (ordering : Ordering) : Bool :=
  if operator = "$eq" then ordering = .eq
  else if operator = "$ne" then ordering ≠ .eq
  else if operator = "$lt" then ordering = .lt
  else if operator = "$lte" then ordering ≠ .gt
  else if operator = "$gt" then ordering = .gt
  else if operator = "$gte" then ordering ≠ .lt
  else false

/-- What a comparison means in a row. -/
def comparisonMeaning (comparison : Comparison N) : Truth :=
  match info.comparedType comparison.key, fieldLhs useMaterializedTable info comparison.key with
  | some type, some lhs =>
      if comparison.operator = "$eq" ∧ comparison.value.isNull then .ofBool (row lhs).isNone
      else if comparison.operator = "$ne" ∧ comparison.value.isNull then .ofBool (row lhs).isSome
      else if comparison.operator = "$in" ∨ comparison.operator = "$nin" then
        match comparison.value with
        | .array items =>
            nullable (row lhs) fun stored =>
              decide (comparison.operator = "$nin") ^^ items.any fun item =>
                (literal parseDatetime type item).any fun scalar =>
                  db.order stored (db.value scalar) = .eq
        | _ => .unknown
      else nullable (row lhs) fun stored =>
        (literal parseDatetime type comparison.value).any fun scalar =>
          operatorMeaning comparison.operator (db.order stored (db.value scalar))
  | _, _ => .unknown

/-- The operand of a comparison can be put into its condition. -/
def OperandAccepted (comparison : Comparison N) : Prop :=
  ∀ type ∈ info.comparedType comparison.key,
    ∀ lhs ∈ fieldLhs useMaterializedTable info comparison.key,
      ∀ operand ∈ operandOf parseDatetime type comparison,
        db.accepts lhs
          (if comparison.operator = "$in" ∨ comparison.operator = "$nin" then none
            else castOf type) operand = true

instance (comparison : Comparison N) :
    Decidable (OperandAccepted db useMaterializedTable info parseDatetime comparison) :=
  inferInstanceAs (Decidable (∀ type ∈ info.comparedType comparison.key,
    ∀ lhs ∈ fieldLhs useMaterializedTable info comparison.key,
      ∀ operand ∈ operandOf parseDatetime type comparison, _))

end Specification

section Comparisons

variable {db : Database N D V} {useMaterializedTable : Bool} {info : DataSeriesQueryInfo}
  {parseDatetime : Json N → Option D} {row : SqlRow V}
  {queryParams : AList fun _ : String => ParamValue N D}

theorem holds_operatorMeaning {operator : String} {sqlOperator : SqlOperator}
    (hlookup : singleValuedSqlOperators.lookup operator = some sqlOperator) (ordering : Ordering) :
    sqlOperator.holds ordering = operatorMeaning operator ordering := by
  obtain ⟨before, after, hlist, -⟩ := List.lookup_eq_some_iff.mp hlookup
  have hmem : (operator, sqlOperator) ∈ singleValuedSqlOperators := by
    rw [hlist]
    exact List.mem_append_right before List.mem_cons_self
  simp only [singleValuedSqlOperators, List.mem_cons, Prod.mk.injEq, List.not_mem_nil,
    or_false] at hmem
  rcases hmem with ⟨rfl, rfl⟩ | ⟨rfl, rfl⟩ | ⟨rfl, rfl⟩ | ⟨rfl, rfl⟩ | ⟨rfl, rfl⟩ | ⟨rfl, rfl⟩ <;>
    rfl

theorem singleValued_of_multi {operator : String}
    (hoperator : operator = "$in" ∨ operator = "$nin") :
    singleValuedSqlOperators.lookup operator = none := by
  rcases hoperator with heq | heq <;> rw [heq] <;> rfl

theorem any_mapM {literalOf : Json N → Option (Scalar N D)} {items : List (Json N)}
    {scalars : List (Scalar N D)} (hscalars : items.mapM literalOf = some scalars)
    (test : Scalar N D → Bool) :
    (items.any fun item => (literalOf item).any test) = scalars.any test := by
  induction items generalizing scalars with
  | nil =>
      cases hscalars
      rfl
  | cons item rest ih =>
      simp only [List.mapM_cons, Option.pure_def, Option.bind_eq_bind,
        Option.bind_eq_some_iff] at hscalars
      obtain ⟨scalar, hscalar, others, hothers, hpure⟩ := hscalars
      cases hpure
      rw [List.any_cons, List.any_cons, ih hothers, hscalar, Option.any_some]

theorem operandOf_null {type : StructureType} {comparison : Comparison N}
    (hnull : (comparison.operator = "$eq" ∨ comparison.operator = "$ne") ∧
      comparison.value.isNull) : operandOf parseDatetime type comparison = none :=
  if_pos hnull

theorem operandOf_single {type : StructureType} {comparison : Comparison N}
    {sqlOperator : SqlOperator} {scalar : Scalar N D}
    (hnull : ¬ ((comparison.operator = "$eq" ∨ comparison.operator = "$ne") ∧
      comparison.value.isNull))
    (hoperator : singleValuedSqlOperators.lookup comparison.operator = some sqlOperator)
    (hvalue : literal parseDatetime type comparison.value = some scalar) :
    operandOf parseDatetime type comparison = some (.scalar scalar) := by
  obtain ⟨hin, hnin⟩ := lookup_singleValued hoperator
  rw [operandOf, if_neg hnull, if_neg fun hmulti => hmulti.elim hin hnin, hvalue, Option.map_some]

theorem operandOf_multi {type : StructureType} {comparison : Comparison N}
    {items : List (Json N)} {scalars : List (Scalar N D)}
    (hoperator : comparison.operator = "$in" ∨ comparison.operator = "$nin")
    (hvalue : comparison.value = .array items)
    (hvalues : items.mapM (literal parseDatetime type) = some scalars) :
    operandOf parseDatetime type comparison = some (.tuple scalars) := by
  have hnull : ¬ ((comparison.operator = "$eq" ∨ comparison.operator = "$ne") ∧
      comparison.value.isNull) := by
    rw [hvalue]
    rintro ⟨-, hisNull⟩
    cases hisNull
  rw [operandOf, if_neg hnull, if_pos hoperator, hvalue]
  simp only [hvalues, Option.map_some]

/-- What the condition of a checked comparison is, with its operand. -/
inductive ConditionForm (parseDatetime : Json N → Option D) (lhs : Lhs) (type : StructureType)
    (comparison : Comparison N) (name : String) : FilterAtom → Option (ParamValue N D) → Prop where
  | isNull (operator : comparison.operator = "$eq") (value : comparison.value.isNull = true) :
      ConditionForm parseDatetime lhs type comparison name (.isNull lhs) none
  | isNotNull (operator : comparison.operator = "$ne") (value : comparison.value.isNull = true) :
      ConditionForm parseDatetime lhs type comparison name (.isNotNull lhs) none
  | single {sqlOperator : SqlOperator} {scalar : Scalar N D}
      (isNull : ¬ (comparison.operator = "$eq" ∧ comparison.value.isNull))
      (isNotNull : ¬ (comparison.operator = "$ne" ∧ comparison.value.isNull))
      (multi : ¬ (comparison.operator = "$in" ∨ comparison.operator = "$nin"))
      (operator : singleValuedSqlOperators.lookup comparison.operator = some sqlOperator)
      (value : literal parseDatetime type comparison.value = some scalar) :
      ConditionForm parseDatetime lhs type comparison name
        (.compare lhs sqlOperator name (castOf type)) (some (.scalar scalar))
  | multi {items : List (Json N)} {scalars : List (Scalar N D)}
      (isNull : ¬ (comparison.operator = "$eq" ∧ comparison.value.isNull))
      (isNotNull : ¬ (comparison.operator = "$ne" ∧ comparison.value.isNull))
      (operator : comparison.operator = "$in" ∨ comparison.operator = "$nin")
      (value : comparison.value = .array items)
      (values : items.mapM (literal parseDatetime type) = some scalars) :
      ConditionForm parseDatetime lhs type comparison name
        (.inTuple lhs (decide (comparison.operator = "$nin")) name) (some (.tuple scalars))

theorem conditionForm {type : StructureType} {comparison : Comparison N}
    (hchecked : Checked parseDatetime type comparison)
    (hsupported : comparison.operator ≠ "$prefix") (lhs : Lhs) (name : String) :
    ConditionForm parseDatetime lhs type comparison name (conditionOf lhs type comparison name)
      (operandOf parseDatetime type comparison) := by
  rw [conditionOf]
  by_cases hnull : comparison.operator = "$eq" ∧ comparison.value.isNull
  · rw [if_pos hnull, operandOf_null ⟨Or.inl hnull.1, hnull.2⟩]
    exact .isNull hnull.1 hnull.2
  · by_cases hnotNull : comparison.operator = "$ne" ∧ comparison.value.isNull
    · rw [if_neg hnull, if_pos hnotNull, operandOf_null ⟨Or.inr hnotNull.1, hnotNull.2⟩]
      exact .isNotNull hnotNull.1 hnotNull.2
    · rw [if_neg hnull, if_neg hnotNull]
      have hno : ¬ ((comparison.operator = "$eq" ∨ comparison.operator = "$ne") ∧
          comparison.value.isNull) := by tauto
      cases hchecked with
      | null operator value => exact absurd ⟨operator, value⟩ hno
      | prefixed operator value => exact absurd operator hsupported
      | single operator value =>
          obtain ⟨hin, hnin⟩ := lookup_singleValued operator
          rw [operandOf_single hno operator value, operator]
          exact .single hnull hnotNull (fun hmulti => hmulti.elim hin hnin) operator value
      | multi operator value values =>
          rw [operandOf_multi operator value values, singleValued_of_multi operator]
          simp only [if_neg hsupported]
          exact .multi hnull hnotNull operator value values

/-- The condition of a comparison is true in the rows that the comparison
means. -/
theorem atomTruth_atomOf {comparison : Comparison N} {name : String}
    {type : StructureType} (htype : info.comparedType comparison.key = some type)
    (hchecked : Checked parseDatetime type comparison)
    (hsupported : comparison.operator ≠ "$prefix")
    (hlookup : queryParams.lookup name = operandAt info parseDatetime comparison) :
    atomTruth db row queryParams (atomOf useMaterializedTable info comparison name) =
      comparisonMeaning db useMaterializedTable info parseDatetime row comparison := by
  obtain ⟨lhs, hlhs⟩ := exists_fieldLhs useMaterializedTable htype
  have hform := conditionForm hchecked hsupported lhs name
  rw [operandAt, htype, Option.bind_some] at hlookup
  simp only [atomOf, hlhs, htype, comparisonMeaning]
  generalize conditionOf lhs type comparison name = condition at hform ⊢
  generalize operandOf parseDatetime type comparison = operand at hform hlookup
  cases hform with
  | isNull operator value => rw [if_pos ⟨operator, value⟩, atomTruth]
  | isNotNull operator value =>
      have hother : ¬ (comparison.operator = "$eq" ∧ comparison.value.isNull) := by
        rw [operator]
        exact fun hboth => absurd hboth.1 (by decide)
      rw [if_neg hother, if_pos ⟨operator, value⟩, atomTruth]
  | single isNull isNotNull multi operator value =>
      rw [if_neg isNull, if_neg isNotNull, if_neg multi]
      simp only [atomTruth, hlookup, value, Option.any_some, holds_operatorMeaning operator]
  | multi isNull isNotNull operator value values =>
      rw [if_neg isNull, if_neg isNotNull, if_pos operator, value]
      simp only [atomTruth, hlookup]
      congr 1
      funext stored
      rw [any_mapM values]

/-- The condition of a comparison is accepted when its operand is. -/
theorem atomAccepted_atomOf {comparison : Comparison N} {name : String}
    {type : StructureType} (htype : info.comparedType comparison.key = some type)
    (hchecked : Checked parseDatetime type comparison)
    (hsupported : comparison.operator ≠ "$prefix")
    (hlookup : queryParams.lookup name = operandAt info parseDatetime comparison) :
    atomAccepted db queryParams (atomOf useMaterializedTable info comparison name) = true ↔
      OperandAccepted db useMaterializedTable info parseDatetime comparison := by
  obtain ⟨lhs, hlhs⟩ := exists_fieldLhs useMaterializedTable htype
  have hform := conditionForm hchecked hsupported lhs name
  rw [operandAt, htype, Option.bind_some] at hlookup
  simp only [atomOf, hlhs, htype, OperandAccepted, Option.mem_def, Option.some.injEq, forall_eq']
  generalize conditionOf lhs type comparison name = condition at hform ⊢
  generalize operandOf parseDatetime type comparison = operand at hform hlookup ⊢
  cases hform with
  | isNull operator value => simp [atomAccepted]
  | isNotNull operator value => simp [atomAccepted]
  | single isNull isNotNull multi operator value => simp [atomAccepted, hlookup, if_neg multi]
  | multi isNull isNotNull operator value values => simp [atomAccepted, hlookup, if_pos operator]

/-- The name of the placeholder of a condition.  One that lacks its conversion is
no placeholder. -/
def placeholder : FilterAtom → Option String
  | .compare _ _ param _ => some param
  | .inTuple _ _ param => some param
  | .hasPrefix _ param _ complete => if complete then some param else none
  | _ => none

def placeholders (text : FilterText) : List String := (atoms text).filterMap placeholder

/-- A condition that is always true has no placeholder. -/
theorem filterMap_placeholder (list : List FilterAtom) :
    list.filterMap placeholder =
      (list.filter fun atom => atom ≠ .always).filterMap placeholder := by
  rw [List.filterMap_filter]
  apply List.filterMap_congr
  intro atom _
  by_cases halways : atom = .always
  · simp [halways, placeholder]
  · simp [halways]

/-- The placeholder of a comparison is there when it has an operand. -/
theorem placeholder_atomOf {comparison : Comparison N} (name : String)
    {type : StructureType} (htype : info.comparedType comparison.key = some type)
    (hchecked : Checked parseDatetime type comparison)
    (hsupported : comparison.operator ≠ "$prefix") :
    placeholder (atomOf useMaterializedTable info comparison name) =
      (operandAt info parseDatetime comparison).map fun _ => name := by
  obtain ⟨lhs, hlhs⟩ := exists_fieldLhs useMaterializedTable htype
  have hform := conditionForm hchecked hsupported lhs name
  simp only [atomOf, hlhs, htype, operandAt, Option.bind_some]
  generalize conditionOf lhs type comparison name = condition at hform ⊢
  generalize operandOf parseDatetime type comparison = operand at hform ⊢
  cases hform <;> rfl

end Comparisons

section ExternalIds

theorem externalIdParamName_inj {first second : Nat}
    (heq : externalIdParamName first = externalIdParamName second) : first = second := by
  have hrepr : first.repr = second.repr := by simpa [externalIdParamName] using heq
  apply filterParamName_inj
  rw [filterParamName, hrepr, filterParamName]

theorem filterParamName_ne (first second : Nat) :
    filterParamName first ≠ externalIdParamName second := by
  intro heq
  have hlist := congrArg String.toList heq
  simp [filterParamName, externalIdParamName] at hlist

/-- One round of the loop over the external ids. -/
def bindExternalId (params : AList fun _ : String => ParamValue N D) (entry : ExternalId × Nat) :
    AList fun _ : String => ParamValue N D :=
  params.insert (externalIdParamName entry.2) (.scalar (.text entry.1))

theorem lookup_bindExternalId_of_lt {externalIds : List ExternalId} {index older : Nat}
    {params : AList fun _ : String => ParamValue N D} (hindex : older < index) :
    ((externalIds.zipIdx index).foldl bindExternalId params).lookup (externalIdParamName older) =
      params.lookup (externalIdParamName older) := by
  induction externalIds generalizing index params with
  | nil => rfl
  | cons externalId rest ih =>
      rw [List.zipIdx_cons, List.foldl_cons, ih (by omega), bindExternalId]
      apply AList.lookup_insert_ne
      intro heq
      have := externalIdParamName_inj heq
      omega

theorem lookup_bindExternalId {externalIds : List ExternalId} {index : Nat}
    {params : AList fun _ : String => ParamValue N D} {entry : ExternalId × Nat}
    (hentry : entry ∈ externalIds.zipIdx index) :
    ((externalIds.zipIdx index).foldl bindExternalId params).lookup (externalIdParamName entry.2) =
      some (.scalar (.text entry.1)) := by
  induction externalIds generalizing index params with
  | nil => cases hentry
  | cons externalId rest ih =>
      rw [List.zipIdx_cons, List.mem_cons] at hentry
      rw [List.zipIdx_cons, List.foldl_cons]
      rcases hentry with rfl | hrest
      · rw [lookup_bindExternalId_of_lt (Nat.lt_succ_self index), bindExternalId,
          AList.lookup_insert]
      · exact ih hrest

theorem mem_bindExternalId {externalIds : List ExternalId} {index : Nat}
    {params : AList fun _ : String => ParamValue N D} {name : String} :
    name ∈ (externalIds.zipIdx index).foldl bindExternalId params ↔
      name ∈ params ∨ ∃ entry ∈ externalIds.zipIdx index, name = externalIdParamName entry.2 := by
  induction externalIds generalizing index params with
  | nil => simp
  | cons externalId rest ih =>
      rw [List.zipIdx_cons, List.foldl_cons, ih, bindExternalId, AList.mem_insert,
        List.exists_mem_cons_iff]
      tauto

theorem atoms_externalIdClauses (externalIds : List (ExternalId × Nat)) :
    (externalIds.map fun entry => [Token.atom (FilterAtom.compare (.dsDp "external_id") .eq
        (externalIdParamName entry.2) none)]).flatMap atoms =
      externalIds.map fun entry => .compare (.dsDp "external_id") .eq
        (externalIdParamName entry.2) none := by
  induction externalIds with
  | nil => rfl
  | cons entry rest ih =>
      rw [List.map_cons, List.flatMap_cons, ih]
      rfl

theorem atoms_externalIdQueryStr (externalIds : List ExternalId) :
    atoms (externalIdQueryStr externalIds) = externalIds.zipIdx.map fun entry =>
      .compare (.dsDp "external_id") .eq (externalIdParamName entry.2) none := by
  rw [externalIdQueryStr]
  split
  · change atoms (parenthesized (List.intercalate [.or] (externalIdClauses externalIds))) = _
    rw [atoms_parenthesized, atoms_intercalate rfl, externalIdClauses, atoms_externalIdClauses]
  · next hnil =>
      rw [not_not] at hnil
      subst hnil
      rfl

/-- One of the external ids is asked for, when there are any. -/
def externalIdMeaning (db : Database N D V) (row : SqlRow V) (externalIds : List ExternalId) :
    Truth :=
  match externalIds with
  | [] => .true
  | externalIds => Truth.any (externalIds.map fun externalId =>
      nullable (row (.dsDp "external_id")) fun stored =>
        db.order stored (db.value (.text externalId)) = .eq)

/-- A condition followed by the one for the external ids. -/
theorem reads_externalIdQueryStr {db : Database N D V} {row : SqlRow V}
    {queryParams : AList fun _ : String => ParamValue N D} {externalIds : List ExternalId}
    (hlookup : ∀ entry ∈ externalIds.zipIdx,
      queryParams.lookup (externalIdParamName entry.2) = some (.scalar (.text entry.1)))
    {text : List (Token Truth)} {truth : Truth} (hreads : Reads .conjunction text truth) :
    Reads .conjunction
      (text ++ (externalIdQueryStr externalIds).map (Token.map (atomTruth db row queryParams)))
      (truth.and (externalIdMeaning db row externalIds)) := by
  cases externalIds with
  | nil =>
      rw [externalIdMeaning, Truth.and_true]
      simpa [externalIdQueryStr] using hreads
  | cons externalId rest =>
      have hclauses : List.Forall₂
          (fun text truth => Reads .conjunction
            (text.map (Token.map (atomTruth db row queryParams))) truth)
          (externalIdClauses (externalId :: rest))
          ((externalId :: rest).map fun externalId =>
            nullable (row (.dsDp "external_id")) fun stored =>
              db.order stored (db.value (.text externalId)) = .eq) := by
        have htruths : (externalId :: rest).map (fun externalId =>
            nullable (row (.dsDp "external_id")) fun stored =>
              db.order stored (db.value (.text externalId)) = .eq) =
            (externalId :: rest).zipIdx.map fun entry =>
              nullable (row (.dsDp "external_id")) fun stored =>
                db.order stored (db.value (.text entry.1)) = .eq := by
          conv_lhs => rw [← List.zipIdx_map_fst 0 (externalId :: rest), List.map_map]
          rfl
        rw [htruths, externalIdClauses, List.forall₂_map_left_iff, List.forall₂_map_right_iff,
          List.forall₂_same]
        intro entry hentry
        have htruth : atomTruth db row queryParams (.compare (.dsDp "external_id") .eq
            (externalIdParamName entry.2) none) =
            nullable (row (.dsDp "external_id")) fun stored =>
              db.order stored (db.value (.text entry.1)) = .eq := by
          simp only [atomTruth, hlookup entry hentry, SqlOperator.holds]
        rw [← htruth]
        exact (Reads.atom _).ofOperand
      have hor := Reads.intercalate_or hclauses (by simp [externalIdClauses])
      have hparens := hor.parens.ofOperand
      rw [← map_parenthesized] at hparens
      have hjoined := hreads.append hparens
      exact hjoined

end ExternalIds

theorem exists_index {A : Type} {items : List A} {item : A} (hmem : item ∈ items) :
    ∃ index, (item, index) ∈ items.zipIdx := by
  obtain ⟨index, hindex⟩ := List.mem_iff_getElem?.mp hmem
  exact ⟨index, List.mk_mem_zipIdx_iff_getElem?.mpr hindex⟩

/-- No comparison is with a prefix. -/
def NoPrefix (comparisons : List (Comparison N)) : Prop :=
  ∀ comparison ∈ comparisons, comparison.operator ≠ "$prefix"

instance (comparisons : List (Comparison N)) : Decidable (NoPrefix comparisons) :=
  inferInstanceAs (Decidable (∀ comparison ∈ comparisons, _))

section Preservation

variable {info : DataSeriesQueryInfo} {parseDatetime : Json N → Option D}

/-- What an accepted filter is compiled to. -/
structure AcceptedFilter (useMaterializedTable : Bool) (info : DataSeriesQueryInfo)
    (parseDatetime : Json N → Option D) (externalIds : List ExternalId) (filter : Json N)
    (text : FilterText) (part : UserDefinedFilter N D) : Prop where
  compiled : ∃ later, Compiled useMaterializedTable info parseDatetime (filterComparisons filter)
    (fun holds => filterMeaning holds filter) text (.initial info) later
  known : ∀ comparison ∈ filterComparisons filter, Known info comparison
  filterQueryStr : part.filterQueryStr = externalIdQueryStr externalIds ++ .and :: text
  queryParams : part.queryParams = ((filterComparisons filter).foldl (recordOf info parseDatetime)
    (.initial info)).queryParams ∪ externalIdParams externalIds
  used : part.usedDataSeriesChildren = ((filterComparisons filter).foldl
    (recordOf info parseDatetime) (.initial info)).usedDataSeriesChildren

theorem text_ne_nil {useMaterializedTable : Bool} {comparisons : List (Comparison N)}
    {meaning : (Comparison N → Truth) → Truth} {text : FilterText} {state later : FilterState N D}
    (hcompiled : Compiled useMaterializedTable info parseDatetime comparisons meaning text state
      later)
    (hknown : ∀ comparison ∈ comparisons, Known info comparison) : text ≠ [] := by
  rintro rfl
  have hagrees : Agrees useMaterializedTable info (fun _ => .true) (fun _ => .true) comparisons
      state.queryParamIdx := ⟨rfl, fun _ _ => rfl⟩
  exact (hcompiled.reads hknown _ _ hagrees).ne_nil rfl

theorem precomputeFilterPart_eq_ok {useMaterializedTable : Bool}
    (hdistinct : info.ComparableDistinct)
    {externalIds : Option (List ExternalId)} {filter : Json N} {part : UserDefinedFilter N D}
    (hok : precomputeFilterPart externalIds filter info useMaterializedTable parseDatetime =
      .ok part) :
    ∃ text, AcceptedFilter useMaterializedTable info parseDatetime (externalIds.getD []) filter
      text part := by
  simp only [precomputeFilterPart, computeUserDefinedFilterForRawQuery, bind, Except.bind] at hok
  split at hok
  · cases hok
  · next userDefinedFilter huser =>
      split at huser
      · cases huser
      · next pair hcomplex =>
          obtain ⟨text, later⟩ := pair
          have hcompiled := compiled_complexFilter hdistinct 0 filter hcomplex
          simp only at huser
          by_cases hnotFound : later.keysOverall.filter (fun key => key ∉ later.handledKeys) = []
          · rw [if_neg (not_not.mpr hnotFound)] at huser
            have hknown := known_of_handled hcompiled.state_eq hnotFound
            have hne := text_ne_nil hcompiled hknown
            simp only [pure, Except.pure] at huser hok
            cases huser
            cases hok
            refine ⟨text, ⟨later, hcompiled⟩, hknown, ?_, ?_, ?_⟩
            · rw [if_pos hne]
            · rw [hcompiled.state_eq]
            · rw [hcompiled.state_eq]
          · rw [if_pos hnotFound] at huser
            cases huser

variable {useMaterializedTable : Bool} {externalIds : List ExternalId} {filter : Json N}
  {text : FilterText} {part : UserDefinedFilter N D}

theorem AcceptedFilter.lookup_comparison
    (haccepted : AcceptedFilter useMaterializedTable info parseDatetime externalIds filter text
      part)
    {entry : Comparison N × Nat} (hentry : entry ∈ (filterComparisons filter).zipIdx) :
    part.queryParams.lookup (filterParamName entry.2) = operandAt info parseDatetime entry.1 := by
  have hown : ((filterComparisons filter).foldl (recordOf info parseDatetime)
      (.initial info)).queryParams.lookup (filterParamName entry.2) =
        operandAt info parseDatetime entry.1 :=
    lookup_queryParams_foldl (fun _ _ => rfl) hentry
  rw [haccepted.queryParams]
  by_cases hmem : filterParamName entry.2 ∈ ((filterComparisons filter).foldl
      (recordOf info parseDatetime) (.initial info)).queryParams
  · rw [AList.lookup_union_left hmem, hown]
  · rw [AList.lookup_union_right hmem, ← hown, AList.lookup_eq_none.mpr hmem, AList.lookup_eq_none]
    intro hexternal
    rcases mem_bindExternalId.mp hexternal with hempty | ⟨other, -, heq⟩
    · exact absurd hempty (AList.notMem_empty _)
    · exact filterParamName_ne _ _ heq

theorem AcceptedFilter.lookup_externalId
    (haccepted : AcceptedFilter useMaterializedTable info parseDatetime externalIds filter text
      part)
    {entry : ExternalId × Nat} (hentry : entry ∈ externalIds.zipIdx) :
    part.queryParams.lookup (externalIdParamName entry.2) = some (.scalar (.text entry.1)) := by
  rw [haccepted.queryParams, AList.lookup_union_right]
  · exact lookup_bindExternalId hentry
  · intro hmem
    rcases mem_queryParams_foldl.mp hmem with hempty | ⟨other, -, heq, -⟩
    · exact absurd hempty (AList.notMem_empty _)
    · exact filterParamName_ne _ _ heq.symm

theorem AcceptedFilter.checked
    (haccepted : AcceptedFilter useMaterializedTable info parseDatetime externalIds filter text
      part)
    {comparison : Comparison N} (hmem : comparison ∈ filterComparisons filter) :
    ∃ type, info.comparedType comparison.key = some type ∧
      Checked parseDatetime type comparison := by
  obtain ⟨later, hcompiled⟩ := haccepted.compiled
  obtain ⟨type, htype⟩ := Option.isSome_iff_exists.mp (haccepted.known comparison hmem)
  exact ⟨type, htype, hcompiled.checked comparison hmem type htype⟩

theorem AcceptedFilter.agrees
    (haccepted : AcceptedFilter useMaterializedTable info parseDatetime externalIds filter text
      part) (hsupported : NoPrefix (filterComparisons filter)) (db : Database N D V)
    (row : SqlRow V) :
    Agrees useMaterializedTable info (atomTruth db row part.queryParams)
      (comparisonMeaning db useMaterializedTable info parseDatetime row)
      (filterComparisons filter) 0 := by
  refine ⟨rfl, ?_⟩
  intro entry hentry
  have hmem := List.fst_mem_of_mem_zipIdx hentry
  obtain ⟨type, htype, hchecked⟩ := haccepted.checked hmem
  exact atomTruth_atomOf htype hchecked (hsupported entry.1 hmem)
    (haccepted.lookup_comparison hentry)

/-- The atoms of the text that can fail or have a placeholder. -/
theorem AcceptedFilter.atoms_eq
    (haccepted : AcceptedFilter useMaterializedTable info parseDatetime externalIds filter text
      part) :
    (atoms text).filter (fun atom => atom ≠ .always) =
      numberedAtoms useMaterializedTable info (filterComparisons filter) 0 := by
  obtain ⟨later, hcompiled⟩ := haccepted.compiled
  exact hcompiled.atoms_eq haccepted.known

theorem AcceptedFilter.exists_entry
    (haccepted : AcceptedFilter useMaterializedTable info parseDatetime externalIds filter text
      part) {atom : FilterAtom} (hatom : atom ∈ atoms text) (hnever : atom ≠ .always) :
    ∃ entry ∈ (filterComparisons filter).zipIdx,
      atomOf useMaterializedTable info entry.1 (filterParamName entry.2) = atom := by
  have hnumbered : atom ∈ (atoms text).filter fun atom => atom ≠ .always :=
    List.mem_filter.mpr ⟨hatom, decide_eq_true hnever⟩
  rw [haccepted.atoms_eq] at hnumbered
  exact List.mem_map.mp hnumbered

theorem AcceptedFilter.atomOf_mem
    (haccepted : AcceptedFilter useMaterializedTable info parseDatetime externalIds filter text
      part) {entry : Comparison N × Nat} (hentry : entry ∈ (filterComparisons filter).zipIdx) :
    atomOf useMaterializedTable info entry.1 (filterParamName entry.2) ∈ atoms text := by
  have hnumbered : atomOf useMaterializedTable info entry.1 (filterParamName entry.2) ∈
      (atoms text).filter fun atom => atom ≠ .always := by
    rw [haccepted.atoms_eq]
    exact List.mem_map_of_mem hentry
  exact List.mem_of_mem_filter hnumbered

theorem AcceptedFilter.atoms_filterQueryStr
    (haccepted : AcceptedFilter useMaterializedTable info parseDatetime externalIds filter text
      part) :
    atoms part.filterQueryStr = atoms (externalIdQueryStr externalIds) ++ atoms text := by
  rw [haccepted.filterQueryStr, atoms_append]
  rfl

/-- What is bound for a filter: the external ids, and the operands of its
comparisons in order. -/
def operands (info : DataSeriesQueryInfo) (parseDatetime : Json N → Option D)
    (externalIds : List ExternalId) (filter : Json N) : List (ParamValue N D) :=
  externalIds.map (fun externalId => .scalar (.text externalId)) ++
    (filterComparisons filter).filterMap (operandAt info parseDatetime)

/-- A query with the compiled filter selects the rows that the filter means, its
placeholders and parameters belong together, and the fields that are compared
are recorded. -/
structure FilterPreserved (db : Database N D V) (info : DataSeriesQueryInfo)
    (parseDatetime : Json N → Option D) (externalIds : List ExternalId) (filter : Json N)
    (part : UserDefinedFilter N D) : Prop where
  selects : ∀ (row : SqlRow V) (others : OtherConditions), ∃ truth,
    executeQuery db row part.queryParams others part.filterQueryStr = some truth ∧
      (truth = .true ↔ others.truth = .true ∧ externalIdMeaning db row externalIds = .true ∧
        filterMeaning (comparisonMeaning db true info parseDatetime row) filter = .true)
  placeholders_nodup : (placeholders part.filterQueryStr).Nodup
  own_value : (placeholders part.filterQueryStr).map (fun name => part.queryParams.lookup name) =
    (operands info parseDatetime externalIds filter).map some
  all_used : ∀ name ∈ part.queryParams, name ∈ placeholders part.filterQueryStr
  recorded : ∀ type key, (part.usedDataSeriesChildren.children type).lookup key =
    if (∃ comparison ∈ filterComparisons filter, comparison.key = key) ∧
        info.comparedType key = some type then (info.children type).lookup key
    else none

/-- The driver and the database take every operand. -/
def OperandsAccepted (db : Database N D V) (info : DataSeriesQueryInfo)
    (parseDatetime : Json N → Option D) (externalIds : List ExternalId) (filter : Json N) : Prop :=
  (∀ externalId ∈ externalIds,
    db.accepts (.dsDp "external_id") none (.scalar (.text externalId)) = true) ∧
  ∀ comparison ∈ filterComparisons filter, OperandAccepted db true info parseDatetime comparison

instance (db : Database N D V) (externalIds : List ExternalId) (filter : Json N) :
    Decidable (OperandsAccepted db info parseDatetime externalIds filter) :=
  inferInstanceAs (Decidable (_ ∧ ∀ comparison ∈ filterComparisons filter,
    OperandAccepted db true info parseDatetime comparison))

theorem AcceptedFilter.all_accepted
    (haccepted : AcceptedFilter true info parseDatetime externalIds filter text part)
    (hsupported : NoPrefix (filterComparisons filter)) (db : Database N D V) :
    (atoms part.filterQueryStr).all (atomAccepted db part.queryParams) = true ↔
      OperandsAccepted db info parseDatetime externalIds filter := by
  rw [haccepted.atoms_filterQueryStr, List.all_append, Bool.and_eq_true, OperandsAccepted,
    atoms_externalIdQueryStr, List.all_map, List.all_eq_true, List.all_eq_true]
  apply and_congr
  · constructor
    · intro hall externalId hmem
      obtain ⟨index, hentry⟩ := exists_index hmem
      have haccept := hall _ hentry
      rw [Function.comp_apply, atomAccepted, haccepted.lookup_externalId hentry,
        Option.any_some] at haccept
      exact haccept
    · intro hall entry hentry
      rw [Function.comp_apply, atomAccepted, haccepted.lookup_externalId hentry, Option.any_some]
      exact hall entry.1 (List.fst_mem_of_mem_zipIdx hentry)
  · have hcomparison : ∀ entry ∈ (filterComparisons filter).zipIdx,
        (atomAccepted db part.queryParams
          (atomOf true info entry.1 (filterParamName entry.2)) = true ↔
            OperandAccepted db true info parseDatetime entry.1) := by
      intro entry hentry
      have hmem := List.fst_mem_of_mem_zipIdx hentry
      obtain ⟨type, htype, hchecked⟩ := haccepted.checked hmem
      exact atomAccepted_atomOf htype hchecked (hsupported entry.1 hmem)
        (haccepted.lookup_comparison hentry)
    constructor
    · intro hall comparison hmem
      obtain ⟨index, hentry⟩ := exists_index hmem
      exact (hcomparison _ hentry).mp (hall _ (haccepted.atomOf_mem hentry))
    · intro hall atom hatom
      by_cases halways : atom = .always
      · rw [halways, atomAccepted]
        · simp
        · simp
        · simp
      · obtain ⟨entry, hentry, rfl⟩ := haccepted.exists_entry hatom halways
        exact (hcomparison entry hentry).mpr (hall entry.1 (List.fst_mem_of_mem_zipIdx hentry))

/-- The names of numbered comparisons that have an operand. -/
def operandNames (info : DataSeriesQueryInfo) (parseDatetime : Json N → Option D)
    (comparisons : List (Comparison N)) (index : Nat) : List String :=
  (comparisons.zipIdx index).filterMap fun entry =>
    (operandAt info parseDatetime entry.1).map fun _ => filterParamName entry.2

theorem AcceptedFilter.placeholders_eq
    (haccepted : AcceptedFilter useMaterializedTable info parseDatetime externalIds filter text
      part) (hsupported : NoPrefix (filterComparisons filter)) :
    placeholders part.filterQueryStr =
      externalIds.zipIdx.map (fun entry => externalIdParamName entry.2) ++
        operandNames info parseDatetime (filterComparisons filter) 0 := by
  have hexternal : (atoms (externalIdQueryStr externalIds)).filterMap placeholder =
      externalIds.zipIdx.map fun entry => externalIdParamName entry.2 := by
    rw [atoms_externalIdQueryStr, List.filterMap_map]
    change List.filterMap (some ∘ fun entry : ExternalId × Nat => externalIdParamName entry.2) _ = _
    rw [List.filterMap_eq_map]
  rw [placeholders, haccepted.atoms_filterQueryStr, List.filterMap_append, hexternal,
    filterMap_placeholder, haccepted.atoms_eq, numberedAtoms, List.filterMap_map, operandNames]
  congr 1
  apply List.filterMap_congr
  intro entry hentry
  have hmem := List.fst_mem_of_mem_zipIdx hentry
  obtain ⟨type, htype, hchecked⟩ := haccepted.checked hmem
  exact placeholder_atomOf _ htype hchecked (hsupported entry.1 hmem)

theorem mem_operandNames {comparisons : List (Comparison N)} {index : Nat} {name : String} :
    name ∈ operandNames info parseDatetime comparisons index ↔
      ∃ entry ∈ comparisons.zipIdx index,
        name = filterParamName entry.2 ∧ (operandAt info parseDatetime entry.1).isSome := by
  simp only [operandNames, List.mem_filterMap, Option.map_eq_some_iff]
  constructor
  · rintro ⟨entry, hentry, operand, hoperand, rfl⟩
    exact ⟨entry, hentry, rfl, by rw [hoperand]; rfl⟩
  · rintro ⟨entry, hentry, rfl, hsome⟩
    obtain ⟨operand, hoperand⟩ := Option.isSome_iff_exists.mp hsome
    exact ⟨entry, hentry, operand, hoperand, rfl⟩

theorem operandNames_cons (comparison : Comparison N) (rest : List (Comparison N)) (index : Nat) :
    operandNames info parseDatetime (comparison :: rest) index =
      ((operandAt info parseDatetime comparison).map fun _ => filterParamName index).toList ++
        operandNames info parseDatetime rest (index + 1) := by
  rw [operandNames, List.zipIdx_cons, List.filterMap_cons]
  cases operandAt info parseDatetime comparison <;> rfl

theorem operandNames_nodup (comparisons : List (Comparison N)) (index : Nat) :
    (operandNames info parseDatetime comparisons index).Nodup := by
  induction comparisons generalizing index with
  | nil => exact List.nodup_nil
  | cons comparison rest ih =>
      rw [operandNames_cons]
      cases operandAt info parseDatetime comparison with
      | none => exact ih (index + 1)
      | some operand =>
          refine List.nodup_cons.mpr ⟨?_, ih (index + 1)⟩
          intro hmem
          obtain ⟨entry, hentry, heq, -⟩ := mem_operandNames.mp hmem
          have hle := List.le_snd_of_mem_zipIdx hentry
          have := filterParamName_inj heq
          omega

/-- Looking up the names gives the operands. -/
theorem map_lookup_operandNames {lookup : String → Option (ParamValue N D)}
    (comparisons : List (Comparison N)) (index : Nat)
    (hlookup : ∀ entry ∈ comparisons.zipIdx index,
      lookup (filterParamName entry.2) = operandAt info parseDatetime entry.1) :
    (operandNames info parseDatetime comparisons index).map lookup =
      (comparisons.filterMap (operandAt info parseDatetime)).map some := by
  induction comparisons generalizing index with
  | nil => rfl
  | cons comparison rest ih =>
      rw [List.zipIdx_cons, List.forall_mem_cons] at hlookup
      rw [operandNames_cons, List.map_append, ih (index + 1) hlookup.2, List.filterMap_cons]
      cases hoperand : operandAt info parseDatetime comparison with
      | none => rfl
      | some operand =>
          rw [hoperand] at hlookup
          simp [hlookup.1]

theorem AcceptedFilter.placeholders_nodup
    (haccepted : AcceptedFilter useMaterializedTable info parseDatetime externalIds filter text
      part) (hsupported : NoPrefix (filterComparisons filter)) :
    (placeholders part.filterQueryStr).Nodup := by
  rw [haccepted.placeholders_eq hsupported, List.nodup_append']
  refine ⟨?_, operandNames_nodup _ _, ?_⟩
  · have hsnd := List.nodup_zipIdx_map_snd externalIds
    have hmap := hsnd.map (fun _ _ => externalIdParamName_inj)
    rw [List.map_map] at hmap
    exact hmap
  · intro name hexternal hcomparison
    obtain ⟨entry, -, rfl⟩ := List.mem_map.mp hexternal
    obtain ⟨other, -, heq, -⟩ := mem_operandNames.mp hcomparison
    exact filterParamName_ne _ _ heq.symm

theorem AcceptedFilter.own_value
    (haccepted : AcceptedFilter useMaterializedTable info parseDatetime externalIds filter text
      part) (hsupported : NoPrefix (filterComparisons filter)) :
    (placeholders part.filterQueryStr).map (fun name => part.queryParams.lookup name) =
      (operands info parseDatetime externalIds filter).map some := by
  rw [haccepted.placeholders_eq hsupported, operands, List.map_append, List.map_append,
    map_lookup_operandNames _ 0 fun _ hentry => haccepted.lookup_comparison hentry]
  congr 1
  rw [List.map_map, List.map_map]
  conv_rhs => rw [← List.zipIdx_map_fst 0 externalIds, List.map_map]
  apply List.map_congr_left
  intro entry hentry
  exact haccepted.lookup_externalId hentry

theorem AcceptedFilter.all_used
    (haccepted : AcceptedFilter useMaterializedTable info parseDatetime externalIds filter text
      part) (hsupported : NoPrefix (filterComparisons filter)) :
    ∀ name ∈ part.queryParams, name ∈ placeholders part.filterQueryStr := by
  intro name hname
  rw [haccepted.queryParams, AList.mem_union] at hname
  rw [haccepted.placeholders_eq hsupported, List.mem_append]
  rcases hname with hcomparison | hexternal
  · right
    rcases mem_queryParams_foldl.mp hcomparison with hempty | hentry
    · exact absurd hempty (AList.notMem_empty _)
    · exact mem_operandNames.mpr hentry
  · left
    rcases mem_bindExternalId.mp hexternal with hempty | ⟨entry, hentry, rfl⟩
    · exact absurd hempty (AList.notMem_empty _)
    · exact List.mem_map_of_mem hentry

theorem AcceptedFilter.recorded
    (haccepted : AcceptedFilter useMaterializedTable info parseDatetime externalIds filter text
      part) (type : StructureType) (key : String) :
    (part.usedDataSeriesChildren.children type).lookup key =
      if (∃ comparison ∈ filterComparisons filter, comparison.key = key) ∧
          info.comparedType key = some type then (info.children type).lookup key
      else none := by
  rw [haccepted.used, lookup_used_foldl]
  rfl

/-- The whole condition reads as the conjunction of its three parts. -/
theorem AcceptedFilter.evaluate_of_agrees
    (haccepted : AcceptedFilter useMaterializedTable info parseDatetime externalIds filter text
      part) (db : Database N D V) (row : SqlRow V) {holds : Comparison N → Truth}
    (hagrees : Agrees useMaterializedTable info (atomTruth db row part.queryParams) holds
      (filterComparisons filter) 0) (others : OtherConditions) :
    evaluate (others.text ++
        part.filterQueryStr.map (Token.map (atomTruth db row part.queryParams))) =
      some ((others.truth.and (externalIdMeaning db row externalIds)).and
        (filterMeaning holds filter)) := by
  obtain ⟨later, hcompiled⟩ := haccepted.compiled
  have hexternal : Reads .conjunction
      (others.text ++ (externalIdQueryStr externalIds).map
        (Token.map (atomTruth db row part.queryParams)))
      (others.truth.and (externalIdMeaning db row externalIds)) :=
    reads_externalIdQueryStr (fun _ hentry => haccepted.lookup_externalId hentry) others.reads
  have hfilter := hcompiled.reads haccepted.known _ _ hagrees
  have hreads := (hexternal.append hfilter).ofConjunction
  rw [haccepted.filterQueryStr, List.map_append, ← List.append_assoc]
  exact hreads.evaluate_eq

theorem AcceptedFilter.evaluate_eq
    (haccepted : AcceptedFilter useMaterializedTable info parseDatetime externalIds filter text
      part) (hsupported : NoPrefix (filterComparisons filter)) (db : Database N D V)
    (row : SqlRow V) (others : OtherConditions) :
    evaluate (others.text ++
        part.filterQueryStr.map (Token.map (atomTruth db row part.queryParams))) =
      some ((others.truth.and (externalIdMeaning db row externalIds)).and (filterMeaning
        (comparisonMeaning db useMaterializedTable info parseDatetime row) filter)) :=
  haccepted.evaluate_of_agrees db row (haccepted.agrees hsupported db row) others

end Preservation

/-- A filter without prefixes keeps its meaning exactly when the driver and the
database take its operands. -/
theorem filter_preserved_iff (db : Database N D V) (info : DataSeriesQueryInfo)
    (parseDatetime : Json N → Option D) (externalIds : Option (List ExternalId)) (filter : Json N)
    (part : UserDefinedFilter N D) (hdistinct : info.ComparableDistinct)
    (hok : precomputeFilterPart externalIds filter info true parseDatetime = .ok part)
    (hsupported : NoPrefix (filterComparisons filter)) :
    FilterPreserved db info parseDatetime (externalIds.getD []) filter part ↔
      OperandsAccepted db info parseDatetime (externalIds.getD []) filter := by
  obtain ⟨text, haccepted⟩ := precomputeFilterPart_eq_ok hdistinct hok
  rw [← haccepted.all_accepted hsupported db]
  constructor
  · intro hpreserved
    obtain ⟨truth, hexecute, -⟩ := hpreserved.selects (fun _ => none)
      ⟨[.atom .true], .true, (Reads.atom .true).ofOperand⟩
    rw [executeQuery] at hexecute
    by_contra hrefused
    rw [if_neg hrefused] at hexecute
    cases hexecute
  · intro hall
    refine ⟨?_, haccepted.placeholders_nodup hsupported,
      haccepted.own_value hsupported, haccepted.all_used hsupported,
      haccepted.recorded⟩
    intro row others
    refine ⟨(others.truth.and (externalIdMeaning db row (externalIds.getD []))).and
      (filterMeaning (comparisonMeaning db true info parseDatetime row) filter), ?_, ?_⟩
    · rw [executeQuery, if_pos hall, haccepted.evaluate_eq hsupported]
    · rw [Truth.and_eq_true, Truth.and_eq_true, and_assoc]

namespace FilterWitness

def field (externalId : ExternalId) : DataSeriesFactQueryInfo :=
  ⟨"1", "2", externalId, escape ("1_" ++ externalId), 0⟩

/-- A data series with a string fact. -/
def info : DataSeriesQueryInfo where
  dataSeriesId := "0"
  schemaName := "tenant"
  mainQueryTableName := "_mat_0"
  materializedFlatHistoryTableName := "_mfhist_0"
  backend := .dynamicSqlNoHistory
  locked := false
  mainAliveFilter := .deletedAtIsNull
  mainExtraFields := []
  children := fun type =>
    match type with
    | .fact .string => AList.singleton "f" (field "f")
    | _ => ∅

theorem info_distinct : info.ComparableDistinct := by
  have honly : ∀ type key, key ∈ info.children type → type = .fact .string := by
    intro type key hmem
    cases type with
    | dimension => exact absurd hmem (AList.notMem_empty key)
    | fact type =>
        cases type with
        | string => rfl
        | _ => exact absurd hmem (AList.notMem_empty key)
  intro type _ other _ key htype hother
  rw [honly type key htype, honly other key hother]

def compareText (first second : Scalar Int Int) : Ordering :=
  match first, second with
  | .text first, .text second => compare first second
  | _, _ => .eq

/-- psycopg 3: a tuple is written as one literal, so that there is no list after
an IN; and a boolean cannot be cast to a number. -/
def psycopg : Database Int Int (Scalar Int Int) where
  value := id
  order := compareText
  like := fun _ _ => false
  accepts := fun _ cast operand =>
    match operand with
    | .tuple _ => false
    | .scalar (.boolean _) => cast ≠ some "double precision"
    | .scalar _ => true

def part (filter : Json Int) : Except (FilterError Int) (UserDefinedFilter Int Int) :=
  precomputeFilterPart none filter info true fun _ => none

/-- A filter with an `$in` is accepted, and the query fails. -/
theorem in_not_preserved :
    ∃ accepted, part (.object [("f", .object [("$in", .array [])])]) = .ok accepted ∧
      ¬ FilterPreserved psycopg info (fun _ => none) []
        (.object [("f", .object [("$in", .array [])])]) accepted := by
  refine ⟨_, rfl, ?_⟩
  intro hpreserved
  obtain ⟨truth, hexecute, -⟩ := hpreserved.selects (fun _ => none)
    ⟨[.atom .true], .true, (Reads.atom .true).ofOperand⟩
  cases hexecute

/-- `{"$or": [{"f": "a"}, {"$not": {"f": {"$lt": "b", "$ne": null}}}]}`. -/
def orFilter : Json Int :=
  .object [("$or", .array [
    .object [("f", .string "a")],
    .object [("$not", .object [("f", .object [("$lt", .string "b"), ("$ne", .null)])])]])]

theorem or_preserved :
    ∃ accepted, part orFilter = .ok accepted ∧
      FilterPreserved psycopg info (fun _ => none) [] orFilter accepted := by
  refine ⟨_, rfl, ?_⟩
  apply (filter_preserved_iff psycopg info (fun _ => none) none orFilter _ info_distinct rfl
    (by decide)).mpr
  decide

end FilterWitness

end NFCompose
