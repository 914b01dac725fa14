/-
Where the compilation of a filter stops.  The places of a filter are listed in
the order in which they are read, each with the calls that are under way there
and the error that is raised there; the compilation raises the first error of
that list.
-/
import NFCompose.FilterMeaning

namespace NFCompose

variable {N D : Type}

/-- A place of a filter: how many calls of `complex_filter_to_sql_filter` and
`handle_column` are under way when it is read, and what is raised there. -/
structure Place (N : Type) where
  frames : Nat
  raises : Option (FilterError N)

/-- The error with which reading the places ends. -/
def raised (places : List (Place N)) : Option (FilterError N) := places.findSome? Place.raises

def FilterError.isValidationError : FilterError N → Bool
  | .validationError _ => true
  | .noValidDatetime _ => true
  | .unrecognizedFields _ => true
  | .valueError _ => false
  | .typeError => false
  | .attributeError => false

section Refusals

variable (info : DataSeriesQueryInfo) (parseDatetime : Json N → Option D)

/-- What the handler of a type raises for a comparison under a key of that
type. -/
def FieldHandler.refusal (handler : FieldHandler N D) (comparison : Comparison N) :
    Option (FilterError N) :=
  if (comparison.operator = "$eq" ∨ comparison.operator = "$ne") ∧ comparison.value.isNull then none
  else if (singleValuedSqlOperators.lookup comparison.operator).isSome ∨
      (comparison.operator = "$prefix" ∧ handler.prefixSyntax.isSome) then
    if (handler.scalar comparison.value).isSome then none
    else some (handler.noScalar comparison.key comparison.value)
  else if (multiValuedSqlOperators.lookup comparison.operator).isSome then
    match comparison.value with
    | .array items =>
        if (items.mapM handler.scalar).isSome then none
        else some (.validationError ("expected list of " ++ handler.expectedList ++
          " for operator " ++ comparison.operator ++ " on field " ++ comparison.key))
    | _ => some (.validationError ("expected list of " ++ handler.expectedList ++
        " for operator " ++ comparison.operator ++ " on field " ++ comparison.key))
  else some (.validationError
    ("unsupported operator " ++ comparison.operator ++ " for field " ++ comparison.key))

/-- What the first handler raises that knows the key and refuses the
comparison. -/
def refusal (comparison : Comparison N) : Option (FilterError N) :=
  (handlers parseDatetime).findSome? fun handler =>
    if comparison.key ∈ info.children handler.type then handler.refusal comparison else none

end Refusals

section Places

variable (info : DataSeriesQueryInfo) (parseDatetime : Json N → Option D) (maxDepth : Nat)

mutual

def columnPlaces (frames : Nat) (column operator : String) : Json N → List (Place N)
  | .object members => ⟨frames, none⟩ :: operatorPlaces (frames + 1) column members
  | value => [⟨frames, refusal info parseDatetime ⟨column, operator, value⟩⟩]

def operatorPlaces (frames : Nat) (column : String) : List (String × Json N) → List (Place N)
  | [] => []
  | (operator, value) :: rest =>
      columnPlaces frames column operator value ++ operatorPlaces frames column rest

end

/-- The start of a call of `complex_filter_to_sql_filter`. -/
def startPlace (depth : Nat) (error : Option (FilterError N)) : Place N where
  frames := depth + 1
  raises :=
    if depth > maxDepth then some (.validationError "Maximum nesting complexity of query reached")
    else error

mutual

def filterPlaces (depth : Nat) : Json N → List (Place N)
  | .object members => startPlace maxDepth depth none :: memberPlaces depth members
  | .array items =>
      [startPlace maxDepth depth (if items.isEmpty then none else some .attributeError)]
  | .string value =>
      [startPlace maxDepth depth (if value.isEmpty then none else some .attributeError)]
  | _ => [startPlace maxDepth depth (some .typeError)]

def memberPlaces (depth : Nat) : List (String × Json N) → List (Place N)
  | [] => []
  | (key, value) :: rest => keyPlaces depth key value ++ memberPlaces depth rest

def keyPlaces (depth : Nat) (key : String) (value : Json N) : List (Place N) :=
  if key = "$and" then
    match value with
    | .array items =>
        if items.isEmpty then
          [⟨depth + 1, some (.validationError "argument to $and must be a non empty array")⟩]
        else itemPlaces (depth + 1) items
    | _ => [⟨depth + 1, some (.validationError "$and operator requires a list as argument")⟩]
  else if key = "$or" then
    match value with
    | .array items =>
        if items.isEmpty then
          [⟨depth + 1, some (.validationError "argument to $or must be a non empty array")⟩]
        else itemPlaces (depth + 1) items
    | _ => [⟨depth + 1, some (.validationError "$or operator requires a list as argument")⟩]
  else if key = "$not" then
    match value with
    | .object members =>
        if members.isEmpty then
          [⟨depth + 1, some (.validationError "argument to $not must be a non empty dictionary")⟩]
        else startPlace maxDepth (depth + 1) none :: memberPlaces (depth + 1) members
    | _ => [⟨depth + 1, some (.validationError "$not operator requires a dictionary as argument")⟩]
  else if key.toList.head? = some '$' then
    [⟨depth + 1, some (.valueError ("Unsupported operator: " ++ key))⟩]
  else columnPlaces info parseDatetime (depth + 2) key "$eq" value

def itemPlaces (depth : Nat) : List (Json N) → List (Place N)
  | [] => []
  | item :: rest => filterPlaces depth item ++ itemPlaces depth rest

end

end Places

section Traces

/-- The error of a result. -/
def errorOf {E A : Type} : Except E A → Option E
  | .ok _ => none
  | .error error => some error

/-- An action raises the first error of its places, from every state. -/
def Traced {A : Type} (action : FilterM N D A) (places : List (Place N)) : Prop :=
  ∀ state, errorOf (action state) = raised places

theorem raised_append (first second : List (Place N)) :
    raised (first ++ second) = (raised first).or (raised second) :=
  List.findSome?_append

theorem Traced.pure {A : Type} (value : A) : Traced (pure value : FilterM N D A) [] :=
  fun _ => rfl

theorem Traced.throw {A : Type} (error : FilterError N) (frames : Nat) :
    Traced (throw error : FilterM N D A) [⟨frames, some error⟩] :=
  fun _ => rfl

/-- A place at which nothing is raised changes nothing. -/
theorem Traced.cons_none {A : Type} {action : FilterM N D A} {places : List (Place N)}
    (htraced : Traced action places) (frames : Nat) : Traced action (⟨frames, none⟩ :: places) :=
  fun state => htraced state

theorem Traced.bind {A B : Type} {action : FilterM N D A} {next : A → FilterM N D B}
    {first second : List (Place N)} (hfirst : Traced action first)
    (hsecond : ∀ value, Traced (next value) second) :
    Traced (action >>= next) (first ++ second) := by
  intro state
  have herror := hfirst state
  rw [raised_append]
  simp only [Bind.bind, StateT.bind, Except.bind]
  cases haction : action state with
  | error error =>
      rw [haction] at herror
      rw [← herror]
      rfl
  | ok pair =>
      rw [haction] at herror
      rw [← herror]
      exact hsecond pair.1 pair.2

theorem Traced.bind_pure {A B : Type} {action : FilterM N D A} {places : List (Place N)}
    (haction : Traced action places) (result : A → B) :
    Traced (action >>= fun value => Pure.pure (result value)) places := by
  have hbind := haction.bind fun value => Traced.pure (result value)
  rwa [List.append_nil] at hbind

end Traces

section Handlers

theorem errorOf_bind_pure {E A B : Type} (action : Except E A) (result : A → B) :
    errorOf (action >>= fun value => pure (result value)) = errorOf action := by
  cases action with
  | error error => rfl
  | ok value => rfl

theorem errorOf_checkScalar (handler : FieldHandler N D) (key : String) (value : Json N) :
    errorOf (handler.checkScalar key value) =
      if (handler.scalar value).isSome then none else some (handler.noScalar key value) := by
  rw [FieldHandler.checkScalar]
  cases handler.scalar value with
  | some scalar => rfl
  | none => rfl

theorem errorOf_checkElements (handler : FieldHandler N D) (operator key : String)
    (value : Json N) :
    errorOf (handler.checkElements operator key value) =
      match value with
      | .array items =>
          if (items.mapM handler.scalar).isSome then none
          else some (.validationError ("expected list of " ++ handler.expectedList ++
            " for operator " ++ operator ++ " on field " ++ key))
      | _ => some (.validationError ("expected list of " ++ handler.expectedList ++
          " for operator " ++ operator ++ " on field " ++ key)) := by
  cases value with
  | array items =>
      simp only [FieldHandler.checkElements]
      cases items.mapM handler.scalar with
      | some scalars => rfl
      | none => rfl
  | _ => rfl

/-- The error of a condition depends on the comparison only. -/
theorem errorOf_condition (handler : FieldHandler N D) (lhs : Lhs) (name : String)
    (comparison : Comparison N) :
    errorOf (handler.condition lhs name comparison.key comparison.value comparison.operator) =
      handler.refusal comparison := by
  rw [FieldHandler.condition, FieldHandler.refusal]
  by_cases hnull : comparison.operator = "$eq" ∧ comparison.value.isNull
  · rw [if_pos hnull, if_pos ⟨Or.inl hnull.1, hnull.2⟩]
    rfl
  · rw [if_neg hnull]
    by_cases hnotNull : comparison.operator = "$ne" ∧ comparison.value.isNull
    · rw [if_pos hnotNull, if_pos ⟨Or.inr hnotNull.1, hnotNull.2⟩]
      rfl
    · have hno : ¬ ((comparison.operator = "$eq" ∨ comparison.operator = "$ne") ∧
          comparison.value.isNull) := by tauto
      rw [if_neg hnotNull, if_neg hno]
      cases hsingle : singleValuedSqlOperators.lookup comparison.operator with
      | some sqlOperator =>
          simp only [Option.isSome_some, true_or, ↓reduceIte]
          rw [← errorOf_checkScalar]
          exact errorOf_bind_pure _ _
      | none =>
          simp only [Option.isSome_none, Bool.false_eq_true, false_or]
          cases hsome : handler.prefixSyntax.filter fun _ => comparison.operator = "$prefix" with
          | some prefixSyntax =>
              obtain ⟨hform, hoperator⟩ := Option.filter_eq_some_iff.mp hsome
              have hstarts : comparison.operator = "$prefix" := by simpa using hoperator
              rw [if_pos ⟨hstarts, Option.isSome_of_eq_some hform⟩, ← errorOf_checkScalar]
              exact errorOf_bind_pure _ _
          | none =>
              have hstarts : ¬ (comparison.operator = "$prefix" ∧
                  handler.prefixSyntax.isSome = true) := by
                rintro ⟨hoperator, hform⟩
                obtain ⟨prefixSyntax, hfound⟩ := Option.isSome_iff_exists.mp hform
                rw [hfound, Option.filter_some, if_pos (by simpa using hoperator)] at hsome
                cases hsome
              rw [if_neg hstarts]
              cases multiValuedSqlOperators.lookup comparison.operator with
              | some negated =>
                  simp only [Option.isSome_some, ↓reduceIte]
                  rw [← errorOf_checkElements]
                  exact errorOf_bind_pure _ _
              | none => rfl

variable {useMaterializedTable : Bool} {info : DataSeriesQueryInfo}
  {parseDatetime : Json N → Option D}

theorem traced_handleIfChild (handler : FieldHandler N D) (name : String)
    (comparison : Comparison N) (frames : Nat) :
    Traced (handleIfChild useMaterializedTable info handler name comparison.key comparison.value
      comparison.operator) [⟨frames, if comparison.key ∈ info.children handler.type then
        handler.refusal comparison else none⟩] := by
  intro state
  rw [raised, List.findSome?_singleton]
  cases hlookup : (info.children handler.type).lookup comparison.key with
  | none =>
      rw [if_neg (AList.lookup_eq_none.mp hlookup)]
      simp only [handleIfChild, hlookup]
      rfl
  | some queryInfo =>
      have hmem : comparison.key ∈ info.children handler.type :=
        AList.lookup_isSome.mp (Option.isSome_of_eq_some hlookup)
      rw [if_pos hmem, ← errorOf_condition handler
        (lhsOf useMaterializedTable handler.type comparison.key queryInfo) name]
      simp only [handleIfChild, hlookup]
      exact errorOf_bind_pure _ _

/-- The handlers are tried in turn. -/
theorem traced_mapM_handleIfChild (list : List (FieldHandler N D)) (name : String)
    (comparison : Comparison N) (frames : Nat) :
    Traced (list.mapM fun handler => handleIfChild useMaterializedTable info handler name
      comparison.key comparison.value comparison.operator)
      [⟨frames, list.findSome? fun handler =>
        if comparison.key ∈ info.children handler.type then handler.refusal comparison
        else none⟩] := by
  induction list with
  | nil => exact Traced.cons_none (Traced.pure []) frames
  | cons handler rest ih =>
      rw [List.mapM_cons]
      have hfirst : Traced (handleIfChild useMaterializedTable info handler name comparison.key
          comparison.value comparison.operator) _ :=
        traced_handleIfChild handler name comparison frames
      intro state
      rw [hfirst.bind (fun first => ih.bind_pure (first :: ·)) state, raised_append, raised, raised,
        raised, List.findSome?_singleton, List.findSome?_singleton, List.findSome?_singleton,
        List.findSome?_cons]
      cases (if comparison.key ∈ info.children handler.type then handler.refusal comparison
        else none) with
      | none => rfl
      | some error => rfl

theorem traced_primitiveFilter (comparison : Comparison N) (frames : Nat) :
    Traced (primitiveFilter useMaterializedTable info parseDatetime comparison.key comparison.value
      comparison.operator) [⟨frames, refusal info parseDatetime comparison⟩] := by
  have hget : Traced (get : FilterM N D (FilterState N D)) [] := fun _ => rfl
  have hset : ∀ state : FilterState N D, Traced (set state : FilterM N D PUnit) [] :=
    fun _ _ => rfl
  have hhandlers : ∀ name, Traced ((handlers parseDatetime).mapM fun handler =>
      handleIfChild useMaterializedTable info handler name comparison.key comparison.value
        comparison.operator) [⟨frames, refusal info parseDatetime comparison⟩] :=
    fun name => traced_mapM_handleIfChild (handlers parseDatetime) name comparison frames
  exact hget.bind fun state => (hset _).bind fun _ => (hhandlers _).bind_pure _

end Handlers

section Recursion

variable {useMaterializedTable : Bool} {info : DataSeriesQueryInfo}
  {parseDatetime : Json N → Option D}

mutual

theorem traced_handleColumn (frames : Nat) (column operator : String) (value : Json N) :
    Traced (handleColumn useMaterializedTable info parseDatetime column operator value)
      (columnPlaces info parseDatetime frames column operator value) := by
  cases value with
  | object members =>
      rw [handleColumn, columnPlaces]
      apply Traced.cons_none
      cases members with
      | nil =>
          rw [operatorPlaces]
          exact Traced.pure _
      | cons member rest =>
          exact (traced_handleOperators (frames + 1) column (member :: rest)).bind_pure _
  | null => exact traced_primitiveFilter ⟨column, operator, .null⟩ frames
  | boolean truth => exact traced_primitiveFilter ⟨column, operator, .boolean truth⟩ frames
  | number number => exact traced_primitiveFilter ⟨column, operator, .number number⟩ frames
  | string string => exact traced_primitiveFilter ⟨column, operator, .string string⟩ frames
  | array items => exact traced_primitiveFilter ⟨column, operator, .array items⟩ frames

theorem traced_handleOperators (frames : Nat) (column : String)
    (members : List (String × Json N)) :
    Traced (handleOperators useMaterializedTable info parseDatetime column members)
      (operatorPlaces info parseDatetime frames column members) := by
  match members with
  | [] =>
      rw [handleOperators, operatorPlaces]
      exact Traced.pure []
  | (operator, value) :: rest =>
      rw [handleOperators, operatorPlaces]
      exact (traced_handleColumn frames column operator value).bind fun clause =>
        (traced_handleOperators frames column rest).bind_pure (parenthesized clause :: ·)

end

/-- A key that does not start with a dollar is none of the three operators. -/
theorem ne_operator {key : String} (hdollar : key.toList.head? ≠ some '$') :
    key ≠ "$and" ∧ key ≠ "$or" ∧ key ≠ "$not" := by
  refine ⟨?_, ?_, ?_⟩
  all_goals
    rintro rfl
    exact hdollar rfl

theorem keyPlaces_column {key : String} (hand : key ≠ "$and") (hor : key ≠ "$or")
    (hnot : key ≠ "$not") {maxDepth depth : Nat} {value : Json N} :
    keyPlaces info parseDatetime maxDepth depth key value =
      if key.toList.head? = some '$' then
        [⟨depth + 1, some (.valueError ("Unsupported operator: " ++ key))⟩]
      else columnPlaces info parseDatetime (depth + 2) key "$eq" value := by
  cases value <;> simp [keyPlaces, hand, hor, hnot]

theorem traced_joinMembers {maxDepth depth : Nat} {members : List (String × Json N)}
    {parts : FilterM N D (List FilterText)} {places : List (Place N)}
    (hparts : Traced parts places) (hempty : members = [] → places = []) :
    Traced (joinMembers maxDepth depth members parts)
      (startPlace maxDepth depth none :: places) := by
  rw [joinMembers, startPlace]
  by_cases hdepth : depth > maxDepth
  · rw [if_pos hdepth, if_pos hdepth]
    intro state
    rfl
  · rw [if_neg hdepth, if_neg hdepth]
    apply Traced.cons_none
    cases members with
    | nil =>
        rw [hempty rfl]
        exact Traced.pure _
    | cons member rest => exact hparts.bind_pure _

theorem traced_noDictionary {maxDepth depth : Nat} {isEmpty : Bool} {error : FilterError N} :
    Traced (noDictionary maxDepth depth isEmpty error : FilterM N D FilterText)
      [startPlace maxDepth depth (if isEmpty then none else some error)] := by
  rw [noDictionary, startPlace]
  by_cases hdepth : depth > maxDepth
  · rw [if_pos hdepth, if_pos hdepth]
    intro state
    rfl
  · rw [if_neg hdepth, if_neg hdepth]
    cases isEmpty with
    | true => exact (Traced.pure _).cons_none _
    | false => exact Traced.throw _ _

mutual

theorem traced_complexFilter {maxDepth : Nat} (depth : Nat) (filter : Json N) :
    Traced (complexFilterToSqlFilter (fun column value => handleColumn useMaterializedTable info
      parseDatetime column "$eq" value) maxDepth depth filter)
      (filterPlaces info parseDatetime maxDepth depth filter) := by
  cases filter with
  | object members =>
      rw [complexFilterToSqlFilter, filterPlaces]
      apply traced_joinMembers (traced_filterMembers depth members)
      rintro rfl
      rw [memberPlaces]
  | null => exact traced_noDictionary
  | boolean truth => exact traced_noDictionary
  | number number => exact traced_noDictionary
  | string string => exact traced_noDictionary
  | array items => exact traced_noDictionary

theorem traced_filterMembers {maxDepth : Nat} (depth : Nat) (members : List (String × Json N)) :
    Traced (filterMembers (fun column value => handleColumn useMaterializedTable info
      parseDatetime column "$eq" value) maxDepth depth members)
      (memberPlaces info parseDatetime maxDepth depth members) := by
  match members with
  | [] =>
      rw [filterMembers, memberPlaces]
      exact Traced.pure []
  | (key, value) :: rest =>
      rw [filterMembers, memberPlaces]
      exact (traced_filterMember depth key value).bind fun part =>
        (traced_filterMembers depth rest).bind_pure (part :: ·)

theorem traced_filterMember {maxDepth : Nat} (depth : Nat) (key : String) (value : Json N) :
    Traced (filterMember (fun column value => handleColumn useMaterializedTable info
      parseDatetime column "$eq" value) maxDepth depth key value)
      (keyPlaces info parseDatetime maxDepth depth key value) := by
  by_cases hand : key = "$and"
  · cases value with
    | array items =>
        simp only [filterMember, keyPlaces, hand, ↓reduceIte]
        cases items with
        | nil => exact Traced.throw _ _
        | cons item rest =>
            exact (traced_filterItems (depth + 1) (item :: rest)).bind_pure _
    | _ =>
        simp only [filterMember, keyPlaces, hand, ↓reduceIte]
        exact Traced.throw _ _
  · by_cases hor : key = "$or"
    · cases value with
      | array items =>
          simp only [filterMember, keyPlaces, hor, ↓reduceIte, String.reduceEq]
          cases items with
          | nil => exact Traced.throw _ _
          | cons item rest =>
              exact (traced_filterItems (depth + 1) (item :: rest)).bind_pure _
      | _ =>
          simp only [filterMember, keyPlaces, hor, ↓reduceIte, String.reduceEq]
          exact Traced.throw _ _
    · by_cases hnot : key = "$not"
      · cases value with
        | object members =>
            simp only [filterMember, keyPlaces, hnot, ↓reduceIte, String.reduceEq]
            cases members with
            | nil => exact Traced.throw _ _
            | cons member rest =>
                have hne : member :: rest = [] →
                    memberPlaces info parseDatetime maxDepth (depth + 1) (member :: rest) = [] :=
                  fun hnil => absurd hnil (List.cons_ne_nil member rest)
                exact (traced_joinMembers
                  (traced_filterMembers (depth + 1) (member :: rest)) hne).bind_pure _
        | _ =>
            simp only [filterMember, keyPlaces, hnot, ↓reduceIte, String.reduceEq]
            exact Traced.throw _ _
      · rw [filterMember_column hand hor hnot, keyPlaces_column hand hor hnot]
        by_cases hdollar : key.toList.head? = some '$'
        · rw [if_pos hdollar, if_pos hdollar]
          exact Traced.throw _ _
        · rw [if_neg hdollar, if_neg hdollar]
          exact traced_handleColumn (depth + 2) key "$eq" value

theorem traced_filterItems {maxDepth : Nat} (depth : Nat) (items : List (Json N)) :
    Traced (filterItems (fun column value => handleColumn useMaterializedTable info
      parseDatetime column "$eq" value) maxDepth depth items)
      (itemPlaces info parseDatetime maxDepth depth items) := by
  match items with
  | [] =>
      rw [filterItems, itemPlaces]
      exact Traced.pure []
  | item :: rest =>
      rw [filterItems, itemPlaces]
      exact (traced_complexFilter depth item).bind fun clause =>
        (traced_filterItems depth rest).bind_pure (parenthesized clause :: ·)

end

end Recursion

section Failures

/-- The places of a filter, under the default nesting. -/
def placesOf (info : DataSeriesQueryInfo) (parseDatetime : Json N → Option D) (filter : Json N) :
    List (Place N) := filterPlaces info parseDatetime 10 0 filter

variable {useMaterializedTable : Bool} {info : DataSeriesQueryInfo}
  {parseDatetime : Json N → Option D}

/-- After the recursion only unknown fields are refused. -/
theorem validation_iff {filter : Json N} :
    (∀ error, computeUserDefinedFilterForRawQuery useMaterializedTable info parseDatetime filter =
        .error error → error.isValidationError = true) ↔
      (raised (placesOf info parseDatetime filter)).all FilterError.isValidationError = true := by
  have htraced : Traced (complexFilterToSqlFilter (fun column value => handleColumn
      useMaterializedTable info parseDatetime column "$eq" value) 10 0 filter)
      (placesOf info parseDatetime filter) := traced_complexFilter 0 filter
  have herror := htraced (.initial info)
  simp only [computeUserDefinedFilterForRawQuery, bind, Except.bind]
  split
  · next error hcomplex =>
      rw [hcomplex] at herror
      rw [← herror]
      constructor
      · intro hall
        exact hall error rfl
      · rintro hvalidation other ⟨⟩
        exact hvalidation
  · next pair hcomplex =>
      rw [hcomplex] at herror
      rw [← herror]
      refine iff_of_true ?_ rfl
      intro error hcompute
      split at hcompute
      · cases hcompute
        rfl
      · cases hcompute

end Failures

end NFCompose
