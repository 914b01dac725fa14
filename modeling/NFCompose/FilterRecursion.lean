/-
The compilation of a filter as an interpreter runs it, with a limit of the calls that may be
under way at a time.  It is the compilation, unless the calls do not fit.
-/
import NFCompose.FilterErrors

namespace NFCompose

variable {N D : Type}

/-- What is raised where the number of calls is limited. -/
inductive Raised (N : Type) where
  | filterError (error : FilterError N)
  | recursionError

abbrev LimitedM (N D : Type) := StateT (FilterState N D) (Except (Raised N))

/-- An action that makes no call itself. -/
def limited {A : Type} (action : FilterM N D A) : LimitedM N D A :=
  fun state => (action state).mapError .filterError

/-- The body of a call with which `frames` calls are under way. -/
def called {A : Type} (bound frames : Nat) (body : LimitedM N D A) : LimitedM N D A :=
  if bound < frames then throw .recursionError else body

section Columns

variable (useMaterializedTable : Bool) (info : DataSeriesQueryInfo)
  (parseDatetime : Json N → Option D) (bound : Nat)

mutual

/-- `handle_column`. -/
def limitedHandleColumn (frames : Nat) (column operator : String) :
    Json N → LimitedM N D FilterText
  | .object members => called bound frames do
      if members.isEmpty then return [.atom .always]
      let andClauses ← limitedHandleOperators frames column members
      return List.intercalate [.and] andClauses
  | value => called bound frames
      (limited (primitiveFilter useMaterializedTable info parseDatetime column value operator))

def limitedHandleOperators (frames : Nat) (column : String) :
    List (String × Json N) → LimitedM N D (List FilterText)
  | [] => return []
  | (operator, value) :: rest => do
      let clause ← limitedHandleColumn (frames + 1) column operator value
      let clauses ← limitedHandleOperators frames column rest
      return parenthesized clause :: clauses

end

end Columns

section Filters

variable (handleColumn : Nat → String → Json N → LimitedM N D FilterText) (maxDepth bound : Nat)

def limitedJoinMembers (depth : Nat) (members : List (String × Json N))
    (parts : LimitedM N D (List FilterText)) : LimitedM N D FilterText := do
  if depth > maxDepth then
    throw (.filterError (.validationError "Maximum nesting complexity of query reached"))
  if members.isEmpty then return [.atom .always]
  return ((← parts).flatMap fun part => part ++ [.and]).dropLast

mutual

/-- `complex_filter_to_sql_filter`: a call for each depth is under way. -/
def limitedComplexFilter (depth : Nat) : Json N → LimitedM N D FilterText
  | .object members => called bound (depth + 1)
      (limitedJoinMembers maxDepth depth members (limitedMembers depth members))
  | .array items => called bound (depth + 1)
      (limited (noDictionary maxDepth depth items.isEmpty .attributeError))
  | .string value => called bound (depth + 1)
      (limited (noDictionary maxDepth depth value.isEmpty .attributeError))
  | _ => called bound (depth + 1) (limited (noDictionary maxDepth depth false .typeError))

def limitedMembers (depth : Nat) : List (String × Json N) → LimitedM N D (List FilterText)
  | [] => return []
  | (key, value) :: rest => do
      let part ← limitedMember depth key value
      let parts ← limitedMembers depth rest
      return part :: parts

def limitedMember (depth : Nat) (key : String) (value : Json N) : LimitedM N D FilterText :=
  if key = "$and" then
    match value with
    | .array items => do
        if items.isEmpty then
          throw (.filterError (.validationError "argument to $and must be a non empty array"))
        let andClauses ← limitedItems (depth + 1) items
        return parenthesized (List.intercalate [.and] andClauses)
    | _ => throw (.filterError (.validationError "$and operator requires a list as argument"))
  else if key = "$or" then
    match value with
    | .array items => do
        if items.isEmpty then
          throw (.filterError (.validationError "argument to $or must be a non empty array"))
        let orClauses ← limitedItems (depth + 1) items
        return parenthesized (List.intercalate [.or] orClauses)
    | _ => throw (.filterError (.validationError "$or operator requires a list as argument"))
  else if key = "$not" then
    match value with
    | .object members => do
        if members.isEmpty then
          throw (.filterError (.validationError
            "argument to $not must be a non empty dictionary"))
        let childClause ← called bound (depth + 2) (limitedJoinMembers maxDepth (depth + 1) members
          (limitedMembers (depth + 1) members))
        return parenthesized (.not :: parenthesized childClause)
    | _ => throw (.filterError (.validationError "$not operator requires a dictionary as argument"))
  else if key.toList.head? = some '$' then
    throw (.filterError (.valueError ("Unsupported operator: " ++ key)))
  else handleColumn (depth + 2) key value

def limitedItems (depth : Nat) : List (Json N) → LimitedM N D (List FilterText)
  | [] => return []
  | item :: rest => do
      let clause ← limitedComplexFilter depth item
      let clauses ← limitedItems depth rest
      return parenthesized clause :: clauses

end

end Filters

/-- `compute_user_defined_filter_for_raw_query`, where `bound` calls of the two functions may be
under way at a time. -/
def limitedCompute (useMaterializedTable : Bool) (info : DataSeriesQueryInfo)
    (parseDatetime : Json N → Option D) (bound : Nat) (filterParams : Json N) :
    Except (Raised N) (UserDefinedFilter N D) := do
  let (filterQueryStr, state) ← limitedComplexFilter
    (fun frames column value =>
      limitedHandleColumn useMaterializedTable info parseDatetime bound frames column "$eq" value)
    10 bound 0 filterParams (.initial info)
  let notFound := state.keysOverall.filter fun key => key ∉ state.handledKeys
  if notFound ≠ [] then throw (.filterError (.unrecognizedFields notFound))
  return {
    filterQueryStr := if filterQueryStr ≠ [] then .and :: filterQueryStr else []
    queryParams := state.queryParams
    usedDataSeriesChildren := state.usedDataSeriesChildren }

def Raised.isValidationError : Raised N → Bool
  | .filterError error => error.isValidationError
  | .recursionError => false

/-- With room for `bound` calls, a filter is compiled or refused with a validation error. -/
def FailsSafely (useMaterializedTable : Bool) (info : DataSeriesQueryInfo)
    (parseDatetime : Json N → Option D) (bound : Nat) (filter : Json N) : Prop :=
  ∀ raised, limitedCompute useMaterializedTable info parseDatetime bound filter = .error raised →
    raised.isValidationError = true

section Limits

/-- Some place is read with more calls under way than there is room for. -/
def tooDeep (bound : Nat) : List (Place N) → Bool
  | [] => false
  | place :: rest =>
      if bound < place.frames then true else place.raises.isNone && tooDeep bound rest

/-- The limited action does what the action does, unless one of its places is too deep. -/
structure Limits {A : Type} (bound : Nat) (limitedAction : LimitedM N D A)
    (action : FilterM N D A) (places : List (Place N)) : Prop where
  traced : Traced action places
  eq : ∀ state, limitedAction state =
    if tooDeep bound places then .error .recursionError else limited action state

variable {bound : Nat}

theorem tooDeep_append (first second : List (Place N)) :
    tooDeep bound (first ++ second) =
      (tooDeep bound first || ((raised first).isNone && tooDeep bound second)) := by
  induction first with
  | nil => rfl
  | cons place rest ih =>
      have hraised : raised (place :: rest) = place.raises.or (raised rest) := by
        rw [raised, List.findSome?_cons]
        cases place.raises <;> rfl
      rw [List.cons_append, tooDeep, tooDeep, ih, hraised]
      by_cases hdeep : bound < place.frames
      · rw [if_pos hdeep, if_pos hdeep, Bool.true_or]
      · rw [if_neg hdeep, if_neg hdeep]
        cases place.raises with
        | none => rfl
        | some error => rfl

theorem tooDeep_singleton (place : Place N) :
    tooDeep bound [place] = decide (bound < place.frames) := by
  rw [tooDeep]
  by_cases hdeep : bound < place.frames <;> simp [hdeep, tooDeep]

theorem Limits.pure {A : Type} (value : A) :
    Limits bound (pure value : LimitedM N D A) (pure value) [] :=
  ⟨Traced.pure value, fun _ => rfl⟩

theorem Limits.throw {A : Type} (error : FilterError N) {frames : Nat} (hcalls : frames ≤ bound) :
    Limits bound (throw (.filterError error) : LimitedM N D A) (throw error)
      [⟨frames, some error⟩] := by
  refine ⟨Traced.throw error frames, fun state => ?_⟩
  rw [tooDeep_singleton, decide_eq_false (Nat.not_lt.mpr hcalls)]
  rfl

theorem Limits.bind {A B : Type} {limitedAction : LimitedM N D A} {action : FilterM N D A}
    {limitedNext : A → LimitedM N D B} {next : A → FilterM N D B} {first second : List (Place N)}
    (hfirst : Limits bound limitedAction action first)
    (hsecond : ∀ value, Limits bound (limitedNext value) (next value) second) :
    Limits bound (limitedAction >>= limitedNext) (action >>= next) (first ++ second) := by
  refine ⟨hfirst.traced.bind fun value => (hsecond value).traced, fun state => ?_⟩
  have hstate := hfirst.eq state
  have herror := hfirst.traced state
  have hbind : limited (action >>= next) state =
      (action state >>= fun pair => next pair.1 pair.2).mapError .filterError := rfl
  have hlimitedBind : (limitedAction >>= limitedNext) state =
      limitedAction state >>= fun pair => limitedNext pair.1 pair.2 := rfl
  rw [tooDeep_append, ← herror, hlimitedBind, hstate, hbind]
  cases tooDeep bound first with
  | true => rfl
  | false =>
      rw [if_neg Bool.false_ne_true, Bool.false_or, limited]
      cases haction : action state with
      | error error => rfl
      | ok pair =>
          have hpair := (hsecond pair.1).eq pair.2
          simp only [Except.mapError, Bind.bind, Except.bind, hpair]
          rfl

theorem Limits.bind_pure {A B : Type} {limitedAction : LimitedM N D A} {action : FilterM N D A}
    {places : List (Place N)} (haction : Limits bound limitedAction action places)
    (result : A → B) :
    Limits bound (limitedAction >>= fun value => Pure.pure (result value))
      (action >>= fun value => Pure.pure (result value)) places := by
  have hbind : Limits bound _ _ (places ++ []) :=
    haction.bind fun value => Limits.pure (result value)
  rwa [List.append_nil] at hbind

/-- A call checks whether there is room before it reads its first place. -/
theorem Limits.called {A : Type} {body : LimitedM N D A} {action : FilterM N D A}
    {place : Place N} {places : List (Place N)} (htraced : Traced action (place :: places))
    (hbody : place.frames ≤ bound → Limits bound body action (place :: places)) :
    Limits bound (called bound place.frames body) action (place :: places) := by
  refine ⟨htraced, fun state => ?_⟩
  rw [NFCompose.called]
  by_cases hdeep : bound < place.frames
  · rw [if_pos hdeep, tooDeep, if_pos hdeep]
    rfl
  · rw [if_neg hdeep]
    exact (hbody (Nat.not_lt.mp hdeep)).eq state

/-- A call that makes no further ones. -/
theorem Limits.called_limited {A : Type} {action : FilterM N D A} {place : Place N}
    (htraced : Traced action [place]) :
    Limits bound (NFCompose.called bound place.frames (limited action)) action [place] := by
  refine Limits.called htraced fun hcalls => ⟨htraced, fun state => ?_⟩
  rw [tooDeep_singleton, decide_eq_false (Nat.not_lt.mpr hcalls)]
  rfl

/-- A place at which nothing is raised and there is room. -/
theorem Limits.cons_none {A : Type} {limitedAction : LimitedM N D A} {action : FilterM N D A}
    {places : List (Place N)} (hlimits : Limits bound limitedAction action places) {frames : Nat}
    (hcalls : frames ≤ bound) : Limits bound limitedAction action (⟨frames, none⟩ :: places) := by
  refine ⟨hlimits.traced.cons_none frames, fun state => ?_⟩
  rw [hlimits.eq state, tooDeep, if_neg (Nat.not_lt.mpr hcalls)]
  rfl

end Limits

section Recursion

variable {useMaterializedTable : Bool} {info : DataSeriesQueryInfo}
  {parseDatetime : Json N → Option D} {bound : Nat}

mutual

theorem limits_handleColumn (frames : Nat) (column operator : String) (value : Json N) :
    Limits bound
      (limitedHandleColumn useMaterializedTable info parseDatetime bound frames column operator
        value)
      (handleColumn useMaterializedTable info parseDatetime column operator value)
      (columnPlaces info parseDatetime frames column operator value) := by
  have htraced : Traced (handleColumn useMaterializedTable info parseDatetime column operator
      value) (columnPlaces info parseDatetime frames column operator value) :=
    traced_handleColumn frames column operator value
  cases value with
  | object members =>
      rw [limitedHandleColumn]
      rw [columnPlaces] at htraced ⊢
      refine Limits.called htraced fun hcalls => Limits.cons_none ?_ hcalls
      rw [handleColumn]
      cases members with
      | nil =>
          rw [operatorPlaces]
          exact Limits.pure _
      | cons member rest =>
          exact (limits_handleOperators frames column (member :: rest)).bind_pure _
  | null => exact Limits.called_limited htraced
  | boolean truth => exact Limits.called_limited htraced
  | number number => exact Limits.called_limited htraced
  | string string => exact Limits.called_limited htraced
  | array items => exact Limits.called_limited htraced

theorem limits_handleOperators (frames : Nat) (column : String)
    (members : List (String × Json N)) :
    Limits bound
      (limitedHandleOperators useMaterializedTable info parseDatetime bound frames column members)
      (handleOperators useMaterializedTable info parseDatetime column members)
      (operatorPlaces info parseDatetime (frames + 1) column members) := by
  match members with
  | [] =>
      rw [limitedHandleOperators, handleOperators, operatorPlaces]
      exact Limits.pure []
  | (operator, value) :: rest =>
      rw [limitedHandleOperators, handleOperators, operatorPlaces]
      exact (limits_handleColumn (frames + 1) column operator value).bind fun clause =>
        (limits_handleOperators frames column rest).bind_pure (parenthesized clause :: ·)

end

theorem limits_joinMembers {maxDepth depth : Nat} {members : List (String × Json N)}
    {limitedParts : LimitedM N D (List FilterText)} {parts : FilterM N D (List FilterText)}
    {places : List (Place N)} (hcalls : depth + 1 ≤ bound)
    (hparts : Limits bound limitedParts parts places) (hempty : members = [] → places = []) :
    Limits bound (limitedJoinMembers maxDepth depth members limitedParts)
      (joinMembers maxDepth depth members parts) (startPlace maxDepth depth none :: places) := by
  by_cases hdepth : depth > maxDepth
  · refine ⟨traced_joinMembers hparts.traced hempty, fun state => ?_⟩
    rw [limitedJoinMembers, joinMembers, startPlace, if_pos hdepth, if_pos hdepth, if_pos hdepth,
      tooDeep, if_neg (Nat.not_lt.mpr hcalls)]
    rfl
  · rw [limitedJoinMembers, joinMembers, startPlace, if_neg hdepth, if_neg hdepth, if_neg hdepth]
    refine Limits.cons_none ?_ hcalls
    cases members with
    | nil =>
        rw [hempty rfl]
        exact Limits.pure _
    | cons member rest => exact hparts.bind_pure _

section Filters

variable {limitedColumn : Nat → String → Json N → LimitedM N D FilterText}
  {column : String → Json N → FilterM N D FilterText}

theorem limitedMember_column {key : String} (hand : key ≠ "$and") (hor : key ≠ "$or")
    (hnot : key ≠ "$not") {maxDepth depth : Nat} {value : Json N} :
    limitedMember limitedColumn maxDepth bound depth key value =
      if key.toList.head? = some '$' then
        throw (.filterError (.valueError ("Unsupported operator: " ++ key)))
      else limitedColumn (depth + 2) key value := by
  cases value <;> simp [limitedMember, hand, hor, hnot]

mutual

theorem limits_complexFilter {maxDepth : Nat} (depth : Nat) (filter : Json N) :
    Limits bound
      (limitedComplexFilter (fun frames column value => limitedHandleColumn useMaterializedTable
        info parseDatetime bound frames column "$eq" value) maxDepth bound depth filter)
      (complexFilterToSqlFilter (fun column value => handleColumn useMaterializedTable info
        parseDatetime column "$eq" value) maxDepth depth filter)
      (filterPlaces info parseDatetime maxDepth depth filter) := by
  have htraced : Traced (complexFilterToSqlFilter (fun column value => handleColumn
      useMaterializedTable info parseDatetime column "$eq" value) maxDepth depth filter)
      (filterPlaces info parseDatetime maxDepth depth filter) := traced_complexFilter depth filter
  cases filter with
  | object members =>
      rw [limitedComplexFilter]
      rw [complexFilterToSqlFilter, filterPlaces] at htraced ⊢
      refine Limits.called htraced fun hcalls =>
        limits_joinMembers hcalls (limits_filterMembers depth hcalls members) ?_
      rintro rfl
      rw [memberPlaces]
  | null => exact Limits.called_limited htraced
  | boolean truth => exact Limits.called_limited htraced
  | number number => exact Limits.called_limited htraced
  | string string => exact Limits.called_limited htraced
  | array items => exact Limits.called_limited htraced

theorem limits_filterMembers {maxDepth : Nat} (depth : Nat) (hcalls : depth + 1 ≤ bound)
    (members : List (String × Json N)) :
    Limits bound
      (limitedMembers (fun frames column value => limitedHandleColumn useMaterializedTable
        info parseDatetime bound frames column "$eq" value) maxDepth bound depth members)
      (filterMembers (fun column value => handleColumn useMaterializedTable info
        parseDatetime column "$eq" value) maxDepth depth members)
      (memberPlaces info parseDatetime maxDepth depth members) := by
  match members with
  | [] =>
      rw [limitedMembers, filterMembers, memberPlaces]
      exact Limits.pure []
  | (key, value) :: rest =>
      rw [limitedMembers, filterMembers, memberPlaces]
      exact (limits_filterMember depth hcalls key value).bind fun part =>
        (limits_filterMembers depth hcalls rest).bind_pure (part :: ·)

theorem limits_filterMember {maxDepth : Nat} (depth : Nat) (hcalls : depth + 1 ≤ bound)
    (key : String) (value : Json N) :
    Limits bound
      (limitedMember (fun frames column value => limitedHandleColumn useMaterializedTable
        info parseDatetime bound frames column "$eq" value) maxDepth bound depth key value)
      (filterMember (fun column value => handleColumn useMaterializedTable info
        parseDatetime column "$eq" value) maxDepth depth key value)
      (keyPlaces info parseDatetime maxDepth depth key value) := by
  by_cases hand : key = "$and"
  · cases value with
    | array items =>
        simp only [limitedMember, filterMember, keyPlaces, hand, ↓reduceIte]
        cases items with
        | nil => exact Limits.throw _ hcalls
        | cons item rest =>
            exact (limits_filterItems (depth + 1) (item :: rest)).bind_pure _
    | _ =>
        simp only [limitedMember, filterMember, keyPlaces, hand, ↓reduceIte]
        exact Limits.throw _ hcalls
  · by_cases hor : key = "$or"
    · cases value with
      | array items =>
          simp only [limitedMember, filterMember, keyPlaces, hor, ↓reduceIte, String.reduceEq]
          cases items with
          | nil => exact Limits.throw _ hcalls
          | cons item rest =>
              exact (limits_filterItems (depth + 1) (item :: rest)).bind_pure _
      | _ =>
          simp only [limitedMember, filterMember, keyPlaces, hor, ↓reduceIte, String.reduceEq]
          exact Limits.throw _ hcalls
    · by_cases hnot : key = "$not"
      · cases value with
        | object members =>
            simp only [limitedMember, filterMember, keyPlaces, hnot, ↓reduceIte, String.reduceEq]
            cases members with
            | nil => exact Limits.throw _ hcalls
            | cons member rest =>
                exact (limits_complexFilter (depth + 1) (.object (member :: rest))).bind_pure _
        | _ =>
            simp only [limitedMember, filterMember, keyPlaces, hnot, ↓reduceIte, String.reduceEq]
            exact Limits.throw _ hcalls
      · rw [limitedMember_column hand hor hnot, filterMember_column hand hor hnot,
          keyPlaces_column hand hor hnot]
        by_cases hdollar : key.toList.head? = some '$'
        · rw [if_pos hdollar, if_pos hdollar, if_pos hdollar]
          exact Limits.throw _ hcalls
        · rw [if_neg hdollar, if_neg hdollar, if_neg hdollar]
          exact limits_handleColumn (depth + 2) key "$eq" value

theorem limits_filterItems {maxDepth : Nat} (depth : Nat) (items : List (Json N)) :
    Limits bound
      (limitedItems (fun frames column value => limitedHandleColumn useMaterializedTable
        info parseDatetime bound frames column "$eq" value) maxDepth bound depth items)
      (filterItems (fun column value => handleColumn useMaterializedTable info
        parseDatetime column "$eq" value) maxDepth depth items)
      (itemPlaces info parseDatetime maxDepth depth items) := by
  match items with
  | [] =>
      rw [limitedItems, filterItems, itemPlaces]
      exact Limits.pure []
  | item :: rest =>
      rw [limitedItems, filterItems, itemPlaces]
      exact (limits_complexFilter depth item).bind fun clause =>
        (limits_filterItems depth rest).bind_pure (parenthesized clause :: ·)

end

end Filters

end Recursion

/-- The limited compilation is the compilation, unless the calls do not fit. -/
theorem limitedCompute_eq (useMaterializedTable : Bool) (info : DataSeriesQueryInfo)
    (parseDatetime : Json N → Option D) (bound : Nat) (filter : Json N) :
    limitedCompute useMaterializedTable info parseDatetime bound filter =
      if tooDeep bound (placesOf info parseDatetime filter) then .error .recursionError
      else (computeUserDefinedFilterForRawQuery useMaterializedTable info parseDatetime
        filter).mapError .filterError := by
  have hlimits : Limits bound (limitedComplexFilter (fun frames column value =>
      limitedHandleColumn useMaterializedTable info parseDatetime bound frames column "$eq" value)
      10 bound 0 filter) (complexFilterToSqlFilter (fun column value => handleColumn
      useMaterializedTable info parseDatetime column "$eq" value) 10 0 filter)
      (placesOf info parseDatetime filter) := limits_complexFilter 0 filter
  simp only [limitedCompute, computeUserDefinedFilterForRawQuery, hlimits.eq (.initial info)]
  split
  · rfl
  · rw [limited]
    cases complexFilterToSqlFilter (fun column value => handleColumn useMaterializedTable info
        parseDatetime column "$eq" value) 10 0 filter (.initial info) with
    | error error => rfl
    | ok pair =>
        simp only [Except.mapError, Bind.bind, Except.bind]
        split <;> rfl

end NFCompose
