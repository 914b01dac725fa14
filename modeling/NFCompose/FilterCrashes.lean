/-
The shape of the filters whose compilation ends in neither a result nor a validation error: the
first thing that is wrong with them is a key with a dollar that is no operator, an item that is
no dictionary, or a nesting that leaves no room for a call.
-/
import NFCompose.FilterAcceptance
import NFCompose.FilterRecursion

namespace NFCompose

open PartialRuns

variable {N D : Type}

section Shapes

/-- The type of a field has the operator, and takes the operand. -/
inductive FieldHandler.Takes (handler : FieldHandler N D) (comparison : Comparison N) : Prop
  | null (hoperator : comparison.operator = "$eq" ∨ comparison.operator = "$ne")
      (hvalue : comparison.value.isNull)
  | single (hoperator : (singleValuedSqlOperators.lookup comparison.operator).isSome)
      (hvalue : (handler.scalar comparison.value).isSome)
  | prefixed (hoperator : comparison.operator = "$prefix") (htype : handler.prefixSyntax.isSome)
      (hvalue : (handler.scalar comparison.value).isSome)
  | multi {items : List (Json N)}
      (hoperator : comparison.operator = "$in" ∨ comparison.operator = "$nin")
      (hvalue : comparison.value = .array items)
      (hitems : ∀ item ∈ items, (handler.scalar item).isSome)

variable (info : DataSeriesQueryInfo) (parseDatetime : Json N → Option D) (maxDepth bound : Nat)

/-- What is written under a column: operators that the field has, in dictionaries that leave
room for the calls. -/
inductive WellFormedColumn : Nat → String → String → Json N → Prop
  | operators {frames : Nat} {column operator : String} {members : List (String × Json N)}
      (hcalls : frames ≤ bound)
      (hmembers : ∀ member ∈ members, WellFormedColumn (frames + 1) column member.1 member.2) :
      WellFormedColumn frames column operator (.object members)
  | operand {frames : Nat} {column operator : String} {value : Json N} (hcalls : frames ≤ bound)
      (hvalue : value.isObject = false)
      (htakes : ∀ handler ∈ handlers parseDatetime, column ∈ info.children handler.type →
        handler.Takes ⟨column, operator, value⟩) :
      WellFormedColumn frames column operator value

mutual

/-- A filter at a depth in which nothing is wrong. -/
inductive WellFormedFilter : Nat → Json N → Prop
  | object {depth : Nat} {members : List (String × Json N)} (hcalls : depth + 1 ≤ bound)
      (hdepth : depth ≤ maxDepth)
      (hmembers : ∀ member ∈ members, WellFormedMember depth member.1 member.2) :
      WellFormedFilter depth (.object members)
  | emptyArray {depth : Nat} (hcalls : depth + 1 ≤ bound) (hdepth : depth ≤ maxDepth) :
      WellFormedFilter depth (.array [])
  | emptyString {depth : Nat} (hcalls : depth + 1 ≤ bound) (hdepth : depth ≤ maxDepth) :
      WellFormedFilter depth (.string "")

inductive WellFormedMember : Nat → String → Json N → Prop
  | junction {depth : Nat} {key : String} {items : List (Json N)}
      (hkey : key = "$and" ∨ key = "$or") (hitems : items ≠ [])
      (hall : ∀ item ∈ items, WellFormedFilter (depth + 1) item) :
      WellFormedMember depth key (.array items)
  | negation {depth : Nat} {members : List (String × Json N)} (hmembers : members ≠ [])
      (hobject : WellFormedFilter (depth + 1) (.object members)) :
      WellFormedMember depth "$not" (.object members)
  | column {depth : Nat} {key : String} {value : Json N} (hdollar : key.toList.head? ≠ some '$')
      (hcolumn : WellFormedColumn info parseDatetime bound (depth + 2) key "$eq" value) :
      WellFormedMember depth key value

end

/-- The dictionaries of a column that are in each other leave no room for a call. -/
inductive CrashesColumn : Nat → String → Json N → Prop
  | calls {frames : Nat} {column : String} {value : Json N} (hcalls : bound < frames) :
      CrashesColumn frames column value
  | operand {frames : Nat} {column operator : String} {value : Json N}
      {before after : List (String × Json N)}
      (hbefore : ∀ member ∈ before,
        WellFormedColumn info parseDatetime bound (frames + 1) column member.1 member.2)
      (hcrashes : CrashesColumn (frames + 1) column value) :
      CrashesColumn frames column (.object (before ++ (operator, value) :: after))

mutual

/-- A filter in which the first thing that is wrong is a key with a dollar that is no operator,
an item that is no dictionary, or a nesting that leaves no room for a call. -/
inductive Crashes : Nat → Json N → Prop
  | calls {depth : Nat} {filter : Json N} (hcalls : bound < depth + 1) : Crashes depth filter
  | noDictionary {depth : Nat} {filter : Json N} (hdepth : depth ≤ maxDepth)
      (hobject : filter.isObject = false) (harray : filter ≠ .array [])
      (hstring : filter ≠ .string "") : Crashes depth filter
  | member {depth : Nat} {key : String} {value : Json N} {before after : List (String × Json N)}
      (hdepth : depth ≤ maxDepth)
      (hbefore : ∀ member ∈ before,
        WellFormedMember info parseDatetime maxDepth bound depth member.1 member.2)
      (hcrashes : CrashesMember depth key value) :
      Crashes depth (.object (before ++ (key, value) :: after))

inductive CrashesMember : Nat → String → Json N → Prop
  | unknownOperator {depth : Nat} {key : String} {value : Json N}
      (hdollar : key.toList.head? = some '$')
      (hkey : key ≠ "$and" ∧ key ≠ "$or" ∧ key ≠ "$not") : CrashesMember depth key value
  | item {depth : Nat} {key : String} {item : Json N} {before after : List (Json N)}
      (hkey : key = "$and" ∨ key = "$or")
      (hbefore : ∀ other ∈ before,
        WellFormedFilter info parseDatetime maxDepth bound (depth + 1) other)
      (hcrashes : Crashes (depth + 1) item) :
      CrashesMember depth key (.array (before ++ item :: after))
  | negation {depth : Nat} {members : List (String × Json N)} (hmembers : members ≠ [])
      (hcrashes : Crashes (depth + 1) (.object members)) :
      CrashesMember depth "$not" (.object members)
  | column {depth : Nat} {key : String} {value : Json N} (hdollar : key.toList.head? ≠ some '$')
      (hcrashes : CrashesColumn info parseDatetime bound (depth + 2) key value) :
      CrashesMember depth key value

end

end Shapes

section Places

variable {bound : Nat}

/-- The first thing that is wrong ends in something other than a validation error. -/
def crashesAt (bound : Nat) : List (Place N) → Bool
  | [] => false
  | place :: rest =>
      if bound < place.frames then true
      else match place.raises with
        | some error => !error.isValidationError
        | none => crashesAt bound rest

def nothingWrong (bound : Nat) (places : List (Place N)) : Bool :=
  places.all fun place => place.raises.isNone && decide (place.frames ≤ bound)

theorem crashesAt_eq (places : List (Place N)) :
    crashesAt bound places =
      (tooDeep bound places || !(raised places).all FilterError.isValidationError) := by
  induction places with
  | nil => rfl
  | cons place rest ih =>
      rw [crashesAt, tooDeep, raised, List.findSome?_cons]
      by_cases hdeep : bound < place.frames
      · rw [if_pos hdeep, if_pos hdeep, Bool.true_or]
      · rw [if_neg hdeep, if_neg hdeep]
        cases place.raises with
        | some error => rfl
        | none => exact ih

theorem crashesAt_append (first second : List (Place N)) :
    crashesAt bound (first ++ second) =
      (crashesAt bound first || (nothingWrong bound first && crashesAt bound second)) := by
  induction first with
  | nil => rfl
  | cons place rest ih =>
      have hwrong : nothingWrong bound (place :: rest) =
          (place.raises.isNone && decide (place.frames ≤ bound) && nothingWrong bound rest) := rfl
      rw [List.cons_append, crashesAt, crashesAt, ih, hwrong]
      by_cases hdeep : bound < place.frames
      · rw [if_pos hdeep, if_pos hdeep, Bool.true_or]
      · rw [if_neg hdeep, if_neg hdeep, decide_eq_true (Nat.not_lt.mp hdeep)]
        cases place.raises with
        | some error => simp
        | none => rfl

theorem nothingWrong_flatMap {A : Type} (places : A → List (Place N)) (list : List A) :
    nothingWrong bound (list.flatMap places) = true ↔
      ∀ item ∈ list, nothingWrong bound (places item) = true := by
  rw [nothingWrong, List.all_flatMap, List.all_eq_true]
  rfl

/-- In a list, the items before the one that crashes have nothing wrong. -/
theorem crashesAt_flatMap {A : Type} (places : A → List (Place N)) (list : List A) :
    crashesAt bound (list.flatMap places) = true ↔
      ∃ before item after, list = before ++ item :: after ∧
        (∀ other ∈ before, nothingWrong bound (places other) = true) ∧
        crashesAt bound (places item) = true := by
  induction list with
  | nil => simp [crashesAt]
  | cons head rest ih =>
      rw [List.flatMap_cons, crashesAt_append, Bool.or_eq_true, Bool.and_eq_true, ih]
      constructor
      · rintro (hhead | ⟨hclear, before, item, after, rfl, hbefore, hitem⟩)
        · exact ⟨[], head, rest, rfl, List.forall_mem_nil _, hhead⟩
        · exact ⟨head :: before, item, after, rfl, List.forall_mem_cons.mpr ⟨hclear, hbefore⟩,
            hitem⟩
      · rintro ⟨before, item, after, hlist, hbefore, hitem⟩
        cases before with
        | nil =>
            rw [List.nil_append, List.cons.injEq] at hlist
            exact .inl (hlist.1 ▸ hitem)
        | cons first before =>
            rw [List.cons_append, List.cons.injEq] at hlist
            obtain ⟨hfirst, hbefore⟩ := List.forall_mem_cons.mp hbefore
            exact .inr ⟨hlist.1 ▸ hfirst, before, item, after, hlist.2, hbefore, hitem⟩

/-- What the shape of each item says of its places, the shapes of all say of the list. -/
theorem nothingWrong_items {A : Type} {places : A → List (Place N)} {list : List A}
    (well : A → Prop)
    (hwell : ∀ item ∈ list, (well item ↔ nothingWrong bound (places item) = true)) :
    nothingWrong bound (list.flatMap places) = true ↔ ∀ item ∈ list, well item := by
  rw [nothingWrong_flatMap]
  exact forall₂_congr fun item hitem => (hwell item hitem).symm

theorem crashesAt_items {A : Type} {places : A → List (Place N)} {list : List A}
    (well crashes : A → Prop)
    (hshape : ∀ item ∈ list, (well item ↔ nothingWrong bound (places item) = true) ∧
      (crashes item ↔ crashesAt bound (places item) = true)) :
    crashesAt bound (list.flatMap places) = true ↔
      ∃ before item after, list = before ++ item :: after ∧
        (∀ other ∈ before, well other) ∧ crashes item := by
  rw [crashesAt_flatMap]
  constructor
  · rintro ⟨before, item, after, rfl, hbefore, hitem⟩
    refine ⟨before, item, after, rfl, fun other hother => ?_, ?_⟩
    · exact (hshape other (List.mem_append_left _ hother)).1.mpr (hbefore other hother)
    · exact (hshape item (List.mem_append_right _ List.mem_cons_self)).2.mpr hitem
  · rintro ⟨before, item, after, rfl, hbefore, hitem⟩
    refine ⟨before, item, after, rfl, fun other hother => ?_, ?_⟩
    · exact (hshape other (List.mem_append_left _ hother)).1.mp (hbefore other hother)
    · exact (hshape item (List.mem_append_right _ List.mem_cons_self)).2.mp hitem

end Places

section Comparisons

/-- The errors of a handler are validation errors. -/
theorem refusal_isValidationError (info : DataSeriesQueryInfo) (parseDatetime : Json N → Option D)
    (comparison : Comparison N) :
    (refusal info parseDatetime comparison).all FilterError.isValidationError = true := by
  rw [Option.all_eq_true]
  intro error herror
  obtain ⟨handler, hhandler, hrefusal⟩ := List.exists_of_findSome?_eq_some herror
  split at hrefusal
  · have hscalar : (handler.noScalar comparison.key comparison.value).isValidationError = true := by
      simp only [handlers, List.mem_cons, List.not_mem_nil, or_false] at hhandler
      rcases hhandler with rfl | rfl | rfl | rfl | rfl | rfl <;> rfl
    rw [FieldHandler.refusal] at hrefusal
    repeat' split at hrefusal
    all_goals first
      | exact Option.some.inj hrefusal ▸ hscalar
      | exact Option.some.inj hrefusal ▸ rfl
      | cases hrefusal
  · cases hrefusal

/-- A handler refuses what its type does not take. -/
theorem refusal_eq_none_iff {handler : FieldHandler N D} {comparison : Comparison N} :
    handler.refusal comparison = none ↔ handler.Takes comparison := by
  rw [FieldHandler.refusal]
  constructor
  · intro hnone
    split at hnone
    · next hnull => exact .null hnull.1 hnull.2
    · split at hnone
      · next hsingle =>
          have hvalue : (handler.scalar comparison.value).isSome := by
            by_contra hno
            rw [if_neg hno] at hnone
            cases hnone
          rcases hsingle with hoperator | ⟨hoperator, htype⟩
          · exact .single hoperator hvalue
          · exact .prefixed hoperator htype hvalue
      · split at hnone
        · next hlookup =>
            obtain ⟨negated, hmulti⟩ := Option.isSome_iff_exists.mp hlookup
            cases hvalue : comparison.value with
            | array items =>
                refine .multi (lookup_multiValued hmulti).1 hvalue (isSome_of_mapM ?_)
                by_contra hno
                simp only [hvalue, if_neg hno] at hnone
                cases hnone
            | _ =>
                simp only [hvalue] at hnone
                cases hnone
        · cases hnone
  · intro htakes
    by_cases hnull : (comparison.operator = "$eq" ∨ comparison.operator = "$ne") ∧
        comparison.value.isNull
    · rw [if_pos hnull]
    rw [if_neg hnull]
    cases htakes with
    | null hoperator hvalue => exact absurd ⟨hoperator, hvalue⟩ hnull
    | single hoperator hvalue => rw [if_pos (.inl hoperator), if_pos hvalue]
    | prefixed hoperator htype hvalue => rw [if_pos (.inr ⟨hoperator, htype⟩), if_pos hvalue]
    | multi hoperator hvalue hitems =>
        have hsingle : ¬ ((singleValuedSqlOperators.lookup comparison.operator).isSome ∨
            (comparison.operator = "$prefix" ∧ handler.prefixSyntax.isSome)) := by
          rcases hoperator with heq | heq <;> rw [heq] <;> simp [singleValuedSqlOperators]
        have hmulti : (multiValuedSqlOperators.lookup comparison.operator).isSome := by
          rcases hoperator with heq | heq <;> rw [heq] <;> rfl
        simp only [if_neg hsingle, if_pos hmulti, hvalue, if_pos (mapM_isSome hitems)]

end Comparisons

section Columns

variable {info : DataSeriesQueryInfo} {parseDatetime : Json N → Option D} {bound : Nat}

theorem operatorPlaces_eq (frames : Nat) (column : String) (members : List (String × Json N)) :
    operatorPlaces info parseDatetime frames column members = members.flatMap fun member =>
      columnPlaces info parseDatetime frames column member.1 member.2 := by
  induction members with
  | nil => rw [operatorPlaces, List.flatMap_nil]
  | cons member rest ih => rw [operatorPlaces, ih, List.flatMap_cons]

theorem columnPlaces_operand {frames : Nat} {column operator : String} {value : Json N}
    (hvalue : value.isObject = false) :
    columnPlaces info parseDatetime frames column operator value =
      [⟨frames, refusal info parseDatetime ⟨column, operator, value⟩⟩] := by
  cases value with
  | object members => cases hvalue
  | _ => rfl

/-- An operand is taken by the types that know the column. -/
theorem refusal_eq_none_of_takes {comparison : Comparison N} :
    refusal info parseDatetime comparison = none ↔
      ∀ handler ∈ handlers parseDatetime, comparison.key ∈ info.children handler.type →
        handler.Takes comparison := by
  rw [refusal, List.findSome?_eq_none_iff]
  refine forall₂_congr fun handler _ => ?_
  rw [← refusal_eq_none_iff]
  by_cases hkey : comparison.key ∈ info.children handler.type <;> simp [hkey]

theorem nothingWrong_operand {frames : Nat} {column operator : String} {value : Json N}
    (hvalue : value.isObject = false) :
    WellFormedColumn info parseDatetime bound frames column operator value ↔
      nothingWrong bound (columnPlaces info parseDatetime frames column operator value) = true := by
  rw [columnPlaces_operand hvalue]
  simp only [nothingWrong, List.all_cons, List.all_nil, Bool.and_true, Bool.and_eq_true,
    Option.isNone_iff_eq_none, decide_eq_true_eq, refusal_eq_none_of_takes]
  constructor
  · intro hcolumn
    cases hcolumn with
    | operators => cases hvalue
    | operand hcalls _ htakes => exact ⟨htakes, hcalls⟩
  · rintro ⟨htakes, hcalls⟩
    exact .operand hcalls hvalue htakes

theorem crashesAt_operand {frames : Nat} {column operator : String} {value : Json N}
    (hvalue : value.isObject = false) :
    CrashesColumn info parseDatetime bound frames column value ↔
      crashesAt bound (columnPlaces info parseDatetime frames column operator value) = true := by
  have hvalidation := refusal_isValidationError info parseDatetime ⟨column, operator, value⟩
  rw [columnPlaces_operand hvalue, crashesAt]
  constructor
  · intro hcolumn
    cases hcolumn with
    | calls hcalls => rw [if_pos hcalls]
    | operand => cases hvalue
  · intro hcrashes
    by_cases hcalls : bound < frames
    · exact .calls hcalls
    · rw [if_neg hcalls] at hcrashes
      cases herror : refusal info parseDatetime ⟨column, operator, value⟩ with
      | none =>
          rw [herror] at hcrashes
          cases hcrashes
      | some error =>
          rw [herror, Option.all_some] at hvalidation
          simp [herror, hvalidation] at hcrashes

mutual

/-- What is wrong with a column, read off its shape. -/
theorem column_shape (frames : Nat) (column operator : String) (value : Json N) :
    (WellFormedColumn info parseDatetime bound frames column operator value ↔
        nothingWrong bound (columnPlaces info parseDatetime frames column operator value) =
          true) ∧
      (CrashesColumn info parseDatetime bound frames column value ↔
        crashesAt bound (columnPlaces info parseDatetime frames column operator value) =
          true) := by
  cases value with
  | object members =>
      have hmembers := operators_shape (frames + 1) column members
      rw [columnPlaces, operatorPlaces_eq]
      constructor
      · have hcons : nothingWrong bound (⟨frames, none⟩ :: members.flatMap fun member =>
            columnPlaces info parseDatetime (frames + 1) column member.1 member.2) = true ↔
            frames ≤ bound ∧ ∀ member ∈ members,
              WellFormedColumn info parseDatetime bound (frames + 1) column member.1 member.2 := by
          rw [← nothingWrong_items _ fun member hmember => (hmembers member hmember).1]
          simp [nothingWrong]
        rw [hcons]
        constructor
        · intro hcolumn
          cases hcolumn with
          | operators hcalls hall => exact ⟨hcalls, hall⟩
          | operand _ hvalue => cases hvalue
        · rintro ⟨hcalls, hall⟩
          exact .operators hcalls hall
      · have hitems := crashesAt_items
          (fun member : String × Json N =>
            WellFormedColumn info parseDatetime bound (frames + 1) column member.1 member.2)
          (fun member => CrashesColumn info parseDatetime bound (frames + 1) column member.2)
          hmembers
        rw [crashesAt]
        constructor
        · intro hcolumn
          cases hcolumn with
          | calls hcalls => rw [if_pos hcalls]
          | operand hbefore hcrashes =>
              split
              · rfl
              · exact hitems.mpr ⟨_, _, _, rfl, hbefore, hcrashes⟩
        · intro hcrashes
          split at hcrashes
          · next hcalls => exact .calls hcalls
          · obtain ⟨before, ⟨operator, value⟩, after, rfl, hbefore, hitem⟩ := hitems.mp hcrashes
            exact .operand hbefore hitem
  | null => exact ⟨nothingWrong_operand rfl, crashesAt_operand rfl⟩
  | boolean truth => exact ⟨nothingWrong_operand rfl, crashesAt_operand rfl⟩
  | number number => exact ⟨nothingWrong_operand rfl, crashesAt_operand rfl⟩
  | string string => exact ⟨nothingWrong_operand rfl, crashesAt_operand rfl⟩
  | array items => exact ⟨nothingWrong_operand rfl, crashesAt_operand rfl⟩

theorem operators_shape (frames : Nat) (column : String) (members : List (String × Json N)) :
    ∀ member ∈ members,
      (WellFormedColumn info parseDatetime bound frames column member.1 member.2 ↔
        nothingWrong bound (columnPlaces info parseDatetime frames column member.1 member.2) =
          true) ∧
      (CrashesColumn info parseDatetime bound frames column member.2 ↔
        crashesAt bound (columnPlaces info parseDatetime frames column member.1 member.2) =
          true) := by
  match members with
  | [] => exact fun member hmember => absurd hmember List.not_mem_nil
  | (operator, value) :: rest =>
      intro member hmember
      rcases List.mem_cons.mp hmember with rfl | hrest
      · exact column_shape frames column operator value
      · exact operators_shape frames column rest member hrest

end

end Columns

section Filters

variable {info : DataSeriesQueryInfo} {parseDatetime : Json N → Option D} {maxDepth bound : Nat}

theorem memberPlaces_eq (depth : Nat) (members : List (String × Json N)) :
    memberPlaces info parseDatetime maxDepth depth members = members.flatMap fun member =>
      keyPlaces info parseDatetime maxDepth depth member.1 member.2 := by
  induction members with
  | nil => rw [memberPlaces, List.flatMap_nil]
  | cons member rest ih => rw [memberPlaces, ih, List.flatMap_cons]

theorem itemPlaces_eq (depth : Nat) (items : List (Json N)) :
    itemPlaces info parseDatetime maxDepth depth items =
      items.flatMap (filterPlaces info parseDatetime maxDepth depth) := by
  induction items with
  | nil => rw [itemPlaces, List.flatMap_nil]
  | cons item rest ih => rw [itemPlaces, ih, List.flatMap_cons]

theorem keyPlaces_junction {depth : Nat} {key : String} {items : List (Json N)}
    (hkey : key = "$and" ∨ key = "$or") (hitems : items ≠ []) :
    keyPlaces info parseDatetime maxDepth depth key (.array items) =
      itemPlaces info parseDatetime maxDepth (depth + 1) items := by
  cases items with
  | nil => exact absurd rfl hitems
  | cons item rest => rcases hkey with rfl | rfl <;> simp [keyPlaces]

theorem keyPlaces_negation {depth : Nat} {members : List (String × Json N)}
    (hmembers : members ≠ []) :
    keyPlaces info parseDatetime maxDepth depth "$not" (.object members) =
      filterPlaces info parseDatetime maxDepth (depth + 1) (.object members) := by
  cases members with
  | nil => exact absurd rfl hmembers
  | cons member rest => simp [keyPlaces, filterPlaces]

/-- The operand of one of the three operators is not what it asks for. -/
def operandRefused (key : String) (value : Json N) : Prop :=
  ((key = "$and" ∨ key = "$or") ∧ ∀ items, value = .array items → items = []) ∨
    (key = "$not" ∧ ∀ members, value = .object members → members = [])

theorem keyPlaces_refused {depth : Nat} {key : String} {value : Json N}
    (hrefused : operandRefused key value) :
    ∃ message, keyPlaces info parseDatetime maxDepth depth key value =
      [⟨depth + 1, some (.validationError message)⟩] := by
  rcases hrefused with ⟨hkey, hitems⟩ | ⟨rfl, hmembers⟩
  · cases value with
    | array items =>
        obtain rfl := hitems items rfl
        rcases hkey with rfl | rfl
        · exact ⟨_, by simp [keyPlaces]; rfl⟩
        · exact ⟨_, by simp [keyPlaces]; rfl⟩
    | _ =>
        rcases hkey with rfl | rfl
        · exact ⟨_, by simp [keyPlaces]; rfl⟩
        · exact ⟨_, by simp [keyPlaces]; rfl⟩
  · cases value with
    | object members =>
        obtain rfl := hmembers members rfl
        exact ⟨_, by simp [keyPlaces]; rfl⟩
    | _ => exact ⟨_, by simp [keyPlaces]; rfl⟩

theorem nothingWrong_start {depth : Nat} {error : Option (FilterError N)}
    {places : List (Place N)} :
    nothingWrong bound (startPlace maxDepth depth error :: places) = true ↔
      depth + 1 ≤ bound ∧ depth ≤ maxDepth ∧ error = none ∧ nothingWrong bound places = true := by
  by_cases hdepth : depth > maxDepth
  · simp [nothingWrong, startPlace, hdepth]
  · simp only [nothingWrong, startPlace, hdepth, ↓reduceIte, List.all_cons, Bool.and_eq_true,
      Option.isNone_iff_eq_none, decide_eq_true_eq, Nat.not_lt.mp hdepth, true_and]
    tauto

theorem crashesAt_start {depth : Nat} {error : Option (FilterError N)}
    {places : List (Place N)} :
    crashesAt bound (startPlace maxDepth depth error :: places) = true ↔
      bound < depth + 1 ∨ (depth ≤ maxDepth ∧
        crashesAt bound (⟨depth + 1, error⟩ :: places) = true) := by
  by_cases hcalls : bound < depth + 1
  · simp [crashesAt, startPlace, hcalls]
  · by_cases hdepth : depth > maxDepth
    · simp [crashesAt, startPlace, hdepth, hcalls, Nat.not_le.mpr hdepth,
        FilterError.isValidationError]
    · simp [crashesAt, startPlace, hdepth, hcalls, Nat.not_lt.mp hdepth]

end Filters

section Shape

variable {info : DataSeriesQueryInfo} {parseDatetime : Json N → Option D} {maxDepth bound : Nat}

/-- The shape of a filter says what reading its places says. -/
def FilterShape (info : DataSeriesQueryInfo) (parseDatetime : Json N → Option D)
    (maxDepth bound depth : Nat) (filter : Json N) : Prop :=
  (WellFormedFilter info parseDatetime maxDepth bound depth filter ↔
      nothingWrong bound (filterPlaces info parseDatetime maxDepth depth filter) = true) ∧
    (Crashes info parseDatetime maxDepth bound depth filter ↔
      crashesAt bound (filterPlaces info parseDatetime maxDepth depth filter) = true)

def MemberShape (info : DataSeriesQueryInfo) (parseDatetime : Json N → Option D)
    (maxDepth bound depth : Nat) (key : String) (value : Json N) : Prop :=
  (WellFormedMember info parseDatetime maxDepth bound depth key value ↔
      nothingWrong bound (keyPlaces info parseDatetime maxDepth depth key value) = true) ∧
    (CrashesMember info parseDatetime maxDepth bound depth key value ↔
      crashesAt bound (keyPlaces info parseDatetime maxDepth depth key value) = true)

theorem object_shape {depth : Nat} {members : List (String × Json N)}
    (hmembers : depth + 1 ≤ bound → ∀ member ∈ members,
      MemberShape info parseDatetime maxDepth bound depth member.1 member.2) :
    FilterShape info parseDatetime maxDepth bound depth (.object members) := by
  rw [FilterShape, filterPlaces, memberPlaces_eq, nothingWrong_start, crashesAt_start]
  constructor
  · constructor
    · intro hwell
      cases hwell with
      | object hcalls hdepth hall =>
          refine ⟨hcalls, hdepth, rfl, ?_⟩
          exact (nothingWrong_items _ fun member hmember =>
            (hmembers hcalls member hmember).1).mpr hall
    · rintro ⟨hcalls, hdepth, -, hall⟩
      refine .object hcalls hdepth ?_
      exact (nothingWrong_items _ fun member hmember =>
        (hmembers hcalls member hmember).1).mp hall
  · rw [crashesAt]
    by_cases hcalls : bound < depth + 1
    · exact iff_of_true (.calls hcalls) (.inl hcalls)
    · have hitems := crashesAt_items
        (fun member : String × Json N =>
          WellFormedMember info parseDatetime maxDepth bound depth member.1 member.2)
        (fun member => CrashesMember info parseDatetime maxDepth bound depth member.1 member.2)
        (hmembers (Nat.not_lt.mp hcalls))
      rw [if_neg hcalls]
      constructor
      · intro hcrashes
        cases hcrashes with
        | calls hno => exact absurd hno hcalls
        | noDictionary _ hobject => cases hobject
        | member hdepth hbefore hmember =>
            exact .inr ⟨hdepth, hitems.mpr ⟨_, _, _, rfl, hbefore, hmember⟩⟩
      · rintro (hno | ⟨hdepth, hcrashes⟩)
        · exact absurd hno hcalls
        · obtain ⟨before, ⟨key, value⟩, after, rfl, hbefore, hmember⟩ := hitems.mp hcrashes
          exact .member hdepth hbefore hmember

/-- What is no dictionary is read when it is empty, and crashes when it is not. -/
theorem noDictionary_shape {depth : Nat} {filter : Json N} {error : Option (FilterError N)}
    (hplaces : filterPlaces info parseDatetime maxDepth depth filter =
      [startPlace maxDepth depth error])
    (herror : error.all fun error => !error.isValidationError)
    (hobject : filter.isObject = false)
    (hempty : error = none ↔ filter = .array [] ∨ filter = .string "") :
    FilterShape info parseDatetime maxDepth bound depth filter := by
  rw [FilterShape, hplaces, nothingWrong_start, crashesAt_start, hempty, crashesAt]
  constructor
  · constructor
    · intro hwell
      cases hwell with
      | object => cases hobject
      | emptyArray hcalls hdepth => exact ⟨hcalls, hdepth, .inl rfl, rfl⟩
      | emptyString hcalls hdepth => exact ⟨hcalls, hdepth, .inr rfl, rfl⟩
    · rintro ⟨hcalls, hdepth, rfl | rfl, -⟩
      · exact .emptyArray hcalls hdepth
      · exact .emptyString hcalls hdepth
  · by_cases hcalls : bound < depth + 1
    · exact iff_of_true (.calls hcalls) (.inl hcalls)
    · rw [if_neg hcalls]
      constructor
      · intro hcrashes
        cases hcrashes with
        | calls hno => exact absurd hno hcalls
        | member => cases hobject
        | noDictionary hdepth _ harray hstring =>
            refine .inr ⟨hdepth, ?_⟩
            cases error with
            | none => exact absurd (hempty.mp rfl) (not_or.mpr ⟨harray, hstring⟩)
            | some error => exact herror
      · rintro (hno | ⟨hdepth, hcrashes⟩)
        · exact absurd hno hcalls
        · cases error with
          | none => cases hcrashes
          | some error =>
              have hno := not_or.mp (fun h => by cases hempty.mpr h)
              exact .noDictionary hdepth hobject hno.1 hno.2

theorem operandRefused.array {key : String} {items : List (Json N)}
    (hrefused : operandRefused key (.array items)) (hkey : key = "$and" ∨ key = "$or") :
    items = [] := by
  rcases hrefused with ⟨-, hitems⟩ | ⟨rfl, -⟩
  · exact hitems items rfl
  · rcases hkey with hkey | hkey <;> simp at hkey

theorem operandRefused.object {members : List (String × Json N)}
    (hrefused : operandRefused "$not" (.object members)) : members = [] := by
  rcases hrefused with ⟨hkey, -⟩ | ⟨-, hmembers⟩
  · rcases hkey with hkey | hkey <;> simp at hkey
  · exact hmembers members rfl

theorem operandRefused.operator {key : String} {value : Json N}
    (hrefused : operandRefused key value) : key = "$and" ∨ key = "$or" ∨ key = "$not" := by
  rcases hrefused with ⟨hkey | hkey, -⟩ | ⟨hkey, -⟩
  · exact .inl hkey
  · exact .inr (.inl hkey)
  · exact .inr (.inr hkey)

theorem head_of_operator {key : String} (hkey : key = "$and" ∨ key = "$or" ∨ key = "$not") :
    key.toList.head? = some '$' := by
  by_contra hdollar
  obtain ⟨hand, hor, hnot⟩ := ne_operator hdollar
  exact not_or.mpr ⟨hand, not_or.mpr ⟨hor, hnot⟩⟩ hkey

/-- An operand that is refused is wrong, and crashes nothing. -/
theorem refused_shape {depth : Nat} (hcalls : depth + 1 ≤ bound) {key : String} {value : Json N}
    (hrefused : operandRefused key value) :
    MemberShape info parseDatetime maxDepth bound depth key value := by
  obtain ⟨message, hplaces⟩ : ∃ message, keyPlaces info parseDatetime maxDepth depth key value =
      [⟨depth + 1, some (.validationError message)⟩] := keyPlaces_refused hrefused
  have hwrong : nothingWrong bound (keyPlaces info parseDatetime maxDepth depth key value) =
      false := by rw [hplaces]; rfl
  have hcrash : crashesAt bound (keyPlaces info parseDatetime maxDepth depth key value) =
      false := by rw [hplaces, crashesAt, if_neg (Nat.not_lt.mpr hcalls)]; rfl
  have hno : ¬ (key ≠ "$and" ∧ key ≠ "$or" ∧ key ≠ "$not") := by
    have hoperator := hrefused.operator
    tauto
  rw [MemberShape, hwrong, hcrash]
  constructor
  · refine iff_of_false (fun hwell => ?_) Bool.false_ne_true
    cases hwell with
    | junction hkey hitems => exact hitems (hrefused.array hkey)
    | negation hmembers => exact hmembers hrefused.object
    | column hdollar => exact hdollar (head_of_operator hrefused.operator)
  · refine iff_of_false (fun hcrashes => ?_) Bool.false_ne_true
    cases hcrashes with
    | unknownOperator _ hkey => exact hno hkey
    | item hkey =>
        have hnil := hrefused.array hkey
        simp at hnil
    | negation hmembers => exact hmembers hrefused.object
    | column hdollar => exact hdollar (head_of_operator hrefused.operator)

theorem junction_shape {depth : Nat} {key : String} {items : List (Json N)}
    (hkey : key = "$and" ∨ key = "$or") (hitems : items ≠ [])
    (hshape : ∀ item ∈ items, FilterShape info parseDatetime maxDepth bound (depth + 1) item) :
    MemberShape info parseDatetime maxDepth bound depth key (.array items) := by
  have hoperator : key = "$and" ∨ key = "$or" ∨ key = "$not" := by tauto
  rw [MemberShape, keyPlaces_junction hkey hitems, itemPlaces_eq,
    nothingWrong_items _ fun item hitem => (hshape item hitem).1,
    crashesAt_items (WellFormedFilter info parseDatetime maxDepth bound (depth + 1))
      (Crashes info parseDatetime maxDepth bound (depth + 1)) hshape]
  constructor
  · constructor
    · intro hwell
      cases hwell with
      | junction _ _ hall => exact hall
      | column hdollar => exact absurd (head_of_operator hoperator) hdollar
    · exact .junction hkey hitems
  · constructor
    · intro hcrashes
      cases hcrashes with
      | unknownOperator _ hno => tauto
      | column hdollar => exact absurd (head_of_operator hoperator) hdollar
      | item _ hbefore hitem => exact ⟨_, _, _, rfl, hbefore, hitem⟩
    · rintro ⟨before, item, after, rfl, hbefore, hitem⟩
      exact .item hkey hbefore hitem

theorem negation_shape {depth : Nat} {members : List (String × Json N)} (hmembers : members ≠ [])
    (hshape : FilterShape info parseDatetime maxDepth bound (depth + 1) (.object members)) :
    MemberShape info parseDatetime maxDepth bound depth "$not" (.object members) := by
  rw [MemberShape, keyPlaces_negation hmembers, ← hshape.1, ← hshape.2]
  constructor
  · constructor
    · intro hwell
      cases hwell with
      | negation _ hobject => exact hobject
      | column hdollar => exact absurd rfl hdollar
    · exact .negation hmembers
  · constructor
    · intro hcrashes
      cases hcrashes with
      | unknownOperator _ hno => exact absurd rfl hno.2.2
      | negation _ hobject => exact hobject
      | column hdollar => exact absurd rfl hdollar
    · exact .negation hmembers

/-- A key that is none of the three operators. -/
theorem otherKey_shape {depth : Nat} (hcalls : depth + 1 ≤ bound) {key : String} {value : Json N}
    (hkey : key ≠ "$and" ∧ key ≠ "$or" ∧ key ≠ "$not") :
    MemberShape info parseDatetime maxDepth bound depth key value := by
  have hno : ¬ (key = "$and" ∨ key = "$or") := not_or.mpr ⟨hkey.1, hkey.2.1⟩
  rw [MemberShape, keyPlaces_column hkey.1 hkey.2.1 hkey.2.2]
  by_cases hdollar : key.toList.head? = some '$'
  · rw [if_pos hdollar]
    constructor
    · refine iff_of_false (fun hwell => ?_) (fun hwrong => by cases hwrong)
      cases hwell with
      | junction hjunction => exact hno hjunction
      | negation => exact hkey.2.2 rfl
      | column hcolumn => exact hcolumn hdollar
    · refine iff_of_true (.unknownOperator hdollar hkey) ?_
      rw [crashesAt, if_neg (Nat.not_lt.mpr hcalls)]
      rfl
  · have hcolumn : (WellFormedColumn info parseDatetime bound (depth + 2) key "$eq" value ↔ _) ∧
        (CrashesColumn info parseDatetime bound (depth + 2) key value ↔ _) :=
      column_shape (depth + 2) key "$eq" value
    rw [if_neg hdollar, ← hcolumn.1, ← hcolumn.2]
    constructor
    · constructor
      · intro hwell
        cases hwell with
        | junction hjunction => exact absurd hjunction hno
        | negation => exact absurd rfl hkey.2.2
        | column _ hwell => exact hwell
      · exact .column hdollar
    · constructor
      · intro hcrashes
        cases hcrashes with
        | unknownOperator hhead => exact absurd hhead hdollar
        | item hjunction => exact absurd hjunction hno
        | negation => exact absurd rfl hkey.2.2
        | column _ hcrashes => exact hcrashes
      · exact .column hdollar

mutual

/-- What is wrong with a filter, read off its shape. -/
theorem filter_shape (depth : Nat) (filter : Json N) :
    FilterShape info parseDatetime maxDepth bound depth filter := by
  cases filter with
  | object members =>
      exact object_shape fun hcalls => members_shape depth hcalls members
  | array items =>
      apply noDictionary_shape (by rw [filterPlaces])
      · cases items <;> rfl
      · rfl
      · cases items <;> simp
  | string value =>
      apply noDictionary_shape (by rw [filterPlaces])
      · cases value.isEmpty <;> rfl
      · rfl
      · simp [String.isEmpty_iff]
  | null => exact noDictionary_shape rfl rfl rfl (by simp)
  | boolean truth => exact noDictionary_shape rfl rfl rfl (by simp)
  | number number => exact noDictionary_shape rfl rfl rfl (by simp)

theorem members_shape (depth : Nat) (hcalls : depth + 1 ≤ bound)
    (members : List (String × Json N)) :
    ∀ member ∈ members,
      MemberShape info parseDatetime maxDepth bound depth member.1 member.2 := by
  match members with
  | [] => exact fun member hmember => absurd hmember List.not_mem_nil
  | (key, value) :: rest =>
      intro member hmember
      rcases List.mem_cons.mp hmember with rfl | hrest
      · exact member_shape depth hcalls key value
      · exact members_shape depth hcalls rest member hrest

theorem member_shape (depth : Nat) (hcalls : depth + 1 ≤ bound) (key : String) (value : Json N) :
    MemberShape info parseDatetime maxDepth bound depth key value := by
  by_cases hjunction : key = "$and" ∨ key = "$or"
  · cases value with
    | array items =>
        by_cases hitems : items = []
        · exact refused_shape hcalls (.inl ⟨hjunction, by simp [hitems]⟩)
        · exact junction_shape hjunction hitems (items_shape (depth + 1) items)
    | _ => exact refused_shape hcalls (.inl ⟨hjunction, by simp⟩)
  · by_cases hnot : key = "$not"
    · subst hnot
      cases value with
      | object members =>
          by_cases hmembers : members = []
          · exact refused_shape hcalls (.inr ⟨rfl, by simp [hmembers]⟩)
          · exact negation_shape hmembers
              (object_shape fun hmore => members_shape (depth + 1) hmore members)
      | _ => exact refused_shape hcalls (.inr ⟨rfl, by simp⟩)
    · obtain ⟨hand, hor⟩ := not_or.mp hjunction
      exact otherKey_shape hcalls ⟨hand, hor, hnot⟩

theorem items_shape (depth : Nat) (items : List (Json N)) :
    ∀ item ∈ items, FilterShape info parseDatetime maxDepth bound depth item := by
  match items with
  | [] => exact fun item hitem => absurd hitem List.not_mem_nil
  | item :: rest =>
      intro other hother
      rcases List.mem_cons.mp hother with heq | hrest
      · rw [heq]
        exact filter_shape depth item
      · exact items_shape depth rest other hrest

end

end Shape

section Failures

variable {useMaterializedTable : Bool} {info : DataSeriesQueryInfo}
  {parseDatetime : Json N → Option D} {bound : Nat}

theorem failsSafely_iff_validation {filter : Json N}
    (hroom : tooDeep bound (placesOf info parseDatetime filter) = false) :
    FailsSafely useMaterializedTable info parseDatetime bound filter ↔
      ∀ error, computeUserDefinedFilterForRawQuery useMaterializedTable info parseDatetime
        filter = .error error → error.isValidationError = true := by
  rw [FailsSafely, limitedCompute_eq, hroom, if_neg Bool.false_ne_true]
  cases computeUserDefinedFilterForRawQuery useMaterializedTable info parseDatetime filter with
  | ok result =>
      refine iff_of_true ?_ ?_
      · rintro raised ⟨⟩
      · rintro error ⟨⟩
  | error error =>
      constructor
      · rintro hall other ⟨⟩
        exact hall (.filterError error) rfl
      · rintro hall raised ⟨⟩
        exact hall error rfl

theorem failsSafely_iff_crashesAt {filter : Json N} :
    FailsSafely useMaterializedTable info parseDatetime bound filter ↔
      crashesAt bound (placesOf info parseDatetime filter) = false := by
  rw [crashesAt_eq]
  cases hdeep : tooDeep bound (placesOf info parseDatetime filter) with
  | true =>
      refine iff_of_false (fun hsafe => ?_) (by simp)
      have hraised : limitedCompute useMaterializedTable info parseDatetime bound filter =
          .error .recursionError := by rw [limitedCompute_eq, hdeep, if_pos rfl]
      have hvalidation := hsafe _ hraised
      cases hvalidation
  | false =>
      rw [failsSafely_iff_validation hdeep, validation_iff, Bool.false_or, Bool.not_eq_false']

/-- A column with dictionaries in each other. -/
def nestedColumn : Nat → Json N
  | 0 => .object []
  | levels + 1 => .object [("$eq", nestedColumn levels)]

theorem tooDeep_nestedColumn {levels frames : Nat} (column operator : String)
    (hcalls : bound < frames + levels) :
    tooDeep bound (columnPlaces info parseDatetime frames column operator
      (nestedColumn levels)) = true := by
  induction levels generalizing frames operator with
  | zero =>
      rw [nestedColumn, columnPlaces, tooDeep, if_pos (by simpa using hcalls)]
  | succ levels ih =>
      rw [nestedColumn, columnPlaces, operatorPlaces, operatorPlaces, List.append_nil, tooDeep]
      split
      · rfl
      · have hinner : tooDeep bound (columnPlaces info parseDatetime (frames + 1) column "$eq"
            (nestedColumn levels)) = true := ih "$eq" (by omega)
        rw [hinner]
        rfl

/-- No number of calls is enough: what is written under a column is as deep as one likes. -/
theorem limitedCompute_nested (column : String) (hcolumn : column.toList.head? ≠ some '$') :
    limitedCompute useMaterializedTable info parseDatetime bound
      (.object [(column, nestedColumn bound)]) = .error .recursionError := by
  obtain ⟨hand, hor, hnot⟩ := ne_operator hcolumn
  have hinner : tooDeep bound (columnPlaces info parseDatetime 2 column "$eq"
      (nestedColumn bound)) = true := tooDeep_nestedColumn column "$eq" (by omega)
  have hdeep : tooDeep bound (placesOf info parseDatetime
      (.object [(column, nestedColumn bound)])) = true := by
    rw [placesOf, filterPlaces, memberPlaces, memberPlaces, keyPlaces_column hand hor hnot,
      if_neg hcolumn, List.append_nil, tooDeep, hinner]
    split <;> rfl
  rw [limitedCompute_eq, hdeep, if_pos rfl]

end Failures

namespace FilterErrorsWitness

open FilterWitness

end FilterErrorsWitness

end NFCompose
