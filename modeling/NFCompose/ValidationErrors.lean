/-
What a validation reports.  Each check speaks for its own field, so the fields with
errors can be read off the payload that was given.
-/
import NFCompose.DataPointValidation

namespace NFCompose

open KeyedDiff

section Errors

variable {errors : FieldErrors} {key : ExternalId}

theorem mem_appendError {other : ExternalId} {error : String} :
    key ∈ appendError errors other error ↔ key = other ∨ key ∈ errors :=
  AList.mem_insert errors

theorem mem_appendAll (additional : List String) (other : ExternalId) :
    key ∈ additional.foldl (fun errors error => appendError errors other error) errors ↔
      key ∈ errors ∨ key = other ∧ additional ≠ [] := by
  induction additional generalizing errors with
  | nil => simp
  | cons first rest ih =>
      rw [List.foldl_cons, ih, mem_appendError]
      simp only [ne_eq, reduceCtorEq, not_false_eq_true, and_true]
      tauto

theorem mem_appendEach (errors : FieldErrors) (keys : List ExternalId)
    (error : ExternalId → String) :
    key ∈ appendEach errors keys error ↔ key ∈ errors ∨ key ∈ keys := by
  induction keys generalizing errors with
  | nil => simp [appendEach]
  | cons first rest ih =>
      rw [appendEach, List.foldl_cons]
      refine (ih (appendError errors first (error first))).trans ?_
      rw [mem_appendError, List.mem_cons]
      tauto

theorem mem_missingKeys {X T F : Type} (runtime : PythonRuntime X T F)
    {required : List ExternalId} {attrs : Attrs X T F} :
    key ∈ missingKeys runtime required attrs ↔ key ∈ required ∧ attrs.lookup key = none := by
  rw [missingKeys, (runtime.sets.perm _).mem_iff, List.mem_filter, List.mem_dedup,
    decide_eq_true_iff, AList.lookup_eq_none]

end Errors

section Given

variable {X T F A : Type} {externalId : A → ExternalId}
  {check : A → PyValue X T F → Except ValidationRaised (List String × PyValue X T F)}

/-- A field with a value other than null. -/
def Given (attrs : Attrs X T F) (key : ExternalId) (value : PyValue X T F) : Prop :=
  attrs.lookup key = some value ∧ value.isNone = false

theorem given_insert_of_ne {attrs : Attrs X T F} {key other : ExternalId}
    {value checked : PyValue X T F} (hne : other ≠ key) :
    Given (attrs.insert key checked) other value ↔ Given attrs other value := by
  rw [Given, Given, AList.lookup_insert_ne hne]

theorem eachGiven_skip {item : A} {items : List A} {state : FieldErrors × Attrs X T F}
    (hskip : ∀ value, ¬ Given state.2 (externalId item) value) :
    eachGiven externalId check (item :: items) state =
      eachGiven externalId check items state := by
  rw [eachGiven]
  cases hlookup : state.2.lookup (externalId item) with
  | none => rfl
  | some value =>
      cases hnone : value.isNone with
      | true => simp only [hnone, if_true]
      | false => exact absurd ⟨hlookup, hnone⟩ (hskip value)

theorem eachGiven_given {item : A} {items : List A} {state : FieldErrors × Attrs X T F}
    {value : PyValue X T F} (hgiven : Given state.2 (externalId item) value) :
    eachGiven externalId check (item :: items) state =
      (check item value).bind fun result => eachGiven externalId check items
        (result.1.foldl (fun errors error => appendError errors (externalId item) error) state.1,
          state.2.insert (externalId item) result.2) := by
  rw [eachGiven, hgiven.1]
  simp only [hgiven.2]
  rfl

/-- The fields whose given value does not pass its check. -/
def Refuses (externalId : A → ExternalId)
    (check : A → PyValue X T F → Except ValidationRaised (List String × PyValue X T F))
    (attrs : Attrs X T F) (item : A) : Prop :=
  ∃ value, Given attrs (externalId item) value ∧
    ∃ result, check item value = .ok result ∧ result.1 ≠ []

/-- A field with a given value refuses when its check has errors. -/
theorem refuses_iff_of_given {attrs : Attrs X T F} {item : A} {value : PyValue X T F}
    {result : List String × PyValue X T F} (hgiven : Given attrs (externalId item) value)
    (hresult : check item value = .ok result) :
    Refuses externalId check attrs item ↔ result.1 ≠ [] := by
  constructor
  · rintro ⟨same, hsame, other, hother, hne⟩
    have hvalues := hsame.1.symm.trans hgiven.1
    cases hvalues
    have hresults := hother.symm.trans hresult
    cases hresults
    exact hne
  · intro hne
    exact ⟨value, hgiven, result, hresult, hne⟩

theorem refuses_insert_of_ne {attrs : Attrs X T F} {item other : A}
    (hother : externalId other ≠ externalId item) (value : PyValue X T F) :
    Refuses externalId check (attrs.insert (externalId item) value) other ↔
      Refuses externalId check attrs other := by
  rw [Refuses, Refuses]
  exact exists_congr fun value => and_congr_left fun _ => given_insert_of_ne hother

variable (check) in
/-- When no check raises, the errors of a loop are those of the values that were given, and
the other fields stay. -/
theorem eachGiven_ok {items : List A} (hnodup : (items.map externalId).Nodup)
    (state : FieldErrors × Attrs X T F)
    (hchecked : ∀ item ∈ items, ∀ value, Given state.2 (externalId item) value →
      ∃ result, check item value = .ok result) :
    ∃ after, eachGiven externalId check items state = .ok after ∧
      (∀ key, key ∈ after.1 ↔ key ∈ state.1 ∨
        ∃ item ∈ items, externalId item = key ∧ Refuses externalId check state.2 item) ∧
      ∀ key, key ∉ items.map externalId → after.2.lookup key = state.2.lookup key := by
  induction items generalizing state with
  | nil => exact ⟨state, rfl, by simp, fun _ _ => rfl⟩
  | cons item items ih =>
      rw [List.map_cons, List.nodup_cons] at hnodup
      rw [List.forall_mem_cons] at hchecked
      by_cases hvalue : ∃ value, Given state.2 (externalId item) value
      · obtain ⟨value, hgiven⟩ := hvalue
        obtain ⟨result, hresult⟩ := hchecked.1 value hgiven
        have hother : ∀ other ∈ items, externalId other ≠ externalId item := by
          intro other hmem heq
          exact hnodup.1 (heq ▸ List.mem_map_of_mem hmem)
        obtain ⟨after, hafter, herrors, hframe⟩ := ih hnodup.2
          (result.1.foldl (fun errors error => appendError errors (externalId item) error) state.1,
            state.2.insert (externalId item) result.2) (by
          intro other hmem value hgiven
          exact hchecked.2 other hmem value ((given_insert_of_ne (hother other hmem)).mp hgiven))
        refine ⟨after, ?_, ?_, ?_⟩
        · rw [eachGiven_given hgiven, hresult]
          exact hafter
        · intro key
          have hrest : ∀ other ∈ items,
              Refuses externalId check (state.2.insert (externalId item) result.2) other ↔
                Refuses externalId check state.2 other :=
            fun other hmem => refuses_insert_of_ne (hother other hmem) result.2
          rw [herrors, mem_appendAll, List.exists_mem_cons_iff,
            refuses_iff_of_given hgiven hresult]
          constructor
          · rintro ((hmem | ⟨rfl, hne⟩) | ⟨other, hmem, hkey, hrefuses⟩)
            · exact Or.inl hmem
            · exact Or.inr (Or.inl ⟨rfl, hne⟩)
            · exact Or.inr (Or.inr ⟨other, hmem, hkey, (hrest other hmem).mp hrefuses⟩)
          · rintro (hmem | ⟨rfl, hne⟩ | ⟨other, hmem, hkey, hrefuses⟩)
            · exact Or.inl (Or.inl hmem)
            · exact Or.inl (Or.inr ⟨rfl, hne⟩)
            · exact Or.inr ⟨other, hmem, hkey, (hrest other hmem).mpr hrefuses⟩
        · intro key hkey
          rw [List.map_cons, List.mem_cons, not_or] at hkey
          rw [hframe key hkey.2]
          exact AList.lookup_insert_ne hkey.1
      · rw [eachGiven_skip fun value hgiven => hvalue ⟨value, hgiven⟩]
        obtain ⟨after, hafter, herrors, hframe⟩ := ih hnodup.2 state hchecked.2
        refine ⟨after, hafter, ?_, ?_⟩
        · intro key
          have hfirst : ¬ Refuses externalId check state.2 item := by
            rintro ⟨value, hgiven, -⟩
            exact hvalue ⟨value, hgiven⟩
          rw [herrors, List.exists_mem_cons_iff]
          tauto
        · intro key hkey
          rw [List.map_cons, List.mem_cons, not_or] at hkey
          exact hframe key hkey.2

/-- When all checks that raise do so for one reason, and one of them does, so does the
loop. -/
theorem eachGiven_error {items : List A} (hnodup : (items.map externalId).Nodup)
    {state : FieldErrors × Attrs X T F} {raised : ValidationRaised}
    (hreason : ∀ item ∈ items, ∀ value other, value.isNone = false →
      check item value = .error other → other = raised)
    (hraises : ∃ item ∈ items, ∃ value, Given state.2 (externalId item) value ∧
      check item value = .error raised) :
    eachGiven externalId check items state = .error raised := by
  induction items generalizing state with
  | nil =>
      obtain ⟨item, hmem, -⟩ := hraises
      cases hmem
  | cons item items ih =>
      rw [List.map_cons, List.nodup_cons] at hnodup
      rw [List.forall_mem_cons] at hreason
      by_cases hvalue : ∃ value, Given state.2 (externalId item) value
      · obtain ⟨value, hgiven⟩ := hvalue
        rw [eachGiven_given hgiven]
        cases hcheck : check item value with
        | error other =>
            rw [hreason.1 value other hgiven.2 hcheck]
            rfl
        | ok result =>
            apply ih hnodup.2 hreason.2
            obtain ⟨other, hmem, bad, hbad, hraised⟩ := hraises
            rcases List.mem_cons.mp hmem with rfl | hrest
            · have hvalues := hbad.1.symm.trans hgiven.1
              cases hvalues
              rw [hcheck] at hraised
              cases hraised
            · refine ⟨other, hrest, bad, (given_insert_of_ne ?_).mpr hbad, hraised⟩
              intro heq
              exact hnodup.1 (heq ▸ List.mem_map_of_mem hrest)
      · rw [eachGiven_skip fun value hgiven => hvalue ⟨value, hgiven⟩]
        apply ih hnodup.2 hreason.2
        obtain ⟨other, hmem, bad, hbad, hraised⟩ := hraises
        rcases List.mem_cons.mp hmem with rfl | hrest
        · exact absurd ⟨bad, hbad⟩ hvalue
        · exact ⟨other, hrest, bad, hbad, hraised⟩

end Given

section Facts

variable {X T F : Type} {runtime : PythonRuntime X T F}

/-- The values that belong to a type of facts. -/
def FactType.admits : FactType → PyValue X T F → Bool
  | .float, .json (.number (.float _)) => true
  | .float, .json (.number (.int value)) => !floatOverflows value
  | .string, .json (.string _) => true
  | .text, .json (.string _) => true
  | .timestamp, .datetime _ => true
  | .image, .file _ => true
  | .file, .file _ => true
  | .json, .json _ => true
  | .boolean, .json (.boolean _) => true
  | _, _ => false

/-- An integer for which there is no float. -/
def FactType.overflows : FactType → PyValue X T F → Bool
  | .float, .json (.number (.int value)) => floatOverflows value
  | _, _ => false

/-- A timestamp in the place of an uploaded file. -/
def FactType.isTimestampForFile : FactType → PyValue X T F → Bool
  | .image, .datetime _ => true
  | .file, .datetime _ => true
  | _, _ => false

/-- What is wrong with the value of a fact. -/
def FactInfo.Offends (type : FactType) (attrs : Attrs X T F) (fact : FactInfo) : Prop :=
  match attrs.lookup fact.externalId with
  | none => fact.optional = false
  | some value =>
      if value.isNone then fact.optional = false else type.admits value = false

def typeValidation (runtime : PythonRuntime X T F) : FactType → FactTypeValidation X T F
  | .float => isFloat runtime
  | .string => isString
  | .text => isText
  | .timestamp => isTimestamp
  | .image => isImage
  | .file => isFile
  | .json => isJson
  | .boolean => isBoolean

variable (runtime) in
theorem validateFacts_eq (info : PayloadStructure) (type : FactType) :
    ∃ name, validateFacts runtime info type =
      validateFact runtime (typeValidation runtime type) name (info.facts type) := by
  cases type <;> exact ⟨_, rfl⟩

variable (runtime) in
theorem checkFact_int (value : Int) :
    checkFact (isFloat runtime) (.json (.number (.int value)) : PyValue X T F) =
      if floatOverflows value then .error .overflowError
      else .ok ([], .json (.number (.float (runtime.floatOfInt value)))) := by
  rw [checkFact, isFloat]
  split <;> rfl

variable (runtime) in
/-- A check of a given value raises when there is no float for it.  Otherwise it has
errors for the values of other types, but for no timestamp in the place of a file. -/
theorem checkFact_spec (type : FactType) {value : PyValue X T F} (hgiven : value.isNone = false) :
    (type.overflows value = true ∧
      checkFact (typeValidation runtime type) value = .error .overflowError) ∨
    type.overflows value = false ∧ ∃ result,
      checkFact (typeValidation runtime type) value = .ok result ∧
        (result.1 ≠ [] ↔ type.admits value = false ∧ type.isTimestampForFile value = false) := by
  rcases value with json | time | file
  · rcases json with _ | value | (value | value) | text | items | members
    case number.int =>
      cases type with
      | float =>
          have hcheck := checkFact_int runtime value
          cases hoverflows : floatOverflows value with
          | true =>
              rw [hoverflows, if_pos rfl] at hcheck
              exact Or.inl ⟨hoverflows, hcheck⟩
          | false =>
              rw [hoverflows, if_neg Bool.false_ne_true] at hcheck
              exact Or.inr ⟨hoverflows, _, hcheck, by simp [FactType.admits, hoverflows]⟩
      | _ => exact Or.inr ⟨rfl, _, rfl, by simp [FactType.admits, FactType.isTimestampForFile]⟩
    case null => cases hgiven
    all_goals
      cases type <;>
        exact Or.inr ⟨rfl, _, rfl, by simp [FactType.admits, FactType.isTimestampForFile]⟩
  · cases type <;>
      exact Or.inr ⟨rfl, _, rfl, by simp [FactType.admits, FactType.isTimestampForFile]⟩
  · cases type <;>
      exact Or.inr ⟨rfl, _, rfl, by simp [FactType.admits, FactType.isTimestampForFile]⟩

/-- A fact that is missing or null although it is required. -/
theorem mem_validateFactIds (runtime : PythonRuntime X T F) (name : String)
    {facts : List FactInfo} {attrs : Attrs X T F} {key : ExternalId} :
    key ∈ validateFactIds runtime false name facts attrs ↔
      ∃ fact ∈ facts, fact.externalId = key ∧ fact.optional = false ∧
        ∀ value ∈ attrs.lookup fact.externalId, value.isNone = true := by
  rw [validateFactIds, mem_appendEach, if_neg Bool.false_ne_true, mem_appendEach,
    mem_missingKeys]
  simp only [requiredFactIds, factsWithWrongNull, List.mem_map, List.mem_filter, AList.notMem_empty,
    false_or, Bool.not_eq_true', Bool.and_eq_true]
  constructor
  · rintro (⟨⟨fact, ⟨hmem, hrequired⟩, rfl⟩, hmissing⟩ | ⟨fact, ⟨hmem, hrequired, hnull⟩, rfl⟩)
    · refine ⟨fact, hmem, rfl, hrequired, ?_⟩
      intro value hvalue
      rw [hmissing] at hvalue
      cases hvalue
    · refine ⟨fact, hmem, rfl, hrequired, ?_⟩
      intro value hvalue
      rw [Option.mem_def.mp hvalue] at hnull
      exact hnull
  · rintro ⟨fact, hmem, rfl, hrequired, hnull⟩
    cases hlookup : attrs.lookup fact.externalId with
    | none => exact Or.inl ⟨⟨fact, ⟨hmem, hrequired⟩, rfl⟩, rfl⟩
    | some value =>
        right
        refine ⟨fact, ⟨hmem, hrequired, ?_⟩, rfl⟩
        rw [hlookup]
        exact hnull value hlookup

/-- What is wrong with the value of a fact is reported, but for a timestamp in the place
of a file. -/
def FactInfo.Reported (type : FactType) (attrs : Attrs X T F) (fact : FactInfo) : Prop :=
  fact.Offends type attrs ∧
    ∀ value ∈ attrs.lookup fact.externalId, type.isTimestampForFile value = false

theorem FactInfo.reported_iff (runtime : PythonRuntime X T F) {type : FactType}
    {attrs : Attrs X T F} {fact : FactInfo}
    (hfloats : ∀ value, Given attrs fact.externalId value → type.overflows value = false) :
    fact.Reported type attrs ↔
      (fact.optional = false ∧ ∀ value ∈ attrs.lookup fact.externalId, value.isNone = true) ∨
        Refuses FactInfo.externalId (fun _ => checkFact (typeValidation runtime type)) attrs
          fact := by
  rw [FactInfo.Reported, FactInfo.Offends, Refuses]
  cases hlookup : attrs.lookup fact.externalId with
  | none => simp [Given, hlookup]
  | some value =>
      cases hnone : value.isNone with
      | true =>
          have hplain : type.isTimestampForFile value = false := by
            rcases value with json | time | file
            · cases type <;> rfl
            · cases hnone
            · cases hnone
          simp [Given, hlookup, hnone, hplain]
      | false =>
          have hgiven : Given attrs fact.externalId value := ⟨hlookup, hnone⟩
          rcases checkFact_spec runtime type hnone with
            ⟨hoverflows, -⟩ | ⟨-, result, hresult, hrefused⟩
          · rw [hfloats value hgiven] at hoverflows
            cases hoverflows
          · simp only [Given, hlookup, Option.some_inj, Option.mem_def, forall_eq', hnone,
              Bool.false_eq_true, and_false, false_or, if_false]
            constructor
            · rintro ⟨hoffends, hplain⟩
              exact ⟨value, ⟨rfl, hnone⟩, result, hresult, hrefused.mpr ⟨hoffends, hplain⟩⟩
            · rintro ⟨_, ⟨rfl, -⟩, other, hother, hne⟩
              have hresults := hother.symm.trans hresult
              cases hresults
              exact hrefused.mp hne

theorem validateFacts_ok (runtime : PythonRuntime X T F) (info : PayloadStructure)
    {type : FactType} (hnodup : ((info.facts type).map FactInfo.externalId).Nodup)
    (attrs : Attrs X T F) (hfloats : ∀ fact ∈ info.facts type, ∀ value,
      Given attrs fact.externalId value → type.overflows value = false) :
    ∃ after, validateFacts runtime info type false attrs = .ok after ∧
      (∀ key, key ∈ after.1 ↔
        ∃ fact ∈ info.facts type, fact.externalId = key ∧ fact.Reported type attrs) ∧
      ∀ key, key ∉ (info.facts type).map FactInfo.externalId →
        after.2.lookup key = attrs.lookup key := by
  obtain ⟨name, hname⟩ := validateFacts_eq runtime info type
  rw [hname, validateFact]
  obtain ⟨after, hafter, herrors, hframe⟩ := eachGiven_ok
    (fun _ => checkFact (typeValidation runtime type)) hnodup
    (validateFactIds runtime false name (info.facts type) attrs, attrs) (by
      intro fact hmem value hgiven
      rcases checkFact_spec runtime type hgiven.2 with
        ⟨hoverflows, -⟩ | ⟨-, result, hresult, -⟩
      · rw [hfloats fact hmem value hgiven] at hoverflows
        cases hoverflows
      · exact ⟨result, hresult⟩)
  refine ⟨after, hafter, ?_, hframe⟩
  intro key
  rw [herrors, mem_validateFactIds]
  constructor
  · rintro (⟨fact, hmem, hkey, hnull⟩ | ⟨fact, hmem, hkey, hrefuses⟩)
    · exact ⟨fact, hmem, hkey,
        (FactInfo.reported_iff runtime (hfloats fact hmem)).mpr (Or.inl hnull)⟩
    · exact ⟨fact, hmem, hkey,
        (FactInfo.reported_iff runtime (hfloats fact hmem)).mpr (Or.inr hrefuses)⟩
  · rintro ⟨fact, hmem, hkey, hreported⟩
    rcases (FactInfo.reported_iff runtime (hfloats fact hmem)).mp hreported with hnull | hrefuses
    · exact Or.inl ⟨fact, hmem, hkey, hnull⟩
    · exact Or.inr ⟨fact, hmem, hkey, hrefuses⟩

theorem validateFacts_error (runtime : PythonRuntime X T F) (info : PayloadStructure)
    {type : FactType} (hnodup : ((info.facts type).map FactInfo.externalId).Nodup)
    {attrs : Attrs X T F} (hoverflows : ∃ fact ∈ info.facts type, ∃ value,
      Given attrs fact.externalId value ∧ type.overflows value = true) :
    validateFacts runtime info type false attrs = .error .overflowError := by
  obtain ⟨name, hname⟩ := validateFacts_eq runtime info type
  rw [hname, validateFact]
  apply eachGiven_error hnodup
  · intro fact _ value other hgiven hother
    rcases checkFact_spec runtime type hgiven with
      ⟨-, hraised⟩ | ⟨-, result, hresult, -⟩
    · have hboth := hother.symm.trans hraised
      cases hboth
      rfl
    · rw [hresult] at hother
      cases hother
  · obtain ⟨fact, hmem, value, hgiven, hvalue⟩ := hoverflows
    refine ⟨fact, hmem, value, hgiven, ?_⟩
    rcases checkFact_spec runtime type hgiven.2 with ⟨-, hraised⟩ | ⟨hfine, -⟩
    · exact hraised
    · rw [hvalue] at hfine
      cases hfine

end Facts

section Dimensions

variable {X T F V : Type} (runtime : PythonRuntime X T F)
  (contents : Uuid → Option (SeriesContent V)) (useExternalId : Bool)

/-- A value names a data point of a data series that has not been deleted. -/
def RefersTo (reference : Uuid) : PyValue X T F → Prop
  | .json (.string identifier) =>
      ∃ content ∈ contents reference, ∃ row ∈ content.storage.materialized.lookup
        (if useExternalId then genUuid runtime reference identifier else identifier),
          row.deletedAt = none
  | _ => False

/-- An external id names the data point that has it, when the ids are generated from the
external ids and no two of these have the same digest. -/
theorem refersTo_externalId_iff {reference : Uuid} {content : SeriesContent V}
    (hcontent : content ∈ contents reference) {identifier : ExternalId}
    (hgenerated : ∀ id, ∀ row ∈ content.storage.materialized.lookup id,
      id = genUuid runtime reference row.externalId)
    (hdigests : ∀ id, ∀ row ∈ content.storage.materialized.lookup id,
      runtime.hexdigest identifier = runtime.hexdigest row.externalId →
        row.externalId = identifier) :
    RefersTo runtime contents true reference (.json (.string identifier)) ↔
      ∃ id, ∃ row ∈ content.storage.materialized.lookup id,
        row.externalId = identifier ∧ row.deletedAt = none := by
  rw [RefersTo, if_pos rfl]
  constructor
  · rintro ⟨other, hother, row, hrow, halive⟩
    have hcontents := (Option.mem_def.mp hother).symm.trans hcontent
    cases hcontents
    have hid := hgenerated _ row hrow
    rw [genUuid, genUuid] at hid
    exact ⟨_, row, hrow, hdigests _ row hrow (by simpa using hid), halive⟩
  · rintro ⟨id, row, hrow, rfl, halive⟩
    rw [hgenerated id row hrow] at hrow
    exact ⟨content, hcontent, row, hrow, halive⟩

def PyValue.isBlank (value : PyValue X T F) : Bool := value.isNone || value.isEmptyString

/-- A reference to the data series itself need not be given. -/
def DimensionInfo.Required (info : PayloadStructure) (dimension : DimensionInfo) : Prop :=
  dimension.reference.id ≠ info.dataSeriesId ∧ dimension.optional = false

/-- What is wrong with the value of a dimension. -/
def DimensionInfo.Offends (info : PayloadStructure) (attrs : Attrs X T F)
    (dimension : DimensionInfo) : Prop :=
  match attrs.lookup dimension.externalId with
  | none => dimension.Required info
  | some value =>
      if value.isBlank then dimension.Required info
      else ¬ RefersTo runtime contents useExternalId dimension.reference.id value

variable {contents}

theorem getDataPoint_of_supported {content : SeriesContent V}
    (hsupported : content.backend.Supported) (dataSeriesId : Uuid) (identifier : DataPointId) :
    getDataPoint dataSeriesId content identifier =
      ((content.storage.materialized.lookup identifier).filter fun row =>
        row.deletedAt.isNone).map fun row => ⟨identifier, dataSeriesId, row.externalId⟩ :=
  if_pos hsupported

theorem dataPointAccessor_spec {dataSeriesId : Uuid} {content : SeriesContent V}
    (hcontent : content ∈ contents dataSeriesId) (hsupported : content.backend.Supported)
    (identifier : DataPointId) :
    ∃ found, dataPointAccessor contents identifier dataSeriesId = .ok found ∧
      (∀ datapoint ∈ found, datapoint.dataSeriesId = dataSeriesId) ∧
      (found = none ↔ ¬ ∃ row ∈ content.storage.materialized.lookup identifier,
        row.deletedAt = none) := by
  rw [dataPointAccessor, Option.mem_def.mp hcontent]
  refine ⟨_, rfl, ?_, ?_⟩
  · intro datapoint hfound
    rw [getDataPoint_of_supported hsupported] at hfound
    obtain ⟨row, -, rfl⟩ := Option.map_eq_some_iff.mp hfound
    rfl
  · rw [getDataPoint_of_supported hsupported]
    cases content.storage.materialized.lookup identifier with
    | none => simp
    | some row => cases row.deletedAt <;> simp

/-- The check of a dimension finds what does not refer to a data point. -/
theorem checkDimension_spec {dimension : DimensionInfo} {content : SeriesContent V}
    (hcontent : content ∈ contents dimension.reference.id)
    (hsupported : content.backend.Supported) (value : PyValue X T F) :
    ∃ result, checkDimension runtime useExternalId (dataPointAccessor contents) dimension value =
        .ok result ∧
      (result.1 ≠ [] ↔ value.isEmptyString = false ∧
        ¬ RefersTo runtime contents useExternalId dimension.reference.id value) := by
  rw [checkDimension]
  cases hempty : value.isEmptyString with
  | true => exact ⟨_, rfl, by simp⟩
  | false =>
      rw [if_neg Bool.false_ne_true]
      rcases value with json | time | file
      · cases json with
        | string identifier =>
            obtain ⟨found, hfound, hseries, hnone⟩ := dataPointAccessor_spec hcontent hsupported
              (if useExternalId then genUuid runtime dimension.reference.id identifier
                else identifier)
            have hrefers : RefersTo runtime contents useExternalId dimension.reference.id
                (.json (.string identifier) : PyValue X T F) ↔ found ≠ none := by
              rw [ne_eq, hnone, not_not, RefersTo]
              constructor
              · rintro ⟨other, hother, hrow⟩
                have hcontents := (Option.mem_def.mp hother).symm.trans hcontent
                cases hcontents
                exact hrow
              · intro hrow
                exact ⟨content, hcontent, hrow⟩
            rw [hrefers]
            simp only [hfound, bind, Except.bind]
            cases found with
            | none => exact ⟨_, rfl, by simp⟩
            | some datapoint =>
                simp only [hseries datapoint rfl, ne_eq, not_true_eq_false, if_false]
                exact ⟨_, rfl, by simp⟩
        | _ => exact ⟨_, rfl, by simp [RefersTo]⟩
      · exact ⟨_, rfl, by simp [RefersTo]⟩
      · exact ⟨_, rfl, by simp [RefersTo]⟩

/-- A dimension that is missing although it is required. -/
theorem mem_validateDimIds {info : PayloadStructure} {attrs : Attrs X T F} {key : ExternalId} :
    key ∈ validateDimIds runtime info false attrs ↔
      ∃ dimension ∈ info.dimensions, dimension.externalId = key ∧ dimension.Required info ∧
        attrs.lookup dimension.externalId = none := by
  rw [validateDimIds, if_neg Bool.false_ne_true, mem_appendEach, mem_missingKeys]
  simp only [requiredDimensionIds, List.mem_map, List.mem_filter, AList.notMem_empty, false_or,
    Bool.and_eq_true, decide_eq_true_iff, Bool.not_eq_true', DimensionInfo.Required]
  constructor
  · rintro ⟨⟨dimension, ⟨hmem, hrequired⟩, rfl⟩, hmissing⟩
    exact ⟨dimension, hmem, rfl, hrequired, hmissing⟩
  · rintro ⟨dimension, hmem, rfl, hrequired, hmissing⟩
    exact ⟨⟨dimension, ⟨hmem, hrequired⟩, rfl⟩, hmissing⟩

variable (contents) in
/-- What is wrong with the value of a dimension is reported, but for null and the empty
string. -/
def DimensionInfo.Reported (info : PayloadStructure) (attrs : Attrs X T F)
    (dimension : DimensionInfo) : Prop :=
  dimension.Offends runtime contents useExternalId info attrs ∧
    ∀ value ∈ attrs.lookup dimension.externalId, value.isBlank = false

theorem DimensionInfo.reported_iff {info : PayloadStructure} {attrs : Attrs X T F}
    {dimension : DimensionInfo} {content : SeriesContent V}
    (hcontent : content ∈ contents dimension.reference.id)
    (hsupported : content.backend.Supported) :
    dimension.Reported runtime contents useExternalId info attrs ↔
      (dimension.Required info ∧ attrs.lookup dimension.externalId = none) ∨
        Refuses DimensionInfo.externalId
          (checkDimension runtime useExternalId (dataPointAccessor contents)) attrs dimension := by
  rw [DimensionInfo.Reported, DimensionInfo.Offends, Refuses]
  cases hlookup : attrs.lookup dimension.externalId with
  | none => simp [Given, hlookup]
  | some value =>
      obtain ⟨result, hresult, hrefused⟩ :=
        checkDimension_spec runtime useExternalId hcontent hsupported value
      have hrefuses : (∃ given, Given attrs dimension.externalId given ∧ ∃ result,
          checkDimension runtime useExternalId (dataPointAccessor contents) dimension given =
            .ok result ∧ result.1 ≠ []) ↔ value.isNone = false ∧ result.1 ≠ [] := by
        constructor
        · rintro ⟨given, ⟨hgiven, hnone⟩, other, hother, hne⟩
          have hvalues := hgiven.symm.trans hlookup
          cases hvalues
          have hresults := hother.symm.trans hresult
          cases hresults
          exact ⟨hnone, hne⟩
        · rintro ⟨hnone, hne⟩
          exact ⟨value, ⟨hlookup, hnone⟩, result, hresult, hne⟩
      rw [hrefuses, hrefused]
      simp only [Option.mem_def, Option.some_inj, forall_eq', reduceCtorEq, and_false, false_or]
      have hblank : value.isBlank = false ↔ value.isNone = false ∧ value.isEmptyString = false := by
        rw [PyValue.isBlank, Bool.or_eq_false_iff]
      constructor
      · rintro ⟨hoffends, hgiven⟩
        rw [if_neg (by rw [hgiven]; exact Bool.false_ne_true)] at hoffends
        exact ⟨(hblank.mp hgiven).1, (hblank.mp hgiven).2, hoffends⟩
      · rintro ⟨hnone, hempty, hoffends⟩
        have hgiven := hblank.mpr ⟨hnone, hempty⟩
        rw [if_neg (by rw [hgiven]; exact Bool.false_ne_true)]
        exact ⟨hoffends, hgiven⟩

/-- The data series that a validation looks into are there. -/
structure ReferencesExist (contents : Uuid → Option (SeriesContent V))
    (info : PayloadStructure) : Prop where
  own : ∃ content ∈ contents info.dataSeriesId, content.backend.Supported
  references : ∀ dimension ∈ info.dimensions,
    ∃ content ∈ contents dimension.reference.id, content.backend.Supported

theorem validateDimensions_ok {request : ValidationRequest}
    (haccessor : request.dataPointAccessor = dataPointAccessor contents)
    (hwhole : request.isPartial = false) (hexist : ReferencesExist contents request.info)
    (attrs : Attrs X T F) :
    ∃ after, validateDimensions runtime request attrs = .ok after ∧
      (∀ key, key ∈ after.1 ↔ ∃ dimension ∈ request.info.dimensions, dimension.externalId = key ∧
        dimension.Reported runtime contents request.externalIdAsDimensionIdentifier request.info
          attrs) ∧
      ∀ key, key ∉ request.info.dimensions.map DimensionInfo.externalId →
        after.2.lookup key = attrs.lookup key := by
  have hnodup := (List.nodup_append.mp request.info.externalIds_nodup).1
  rw [validateDimensions, haccessor, hwhole]
  obtain ⟨after, hafter, herrors, hframe⟩ := eachGiven_ok
    (checkDimension runtime request.externalIdAsDimensionIdentifier (dataPointAccessor contents))
    hnodup (validateDimIds runtime request.info false attrs, attrs) (by
      intro dimension hmem value _
      obtain ⟨content, hcontent, hsupported⟩ := hexist.references dimension hmem
      obtain ⟨result, hresult, -⟩ := checkDimension_spec runtime
        request.externalIdAsDimensionIdentifier hcontent hsupported value
      exact ⟨result, hresult⟩)
  refine ⟨after, hafter, ?_, hframe⟩
  intro key
  have hreported : ∀ dimension ∈ request.info.dimensions,
      dimension.Reported runtime contents request.externalIdAsDimensionIdentifier request.info
        attrs ↔ _ := fun dimension hmem =>
    have ⟨_, hcontent, hsupported⟩ := hexist.references dimension hmem
    DimensionInfo.reported_iff runtime request.externalIdAsDimensionIdentifier hcontent hsupported
  rw [herrors, mem_validateDimIds]
  constructor
  · rintro (⟨dimension, hmem, hkey, hmissing⟩ | ⟨dimension, hmem, hkey, hrefuses⟩)
    · exact ⟨dimension, hmem, hkey, (hreported dimension hmem).mpr (Or.inl hmissing)⟩
    · exact ⟨dimension, hmem, hkey, (hreported dimension hmem).mpr (Or.inr hrefuses)⟩
  · rintro ⟨dimension, hmem, hkey, hoffends⟩
    rcases (hreported dimension hmem).mp hoffends with hmissing | hrefuses
    · exact Or.inl ⟨dimension, hmem, hkey, hmissing⟩
    · exact Or.inr ⟨dimension, hmem, hkey, hrefuses⟩

end Dimensions

end NFCompose
