/-
Whether a validation reports all that is wrong with a payload.  It does unless a
required dimension is given as null or as the empty string, an integer has no float,
or a timestamp stands in the place of a file.
-/
import NFCompose.ValidationErrors

namespace NFCompose

section Outcome

variable {X T F V : Type} (runtime : PythonRuntime X T F)
  (contents : Uuid → Option (SeriesContent V)) (request : ValidationRequest)
  (data : DataPointData X T F) (attrs : Attrs X T F)

/-- A field of the payload with something wrong. -/
def Offending (key : ExternalId) : Prop :=
  (∃ dimension ∈ request.info.dimensions, dimension.externalId = key ∧
    dimension.Offends runtime contents request.externalIdAsDimensionIdentifier request.info
      attrs) ∨
  ∃ type, ∃ fact ∈ request.info.facts type, fact.externalId = key ∧ fact.Offends type attrs

/-- A validation succeeds when nothing is wrong, and otherwise has errors for exactly the
fields of the payload with something wrong. -/
def SettlesPayload : Except ValidationRaised (ValidDataPoint X T F) → Prop
  | .ok _ => (∃ externalId, validateExternalId runtime request data = .ok externalId) ∧
      ∀ key, ¬ Offending runtime contents request attrs key
  | .error (.errors payload _) =>
      (∀ key, key ∈ payload ↔ Offending runtime contents request attrs key) ∧
        ((∃ externalId, validateExternalId runtime request data = .ok externalId) →
          ∃ key, Offending runtime contents request attrs key)
  | .error _ => False

/-- No value is of a kind that the checks pass over. -/
structure NothingPassedOver (info : PayloadStructure) (attrs : Attrs X T F) : Prop where
  dimensions : ∀ dimension ∈ info.dimensions, dimension.Required info →
    ∀ value ∈ attrs.lookup dimension.externalId, value.isBlank = false
  floats : ∀ type, ∀ fact ∈ info.facts type, ∀ value ∈ attrs.lookup fact.externalId,
    type.overflows value = false
  files : ∀ type, ∀ fact ∈ info.facts type, ∀ value ∈ attrs.lookup fact.externalId,
    type.isTimestampForFile value = false

end Outcome

section SubValidations

variable {X T F : Type} (runtime : PythonRuntime X T F) {request : ValidationRequest}

theorem FactInfo.reported_congr {type : FactType} {attrs given : Attrs X T F} {fact : FactInfo}
    (hsame : attrs.lookup fact.externalId = given.lookup fact.externalId) :
    fact.Reported type attrs ↔ fact.Reported type given := by
  rw [FactInfo.Reported, FactInfo.Reported, FactInfo.Offends, FactInfo.Offends, hsame]

theorem given_congr {attrs given : Attrs X T F} {key : ExternalId}
    (hsame : attrs.lookup key = given.lookup key) (value : PyValue X T F) :
    Given attrs key value ↔ Given given key value := by
  rw [Given, Given, hsame]

/-- The external ids of the facts of some types. -/
def factIds (info : PayloadStructure) (types : List FactType) : List ExternalId :=
  types.flatMap fun type => (info.facts type).map FactInfo.externalId

theorem factIds_cons {info : PayloadStructure} {type : FactType} {types : List FactType}
    (hnodup : (factIds info (type :: types)).Nodup) :
    ((info.facts type).map FactInfo.externalId).Nodup ∧ (factIds info types).Nodup ∧
      ∀ other ∈ types, ∀ fact ∈ info.facts other,
        fact.externalId ∉ (info.facts type).map FactInfo.externalId := by
  rw [factIds, List.flatMap_cons, List.nodup_append] at hnodup
  refine ⟨hnodup.1, hnodup.2.1, ?_⟩
  intro other hother fact hfact hmem
  have hrest : fact.externalId ∈ factIds info types :=
    List.mem_flatMap.mpr ⟨other, hother, List.mem_map_of_mem hfact⟩
  exact hnodup.2.2 _ hmem _ hrest rfl

variable (given : Attrs X T F)

/-- The facts of each type have their errors, and those that come before stay. -/
theorem subValidations_ok (hwhole : request.isPartial = false) {types : List FactType}
    (hnodup : (factIds request.info types).Nodup)
    (hfloats : ∀ type ∈ types, ∀ fact ∈ request.info.facts type, ∀ value,
      Given given fact.externalId value → type.overflows value = false)
    (state : FieldErrors × Attrs X T F)
    (hsame : ∀ type ∈ types, ∀ fact ∈ request.info.facts type,
      state.2.lookup fact.externalId = given.lookup fact.externalId) :
    ∃ after, types.foldlM (runSubValidation runtime request) state = .ok after ∧
      ∀ key, key ∈ after.1 ↔ key ∈ state.1 ∨ ∃ type ∈ types,
        ∃ fact ∈ request.info.facts type, fact.externalId = key ∧ fact.Reported type given := by
  induction types generalizing state with
  | nil => exact ⟨state, rfl, by simp⟩
  | cons type types ih =>
      obtain ⟨hfirst, hrest, hother⟩ := factIds_cons hnodup
      rw [List.forall_mem_cons] at hfloats hsame
      obtain ⟨after, hafter, herrors, hframe⟩ := validateFacts_ok runtime request.info hfirst
        state.2 fun fact hfact value hvalue =>
          hfloats.1 fact hfact value ((given_congr (hsame.1 fact hfact) value).mp hvalue)
      have hstep : runSubValidation runtime request state type =
          .ok (after.1 ∪ state.1, after.2) := by
        rw [runSubValidation, hwhole, hafter]
        rfl
      obtain ⟨final, hfinal, hkeys⟩ := ih hrest hfloats.2 (after.1 ∪ state.1, after.2) (by
        intro other hmem fact hfact
        rw [hframe _ (hother other hmem fact hfact)]
        exact hsame.2 other hmem fact hfact)
      refine ⟨final, ?_, ?_⟩
      · rw [List.foldlM_cons, hstep]
        exact hfinal
      · intro key
        have hown : key ∈ after.1 ↔ ∃ fact ∈ request.info.facts type, fact.externalId = key ∧
            fact.Reported type given := by
          rw [herrors]
          refine exists_congr fun fact => and_congr_right fun hfact => and_congr_right fun _ => ?_
          exact FactInfo.reported_congr (hsame.1 fact hfact)
        rw [hkeys, AList.mem_union, List.exists_mem_cons_iff, hown, or_assoc]
        exact or_left_comm

/-- An integer without a float ends the validation. -/
theorem subValidations_error (hwhole : request.isPartial = false) {types : List FactType}
    (hnodup : (factIds request.info types).Nodup)
    (hoverflows : ∃ type ∈ types, ∃ fact ∈ request.info.facts type, ∃ value,
      Given given fact.externalId value ∧ type.overflows value = true)
    (state : FieldErrors × Attrs X T F)
    (hsame : ∀ type ∈ types, ∀ fact ∈ request.info.facts type,
      state.2.lookup fact.externalId = given.lookup fact.externalId) :
    types.foldlM (runSubValidation runtime request) state = .error .overflowError := by
  induction types generalizing state with
  | nil =>
      obtain ⟨type, hmem, -⟩ := hoverflows
      cases hmem
  | cons type types ih =>
      obtain ⟨hfirst, hrest, hother⟩ := factIds_cons hnodup
      rw [List.forall_mem_cons] at hsame
      by_cases hnow : ∃ fact ∈ request.info.facts type, ∃ value,
          Given state.2 fact.externalId value ∧ type.overflows value = true
      · rw [List.foldlM_cons, runSubValidation, hwhole,
          validateFacts_error runtime request.info hfirst hnow]
        rfl
      · obtain ⟨after, hafter, -, hframe⟩ := validateFacts_ok runtime request.info hfirst
          state.2 fun fact hfact value hvalue => by
            by_contra hbad
            exact hnow ⟨fact, hfact, value, hvalue, Bool.not_eq_false _ ▸ hbad⟩
        have hstep : runSubValidation runtime request state type =
            .ok (after.1 ∪ state.1, after.2) := by
          rw [runSubValidation, hwhole, hafter]
          rfl
        rw [List.foldlM_cons, hstep]
        apply ih hrest ?_ (after.1 ∪ state.1, after.2)
        · intro other hmem fact hfact
          rw [hframe _ (hother other hmem fact hfact)]
          exact hsame.2 other hmem fact hfact
        · obtain ⟨other, hmem, fact, hfact, value, hvalue, hbad⟩ := hoverflows
          rcases List.mem_cons.mp hmem with rfl | hlater
          · exact absurd ⟨fact, hfact, value,
              (given_congr (hsame.1 fact hfact) value).mpr hvalue, hbad⟩ hnow
          · exact ⟨other, hlater, fact, hfact, value, hvalue, hbad⟩

/-- An external id belongs to one type of facts. -/
theorem factType_unique {info : PayloadStructure} {types : List FactType}
    (hnodup : (factIds info types).Nodup) {first second : FactType} (hfirst : first ∈ types)
    (hsecond : second ∈ types) {fact other : FactInfo} (hfact : fact ∈ info.facts first)
    (hother : other ∈ info.facts second) (heq : fact.externalId = other.externalId) :
    first = second := by
  induction types with
  | nil => cases hfirst
  | cons type types ih =>
      obtain ⟨-, hrest, hapart⟩ := factIds_cons hnodup
      rcases List.mem_cons.mp hfirst with rfl | hlater
      · rcases List.mem_cons.mp hsecond with rfl | hlater
        · rfl
        · exact absurd (heq ▸ List.mem_map_of_mem hfact) (hapart second hlater other hother)
      · rcases List.mem_cons.mp hsecond with rfl | hlast
        · exact absurd (heq ▸ List.mem_map_of_mem hother) (hapart first hlater fact hfact)
        · exact ih hrest hlater hlast

theorem mem_validatedFactTypes (type : FactType) : type ∈ validatedFactTypes := by
  cases type <;> decide

end SubValidations

section Settled

variable {X T F V : Type} (runtime : PythonRuntime X T F)
  {contents : Uuid → Option (SeriesContent V)} {request : ValidationRequest}
  {data : DataPointData X T F} {attrs : Attrs X T F}

/-- The data point that is updated is there. -/
def UpdatesExisting (contents : Uuid → Option (SeriesContent V)) (request : ValidationRequest) :
    Prop :=
  ∀ dataPointId ∈ request.dataPointId, ∃ content ∈ contents request.info.dataSeriesId,
    ∃ row ∈ content.storage.materialized.lookup dataPointId, row.deletedAt = none

section ExternalId

variable (haccessor : request.dataPointAccessor = dataPointAccessor contents)
  (hexist : ReferencesExist contents request.info) (hupdates : UpdatesExisting contents request)
include haccessor hexist hupdates

/-- An external id is accepted, or refused with a text. -/
theorem validateExternalId_cases (data : DataPointData X T F) :
    (∃ externalId, validateExternalId runtime request data = .ok externalId) ∨
      ∃ detail, validateExternalId runtime request data = .error (.validationError detail) := by
  obtain ⟨content, hcontent, hsupported⟩ := hexist.own
  rw [validateExternalId, haccessor]
  rcases data.externalId with _ | json | time | file
  · exact Or.inr ⟨_, rfl⟩
  · cases json with
    | string externalId =>
        cases hid : request.dataPointId with
        | none =>
            cases request.bulkInsert with
            | true => exact Or.inl ⟨externalId, rfl⟩
            | false =>
                obtain ⟨found, hfound, -⟩ := dataPointAccessor_spec hcontent hsupported
                  (genUuid runtime request.info.dataSeriesId externalId)
                simp only [hfound, bind, Except.bind, Bool.not_false, if_true]
                cases found with
                | none => exact Or.inl ⟨externalId, rfl⟩
                | some datapoint => exact Or.inr ⟨_, rfl⟩
        | some dataPointId =>
            obtain ⟨found, hfound, -, hnone⟩ := dataPointAccessor_spec hcontent hsupported
              dataPointId
            simp only [hfound, bind, Except.bind]
            cases found with
            | none =>
                obtain ⟨other, hother, hrow⟩ := hupdates dataPointId hid
                have hcontents := (Option.mem_def.mp hother).symm.trans hcontent
                cases hcontents
                exact absurd hrow (hnone.mp rfl)
            | some datapoint =>
                dsimp only
                split
                · exact Or.inr ⟨_, rfl⟩
                · exact Or.inl ⟨externalId, rfl⟩
    | _ => exact Or.inr ⟨_, rfl⟩
  · exact Or.inr ⟨_, rfl⟩
  · exact Or.inr ⟨_, rfl⟩

theorem checkedExternalId_cases (hwhole : request.isPartial = false) :
    (∃ externalId, validateExternalId runtime request data = .ok externalId ∧
      checkedExternalId runtime request data = .ok (some externalId, none)) ∨
    (¬ ∃ externalId, validateExternalId runtime request data = .ok externalId) ∧
      ∃ detail, checkedExternalId runtime request data = .ok (none, some detail) := by
  rw [checkedExternalId, hwhole]
  rcases validateExternalId_cases runtime haccessor hexist hupdates data with
    ⟨externalId, haccepted⟩ | ⟨detail, hrefused⟩
  · left
    refine ⟨externalId, haccepted, ?_⟩
    rw [haccepted]
    rfl
  · right
    constructor
    · rintro ⟨externalId, haccepted⟩
      rw [hrefused] at haccepted
      cases haccepted
    · refine ⟨detail, ?_⟩
      rw [hrefused]
      rfl

end ExternalId

variable (contents request attrs) in
/-- A field of the payload that a validation has errors for. -/
def ReportedField (key : ExternalId) : Prop :=
  (∃ dimension ∈ request.info.dimensions, dimension.externalId = key ∧
    dimension.Reported runtime contents request.externalIdAsDimensionIdentifier request.info
      attrs) ∨
  ∃ type, ∃ fact ∈ request.info.facts type, fact.externalId = key ∧ fact.Reported type attrs

theorem factId_notMem_dimensions (info : PayloadStructure) {type : FactType} {fact : FactInfo}
    (hfact : fact ∈ info.facts type) :
    fact.externalId ∉ info.dimensions.map DimensionInfo.externalId := by
  intro hmem
  have hids : fact.externalId ∈ factIds info validatedFactTypes :=
    List.mem_flatMap.mpr ⟨type, mem_validatedFactTypes type, List.mem_map_of_mem hfact⟩
  exact (List.nodup_append.mp info.externalIds_nodup).2.2 _ hmem _ hids rfl

section Payload

variable (haccessor : request.dataPointAccessor = dataPointAccessor contents)
  (hwhole : request.isPartial = false) (hexist : ReferencesExist contents request.info)
  (attrs : Attrs X T F)
include haccessor hwhole hexist

theorem payloadErrors_ok (hfloats : ∀ type, ∀ fact ∈ request.info.facts type, ∀ value,
      Given attrs fact.externalId value → type.overflows value = false) :
    ∃ dimensions after, validateDimensions runtime request attrs = .ok dimensions ∧
      validatedFactTypes.foldlM (runSubValidation runtime request) dimensions = .ok after ∧
      ∀ key, key ∈ after.1 ↔ ReportedField runtime contents request attrs key := by
  obtain ⟨dimensions, hdimensions, herrors, hframe⟩ :=
    validateDimensions_ok runtime haccessor hwhole hexist attrs
  obtain ⟨after, hafter, hkeys⟩ := subValidations_ok runtime attrs hwhole
    (List.nodup_append.mp request.info.externalIds_nodup).2.1
    (fun type _ => hfloats type) dimensions
    (fun type _ fact hfact => hframe _ (factId_notMem_dimensions request.info hfact))
  refine ⟨dimensions, after, hdimensions, hafter, ?_⟩
  intro key
  rw [hkeys, herrors, ReportedField]
  simp only [mem_validatedFactTypes, true_and]

theorem payloadErrors_error (hoverflows : ∃ type, ∃ fact ∈ request.info.facts type, ∃ value,
      Given attrs fact.externalId value ∧ type.overflows value = true) :
    ∃ dimensions, validateDimensions runtime request attrs = .ok dimensions ∧
      validatedFactTypes.foldlM (runSubValidation runtime request) dimensions =
        .error .overflowError := by
  obtain ⟨dimensions, hdimensions, -, hframe⟩ :=
    validateDimensions_ok runtime haccessor hwhole hexist attrs
  obtain ⟨type, fact, hfact, value, hvalue, hbad⟩ := hoverflows
  refine ⟨dimensions, hdimensions, ?_⟩
  exact subValidations_error runtime attrs hwhole
    (List.nodup_append.mp request.info.externalIds_nodup).2.1
    ⟨type, mem_validatedFactTypes type, fact, hfact, value, hvalue, hbad⟩ dimensions
    (fun type _ fact hfact => hframe _ (factId_notMem_dimensions request.info hfact))

end Payload

/-- The fields with errors are the fields with something wrong when nothing is passed
over. -/
theorem reportedField_iff (hpassed : NothingPassedOver request.info attrs) (key : ExternalId) :
    ReportedField runtime contents request attrs key ↔
      Offending runtime contents request attrs key := by
  rw [ReportedField, Offending]
  constructor
  · rintro (⟨dimension, hmem, hkey, hreported⟩ | ⟨type, fact, hmem, hkey, hreported⟩)
    · exact Or.inl ⟨dimension, hmem, hkey, hreported.1⟩
    · exact Or.inr ⟨type, fact, hmem, hkey, hreported.1⟩
  · rintro (⟨dimension, hmem, hkey, hoffends⟩ | ⟨type, fact, hmem, hkey, hoffends⟩)
    · refine Or.inl ⟨dimension, hmem, hkey, hoffends, ?_⟩
      intro value hvalue
      by_contra hblank
      rw [Bool.not_eq_false] at hblank
      rw [DimensionInfo.Offends, Option.mem_def.mp hvalue] at hoffends
      rw [hpassed.dimensions dimension hmem (by simpa [hblank] using hoffends) value hvalue]
        at hblank
      cases hblank
    · exact Or.inr ⟨type, fact, hmem, hkey, hoffends, hpassed.files type fact hmem⟩

/-- When every field with something wrong has an error, nothing but an integer without a
float has been passed over. -/
theorem nothingPassedOver_of_reported
    (hfloats : ∀ type, ∀ fact ∈ request.info.facts type, ∀ value ∈ attrs.lookup fact.externalId,
      type.overflows value = false)
    (hall : ∀ key, Offending runtime contents request attrs key →
      ReportedField runtime contents request attrs key) :
    NothingPassedOver request.info attrs where
  dimensions := by
    intro dimension hmem hrequired value hvalue
    by_contra hblank
    rw [Bool.not_eq_false] at hblank
    have hoffends : dimension.Offends runtime contents request.externalIdAsDimensionIdentifier
        request.info attrs := by
      rw [DimensionInfo.Offends, Option.mem_def.mp hvalue]
      simpa [hblank] using hrequired
    rcases hall _ (Or.inl ⟨dimension, hmem, rfl, hoffends⟩) with
      ⟨other, -, hkey, hreported⟩ | ⟨type, fact, hfact, hkey, -⟩
    · have hgiven := hreported.2 value (hkey ▸ hvalue)
      rw [hblank] at hgiven
      cases hgiven
    · exact factId_notMem_dimensions request.info hfact (hkey ▸ List.mem_map_of_mem hmem)
  floats := hfloats
  files := by
    intro type fact hmem value hvalue
    by_contra hfile
    rw [Bool.not_eq_false] at hfile
    have hoffends : fact.Offends type attrs := by
      rw [FactInfo.Offends, Option.mem_def.mp hvalue]
      rcases value with json | time | file
      · cases type <;> cases hfile
      · cases type <;> first | rfl | cases hfile
      · cases type <;> cases hfile
    rcases hall _ (Or.inr ⟨type, fact, hmem, rfl, hoffends⟩) with
      ⟨dimension, hdimension, hkey, -⟩ | ⟨other, same, hsame, hkey, hreported⟩
    · exact factId_notMem_dimensions request.info hmem (hkey ▸ List.mem_map_of_mem hdimension)
    · have htypes := factType_unique (List.nodup_append.mp request.info.externalIds_nodup).2.1
        (mem_validatedFactTypes type) (mem_validatedFactTypes other) hmem hsame hkey.symm
      have hgiven := hreported.2 value (hkey ▸ hvalue)
      rw [← htypes, hfile] at hgiven
      cases hgiven

theorem isNone_of_overflows {type : FactType} {value : PyValue X T F}
    (hoverflows : type.overflows value = true) : value.isNone = false := by
  rcases value with json | time | file
  · cases json <;> first | rfl | (cases type <;> cases hoverflows)
  · rfl
  · rfl

theorem exists_mem_of_entries {errors : FieldErrors} :
    (!errors.entries.isEmpty) = true ↔ ∃ key, key ∈ errors := by
  rw [Bool.not_eq_true', List.isEmpty_eq_false_iff_exists_mem]
  constructor
  · rintro ⟨entry, hmem⟩
    exact ⟨entry.1, List.mem_map_of_mem hmem⟩
  · rintro ⟨key, hmem⟩
    obtain ⟨entry, hentry, -⟩ := List.mem_map.mp hmem
    exact ⟨entry, hentry⟩

section Validated

variable (hpayload : data.payload = some (.dict attrs)) (hwhole : request.isPartial = false)
  (haccessor : request.dataPointAccessor = dataPointAccessor contents)
  (hexist : ReferencesExist contents request.info) (hupdates : UpdatesExisting contents request)
include hpayload hwhole haccessor hexist hupdates

/-- Without such an integer a validation succeeds, or it has the errors. -/
theorem validate_cases (hfloats : ∀ type, ∀ fact ∈ request.info.facts type,
      ∀ value ∈ attrs.lookup fact.externalId, type.overflows value = false) :
    ((∃ externalId, validateExternalId runtime request data = .ok externalId) ∧
      (∀ key, ¬ ReportedField runtime contents request attrs key) ∧
      ∃ valid, validate runtime data request = .ok valid) ∨
    ∃ errors externalIdError,
      validate runtime data request = .error (.errors errors externalIdError) ∧
      (∀ key, key ∈ errors ↔ ReportedField runtime contents request attrs key) ∧
      ((∃ externalId, validateExternalId runtime request data = .ok externalId) →
        ∃ key, key ∈ errors) := by
  obtain ⟨dimensions, after, hdimensions, hafter, hkeys⟩ := payloadErrors_ok runtime haccessor
    hwhole hexist attrs fun type fact hfact value hvalue =>
      hfloats type fact hfact value hvalue.1
  have hensured : ensurePayload data = .ok attrs := by
    rw [ensurePayload, hpayload]
    rfl
  rcases checkedExternalId_cases runtime haccessor hexist hupdates hwhole with
    ⟨externalId, haccepted, hchecked⟩ | ⟨hrefused, detail, hchecked⟩
  · cases hempty : after.1.entries.isEmpty with
    | true =>
        left
        refine ⟨⟨externalId, haccepted⟩, ?_, ?_⟩
        · intro key hreported
          have hsome := exists_mem_of_entries.mpr ⟨key, (hkeys key).mpr hreported⟩
          rw [hempty] at hsome
          cases hsome
        · simp only [validate, hensured, hdimensions, hafter, hchecked, hempty, bind, Except.bind]
          cases request.dataPointId <;> exact ⟨_, rfl⟩
    | false =>
        right
        refine ⟨after.1, none, ?_, hkeys, ?_⟩
        · simp only [validate, hensured, hdimensions, hafter, hchecked, hempty, bind, Except.bind]
          rfl
        · intro _
          apply exists_mem_of_entries.mp
          rw [hempty]
          rfl
  · right
    refine ⟨after.1, some detail, ?_, hkeys, fun haccepted => absurd haccepted hrefused⟩
    simp only [validate, hensured, hdimensions, hafter, hchecked, bind, Except.bind,
      Option.isSome_some, Bool.or_true]
    rfl

/-- A validation reports all that is wrong with a payload exactly when the payload has no
value that the checks pass over. -/
theorem validate_settles_iff :
    SettlesPayload runtime contents request data attrs (validate runtime data request) ↔
      NothingPassedOver request.info attrs := by
  by_cases hfloats : ∀ type, ∀ fact ∈ request.info.facts type,
      ∀ value ∈ attrs.lookup fact.externalId, type.overflows value = false
  · rcases validate_cases runtime hpayload hwhole haccessor hexist hupdates hfloats with
      ⟨haccepted, hnone, valid, hvalid⟩ | ⟨errors, detail, herrors, hkeys, hsome⟩
    · rw [hvalid, SettlesPayload]
      constructor
      · rintro ⟨-, hfine⟩
        exact nothingPassedOver_of_reported runtime hfloats
          fun key hoffending => absurd hoffending (hfine key)
      · intro hpassed
        refine ⟨haccepted, ?_⟩
        intro key hoffending
        exact hnone key ((reportedField_iff runtime hpassed key).mpr hoffending)
    · rw [herrors, SettlesPayload]
      constructor
      · rintro ⟨hfields, -⟩
        exact nothingPassedOver_of_reported runtime hfloats
          fun key hoffending => (hkeys key).mp ((hfields key).mpr hoffending)
      · intro hpassed
        constructor
        · intro key
          rw [hkeys, reportedField_iff runtime hpassed]
        · intro haccepted
          obtain ⟨key, hkey⟩ := hsome haccepted
          exact ⟨key, (reportedField_iff runtime hpassed key).mp ((hkeys key).mp hkey)⟩
  · have hoverflows : ∃ type, ∃ fact ∈ request.info.facts type, ∃ value,
        Given attrs fact.externalId value ∧ type.overflows value = true := by
      by_contra hnone
      apply hfloats
      intro type fact hfact value hvalue
      by_contra hbad
      rw [Bool.not_eq_false] at hbad
      exact hnone ⟨type, fact, hfact, value,
        ⟨Option.mem_def.mp hvalue, isNone_of_overflows hbad⟩, hbad⟩
    obtain ⟨dimensions, hdimensions, hraised⟩ := payloadErrors_error runtime haccessor hwhole
      hexist attrs hoverflows
    have hvalidated : validate runtime data request = .error .overflowError := by
      have hensured : ensurePayload data = .ok attrs := by
        rw [ensurePayload, hpayload]
        rfl
      simp only [validate, hensured, hdimensions, hraised, bind, Except.bind]
    rw [hvalidated]
    constructor
    · intro hfalse
      cases hfalse
    · intro hpassed
      exact absurd hpassed.floats hfloats

end Validated

end Settled

namespace ValidationWitness

/-- Orders with an amount and a customer, which may follow another order. -/
def orders : PayloadStructure where
  dataSeriesId := "0"
  facts := fun type =>
    match type with
    | .float => [⟨"amount", false⟩]
    | .image => [⟨"photo", true⟩]
    | _ => []
  dimensions := [⟨"customer", false, "3", "tenant", "_mat_3", "_mfhist_3", .dynamicSqlNoHistory⟩,
    ⟨"follows", false, "0", "tenant", "_mat_0", "_mfhist_0", .dynamicSqlNoHistory⟩]
  externalIds_nodup := by decide

def runtime : PythonRuntime Int Int String where
  format := fun _ => "value"
  floatOfInt := id
  hexdigest := id
  sets := KeyedDiff.SetOrder.identity _

/-- One customer, and no orders yet. -/
def contents (dataSeriesId : Uuid) : Option (SeriesContent String) :=
  if dataSeriesId = "0" then some ⟨.dynamicSqlNoHistory, .empty [] [], []⟩
  else if dataSeriesId = "3" then
    some ⟨.dynamicSqlNoHistory, ⟨AList.singleton "3-customer1"
      ⟨"customer1", 0, 0, none, none, fun _ => .null⟩, [], [], []⟩, []⟩
  else none

def request : ValidationRequest where
  dataPointId := none
  info := orders
  isPartial := false
  bulkInsert := false
  externalIdAsDimensionIdentifier := true
  dataPointAccessor := dataPointAccessor contents

/-- An order of a customer. -/
def attrs (customer : PyValue Int Int String) : Attrs Int Int String :=
  (AList.singleton "amount" (.json (.number (.float 7)))).insert "customer" customer

def order (customer : PyValue Int Int String) : DataPointData Int Int String :=
  ⟨some (.dict (attrs customer)), some (.json (.string "order1"))⟩

theorem references_exist : ReferencesExist contents orders := by
  constructor
  · exact ⟨_, rfl, Or.inl rfl⟩
  · intro dimension hmem
    simp only [orders, List.mem_cons, List.not_mem_nil, or_false] at hmem
    rcases hmem with rfl | rfl
    · exact ⟨_, rfl, Or.inl rfl⟩
    · exact ⟨_, rfl, Or.inl rfl⟩

theorem orders_facts {type : FactType} {fact : FactInfo} (hmem : fact ∈ orders.facts type) :
    type = .float ∧ fact = ⟨"amount", false⟩ ∨ type = .image ∧ fact = ⟨"photo", true⟩ := by
  cases type with
  | float => exact Or.inl ⟨rfl, List.mem_singleton.mp hmem⟩
  | image => exact Or.inr ⟨rfl, List.mem_singleton.mp hmem⟩
  | _ => cases hmem

/-- All that is wrong with the order of a customer is found. -/
theorem order_settled :
    SettlesPayload runtime contents request (order (.json (.string "customer1")))
      (attrs (.json (.string "customer1")))
      (validate runtime (order (.json (.string "customer1"))) request) := by
  apply (validate_settles_iff runtime rfl rfl rfl references_exist (by
    intro id hid
    cases hid)).mpr
  constructor
  · intro dimension hmem _ value hvalue
    simp only [request, orders, List.mem_cons, List.not_mem_nil, or_false] at hmem
    rcases hmem with rfl | rfl
    · cases hvalue
      rfl
    · cases hvalue
  · intro type fact hmem value hvalue
    rcases orders_facts hmem with ⟨rfl, rfl⟩ | ⟨rfl, rfl⟩
    · cases hvalue
      rfl
    · cases hvalue
  · intro type fact hmem value hvalue
    rcases orders_facts hmem with ⟨rfl, rfl⟩ | ⟨rfl, rfl⟩
    · cases hvalue
      rfl
    · cases hvalue

/-- An order without a customer passes, although the customer is required. -/
theorem order_without_customer_passes :
    ¬ SettlesPayload runtime contents request (order (.json .null)) (attrs (.json .null))
      (validate runtime (order (.json .null)) request) := by
  obtain ⟨valid, hvalid⟩ : ∃ valid, validate runtime (order (.json .null)) request = .ok valid :=
    ⟨_, rfl⟩
  rw [hvalid]
  rintro ⟨-, hfine⟩
  apply hfine "customer"
  refine Or.inl ⟨_, List.mem_cons_self, rfl, ?_⟩
  exact ⟨by decide, rfl⟩

end ValidationWitness

end NFCompose
