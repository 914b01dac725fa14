/-
The external ids of the dimensions and facts of a data series.  Every kind has a
table of its own, so that they are distinct across the kinds rests on the checks
of the serializer alone.
-/
import Mathlib.Data.List.Dedup
import NFCompose.Runs
import NFCompose.StructureServer

namespace NFCompose

variable {C X : Type}

/-- The kinds of structure elements, in the order of
`get_data_point_serializer_for_data_series`. -/
def payloadTypes : List StructureType :=
  [.fact .float, .fact .string, .fact .text, .fact .timestamp, .fact .json, .fact .image,
    .fact .file, .fact .boolean, .dimension]

theorem mem_payloadTypes (type : StructureType) : type ∈ payloadTypes := by
  cases type with
  | dimension => decide
  | fact type => cases type <;> decide

/-- A request to a structure endpoint, and which data series there are by then. -/
structure ElementRequest (C : Type) where
  seriesExists : ExternalId → Bool
  request : ChildRequest C

namespace SeriesState

def new (header : SeriesHeader X) (locked : Bool) : SeriesState C X := ⟨header, locked, fun _ => ∅⟩

/-- The data series after a request, which may be rejected. -/
def handle (config : ServerConfig C X) (series : SeriesState C X) (op : ElementRequest C) :
    SeriesState C X :=
  (series.request config op.seriesExists op.request).getD series

/-- The external ids of all lists of `_serialization_keys`. -/
def serializationKeys (series : SeriesState C X) : List ExternalId :=
  payloadTypes.flatMap fun type => (series.children (.element type)).keys

/-- The keys of the payload serializers, which are put into one dictionary. -/
def dataPointSerializerKeys (series : SeriesState C X) : Except String (List ExternalId) :=
  let payloadSerializers := series.serializationKeys.dedup
  if series.serializationKeys.length ≠ payloadSerializers.length then
    .error "unexpectedly found a duplicated external_id in the set of facts and dimensions"
  else .ok payloadSerializers

/-- No external id is used by elements of two kinds. -/
def ElementsDistinct (series : SeriesState C X) : Prop :=
  ∀ type other externalId, externalId ∈ series.children (.element type) →
    externalId ∈ series.children (.element other) → type = other

/-- The payload of a data point can be validated, and each of its keys belongs
to one element. -/
structure Addressed (series : SeriesState C X) : Prop where
  distinct : series.ElementsDistinct
  serializer : ∃ keys, series.dataPointSerializerKeys = .ok keys ∧
    ∀ key ∈ keys, ∃! type, key ∈ series.children (.element type)

/-- A request that creates an element of another kind under the external id of a file. -/
def takesFileId (series : SeriesState C X) (op : ElementRequest C) : Bool :=
  match op.request with
  | .create (.element type) child =>
      type ≠ .fact .file && child.externalId ∈ series.children (.element (.fact .file))
  | _ => false

/-- A new element of another kind does not take the external id of a file. -/
def AvoidsFiles (config : ServerConfig C X) (series : SeriesState C X) (op : ElementRequest C) :
    Prop :=
  (series.request config op.seriesExists op.request).isSome → series.takesFileId op = false

instance (config : ServerConfig C X) (series : SeriesState C X) (op : ElementRequest C) :
    Decidable (series.AvoidsFiles config op) :=
  inferInstanceAs (Decidable (_ → _))

theorem mem_serializationKeys {series : SeriesState C X} {externalId : ExternalId} :
    externalId ∈ series.serializationKeys ↔
      ∃ type, externalId ∈ series.children (.element type) := by
  simp [serializationKeys, mem_payloadTypes, AList.mem_keys]

theorem serializationKeys_nodup {series : SeriesState C X} (hdistinct : series.ElementsDistinct) :
    series.serializationKeys.Nodup := by
  rw [serializationKeys, List.nodup_flatMap]
  constructor
  · exact fun type _ => (series.children (.element type)).keys_nodup
  · have htypes : payloadTypes.Nodup := by decide
    apply htypes.imp
    intro type other hne externalId hmem hother
    exact hne (hdistinct type other externalId hmem hother)

theorem addressed_of_distinct {series : SeriesState C X} (hdistinct : series.ElementsDistinct) :
    series.Addressed := by
  refine ⟨hdistinct, series.serializationKeys, ?_, ?_⟩
  · have hdedup := (serializationKeys_nodup hdistinct).dedup
    simp [dataPointSerializerKeys, hdedup]
  · intro key hkey
    obtain ⟨type, htype⟩ := mem_serializationKeys.mp hkey
    exact ⟨type, htype, fun other hother => hdistinct other type key hother htype⟩

/-- What is added to one table is added to no other. -/
theorem mem_setChildren {series : SeriesState C X} {type other : ChildType}
    {table : ChildTable C type} (added : ExternalId → Prop) {externalId : ExternalId}
    (htable : ∀ id ∈ table, id ∈ series.children type ∨ added id)
    (hmem : externalId ∈ (series.setChildren type table).children other) :
    externalId ∈ series.children other ∨ type = other ∧ added externalId := by
  by_cases htype : type = other
  · subst htype
    have hself : (series.setChildren type table).children type = table := Function.update_self ..
    rw [hself] at hmem
    rcases htable externalId hmem with hold | hnew
    · exact Or.inl hold
    · exact Or.inr ⟨rfl, hnew⟩
  · have hother : (series.setChildren type table).children other = series.children other :=
      Function.update_of_ne (Ne.symm htype) ..
    rw [hother] at hmem
    exact Or.inl hmem

/-- An external id is in a table because it was there before or because a
request has created it after it was found to be free. -/
theorem mem_handle {config : ServerConfig C X} {series : SeriesState C X} {op : ElementRequest C}
    {type : ChildType} {externalId : ExternalId}
    (hmem : externalId ∈ (series.handle config op).children type) :
    externalId ∈ series.children type ∨
      (series.request config op.seriesExists op.request).isSome ∧
        ∃ child, op.request = .create type child ∧ child.externalId = externalId ∧
          series.externalIdFree type externalId = true := by
  cases hnext : series.request config op.seriesExists op.request with
  | none =>
      rw [handle, hnext] at hmem
      exact Or.inl hmem
  | some next =>
      rw [handle, hnext, Option.getD_some] at hmem
      rw [Option.isSome_some]
      cases hrequest : op.request with
      | delete deletedType deletedId =>
          simp only [hrequest, request, Option.ite_none_right_eq_some, Option.some.injEq] at hnext
          rw [← hnext.2] at hmem
          have hold := mem_setChildren (fun _ => False)
            (fun id hid => Or.inl (AList.mem_erase.mp hid).2) hmem
          exact Or.inl (hold.resolve_right fun hadded => hadded.2)
      | create createdType child =>
          rw [hrequest, request, Option.ite_none_right_eq_some, Option.map_eq_some_iff] at hnext
          obtain ⟨hguard, content, -, rfl⟩ := hnext
          simp only [Bool.and_eq_true] at hguard
          have hcases := mem_setChildren (fun id => id = child.externalId)
            (fun id hid => (AList.mem_insert _).mp hid |>.symm) hmem
          rcases hcases with hold | ⟨rfl, rfl⟩
          · exact Or.inl hold
          · exact Or.inr ⟨rfl, child, rfl, rfl, hguard.1.1.1.2⟩
      | update updatedType updatedId child =>
          rw [hrequest, request, Option.bind_eq_some_iff] at hnext
          obtain ⟨original, horiginal, hnext⟩ := hnext
          rw [Option.ite_none_right_eq_some, Option.map_eq_some_iff] at hnext
          obtain ⟨-, content, -, rfl⟩ := hnext
          have hmember : updatedId ∈ series.children updatedType := by
            rw [← AList.lookup_isSome, horiginal]
            rfl
          have hold := mem_setChildren (fun _ => False)
            (fun id hid => Or.inl (((AList.mem_insert _).mp hid).elim
              (fun heq => heq ▸ hmember) fun hid => hid)) hmem
          exact Or.inl (hold.resolve_right fun hadded => hadded.2)

/-- The serializer looks into the tables of all kinds but that of the files. -/
theorem not_mem_of_externalIdFree {series : SeriesState C X} {type other : StructureType}
    {externalId : ExternalId} (hfree : series.externalIdFree (.element type) externalId = true)
    (hother : other ≠ .fact .file) : externalId ∉ series.children (.element other) := by
  rw [externalIdFree, Bool.and_eq_true, List.all_eq_true] at hfree
  apply of_decide_eq_true
  apply hfree.2 other
  cases other with
  | dimension => decide
  | fact type =>
      cases type with
      | file => exact absurd rfl hother
      | _ => decide

theorem distinct_handle {config : ServerConfig C X} {series : SeriesState C X}
    {op : ElementRequest C} (hdistinct : series.ElementsDistinct)
    (havoids : series.AvoidsFiles config op) :
    (series.handle config op).ElementsDistinct := by
  -- a new element does not share its external id with one of another kind
  have hnew : (series.request config op.seriesExists op.request).isSome →
      ∀ type other externalId child, op.request = .create (.element type) child →
      child.externalId = externalId → series.externalIdFree (.element type) externalId = true →
      externalId ∈ series.children (.element other) → type = other := by
    intro haccepted type other externalId child hcreate hid hfree hother
    by_contra hne
    by_cases hfile : other = .fact .file
    · subst hfile hid
      have havoided := havoids haccepted
      simp [takesFileId, hcreate, hne, hother] at havoided
    · exact not_mem_of_externalIdFree hfree hfile hother
  intro type other externalId hmem hother
  rcases mem_handle hmem with hold | ⟨haccepted, child, hcreate, hid, hfree⟩
  · rcases mem_handle hother with hold' | ⟨haccepted', child', hcreate', hid', hfree'⟩
    · exact hdistinct type other externalId hold hold'
    · exact (hnew haccepted' other type externalId child' hcreate' hid' hfree' hold).symm
  · rcases mem_handle hother with hold' | ⟨-, child', hcreate', hid', hfree'⟩
    · exact hnew haccepted type other externalId child hcreate hid hfree hold'
    · rw [hcreate] at hcreate'
      injection hcreate' with htype
      injection htype

/-- The external ids of a data series stay distinct across the kinds when no accepted
request gives the external id of a file to an element of another kind. -/
theorem addressed_of_avoidsFiles (config : ServerConfig C X) (header : SeriesHeader X)
    (locked : Bool) (ops : List (ElementRequest C))
    (havoids : Runs.AllSteps (handle config) (AvoidsFiles config) (new header locked) ops) :
    (Runs.run (handle config) (new header locked) ops).Addressed := by
  apply addressed_of_distinct
  apply Runs.run_invariant ElementsDistinct
    (fun _ _ hdistinct havoids => distinct_handle hdistinct havoids) _ havoids
  intro type other externalId hmem
  exact absurd hmem (AList.notMem_empty externalId)

end SeriesState

namespace ExternalIdsWitness

def config : ServerConfig Unit Unit := ⟨some, fun _ => true, some, true⟩

def create (type : FactType) (externalId : ExternalId) : ElementRequest Unit :=
  ⟨fun _ => false, .create (.element (.fact type)) ⟨externalId, ⟨"name", true⟩⟩⟩

def header : SeriesHeader Unit := ⟨"series", .dynamicSqlNoHistory, (), false⟩

theorem file_then_float_not_addressed :
    ¬ (Runs.run (SeriesState.handle config) (SeriesState.new header false)
      [create .file "a", create .float "a"]).Addressed := by
  intro haddressed
  have heq := haddressed.distinct (.fact .file) (.fact .float) "a" (by decide) (by decide)
  cases heq

theorem addressed_of_avoidsFiles_float_then_file :
    (Runs.run (SeriesState.handle config) (SeriesState.new header false)
      [create .float "a", create .file "a", create .file "b"]).Addressed :=
  SeriesState.addressed_of_avoidsFiles config header false _ (by decide)

/-- The serializer of the data points fails once the two elements are there. -/
example : (Runs.run (SeriesState.handle config) (SeriesState.new header false)
    [create .file "a", create .float "a"]).dataPointSerializerKeys =
    .error "unexpectedly found a duplicated external_id in the set of facts and dimensions" := by
  decide

end ExternalIdsWitness

end NFCompose
