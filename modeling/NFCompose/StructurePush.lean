/-
A push of the difference of two sets of definitions: which of its requests the
server accepts, and what they leave behind.
-/
import NFCompose.StructureDiff

namespace NFCompose

open KeyedDiff KeyedTable PartialRuns

variable {C X : Type}

theorem ite_some_eq_some {S : Type} {condition : Prop} [Decidable condition] {state next : S} :
    (if condition then some state else none) = some next ↔ condition ∧ next = state := by
  rw [Option.ite_none_right_eq_some, Option.some.injEq, eq_comm (b := next)]

namespace SeriesState

variable (series : SeriesState C X) (type : ChildType) (table : ChildTable C type)

@[simp] theorem setChildren_header : (series.setChildren type table).header = series.header := rfl

@[simp] theorem setChildren_locked : (series.setChildren type table).locked = series.locked := rfl

@[simp] theorem setChildren_isOpen : (series.setChildren type table).isOpen = series.isOpen := rfl

@[simp] theorem setChildren_self : (series.setChildren type table).children type = table :=
  Function.update_self ..

theorem setChildren_of_ne {other : ChildType} (hother : other ≠ type) :
    (series.setChildren type table).children other = series.children other :=
  Function.update_of_ne hother ..

variable {series}

theorem isTargeted_iff {target : IndexTarget} :
    series.isTargeted target = true ↔
      ∃ externalId index, (series.children .index).lookup externalId = some index ∧
        target ∈ index.targets := by
  simp only [isTargeted, List.any_eq_true, decide_eq_true_eq]
  constructor
  · rintro ⟨⟨externalId, index⟩, hentry, htarget⟩
    exact ⟨externalId, index, mem_entries_iff.mp hentry, htarget⟩
  · rintro ⟨externalId, index, hlookup, htarget⟩
    exact ⟨⟨externalId, index⟩, mem_entries_iff.mpr hlookup, htarget⟩

end SeriesState

namespace ChildRequest

/-- What a request leaves behind when it is accepted. -/
def effect (config : ServerConfig C X) (series : SeriesState C X) :
    ChildRequest C → SeriesState C X
  | .delete type externalId =>
      series.setChildren type ((series.children type).erase externalId)
  | .create type child =>
      match config.cleanContent type child.content with
      | some content =>
          series.setChildren type ((series.children type).insert child.externalId content)
      | none => series
  | .update type externalId child =>
      match config.cleanContent type child.content with
      | some content =>
          series.setChildren type ((series.children type).insert externalId content)
      | none => series

variable (config : ServerConfig C X)

@[simp] theorem effect_header (series : SeriesState C X) (request : ChildRequest C) :
    (effect config series request).header = series.header := by
  cases request <;> simp only [effect]
  · rfl
  all_goals split <;> rfl

@[simp] theorem effect_locked (series : SeriesState C X) (request : ChildRequest C) :
    (effect config series request).locked = series.locked := by
  cases request <;> simp only [effect]
  · rfl
  all_goals split <;> rfl

@[simp] theorem effect_isOpen (series : SeriesState C X) (request : ChildRequest C) :
    (effect config series request).isOpen = series.isOpen := by
  simp only [SeriesState.isOpen, effect_header, effect_locked]

theorem lookup_setChildren_of_ne {series : SeriesState C X} {type other : ChildType}
    {table : ChildTable C type} {externalId otherId : ExternalId}
    (hother : (other, otherId) ≠ (type, externalId))
    (htable : otherId ≠ externalId → table.lookup otherId = (series.children type).lookup otherId) :
    ((series.setChildren type table).children other).lookup otherId =
      (series.children other).lookup otherId := by
  by_cases htype : other = type
  · subst htype
    rw [SeriesState.setChildren_self]
    exact htable fun hid => hother (hid ▸ rfl)
  · rw [SeriesState.setChildren_of_ne _ _ _ htype]

/-- A request touches no other child. -/
theorem lookup_effect_of_ne (series : SeriesState C X) {request : ChildRequest C}
    {type : ChildType} {externalId : ExternalId} (hkey : (type, externalId) ≠ request.key) :
    ((effect config series request).children type).lookup externalId =
      (series.children type).lookup externalId := by
  cases request with
  | delete type' externalId' =>
      exact lookup_setChildren_of_ne hkey fun hne => AList.lookup_erase_ne hne
  | create type' child =>
      simp only [effect]
      split
      · exact lookup_setChildren_of_ne hkey fun hne => AList.lookup_insert_ne hne
      · rfl
  | update type' externalId' child =>
      simp only [effect]
      split
      · exact lookup_setChildren_of_ne hkey fun hne => AList.lookup_insert_ne hne
      · rfl

theorem lookup_foldl_of_not_mem (requests : List (ChildRequest C)) (series : SeriesState C X)
    {type : ChildType} {externalId : ExternalId}
    (hkey : ∀ request ∈ requests, (type, externalId) ≠ request.key) :
    ((requests.foldl (effect config) series).children type).lookup externalId =
      (series.children type).lookup externalId := by
  induction requests generalizing series with
  | nil => rfl
  | cons request rest ih =>
      rw [List.forall_mem_cons] at hkey
      rw [List.foldl_cons, ih _ hkey.2, lookup_effect_of_ne config series hkey.1]

/-- What one of several requests for different children writes is there in the
end. -/
theorem lookup_foldl_of_mem {requests : List (ChildRequest C)} (hstaged : Staged requests)
    (series : SeriesState C X) {request : ChildRequest C} (hmem : request ∈ requests)
    {type : ChildType} {externalId : ExternalId} (hkey : request.key = (type, externalId))
    {written : Option (Content C type)}
    (hwritten : ∀ series : SeriesState C X,
      ((effect config series request).children type).lookup externalId = written) :
    ((requests.foldl (effect config) series).children type).lookup externalId = written := by
  induction requests generalizing series with
  | nil => simp at hmem
  | cons head rest ih =>
      obtain ⟨hhead, hrest⟩ := List.pairwise_cons.mp hstaged
      rw [List.foldl_cons]
      rcases List.mem_cons.mp hmem with rfl | hmem
      · rw [lookup_foldl_of_not_mem config rest _ fun other hother heq =>
          (hhead other hother).2 (hkey.trans heq), hwritten]
      · exact ih hrest _ hmem

@[simp] theorem foldl_header (requests : List (ChildRequest C)) (series : SeriesState C X) :
    (requests.foldl (effect config) series).header = series.header := by
  induction requests generalizing series with
  | nil => rfl
  | cons request rest ih => rw [List.foldl_cons, ih, effect_header]

@[simp] theorem foldl_locked (requests : List (ChildRequest C)) (series : SeriesState C X) :
    (requests.foldl (effect config) series).locked = series.locked := by
  induction requests generalizing series with
  | nil => rfl
  | cons request rest ih => rw [List.foldl_cons, ih, effect_locked]

theorem lookup_effect_delete (series : SeriesState C X) (type : ChildType)
    (externalId : ExternalId) :
    ((effect config series (.delete type externalId)).children type).lookup externalId =
      none := by
  simp only [effect, SeriesState.setChildren_self, AList.lookup_erase]

theorem lookup_effect_create (series : SeriesState C X) {type : ChildType}
    {externalId : ExternalId} {content written : Content C type}
    (hclean : config.cleanContent type content = some written) :
    ((effect config series (.create type ⟨externalId, content⟩)).children type).lookup
      externalId = some written := by
  simp only [effect, hclean, SeriesState.setChildren_self, AList.lookup_insert]

theorem lookup_effect_update (series : SeriesState C X) {type : ChildType}
    {externalId : ExternalId} {content written : Content C type}
    (hclean : config.cleanContent type content = some written) :
    ((effect config series (.update type externalId ⟨externalId, content⟩)).children
      type).lookup externalId = some written := by
  simp only [effect, hclean, SeriesState.setChildren_self, AList.lookup_insert]

end ChildRequest

section Clear

variable {config : ServerConfig C X} {urls : ExternalId → Bool} {series : SeriesState C X}
  {requests : List (ChildRequest C)}

/-- An index that the requests do not delete targets the element. -/
def KeepsTarget (series : SeriesState C X) (requests : List (ChildRequest C))
    (target : IndexTarget) : Prop :=
  ∃ externalId index, (series.children .index).lookup externalId = some index ∧
    .delete .index externalId ∉ requests ∧ target ∈ index.targets

def DeleteAccepted (series : SeriesState C X) (requests : List (ChildRequest C)) :
    ChildRequest C → Prop
  | .delete (.element type) externalId =>
      series.isOpen = true ∧ ¬KeepsTarget series requests ⟨externalId, type⟩
  | _ => series.isOpen = true

/-- While children are deleted: what is still to be deleted is there, and the
indexes are those that stay and those still to be deleted. -/
structure Clearing (series : SeriesState C X) (requests : List (ChildRequest C))
    (current : SeriesState C X) (rest : List (ChildRequest C)) : Prop where
  open_eq : current.isOpen = series.isOpen
  staged : Staged rest
  subset : ∀ request ∈ rest, request ∈ requests
  pending : ∀ request ∈ rest, ∃ type externalId, request = .delete type externalId ∧
    externalId ∈ current.children type
  indexes : ∀ externalId index,
    (current.children .index).lookup externalId = some index ↔
      (series.children .index).lookup externalId = some index ∧
        (.delete .index externalId ∉ requests ∨ .delete .index externalId ∈ rest)

theorem Clearing.isTargeted_iff {current : SeriesState C X} {type : StructureType}
    {externalId : ExternalId} {rest : List (ChildRequest C)}
    (hinv : Clearing series requests current (.delete (.element type) externalId :: rest)) :
    current.isTargeted ⟨externalId, type⟩ = true ↔
      KeepsTarget series requests ⟨externalId, type⟩ := by
  -- at this stage all indexes that go are gone
  have hgone : ∀ other, .delete .index other ∉
      (.delete (.element type) externalId :: rest : List (ChildRequest C)) := by
    intro other hother
    rcases List.mem_cons.mp hother with heq | hrest
    · simp at heq
    · have hstage := ((List.pairwise_cons.mp hinv.staged).1 _ hrest).1
      simp [ChildRequest.stage] at hstage
  rw [SeriesState.isTargeted_iff, KeepsTarget]
  constructor
  · rintro ⟨other, index, hlookup, htarget⟩
    obtain ⟨hlookup, hkept⟩ := (hinv.indexes other index).mp hlookup
    exact ⟨other, index, hlookup, hkept.resolve_right (hgone other), htarget⟩
  · rintro ⟨other, index, hlookup, hkept, htarget⟩
    exact ⟨other, index, (hinv.indexes other index).mpr ⟨hlookup, Or.inl hkept⟩, htarget⟩

theorem Clearing.step {current : SeriesState C X} {request : ChildRequest C}
    {rest : List (ChildRequest C)} (hinv : Clearing series requests current (request :: rest))
    (next : SeriesState C X) :
    current.request config urls request = some next ↔
      DeleteAccepted series requests request ∧ next = request.effect config current := by
  obtain ⟨type, externalId, rfl, hmem⟩ := hinv.pending request List.mem_cons_self
  simp only [SeriesState.request, hinv.open_eq, hmem, decide_true, Bool.and_true]
  rw [ite_some_eq_some]
  cases type with
  | index => simp only [Bool.and_true, DeleteAccepted, ChildRequest.effect]
  | consumer => simp only [Bool.and_true, DeleteAccepted, ChildRequest.effect]
  | element type =>
      rw [Bool.and_eq_true, Bool.not_eq_true', ← Bool.not_eq_true, hinv.isTargeted_iff]
      simp only [DeleteAccepted, ChildRequest.effect]

theorem Clearing.next {current : SeriesState C X} {request : ChildRequest C}
    {rest : List (ChildRequest C)}
    (hinv : Clearing series requests current (request :: rest)) :
    Clearing series requests (request.effect config current) rest := by
  obtain ⟨type, externalId, rfl, hmem⟩ := hinv.pending request List.mem_cons_self
  obtain ⟨hhead, hrest⟩ := List.pairwise_cons.mp hinv.staged
  refine ⟨?_, hrest, fun other hother => hinv.subset other (List.mem_cons_of_mem _ hother),
    ?_, ?_⟩
  · rw [ChildRequest.effect_isOpen, hinv.open_eq]
  · intro request hrequest
    obtain ⟨type', externalId', rfl, hmem'⟩ :=
      hinv.pending request (List.mem_cons_of_mem _ hrequest)
    refine ⟨type', externalId', rfl, ?_⟩
    rw [← AList.lookup_isSome] at hmem' ⊢
    rwa [ChildRequest.lookup_effect_of_ne config current (hhead _ hrequest).2.symm]
  · intro other index
    by_cases hkey : (ChildType.index, other) = (type, externalId)
    · obtain ⟨rfl, rfl⟩ := Prod.mk.inj hkey
      rw [ChildRequest.lookup_effect_delete]
      constructor
      · intro h
        simp at h
      · rintro ⟨-, hkept | hrest'⟩
        · exact absurd (hinv.subset _ List.mem_cons_self) hkept
        · exact absurd rfl (hhead _ hrest').2
    · have hne : (.delete .index other : ChildRequest C) ≠ .delete type externalId := by
        intro heq
        exact hkey (congrArg ChildRequest.key heq)
      rw [ChildRequest.lookup_effect_of_ne config current hkey, hinv.indexes, List.mem_cons,
        or_iff_right hne]

/-- Deletions are accepted when the data series may be changed and no index that
stays is in their way. -/
theorem clear_eq_some_iff (hstaged : Staged requests)
    (hdelete : ∀ request ∈ requests, ∃ type externalId, request = .delete type externalId ∧
      externalId ∈ series.children type) (final : SeriesState C X) :
    attempt (SeriesState.request config urls) series requests = some final ↔
      (∀ request ∈ requests, DeleteAccepted series requests request) ∧
        final = requests.foldl (ChildRequest.effect config) series := by
  apply attempt_eq_some_iff _ _ _ (Clearing series requests)
  · intro current request rest hinv next
    exact hinv.step next
  · intro current request rest hinv _
    exact hinv.next
  · refine ⟨rfl, hstaged, fun _ h => h, hdelete, fun externalId index => ?_⟩
    constructor
    · intro hlookup
      exact ⟨hlookup, (Classical.em _).symm⟩
    · intro h
      exact h.1

end Clear

section Fill

variable {config : ServerConfig C X} {urls : ExternalId → Bool} {series : SeriesState C X}
  {target : (type : ChildType) → ExternalId → Option (Content C type)}

/-- What the server checks of a creation or an update by itself. -/
def WriteAccepted (config : ServerConfig C X) (series : SeriesState C X) :
    ChildRequest C → Prop
  | .delete _ _ => False
  | .create type child => series.isOpen = true ∧ type.externalIdSafe child.externalId = true ∧
      mayCreate type child.content = true ∧ (config.cleanContent type child.content).isSome
  | .update type externalId child => series.isOpen = true ∧
      type.externalIdSafe externalId = true ∧ (config.cleanContent type child.content).isSome

/-- A creation of a child of the target that is not there, or an update of one
that is. -/
def PendingWrite (target : (type : ChildType) → ExternalId → Option (Content C type))
    (current : SeriesState C X) : ChildRequest C → Prop
  | .delete _ _ => False
  | .create type child => target type child.externalId = some child.content ∧
      child.externalId ∉ current.children type
  | .update type externalId child => target type externalId = some child.content ∧
      child.externalId = externalId ∧
      ∃ original, (current.children type).lookup externalId = some original ∧
        mayUpdate type original child.content = true

/-- The target has one element for each external id, and its references
resolve. -/
structure TargetResolves (urls : ExternalId → Bool)
    (target : (type : ChildType) → ExternalId → Option (Content C type)) : Prop where
  unique : ∀ type type' externalId, (target (.element type) externalId).isSome →
    (target (.element type') externalId).isSome → type = type'
  references : ∀ externalId dimension, target (.element .dimension) externalId = some dimension →
    urls dimension.reference = true
  targets : ∀ externalId index, target .index externalId = some index →
    ∀ place ∈ index.targets,
      (target (.element place.targetType) place.targetExternalId).isSome

/-- While children are created and updated: the elements of the target are there
or still to be created, and no others are there. -/
structure Filling (urls : ExternalId → Bool)
    (target : (type : ChildType) → ExternalId → Option (Content C type))
    (series current : SeriesState C X) (rest : List (ChildRequest C)) : Prop where
  open_eq : current.isOpen = series.isOpen
  staged : Staged rest
  pending : ∀ request ∈ rest, PendingWrite target current request
  present : ∀ type externalId, (target (.element type) externalId).isSome →
    externalId ∈ current.children (.element type) ∨
      ∃ child, child.externalId = externalId ∧ .create (.element type) child ∈ rest
  known : ∀ type externalId, externalId ∈ current.children (.element type) →
    (target (.element type) externalId).isSome

theorem Filling.externalIdFree (hresolves : TargetResolves urls target)
    {current : SeriesState C X} {type : ChildType}
    {child : Identifiable (Content C type)} {rest : List (ChildRequest C)}
    (hinv : Filling urls target series current (.create type child :: rest)) :
    current.externalIdFree type child.externalId = true := by
  obtain ⟨htarget, hnew⟩ := hinv.pending _ List.mem_cons_self
  simp only [SeriesState.externalIdFree, hnew, not_false_eq_true, decide_true, Bool.true_and]
  cases type with
  | consumer => rfl
  | index => rfl
  | element type =>
      simp only [List.all_eq_true, decide_eq_true_eq]
      intro other _ hother
      have hsame : other = type := hresolves.unique other type child.externalId
        (hinv.known other _ hother) (by rw [htarget]; rfl)
      exact hnew (hsame ▸ hother)

theorem Filling.referencesResolve (hresolves : TargetResolves urls target)
    {current : SeriesState C X} {request : ChildRequest C} {rest : List (ChildRequest C)}
    (hinv : Filling urls target series current (request :: rest)) {type : ChildType}
    {externalId : ExternalId} {content : Content C type} (hkey : request.key.1 = type)
    (htarget : target type externalId = some content) :
    current.referencesResolve urls type content = true := by
  cases type with
  | consumer => rfl
  | element type =>
      cases type with
      | fact type => rfl
      | dimension => exact hresolves.references externalId content htarget
  | index =>
      simp only [SeriesState.referencesResolve, List.all_eq_true, decide_eq_true_eq]
      intro place hplace
      have helement := hresolves.targets externalId content htarget place hplace
      rcases hinv.present _ _ helement with hthere | ⟨child, -, hcreate⟩
      · exact hthere
      · -- elements are created before indexes
        exfalso
        rcases List.mem_cons.mp hcreate with rfl | hcreate
        · simp [ChildRequest.key] at hkey
        · have hstage := ((List.pairwise_cons.mp hinv.staged).1 _ hcreate).1
          cases request with
          | delete => exact hinv.pending _ List.mem_cons_self
          | create type child =>
              simp only [ChildRequest.key] at hkey
              subst hkey
              simp [ChildRequest.stage] at hstage
          | update type externalId child =>
              simp only [ChildRequest.key] at hkey
              subst hkey
              simp [ChildRequest.stage] at hstage

theorem Filling.step (hresolves : TargetResolves urls target)
    {current : SeriesState C X} {request : ChildRequest C} {rest : List (ChildRequest C)}
    (hinv : Filling urls target series current (request :: rest)) (next : SeriesState C X) :
    current.request config urls request = some next ↔
      WriteAccepted config series request ∧ next = request.effect config current := by
  have hpending := hinv.pending request List.mem_cons_self
  cases request with
  | delete => exact absurd hpending id
  | create type child =>
      have hfree := hinv.externalIdFree hresolves
      have hreferences : current.referencesResolve urls type child.content = true :=
        hinv.referencesResolve hresolves rfl hpending.1
      simp only [SeriesState.request, hinv.open_eq, hfree, hreferences, Bool.and_true,
        WriteAccepted, ChildRequest.effect]
      cases hclean : config.cleanContent type child.content with
      | none => simp
      | some content =>
          simp only [Option.map_some, ite_some_eq_some, Bool.and_eq_true, Option.isSome_some,
            and_true, and_assoc]
  | update type externalId child =>
      obtain ⟨htarget, hid, original, horiginal, hmay⟩ := hpending
      have hreferences : current.referencesResolve urls type child.content = true :=
        hinv.referencesResolve hresolves rfl htarget
      simp only [SeriesState.request, horiginal, Option.bind_some, hinv.open_eq, hid, hmay,
        hreferences, Bool.and_true, decide_true, WriteAccepted, ChildRequest.effect]
      cases hclean : config.cleanContent type child.content with
      | none => simp
      | some content =>
          simp only [Option.map_some, ite_some_eq_some, Bool.and_eq_true, Option.isSome_some,
            and_true, and_assoc]

/-- A write that is accepted is there afterwards. -/
theorem mem_effect_of_accepted {current : SeriesState C X} {request : ChildRequest C}
    (haccepted : WriteAccepted config series request) {type : ChildType}
    {externalId : ExternalId} (hkey : (type, externalId) = request.key) :
    externalId ∈ (request.effect config current).children type := by
  cases request with
  | delete => exact absurd haccepted id
  | create type' child =>
      obtain ⟨rfl, rfl⟩ := Prod.mk.inj hkey
      obtain ⟨-, -, -, hclean⟩ := haccepted
      obtain ⟨content, hclean⟩ := Option.isSome_iff_exists.mp hclean
      rw [← AList.lookup_isSome, ChildRequest.lookup_effect_create config current hclean]
      rfl
  | update type' externalId' child =>
      obtain ⟨rfl, rfl⟩ := Prod.mk.inj hkey
      obtain ⟨-, -, hclean⟩ := haccepted
      obtain ⟨content, hclean⟩ := Option.isSome_iff_exists.mp hclean
      simp only [ChildRequest.effect, hclean, SeriesState.setChildren_self, AList.mem_insert,
        true_or]

theorem Filling.next {current : SeriesState C X} {request : ChildRequest C}
    {rest : List (ChildRequest C)}
    (hinv : Filling urls target series current (request :: rest))
    (haccepted : WriteAccepted config series request) :
    Filling urls target series (request.effect config current) rest := by
  obtain ⟨hhead, hrest⟩ := List.pairwise_cons.mp hinv.staged
  have hkept : ∀ type externalId, (type, externalId) ≠ request.key →
      ((request.effect config current).children type).lookup externalId =
        (current.children type).lookup externalId :=
    fun type externalId hne => ChildRequest.lookup_effect_of_ne config current hne
  have hmem : ∀ type externalId, (type, externalId) ≠ request.key →
      (externalId ∈ (request.effect config current).children type ↔
        externalId ∈ current.children type) := by
    intro type externalId hne
    rw [← AList.lookup_isSome, hkept type externalId hne, AList.lookup_isSome]
  refine ⟨?_, hrest, ?_, ?_, ?_⟩
  · rw [ChildRequest.effect_isOpen, hinv.open_eq]
  · intro other hother
    have hne := (hhead other hother).2.symm
    have hpending := hinv.pending other (List.mem_cons_of_mem _ hother)
    cases other with
    | delete => exact hpending
    | create type child => exact ⟨hpending.1, fun h => hpending.2 ((hmem _ _ hne).mp h)⟩
    | update type externalId child =>
        obtain ⟨htarget, hid, original, horiginal, hmay⟩ := hpending
        exact ⟨htarget, hid, original, (hkept _ _ hne).trans horiginal, hmay⟩
  · intro type externalId htarget
    by_cases hkey : (ChildType.element type, externalId) = request.key
    · exact Or.inl (mem_effect_of_accepted haccepted hkey)
    · rw [hmem _ _ hkey]
      rcases hinv.present type externalId htarget with hthere | ⟨child, hchild, hcreate⟩
      · exact Or.inl hthere
      · right
        rcases List.mem_cons.mp hcreate with rfl | hcreate
        · exact absurd (by rw [ChildRequest.key, hchild]) hkey
        · exact ⟨child, hchild, hcreate⟩
  · intro type externalId hthere
    by_cases hkey : (ChildType.element type, externalId) = request.key
    · have hpending := hinv.pending request List.mem_cons_self
      cases request with
      | delete => exact absurd hpending id
      | create type' child =>
          obtain ⟨rfl, rfl⟩ := Prod.mk.inj hkey
          rw [hpending.1]
          rfl
      | update type' externalId' child =>
          obtain ⟨rfl, rfl⟩ := Prod.mk.inj hkey
          rw [hpending.1]
          rfl
    · exact hinv.known type externalId ((hmem _ _ hkey).mp hthere)

/-- Creations and updates are accepted when each of them is by itself. -/
theorem fill_eq_some_iff (hresolves : TargetResolves urls target)
    {requests : List (ChildRequest C)} (hfilling : Filling urls target series series requests)
    (final : SeriesState C X) :
    attempt (SeriesState.request config urls) series requests = some final ↔
      (∀ request ∈ requests, WriteAccepted config series request) ∧
        final = requests.foldl (ChildRequest.effect config) series := by
  apply attempt_eq_some_iff _ _ _ (Filling urls target series)
  · intro current request rest hinv next
    exact hinv.step hresolves next
  · intro current request rest hinv haccepted
    exact hinv.next haccepted
  · exact hfilling

end Fill

section Series

variable [DecidableEq C] {config : ServerConfig C X} {urls : ExternalId → Bool}
  {sets : SetOrder ExternalId} {difference : DataSeriesDefinitionDiff C X}
  {base target : (type : ChildType) → List (Identifiable (Content C type))}
  {series current : SeriesState C X}

omit [DecidableEq C] in
theorem mayUpdate_eq (type : ChildType) (old next : Content C type) :
    mayUpdate type old next = !recreateInsteadOfUpdate type old next := by
  cases type with
  | element type => cases type <;> simp [mayUpdate, recreateInsteadOfUpdate]
  | consumer => rfl
  | index => simp [mayUpdate, recreateInsteadOfUpdate]

omit [DecidableEq C] in
/-- Written is what the target has and the base has not. -/
theorem created_or_updated_iff {type : ChildType} {old new : Option (Content C type)}
    {next : Content C type} :
    Created type old new next ∨ Updated type old new next ↔
      new = some next ∧ old ≠ some next := by
  cases old with
  | none => simp [Created, Updated]
  | some old =>
      simp only [Created, Updated, ne_eq, Option.some.injEq, ← and_or_left, and_congr_right_iff]
      intro _
      constructor
      · rintro (h | ⟨_, rfl, hne, -⟩) heq
        · exact (h old rfl).1 heq.symm
        · exact hne heq.symm
      · intro hne
        cases hrecreate : recreateInsteadOfUpdate type old next with
        | false => exact Or.inr ⟨old, rfl, Ne.symm hne, hrecreate⟩
        | true =>
            left
            rintro _ rfl
            exact ⟨Ne.symm hne, hrecreate⟩

/-- The children that are left when the requests of the first phase are done. -/
def AfterClear (base target : (type : ChildType) → List (Identifiable (Content C type)))
    (current : SeriesState C X) : Prop :=
  ∀ type externalId,
    (Deleted type (contentAt (base type) externalId) (contentAt (target type) externalId) ∧
        (current.children type).lookup externalId = none) ∨
      (¬Deleted type (contentAt (base type) externalId) (contentAt (target type) externalId) ∧
        (current.children type).lookup externalId = contentAt (base type) externalId)

theorem afterClear_foldl (hchildren : difference.children = childrenDiff sets base target)
    (hbase : ∀ type externalId,
      (series.children type).lookup externalId = contentAt (base type) externalId) :
    AfterClear base target
      (difference.deleteRequests.foldl (ChildRequest.effect config) series) := by
  intro type externalId
  by_cases hdeleted : Deleted type (contentAt (base type) externalId)
      (contentAt (target type) externalId)
  · left
    refine ⟨hdeleted, ChildRequest.lookup_foldl_of_mem config
      (deleteRequests_staged hchildren) series
      ((mem_deleteRequests hchildren).mpr ⟨type, externalId, rfl, hdeleted⟩) rfl ?_⟩
    intro series
    exact ChildRequest.lookup_effect_delete config series type externalId
  · right
    refine ⟨hdeleted, ?_⟩
    rw [ChildRequest.lookup_foldl_of_not_mem config, hbase]
    intro request hrequest heq
    obtain ⟨type', externalId', rfl, hdeleted'⟩ := (mem_deleteRequests hchildren).mp hrequest
    obtain ⟨rfl, rfl⟩ := Prod.mk.inj heq
    exact hdeleted hdeleted'

theorem clear_deletes_present (hchildren : difference.children = childrenDiff sets base target)
    (hbase : ∀ type externalId,
      (series.children type).lookup externalId = contentAt (base type) externalId) :
    ∀ request ∈ difference.deleteRequests, ∃ type externalId,
      request = .delete type externalId ∧ externalId ∈ series.children type := by
  intro request hrequest
  obtain ⟨type, externalId, rfl, old, hold, -⟩ := (mem_deleteRequests hchildren).mp hrequest
  refine ⟨type, externalId, rfl, ?_⟩
  rw [← AList.lookup_isSome, hbase, hold]
  rfl

/-- After the first phase a child that is left belongs to the target. -/
theorem AfterClear.target_isSome (hclear : AfterClear base target current) {type : ChildType}
    {externalId : ExternalId} {old : Content C type}
    (hlookup : (current.children type).lookup externalId = some old) :
    contentAt (base type) externalId = some old ∧
      ∃ next, contentAt (target type) externalId = some next ∧
        (next = old ∨ recreateInsteadOfUpdate type old next = false) := by
  rcases hclear type externalId with ⟨-, hnone⟩ | ⟨hkept, hbase⟩
  · rw [hnone] at hlookup
    exact absurd hlookup (by simp)
  · rw [hbase] at hlookup
    refine ⟨hlookup, ?_⟩
    by_contra hnot
    apply hkept
    refine ⟨old, hlookup, fun next hnext => ⟨fun heq => ?_, ?_⟩⟩
    · exact hnot ⟨next, hnext, Or.inl heq⟩
    · rw [← Bool.not_eq_false]
      exact fun hfalse => hnot ⟨next, hnext, Or.inr hfalse⟩

theorem AfterClear.filling (hclear : AfterClear base target current)
    (hchildren : difference.children = childrenDiff sets base target) :
    Filling urls (fun type externalId => contentAt (target type) externalId) current current
      difference.createUpdateRequests := by
  refine ⟨rfl, createUpdateRequests_staged hchildren, ?_, ?_, ?_⟩
  · intro request hrequest
    obtain ⟨type, externalId, next, hwrite⟩ := (mem_createUpdateRequests hchildren).mp hrequest
    rcases hwrite with ⟨rfl, hnext, hcreated⟩ | ⟨rfl, hnext, old, hold, hne, hupdate⟩
    · refine ⟨hnext, fun hthere => ?_⟩
      obtain ⟨old, hold⟩ := Option.isSome_iff_exists.mp (AList.lookup_isSome.mpr hthere)
      obtain ⟨hbase, other, hother, hsame⟩ := hclear.target_isSome hold
      obtain rfl : next = other := Option.some.inj (hnext.symm.trans hother)
      obtain ⟨hne, hrecreate⟩ := hcreated old hbase
      rcases hsame with heq | hfalse
      · exact hne heq
      · rw [hrecreate] at hfalse
        exact Bool.noConfusion hfalse
    · refine ⟨hnext, rfl, old, ?_, by rw [mayUpdate_eq, hupdate]; rfl⟩
      rcases hclear type externalId with ⟨⟨old', hold', hdeleted⟩, -⟩ | ⟨-, hkept⟩
      · obtain rfl : old = old' := Option.some.inj (hold.symm.trans hold')
        rw [(hdeleted next hnext).2] at hupdate
        exact Bool.noConfusion hupdate
      · rw [hkept, hold]
  · intro type externalId htarget
    obtain ⟨next, hnext⟩ := Option.isSome_iff_exists.mp htarget
    by_cases hthere : externalId ∈ current.children (.element type)
    · exact Or.inl hthere
    · right
      refine ⟨⟨externalId, next⟩, rfl, (mem_createUpdateRequests hchildren).mpr
        ⟨_, externalId, next, Or.inl ⟨rfl, hnext, fun old hold => ?_⟩⟩⟩
      rcases hclear (.element type) externalId with ⟨⟨old', hold', hdeleted⟩, -⟩ | ⟨-, hkept⟩
      · obtain rfl : old = old' := Option.some.inj (hold.symm.trans hold')
        exact hdeleted next hnext
      · exact absurd (AList.lookup_isSome.mp (by rw [hkept, hold]; rfl)) hthere
  · intro type externalId hthere
    obtain ⟨old, hold⟩ := Option.isSome_iff_exists.mp (AList.lookup_isSome.mpr hthere)
    obtain ⟨-, next, hnext, -⟩ := hclear.target_isSome hold
    rw [hnext]
    rfl

/-- In the end stands what was left, and what was written in the form in which
the serializers keep it. -/
theorem AfterClear.lookup_foldl (hclear : AfterClear base target current)
    (hchildren : difference.children = childrenDiff sets base target)
    (haccepted : ∀ request ∈ difference.createUpdateRequests,
      WriteAccepted config current request) (type : ChildType) (externalId : ExternalId) :
    ((difference.createUpdateRequests.foldl (ChildRequest.effect config) current).children
        type).lookup externalId =
      (contentAt (target type) externalId).bind fun next =>
        if contentAt (base type) externalId = some next then some next
        else config.cleanContent type next := by
  have hstaged := createUpdateRequests_staged hchildren
  by_cases hwritten : ∃ next, contentAt (target type) externalId = some next ∧
      contentAt (base type) externalId ≠ some next
  · obtain ⟨next, hnext, hbase⟩ := hwritten
    rw [hnext, Option.bind_some, if_neg hbase]
    rcases created_or_updated_iff.mpr ⟨hnext, hbase⟩ with hcreated | hupdated
    · have hmem := (mem_createUpdateRequests hchildren).mpr
        ⟨type, externalId, next, Or.inl ⟨rfl, hcreated⟩⟩
      obtain ⟨-, -, -, hclean⟩ := haccepted _ hmem
      obtain ⟨written, hclean⟩ := Option.isSome_iff_exists.mp hclean
      rw [ChildRequest.lookup_foldl_of_mem config hstaged current hmem rfl
        fun series => ChildRequest.lookup_effect_create config series hclean, hclean]
    · have hmem := (mem_createUpdateRequests hchildren).mpr
        ⟨type, externalId, next, Or.inr ⟨rfl, hupdated⟩⟩
      obtain ⟨-, -, hclean⟩ := haccepted _ hmem
      obtain ⟨written, hclean⟩ := Option.isSome_iff_exists.mp hclean
      rw [ChildRequest.lookup_foldl_of_mem config hstaged current hmem rfl
        fun series => ChildRequest.lookup_effect_update config series hclean, hclean]
  · rw [ChildRequest.lookup_foldl_of_not_mem config]
    · cases hnext : contentAt (target type) externalId with
      | none =>
          rw [Option.bind_none]
          cases hold : (current.children type).lookup externalId with
          | none => rfl
          | some old =>
              obtain ⟨-, next, hnext', -⟩ := hclear.target_isSome hold
              rw [hnext] at hnext'
              exact absurd hnext' (by simp)
      | some next =>
          have hbase : contentAt (base type) externalId = some next := by
            by_contra hne
            exact hwritten ⟨next, hnext, hne⟩
          rw [Option.bind_some, if_pos hbase]
          rcases hclear type externalId with ⟨⟨old, hold, hdeleted⟩, -⟩ | ⟨-, hkept⟩
          · obtain rfl : next = old := Option.some.inj (hbase.symm.trans hold)
            exact absurd rfl (hdeleted next hnext).1
          · rw [hkept, hbase]
    · intro request hrequest heq
      obtain ⟨type', externalId', next, hwrite⟩ :=
        (mem_createUpdateRequests hchildren).mp hrequest
      have hplan : Created type' (contentAt (base type') externalId')
            (contentAt (target type') externalId') next ∨
          Updated type' (contentAt (base type') externalId')
            (contentAt (target type') externalId') next := hwrite.imp And.right And.right
      have hkey : request.key = (type', externalId') := by
        rcases hwrite with ⟨rfl, -⟩ | ⟨rfl, -⟩ <;> rfl
      obtain ⟨rfl, rfl⟩ := Prod.mk.inj (heq.trans hkey)
      exact hwritten ⟨next, created_or_updated_iff.mp hplan⟩

end Series

end NFCompose
