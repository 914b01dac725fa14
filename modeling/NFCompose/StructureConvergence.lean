/-
Structural convergence: when a push of the difference between the definitions on
a server and a target completes and leaves the target on the server.
-/
import NFCompose.StructurePhases

namespace NFCompose

open KeyedDiff KeyedTable DataSeriesDefinitionDiffPusher

variable {C X : Type}

/-- What is found under an external id is what the target has for it. -/
def ConvergedAt (target : List (DataSeriesDefinition C X)) (externalId : ExternalId) :
    Option (SeriesState C X) → Prop
  | none => ∀ definition ∈ target, definition.externalId ≠ externalId
  | some series => ∃ definition ∈ target, definition.externalId = externalId ∧
      ∀ type childId content, (series.children type).lookup childId = some content ↔
        ⟨childId, content⟩ ∈ definition.children type

/-- The server has the data series of the target, each with the same facts,
dimensions, consumers and indexes. -/
def Converged (server : Server C X) (target : List (DataSeriesDefinition C X)) : Prop :=
  ∀ externalId, ConvergedAt target externalId (server.lookup externalId)

/-- What a child that the push has to write needs: a safe external id, values
that the serializer keeps as they are, and a target if it is a new index. -/
def Writable (config : ServerConfig C X) (type : ChildType) (externalId : ExternalId)
    (old : Option (Content C type)) (next : Content C type) : Prop :=
  type.externalIdSafe externalId = true ∧ config.cleanContent type next = some next ∧
    ((∀ content, old = some content → recreateInsteadOfUpdate type content next = true) →
      mayCreate type next = true)

/-- No index that keeps its targets targets a dimension that changes its
reference. -/
def TargetsKept (series : SeriesState C X) (definition : DataSeriesDefinition C X) : Prop :=
  ∀ indexId (old index : Index), (series.children .index).lookup indexId = some old →
    contentAt (definition.children .index) indexId = some index → old.targets = index.targets →
    ∀ place ∈ index.targets, place.targetType = .dimension → ∀ before after : Dimension,
      (series.children (.element .dimension)).lookup place.targetExternalId = some before →
      contentAt (definition.children (.element .dimension)) place.targetExternalId =
        some after → before.reference = after.reference

/-- When the definition of a data series can be pushed onto it. -/
structure SeriesPushable (config : ServerConfig C X) (series : SeriesState C X)
    (definition : DataSeriesDefinition C X) : Prop where
  isOpen : (series.header ≠ definition.dataSeries.content ∨ ∃ type childId,
    (series.children type).lookup childId ≠ contentAt (definition.children type) childId) →
      series.isOpen = true
  header : series.header ≠ definition.dataSeries.content →
    (Server.cleanHeader config definition.dataSeries).isSome ∧
      (series.header.backend = definition.dataSeries.content.backend ∨
        canMigrate series.header.backend definition.dataSeries.content.backend = true)
  unlocked : series.header.backend ≠ definition.dataSeries.content.backend →
    config.migratesAtOnce = true ∨ ∀ type childId next,
      contentAt (definition.children type) childId = some next →
        (series.children type).lookup childId = some next
  writes : ∀ type childId next, contentAt (definition.children type) childId = some next →
    (series.children type).lookup childId ≠ some next →
      Writable config type childId ((series.children type).lookup childId) next
  targets : TargetsKept series definition

def PushableAt (config : ServerConfig C X) :
    Option (SeriesState C X) → Option (DataSeriesDefinition C X) → Prop
  | none, none => True
  | some series, none => series.isOpen = true
  | none, some definition => (Server.cleanHeader config definition.dataSeries).isSome ∧
      ∀ type childId next, contentAt (definition.children type) childId = some next →
        Writable config type childId none next
  | some series, some definition => SeriesPushable config series definition

/-- When a target can be pushed onto a server. -/
def Pushable (config : ServerConfig C X) (server : Server C X)
    (target : List (DataSeriesDefinition C X)) : Prop :=
  ∀ externalId, PushableAt config (server.lookup externalId) (targetOf target externalId)

section Series

variable [DecidableEq C] [DecidableEq X] {config : ServerConfig C X}
  {sets : SetOrder ExternalId} {server : Server C X} {target : List (DataSeriesDefinition C X)}
  {externalId : ExternalId} {series : SeriesState C X} {definition : DataSeriesDefinition C X}

theorem mem_deletes_of_series (hseries : server.lookup externalId = some series)
    {request : ChildRequest C} :
    request ∈ (diffFor sets server target externalId).deleteRequests ↔ ∃ type childId,
      request = .delete type childId ∧ Deleted type ((series.children type).lookup childId)
        (contentAt (targetChildren target externalId type) childId) := by
  rw [mem_deleteRequests (diffFor_children sets server target externalId)]
  simp only [contentAt_baseChildren hseries]

/-- A data series that is not in the target can be emptied when it may be
changed. -/
theorem clearable_of_isOpen (hseries : server.lookup externalId = some series)
    (htarget : targetOf target externalId = none) (hopen : series.isOpen = true) :
    Clearable sets server target externalId := by
  intro series' hseries' request hrequest
  obtain rfl := Option.some.inj (hseries.symm.trans hseries')
  obtain ⟨type, childId, rfl, -⟩ := (mem_deletes_of_series hseries).mp hrequest
  cases type with
  | index => exact hopen
  | consumer => exact hopen
  | element type =>
      refine ⟨hopen, ?_⟩
      rintro ⟨indexId, index, hindex, hkept, -⟩
      apply hkept
      rw [mem_deletes_of_series hseries]
      refine ⟨_, _, rfl, index, hindex, fun next hnext => ?_⟩
      rw [targetChildren_eq_nil htarget, contentAt_nil] at hnext
      exact absurd hnext (by simp)

theorem mem_deletes_of_target (hseries : server.lookup externalId = some series)
    (htarget : targetOf target externalId = some definition) {request : ChildRequest C} :
    request ∈ (diffFor sets server target externalId).deleteRequests ↔ ∃ type childId,
      request = .delete type childId ∧ Deleted type ((series.children type).lookup childId)
        (contentAt (definition.children type) childId) := by
  rw [mem_deletes_of_series hseries, targetChildren_eq htarget]

/-- An index stays when the target has it with the same targets. -/
theorem index_kept_iff (hseries : server.lookup externalId = some series)
    (htarget : targetOf target externalId = some definition) {indexId : ExternalId} {old : Index}
    (hold : (series.children .index).lookup indexId = some old) :
    ChildRequest.delete .index indexId ∉
        (diffFor sets server target externalId).deleteRequests ↔
      ∃ index : Index, contentAt (definition.children .index) indexId = some index ∧
        old.targets = index.targets := by
  rw [mem_deletes_of_target hseries htarget]
  constructor
  · intro hkept
    by_contra hnot
    apply hkept
    refine ⟨_, _, rfl, old, hold, fun next hnext => ?_⟩
    have hne : old.targets ≠ next.targets := fun heq => hnot ⟨next, hnext, heq⟩
    exact ⟨fun heq => hne (heq ▸ rfl), decide_eq_true hne⟩
  · rintro ⟨index, hindex, htargets⟩ ⟨type, childId, heq, hgone⟩
    obtain ⟨rfl, rfl⟩ := ChildRequest.delete.inj heq
    obtain ⟨old', hold', hnext⟩ := hgone
    obtain rfl : old = old' := Option.some.inj (hold.symm.trans hold')
    have hrecreate := (hnext index hindex).2
    simp [recreateInsteadOfUpdate, htargets] at hrecreate

/-- A dimension that is recreated must not be a target of an index that stays. -/
theorem clearable_iff (hwell : WellFormed target)
    (hseries : server.lookup externalId = some series)
    (htarget : targetOf target externalId = some definition) :
    Clearable sets server target externalId ↔
      (∀ type childId, Deleted type ((series.children type).lookup childId)
        (contentAt (definition.children type) childId) → series.isOpen = true) ∧
      TargetsKept series definition := by
  constructor
  · intro hclearable
    refine ⟨?_, ?_⟩
    · intro type childId hdeleted
      have haccepted := hclearable series hseries _
        ((mem_deletes_of_target hseries htarget).mpr ⟨type, childId, rfl, hdeleted⟩)
      cases type with
      | index => exact haccepted
      | consumer => exact haccepted
      | element type => exact haccepted.1
    · intro indexId old index hold hindex htargets place hplace htype before after hbefore hafter
      by_contra hreference
      have hdeleted : Deleted (.element .dimension)
          ((series.children (.element .dimension)).lookup place.targetExternalId)
          (contentAt (definition.children (.element .dimension)) place.targetExternalId) := by
        refine ⟨before, hbefore, fun next hnext => ?_⟩
        obtain rfl := Option.some.inj (hafter.symm.trans hnext)
        refine ⟨fun heq => hreference (heq ▸ rfl), ?_⟩
        exact decide_eq_true hreference
      refine (hclearable series hseries _
        ((mem_deletes_of_target hseries htarget).mpr ⟨_, _, rfl, hdeleted⟩)).2
        ⟨indexId, old, hold, ?_, ?_⟩
      · exact (index_kept_iff hseries htarget hold).mpr ⟨index, hindex, htargets⟩
      · rw [htargets, ← htype]
        exact hplace
  · rintro ⟨hopen, htargets⟩ series' hseries' request hrequest
    obtain rfl := Option.some.inj (hseries.symm.trans hseries')
    obtain ⟨type, childId, rfl, hdeleted⟩ :=
      (mem_deletes_of_target hseries htarget).mp hrequest
    have hisOpen := hopen type childId hdeleted
    cases type with
    | index => exact hisOpen
    | consumer => exact hisOpen
    | element type =>
        refine ⟨hisOpen, ?_⟩
        rintro ⟨indexId, old, hold, hkept, hplace⟩
        obtain ⟨index, hindex, hsame⟩ := (index_kept_iff hseries htarget hold).mp hkept
        rw [hsame] at hplace
        have hdefinition := (mem_of_targetOf htarget).1
        -- the element it targets is in the target, so it is deleted only to be recreated
        obtain ⟨⟨elementId, after⟩, helement, hid⟩ := hwell.targets definition hdefinition _
          ((contentAt_eq_some (hwell.childIds definition hdefinition .index)).mp hindex) _ hplace
        have hid : elementId = childId := hid
        subst hid
        have hafter := (contentAt_eq_some (hwell.childIds definition hdefinition _)).mpr helement
        obtain ⟨before, hbefore, hnext⟩ := hdeleted
        have hrecreate := (hnext after hafter).2
        cases type with
        | fact type => simp [recreateInsteadOfUpdate] at hrecreate
        | dimension =>
            exact of_decide_eq_true hrecreate
              (htargets indexId old index hold hindex hsame _ hplace rfl before after hbefore
                hafter)

/-- Writes are accepted and leave the definition exactly when each of them can
be. -/
theorem fillable_and_converged_iff
    (hseries : migratedAt config sets server target externalId = some series)
    (htarget : targetOf target externalId = some definition) :
    (Fillable config sets server target externalId ∧ ∀ type childId,
      ((filled config sets server target externalId series).children type).lookup childId =
        contentAt (definition.children type) childId) ↔
      ∀ type childId next, contentAt (definition.children type) childId = some next →
        contentAt (baseChildren server externalId type) childId ≠ some next →
          series.isOpen = true ∧ Writable config type childId
            (contentAt (baseChildren server externalId type) childId) next := by
  have hchildren := diffFor_children sets server target externalId
  rw [targetChildren_eq htarget] at hchildren
  have hclear := afterClear_migratedAt hseries
  rw [targetChildren_eq htarget] at hclear
  constructor
  · rintro ⟨hfillable, hconverged⟩ type childId next hnext hne
    have hclean := hconverged type childId
    rw [filled, hclear.lookup_foldl hchildren (hfillable series hseries), hnext, Option.bind_some,
      if_neg hne] at hclean
    rcases created_or_updated_iff.mpr ⟨hnext, hne⟩ with hcreated | hupdated
    · obtain ⟨hopen, hsafe, hmay, -⟩ := hfillable series hseries _
        ((mem_createUpdateRequests hchildren).mpr ⟨_, _, _, Or.inl ⟨rfl, hcreated⟩⟩)
      exact ⟨hopen, hsafe, hclean, fun _ => hmay⟩
    · obtain ⟨hopen, hsafe, -⟩ := hfillable series hseries _
        ((mem_createUpdateRequests hchildren).mpr ⟨_, _, _, Or.inr ⟨rfl, hupdated⟩⟩)
      refine ⟨hopen, hsafe, hclean, fun hrecreate => ?_⟩
      obtain ⟨-, old, hold, -, hfalse⟩ := hupdated
      rw [hrecreate old hold] at hfalse
      exact Bool.noConfusion hfalse
  · intro hwrites
    have hfillable : Fillable config sets server target externalId := by
      intro series' hseries' request hrequest
      obtain rfl := Option.some.inj (hseries.symm.trans hseries')
      obtain ⟨type, childId, next, hwrite⟩ := (mem_createUpdateRequests hchildren).mp hrequest
      rcases hwrite with ⟨rfl, hcreated⟩ | ⟨rfl, hupdated⟩
      · obtain ⟨hnext, hne⟩ := created_or_updated_iff.mp (Or.inl hcreated)
        obtain ⟨hopen, hsafe, hclean, hmay⟩ := hwrites type childId next hnext hne
        exact ⟨hopen, hsafe, hmay fun old hold => (hcreated.2 old hold).2, by rw [hclean]; rfl⟩
      · obtain ⟨hnext, hne⟩ := created_or_updated_iff.mp (Or.inr hupdated)
        obtain ⟨hopen, hsafe, hclean, -⟩ := hwrites type childId next hnext hne
        exact ⟨hopen, hsafe, by rw [hclean]; rfl⟩
    refine ⟨hfillable, fun type childId => ?_⟩
    rw [filled, hclear.lookup_foldl hchildren (hfillable series hseries)]
    cases hnext : contentAt (definition.children type) childId with
    | none => rfl
    | some next =>
        rw [Option.bind_some]
        split
        · rfl
        · rename_i hne
          exact (hwrites type childId next hnext hne).2.2.1

omit [DecidableEq C] [DecidableEq X] in
theorem convergedAt_some_iff (hwell : WellFormed target)
    (htarget : targetOf target externalId = some definition) :
    ConvergedAt target externalId (some series) ↔ ∀ type childId,
      (series.children type).lookup childId = contentAt (definition.children type) childId := by
  obtain ⟨hdefinition, hid⟩ := mem_of_targetOf htarget
  have hcontent : ∀ {type childId content},
      contentAt (definition.children type) childId = some content ↔
        ⟨childId, content⟩ ∈ definition.children type := fun {type _ _} =>
    contentAt_eq_some (hwell.childIds definition hdefinition type)
  constructor
  · rintro ⟨other, hother, hotherId, hsame⟩ type childId
    obtain rfl : other = definition :=
      List.inj_on_of_nodup_map hwell.seriesIds hother hdefinition (hotherId.trans hid.symm)
    apply Option.ext
    intro content
    rw [hsame, hcontent]
  · intro hsame
    refine ⟨definition, hdefinition, hid, fun type childId content => ?_⟩
    rw [hsame, hcontent]

omit [DecidableEq C] [DecidableEq X] in
theorem cleanHeader_backend {header : SeriesHeader X}
    {data : Identifiable (SeriesHeader X)}
    (hheader : Server.cleanHeader config data = some header) :
    header.backend = data.content.backend ∧ backendIsDeprecated header.backend = false := by
  rw [Server.cleanHeader, Option.ite_none_right_eq_some, Option.map_eq_some_iff] at hheader
  obtain ⟨haccepted, name, -, rfl⟩ := hheader
  simp only [Bool.and_eq_true, Bool.not_eq_true'] at haccepted
  exact ⟨rfl, haccepted.2⟩

/-- What the three phases ask of one data series. -/
def SeriesConverges (config : ServerConfig C X) (sets : SetOrder ExternalId)
    (server : Server C X) (target : List (DataSeriesDefinition C X)) (externalId : ExternalId) :
    Prop :=
  (Clearable sets server target externalId ∧ Migratable config sets server target externalId ∧
    Fillable config sets server target externalId) ∧
  ConvergedAt target externalId ((migratedAt config sets server target externalId).map
    (filled config sets server target externalId))

theorem converges_absent (hseries : server.lookup externalId = none)
    (htarget : targetOf target externalId = none) :
    SeriesConverges config sets server target externalId := by
  have hmigrated : migratedAt config sets server target externalId = none := by
    simp only [migratedAt, hseries, htarget]
  have hnone : ∀ series, server.lookup externalId ≠ some series := by
    intro series heq
    rw [hseries] at heq
    exact absurd heq (by simp)
  refine ⟨⟨fun series heq => absurd heq (hnone series),
    ⟨fun series heq => absurd heq (hnone series), fun hsome => ?_⟩, fun series heq => ?_⟩, ?_⟩
  · rw [htarget] at hsome
    exact Bool.noConfusion hsome
  · rw [hmigrated] at heq
    exact absurd heq (by simp)
  · rw [hmigrated]
    exact lookup_toDict_eq_none.mp htarget

theorem converges_dropped_iff (hseries : server.lookup externalId = some series)
    (htarget : targetOf target externalId = none) :
    SeriesConverges config sets server target externalId ↔ series.isOpen = true := by
  have hmigrated : migratedAt config sets server target externalId = none := by
    simp only [migratedAt, htarget]
  constructor
  · rintro ⟨⟨-, hmigratable, -⟩, -⟩
    exact hmigratable.1 series hseries htarget
  · intro hopen
    refine ⟨⟨clearable_of_isOpen hseries htarget hopen, ⟨fun series' hseries' _ => ?_,
      fun hsome => ?_⟩, fun series' heq => ?_⟩, ?_⟩
    · obtain rfl := Option.some.inj (hseries.symm.trans hseries')
      exact hopen
    · rw [htarget] at hsome
      exact Bool.noConfusion hsome
    · rw [hmigrated] at heq
      exact absurd heq (by simp)
    · rw [hmigrated]
      exact lookup_toDict_eq_none.mp htarget

/-- With a data series on the server after the second phase, the third one
decides. -/
theorem converges_iff_of_migrated (hwell : WellFormed target)
    (htarget : targetOf target externalId = some definition)
    (hmigrated : migratedAt config sets server target externalId = some series) :
    SeriesConverges config sets server target externalId ↔
      Clearable sets server target externalId ∧
      ∀ type childId next, contentAt (definition.children type) childId = some next →
        contentAt (baseChildren server externalId type) childId ≠ some next →
          series.isOpen = true ∧ Writable config type childId
            (contentAt (baseChildren server externalId type) childId) next := by
  have hmigratable : Migratable config sets server target externalId := by
    refine ⟨fun _ _ hnone => ?_, fun _ => by rw [hmigrated]; rfl⟩
    rw [htarget] at hnone
    exact absurd hnone (by simp)
  rw [SeriesConverges, hmigrated, Option.map_some, convergedAt_some_iff hwell htarget,
    ← fillable_and_converged_iff hmigrated htarget]
  constructor
  · rintro ⟨⟨hclearable, -, hfillable⟩, hconverged⟩
    exact ⟨hclearable, hfillable, hconverged⟩
  · rintro ⟨hclearable, hfillable, hconverged⟩
    exact ⟨⟨hclearable, hmigratable, hfillable⟩, hconverged⟩

theorem converges_new_iff (hwell : WellFormed target)
    (hseries : server.lookup externalId = none)
    (htarget : targetOf target externalId = some definition) :
    SeriesConverges config sets server target externalId ↔
      (Server.cleanHeader config definition.dataSeries).isSome ∧
      ∀ type childId next, contentAt (definition.children type) childId = some next →
        Writable config type childId none next := by
  have hmigrated : migratedAt config sets server target externalId =
      (Server.cleanHeader config definition.dataSeries).map fun header =>
        { header := header, locked := false, children := fun _ => ∅ } := by
    simp only [migratedAt, hseries, htarget]
  cases hheader : Server.cleanHeader config definition.dataSeries with
  | none =>
      simp only [Option.isSome_none, Bool.false_eq_true, false_and, iff_false]
      rintro ⟨⟨-, hmigratable, -⟩, -⟩
      have hsome := hmigratable.2 (by rw [htarget]; rfl)
      rw [hmigrated, hheader] at hsome
      exact Bool.noConfusion hsome
  | some header =>
      rw [hheader, Option.map_some] at hmigrated
      rw [converges_iff_of_migrated hwell htarget hmigrated, baseChildren_eq_nil hseries]
      have hopen : SeriesState.isOpen (C := C)
          { header := header, locked := false, children := fun _ => ∅ } = true := by
        simp [SeriesState.isOpen, (cleanHeader_backend hheader).2]
      have hclearable : Clearable sets server target externalId := by
        intro series heq
        rw [hseries] at heq
        exact absurd heq (by simp)
      simp [contentAt_nil, hopen, hclearable]

theorem migratedAt_kept_isSome (hseries : server.lookup externalId = some series)
    (htarget : targetOf target externalId = some definition) :
    (migratedAt config sets server target externalId).isSome ↔
      (series.header ≠ definition.dataSeries.content → series.isOpen = true ∧
        (Server.cleanHeader config definition.dataSeries).isSome ∧
        (series.header.backend = definition.dataSeries.content.backend ∨
          canMigrate series.header.backend definition.dataSeries.content.backend = true)) := by
  have hid : definition.dataSeries.externalId = externalId := (mem_of_targetOf htarget).2
  simp only [migratedAt, hseries, htarget]
  split
  · rename_i hne
    rw [imp_iff_right hne, updateSeries_isSome, cleared_isOpen, cleared_header]
    tauto
  · rename_i heq
    simp [heq]

/-- A data series that stays is open after the second phase unless it waits for a
migration. -/
theorem isOpen_of_migratedAt {migrated : SeriesState C X}
    (hseries : server.lookup externalId = some series)
    (htarget : targetOf target externalId = some definition)
    (hmigrated : migratedAt config sets server target externalId = some migrated) :
    migrated.isOpen = true ↔ series.isOpen = true ∧
      (series.header.backend ≠ definition.dataSeries.content.backend →
        config.migratesAtOnce = true) := by
  simp only [migratedAt, hseries, htarget] at hmigrated
  split at hmigrated
  · obtain ⟨⟨hopen, -⟩, header, hheader, rfl⟩ := updateSeries_eq_some.mp hmigrated
    obtain ⟨hbackend, hcurrent⟩ := cleanHeader_backend hheader
    rw [cleared_isOpen] at hopen
    have hlocked : series.locked = false := by
      rw [SeriesState.isOpen, Bool.and_eq_true, Bool.not_eq_true', Bool.not_eq_true'] at hopen
      exact hopen.2
    rw [cleared_locked, cleared_header, hlocked, hbackend, and_iff_right hopen]
    simp only [SeriesState.isOpen, hcurrent, Bool.not_false, Bool.true_and]
    by_cases hsame : series.header.backend = definition.dataSeries.content.backend <;>
      simp [hsame]
  · rename_i heq
    rw [not_not] at heq
    obtain rfl := Option.some.inj hmigrated
    rw [cleared_isOpen, heq]
    simp

theorem converges_kept_iff (hwell : WellFormed target)
    (hseries : server.lookup externalId = some series)
    (htarget : targetOf target externalId = some definition) :
    SeriesConverges config sets server target externalId ↔
      SeriesPushable config series definition := by
  have hkept := @migratedAt_kept_isSome C X _ _ config sets server target _ _ _ hseries htarget
  constructor
  · intro hconverges
    obtain ⟨migrated, hmigrated⟩ :=
      Option.isSome_iff_exists.mp (hconverges.1.2.1.2 (by rw [htarget]; rfl))
    have hheader := hkept.mp (Option.isSome_of_eq_some hmigrated)
    have hopen := isOpen_of_migratedAt hseries htarget hmigrated
    rw [converges_iff_of_migrated hwell htarget hmigrated, clearable_iff hwell hseries htarget]
      at hconverges
    simp only [contentAt_baseChildren hseries] at hconverges
    obtain ⟨⟨hdeletes, htargets⟩, hwrites⟩ := hconverges
    refine ⟨?_, fun hne => (hheader hne).2, ?_, ?_, htargets⟩
    · rintro (hne | ⟨type, childId, hne⟩)
      · exact (hheader hne).1
      · cases hnext : contentAt (definition.children type) childId with
        | some next => exact (hopen.mp (hwrites type childId next hnext (hnext ▸ hne)).1).1
        | none =>
            rw [hnext, Option.ne_none_iff_exists'] at hne
            obtain ⟨old, hold⟩ := hne
            refine hdeletes type childId ⟨old, hold, fun next heq => ?_⟩
            rw [hnext] at heq
            exact absurd heq (by simp)
    · intro hbackend
      by_contra hnot
      rw [not_or, not_forall] at hnot
      obtain ⟨hmigrates, type, hnot⟩ := hnot
      simp only [not_forall] at hnot
      obtain ⟨childId, next, hnext, hne⟩ := hnot
      exact hmigrates ((hopen.mp (hwrites type childId next hnext hne).1).2 hbackend)
    · intro type childId next hnext hne
      exact (hwrites type childId next hnext hne).2
  · intro hpushable
    obtain ⟨migrated, hmigrated⟩ := Option.isSome_iff_exists.mp (hkept.mpr fun hne =>
      ⟨hpushable.isOpen (Or.inl hne), hpushable.header hne⟩)
    have hopen := isOpen_of_migratedAt hseries htarget hmigrated
    rw [converges_iff_of_migrated hwell htarget hmigrated, clearable_iff hwell hseries htarget]
    simp only [contentAt_baseChildren hseries]
    refine ⟨⟨fun type childId hdeleted => ?_, hpushable.targets⟩,
      fun type childId next hnext hne => ⟨hopen.mpr ⟨?_, fun hbackend => ?_⟩,
        hpushable.writes type childId next hnext hne⟩⟩
    · obtain ⟨old, hold, hdeleted⟩ := hdeleted
      refine hpushable.isOpen (Or.inr ⟨type, childId, fun heq => ?_⟩)
      exact (hdeleted old (heq.symm.trans hold)).1 rfl
    · exact hpushable.isOpen (Or.inr ⟨type, childId, hnext.symm ▸ hne⟩)
    · rcases hpushable.unlocked hbackend with hmigrates | hsame
      · exact hmigrates
      · exact absurd (hsame type childId next hnext) hne

theorem converges_iff (hwell : WellFormed target) (externalId : ExternalId) :
    SeriesConverges config sets server target externalId ↔
      PushableAt config (server.lookup externalId) (targetOf target externalId) := by
  cases hseries : server.lookup externalId with
  | none =>
      cases htarget : targetOf target externalId with
      | none => exact iff_of_true (converges_absent hseries htarget) trivial
      | some definition => exact converges_new_iff hwell hseries htarget
  | some series =>
      cases htarget : targetOf target externalId with
      | none => exact converges_dropped_iff hseries htarget
      | some definition => exact converges_kept_iff hwell hseries htarget

/-- A push of the difference to a target completes and leaves the target on the
server exactly when the target can be pushed. -/
theorem push_converges_iff (config : ServerConfig C X) (sets : SetOrder ExternalId)
    (server : Server C X) (target : List (DataSeriesDefinition C X))
    (hwell : WellFormed target) :
    (∃ final, push config (diffAllDataSeries sets server.definitions target true) server =
      some final ∧ Converged final target) ↔ Pushable config server target := by
  have hpushable : Pushable config server target ↔ ∀ externalId,
      SeriesConverges config sets server target externalId :=
    forall_congr' fun externalId => (converges_iff hwell externalId).symm
  rw [hpushable]
  constructor
  · rintro ⟨final, hfinal, hconverged⟩ externalId
    refine ⟨(push_isSome hwell).mp (Option.isSome_of_eq_some hfinal) externalId, ?_⟩
    rw [← lookup_push hwell hfinal]
    exact hconverged externalId
  · intro hall
    obtain ⟨final, hfinal⟩ := Option.isSome_iff_exists.mp
      ((push_isSome hwell).mpr fun externalId => (hall externalId).1)
    refine ⟨final, hfinal, fun externalId => ?_⟩
    rw [lookup_push hwell hfinal]
    exact (hall externalId).2

end Series

namespace StructureWitness

def config : ServerConfig Unit Unit :=
  { charField := fun name => if name = "" then none else some name
    extraConfig := fun _ => true
    consumer := some
    migratesAtOnce := false }

def header (name : String) : SeriesHeader Unit :=
  { name := name, backend := .dynamicSqlMaterializedFlatHistory, extraConfig := (),
    allowExtraFields := false }

/-- The dimension of orders refers to a data series, and an index targets it. -/
def orders (reference : ExternalId) :
    (type : ChildType) → List (Identifiable (Content Unit type))
  | .element .dimension => [⟨"customer", ⟨"Customer", false, reference⟩⟩]
  | .index => [⟨"by_customer", ⟨"By customer", [⟨"customer", .dimension⟩]⟩⟩]
  | _ => []

def definitions (reference : ExternalId) : List (DataSeriesDefinition Unit Unit) :=
  [⟨⟨"orders", header "Orders"⟩, orders reference⟩,
    ⟨⟨"people", header "People"⟩, fun _ => []⟩, ⟨⟨"firms", header "Firms"⟩, fun _ => []⟩]

def stateOf (definition : DataSeriesDefinition Unit Unit) : SeriesState Unit Unit where
  header := definition.dataSeries.content
  locked := false
  children type := (definition.children type).foldr
    (fun child table => table.insert child.externalId child.content) ∅

/-- A server with these definitions. -/
def serverOf (definitions : List (DataSeriesDefinition Unit Unit)) : Server Unit Unit :=
  definitions.foldr (fun definition server =>
    server.insert definition.externalId (stateOf definition)) ∅

def server (reference : ExternalId) : Server Unit Unit := serverOf (definitions reference)

/-- The orders as they were before, with a price that the index targets too. -/
def oldOrders : (type : ChildType) → List (Identifiable (Content Unit type))
  | .element (.fact .float) => [⟨"price", ⟨"Price", true⟩⟩]
  | .element .dimension => [⟨"customer", ⟨"Buyer", true, "people"⟩⟩]
  | .index => [⟨"by_customer", ⟨"By customer",
      [⟨"customer", .dimension⟩, ⟨"price", .fact .float⟩]⟩⟩]
  | _ => []

/-- The drafts are to be dropped, and the firms are still to come. -/
def oldDefinitions : List (DataSeriesDefinition Unit Unit) :=
  [⟨⟨"orders", header "Old orders"⟩, oldOrders⟩,
    ⟨⟨"people", header "People"⟩, fun _ => []⟩, ⟨⟨"drafts", header "Drafts"⟩, oldOrders⟩]

theorem server_definitions (reference : ExternalId) :
    (server reference).definitions = definitions reference := by
  have horders : (fun type => dump ((orders reference type).foldr
      (fun child table => table.insert child.externalId child.content) ∅)) = orders reference := by
    funext type
    rcases type with (_ | _) | _ | _ <;> rfl
  simp only [definitions]
  rw [← horders]
  rfl

theorem definitions_wellFormed (reference : ExternalId)
    (hreference : reference = "people" ∨ reference = "firms") :
    WellFormed (definitions reference) := by
  have hmem : ∀ definition ∈ definitions reference, ∀ type,
      definition.children type = orders reference type ∨ definition.children type = [] := by
    simp [definitions]
  refine ⟨by simp [definitions, DataSeriesDefinition.externalId], ?_, ?_, ?_, ?_⟩
  · intro definition hdefinition type
    rcases hmem definition hdefinition type with heq | heq <;> rw [heq]
    · rcases type with (_ | _) | _ | _ <;> simp [orders]
    · exact List.nodup_nil
  · intro definition hdefinition type type' child hchild child' hchild' _
    rcases hmem definition hdefinition (.element type) with heq | heq <;> rw [heq] at hchild
    · rcases hmem definition hdefinition (.element type') with heq' | heq' <;> rw [heq'] at hchild'
      · rcases type with _ | _ <;> rcases type' with _ | _ <;> simp_all [orders]
      · simp at hchild'
    · simp at hchild
  · rcases hreference with rfl | rfl <;>
      simp [definitions, orders, DataSeriesDefinition.externalId]
  · simp [definitions, orders]

theorem definition_writable {definition : DataSeriesDefinition Unit Unit}
    (hdefinition : definition ∈ definitions "people") {type : ChildType} {childId : ExternalId}
    {next : Content Unit type} (hnext : contentAt (definition.children type) childId = some next)
    (old : Option (Content Unit type)) : Writable config type childId old next := by
  have hwell := definitions_wellFormed "people" (Or.inl rfl)
  rw [contentAt_eq_some (hwell.childIds definition hdefinition type)] at hnext
  simp only [definitions, List.mem_cons, List.not_mem_nil, or_false] at hdefinition
  rcases hdefinition with rfl | rfl | rfl
  · rcases type with (_ | _) | _ | _ <;>
      simp only [orders, List.mem_singleton, List.not_mem_nil, Identifiable.mk.injEq] at hnext
    · obtain ⟨rfl, rfl⟩ := hnext
      exact ⟨by decide, by decide, fun _ => rfl⟩
    · obtain ⟨rfl, rfl⟩ := hnext
      exact ⟨by decide, by decide, fun _ => by decide⟩
  · simp at hnext
  · simp at hnext

theorem orders_lookup : (serverOf oldDefinitions).lookup "orders" =
    some (stateOf ⟨⟨"orders", header "Old orders"⟩, oldOrders⟩) := rfl

theorem people_lookup : (serverOf oldDefinitions).lookup "people" =
    some (stateOf ⟨⟨"people", header "People"⟩, fun _ => []⟩) := rfl

theorem firms_lookup : (serverOf oldDefinitions).lookup "firms" = none := rfl

/-- The index is recreated, since it loses a target. -/
theorem orders_targetsKept :
    TargetsKept (stateOf ⟨⟨"orders", header "Old orders"⟩, oldOrders⟩)
      ⟨⟨"orders", header "Orders"⟩, orders "people"⟩ := by
  intro indexId old index hold hindex htargets
  have hwell := definitions_wellFormed "people" (Or.inl rfl)
  rw [contentAt_eq_some (hwell.childIds _ List.mem_cons_self .index)] at hindex
  simp only [orders, List.mem_singleton, Identifiable.mk.injEq] at hindex
  obtain ⟨rfl, rfl⟩ := hindex
  have hlookup : ((stateOf ⟨⟨"orders", header "Old orders"⟩, oldOrders⟩).children .index).lookup
      "by_customer" = some ⟨"By customer", [⟨"customer", .dimension⟩, ⟨"price", .fact .float⟩]⟩ :=
    rfl
  obtain rfl := Option.some.inj (hlookup.symm.trans hold)
  simp at htargets

end StructureWitness

open StructureWitness in
/-- One data series is changed, one is dropped and one is created. -/
theorem push_converges_from_old_definitions :
    ∃ final, push config (diffAllDataSeries (SetOrder.identity _)
      (serverOf oldDefinitions).definitions (definitions "people") true)
        (serverOf oldDefinitions) = some final ∧ Converged final (definitions "people") := by
  have hwell := definitions_wellFormed "people" (Or.inl rfl)
  apply (push_converges_iff config (SetOrder.identity _) (serverOf oldDefinitions)
    (definitions "people") hwell).mpr
  intro externalId
  have hheaders : ∀ definition ∈ definitions "people",
      (Server.cleanHeader config definition.dataSeries).isSome := by decide
  cases htarget : targetOf (definitions "people") externalId with
  | none =>
      cases hseries : (serverOf oldDefinitions).lookup externalId with
      | none => trivial
      | some series =>
          have hopen : ∀ entry ∈ (serverOf oldDefinitions).entries, entry.2.isOpen = true := by
            decide
          exact hopen ⟨externalId, series⟩ (KeyedTable.mem_entries_iff.mpr hseries)
  | some definition =>
      obtain ⟨hdefinition, rfl⟩ := mem_of_targetOf htarget
      have hwritable := fun type childId next hnext =>
        @definition_writable definition hdefinition type childId next hnext
      cases hseries : (serverOf oldDefinitions).lookup definition.externalId with
      | none =>
          exact ⟨hheaders definition hdefinition, fun type childId next hnext =>
            hwritable type childId next hnext none⟩
      | some series =>
          have hheader := hheaders definition hdefinition
          simp only [definitions, List.mem_cons, List.not_mem_nil, or_false] at hdefinition
          rcases hdefinition with rfl | rfl | rfl
          · obtain rfl := Option.some.inj (hseries.symm.trans orders_lookup)
            exact ⟨fun _ => rfl, fun _ => ⟨hheader, .inl rfl⟩, fun hbackend => absurd rfl hbackend,
              fun type childId next hnext _ => hwritable type childId next hnext _,
              orders_targetsKept⟩
          · obtain rfl := Option.some.inj (hseries.symm.trans people_lookup)
            exact ⟨fun _ => rfl, fun _ => ⟨hheader, .inl rfl⟩, fun hbackend => absurd rfl hbackend,
              fun type childId next hnext _ => hwritable type childId next hnext _,
              fun _ _ _ _ hindex => nomatch hindex⟩
          · cases hseries.symm.trans firms_lookup

open StructureWitness in
/-- A dimension that comes to refer to another data series cannot be recreated
while an index targets it. -/
theorem push_refused_for_targeted_dimension :
    WellFormed (server "people").definitions ∧ WellFormed (definitions "firms") ∧
      push config (diffAllDataSeries (SetOrder.identity _) (server "people").definitions
        (definitions "firms") true) (server "people") = none := by
  refine ⟨?_, definitions_wellFormed "firms" (Or.inr rfl), ?_⟩
  · rw [server_definitions]
    exact definitions_wellFormed "people" (Or.inl rfl)
  · rw [← Option.isNone_iff_eq_none]
    decide +kernel

end NFCompose
