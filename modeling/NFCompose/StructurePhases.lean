/-
The three phases of a push, taken apart into data series: which data series each
of them accepts, and how it leaves them.
-/
import Mathlib.Data.List.Dedup
import NFCompose.StructurePush

namespace NFCompose

open KeyedDiff KeyedTable PartialRuns DataSeriesDefinitionDiffPusher

variable {C X : Type}

/-- A target with unique external ids and resolvable references. -/
structure WellFormed (target : List (DataSeriesDefinition C X)) : Prop where
  seriesIds : (target.map DataSeriesDefinition.externalId).Nodup
  childIds : ∀ definition ∈ target, ∀ type,
    ((definition.children type).map Identifiable.externalId).Nodup
  elementIds : ∀ definition ∈ target, ∀ type type',
    ∀ child ∈ definition.children (.element type),
    ∀ child' ∈ definition.children (.element type'),
      child.externalId = child'.externalId → type = type'
  references : ∀ definition ∈ target, ∀ child ∈ definition.children (.element .dimension),
    ∃ other ∈ target, other.externalId = child.content.reference
  targets : ∀ definition ∈ target, ∀ child ∈ definition.children .index,
    ∀ place ∈ child.content.targets, ∃ element ∈ definition.children (.element place.targetType),
      element.externalId = place.targetExternalId

def targetOf (target : List (DataSeriesDefinition C X)) (externalId : ExternalId) :
    Option (DataSeriesDefinition C X) :=
  (toDict DataSeriesDefinition.externalId target).lookup externalId

def baseChildren (server : Server C X) (externalId : ExternalId) (type : ChildType) :
    List (Identifiable (Content C type)) :=
  (server.lookup externalId).elim [] fun series => dump (series.children type)

def targetChildren (target : List (DataSeriesDefinition C X)) (externalId : ExternalId)
    (type : ChildType) : List (Identifiable (Content C type)) :=
  (targetOf target externalId).elim [] fun definition => definition.children type

theorem mem_of_targetOf {target : List (DataSeriesDefinition C X)} {externalId : ExternalId}
    {definition : DataSeriesDefinition C X}
    (hlookup : targetOf target externalId = some definition) :
    definition ∈ target ∧ definition.externalId = externalId :=
  mem_of_lookup_toDict hlookup

theorem dataSeries_eq {target : List (DataSeriesDefinition C X)} {externalId : ExternalId}
    {definition : DataSeriesDefinition C X}
    (hlookup : targetOf target externalId = some definition) :
    (⟨externalId, definition.dataSeries.content⟩ : Identifiable (SeriesHeader X)) =
      definition.dataSeries := by
  rw [← (mem_of_targetOf hlookup).2]
  rfl

theorem targetOf_isSome {target : List (DataSeriesDefinition C X)} {externalId : ExternalId} :
    (targetOf target externalId).isSome ↔
      ∃ definition ∈ target, definition.externalId = externalId := by
  rw [targetOf, AList.lookup_isSome, mem_toDict, List.mem_map]

theorem lookup_definitions (server : Server C X) (externalId : ExternalId) :
    (toDict DataSeriesDefinition.externalId server.definitions).lookup externalId =
      (server.lookup externalId).map fun series =>
        { dataSeries := ⟨externalId, series.header⟩
          children := fun type => dump (series.children type) } := by
  have hnodup : (server.definitions.map DataSeriesDefinition.externalId).Nodup := by
    rw [Server.definitions, List.map_map]
    exact server.nodupKeys
  apply Option.ext
  intro definition
  rw [lookup_toDict hnodup, Server.definitions, List.mem_map, Option.map_eq_some_iff]
  constructor
  · rintro ⟨⟨⟨key, series⟩, hentry, rfl⟩, rfl⟩
    exact ⟨series, mem_entries_iff.mp hentry, rfl⟩
  · rintro ⟨series, hlookup, rfl⟩
    exact ⟨⟨⟨externalId, series⟩, mem_entries_iff.mpr hlookup, rfl⟩, rfl⟩

theorem contentAt_baseChildren {server : Server C X} {externalId : ExternalId}
    {series : SeriesState C X} (hseries : server.lookup externalId = some series)
    (type : ChildType) (childId : ExternalId) :
    contentAt (baseChildren server externalId type) childId =
      (series.children type).lookup childId := by
  rw [baseChildren, hseries, Option.elim_some, contentAt_dump]

theorem baseChildren_eq_nil {server : Server C X} {externalId : ExternalId}
    (hseries : server.lookup externalId = none) :
    baseChildren server externalId = fun _ => [] := by
  funext type
  rw [baseChildren, hseries, Option.elim_none]

theorem baseChildren_eq_dump {server : Server C X} {externalId : ExternalId}
    {series : SeriesState C X} (hseries : server.lookup externalId = some series) :
    baseChildren server externalId = fun type => dump (series.children type) := by
  funext type
  rw [baseChildren, hseries, Option.elim_some]

theorem targetChildren_eq_nil {target : List (DataSeriesDefinition C X)}
    {externalId : ExternalId} (hdefinition : targetOf target externalId = none) :
    targetChildren target externalId = fun _ => [] := by
  funext type
  rw [targetChildren, hdefinition, Option.elim_none]

theorem targetChildren_eq {target : List (DataSeriesDefinition C X)} {externalId : ExternalId}
    {definition : DataSeriesDefinition C X}
    (hdefinition : targetOf target externalId = some definition) :
    targetChildren target externalId = definition.children := by
  funext type
  rw [targetChildren, hdefinition, Option.elim_some]

section BareDataSeries

variable {config : ServerConfig C X}

/-- Data series can be deleted one after the other when none that is there refers
to one of them. -/
theorem attempt_deleteSeries {current : Server C X} {deleted : List ExternalId}
    (hdeleted : deleted.Nodup) (hpresent : ∀ externalId ∈ deleted, externalId ∈ current)
    (hreferenced : ∀ other series, current.lookup other = some series →
      ∀ childId (dimension : Dimension),
        (series.children (.element .dimension)).lookup childId = some dimension →
        dimension.reference ∉ deleted) (final : Server C X) :
    attempt Server.deleteSeries current deleted = some final ↔
      (∀ externalId ∈ deleted, ∃ series, current.lookup externalId = some series ∧
        series.isOpen = true) ∧
        final = deleted.foldl (fun server externalId => server.erase externalId) current := by
  apply attempt_eq_some_iff _ _ _ fun state rest => rest.Nodup ∧
    (∀ externalId ∈ rest, externalId ∈ deleted ∧
      state.lookup externalId = current.lookup externalId) ∧
    ∀ other series, state.lookup other = some series → current.lookup other = some series
  · rintro state externalId rest ⟨-, hrest, hstate⟩ next
    obtain ⟨hmem, hlookup⟩ := hrest externalId List.mem_cons_self
    have hfree : state.isReferenced externalId = false := by
      rw [Server.isReferenced, List.any_eq_false]
      rintro ⟨other, series⟩ hentry htrue
      simp only [Bool.and_eq_true, List.any_eq_true, decide_eq_true_eq] at htrue
      obtain ⟨-, ⟨childId, dimension⟩, hdimension, hreference⟩ := htrue
      have hseries := hstate other series (mem_entries_iff.mp hentry)
      apply hreferenced other series hseries childId dimension (mem_entries_iff.mp hdimension)
      rw [hreference]
      exact hmem
    obtain ⟨series, hseries⟩ :=
      Option.isSome_iff_exists.mp (AList.lookup_isSome.mpr (hpresent externalId hmem))
    rw [Server.deleteSeries, hlookup, hseries, Option.bind_some, hfree, ite_some_eq_some]
    simp
  · rintro state externalId rest ⟨hnodup, hrest, hstate⟩ -
    rw [List.nodup_cons] at hnodup
    refine ⟨hnodup.2, fun other hother => ?_, fun other series hlookup => ?_⟩
    · have hne : other ≠ externalId := fun heq => hnodup.1 (heq ▸ hother)
      rw [AList.lookup_erase_ne hne]
      exact hrest other (List.mem_cons_of_mem _ hother)
    · by_cases hother : other = externalId
      · subst hother
        rw [AList.lookup_erase] at hlookup
        exact absurd hlookup (by simp)
      · rw [AList.lookup_erase_ne hother] at hlookup
        exact hstate other series hlookup
  · exact ⟨hdeleted, fun externalId hmem => ⟨hmem, rfl⟩, fun _ _ h => h⟩

/-- A creation that is accepted. -/
def created (config : ServerConfig C X) (server : Server C X)
    (series : Identifiable (SeriesHeader X)) : Server C X :=
  match Server.cleanHeader config series with
  | some header => server.insert series.externalId
      { header := header, locked := false, children := fun _ => ∅ }
  | none => server

theorem lookup_created_of_ne {current : Server C X} {series : Identifiable (SeriesHeader X)}
    {externalId : ExternalId} (hne : externalId ≠ series.externalId) :
    (created config current series).lookup externalId = current.lookup externalId := by
  unfold created
  split
  · exact AList.lookup_insert_ne hne
  · rfl

theorem attempt_createSeries {current : Server C X}
    {news : List (Identifiable (SeriesHeader X))}
    (hnews : (news.map Identifiable.externalId).Nodup)
    (habsent : ∀ series ∈ news, series.externalId ∉ current) (final : Server C X) :
    attempt (Server.createSeries config) current news = some final ↔
      (∀ series ∈ news, (Server.cleanHeader config series).isSome) ∧
        final = news.foldl (created config) current := by
  apply attempt_eq_some_iff _ _ _ fun state rest =>
    (rest.map Identifiable.externalId).Nodup ∧ ∀ series ∈ rest, series.externalId ∉ state
  · rintro state series rest ⟨-, hrest⟩ next
    rw [Server.createSeries, if_pos (hrest series List.mem_cons_self), created]
    cases Server.cleanHeader config series with
    | none => simp
    | some header => simp [eq_comm]
  · rintro state series rest ⟨hnodup, hrest⟩ -
    rw [List.map_cons, List.nodup_cons] at hnodup
    refine ⟨hnodup.2, fun other hother => ?_⟩
    have hne : other.externalId ≠ series.externalId :=
      fun heq => hnodup.1 (heq ▸ List.mem_map_of_mem hother)
    rw [← AList.lookup_eq_none, lookup_created_of_ne hne, AList.lookup_eq_none]
    exact hrest other (List.mem_cons_of_mem _ hother)
  · exact ⟨hnews, habsent⟩

theorem lookup_foldl_created_of_not_mem (news : List (Identifiable (SeriesHeader X)))
    (current : Server C X) {externalId : ExternalId}
    (hnew : externalId ∉ news.map Identifiable.externalId) :
    (news.foldl (created config) current).lookup externalId = current.lookup externalId := by
  induction news generalizing current with
  | nil => rfl
  | cons series rest ih =>
      rw [List.map_cons, List.mem_cons, not_or] at hnew
      rw [List.foldl_cons, ih _ hnew.2, lookup_created_of_ne hnew.1]

theorem lookup_foldl_created {news : List (Identifiable (SeriesHeader X))}
    (hnews : (news.map Identifiable.externalId).Nodup) (current : Server C X)
    {series : Identifiable (SeriesHeader X)} (hmem : series ∈ news) {header : SeriesHeader X}
    (hheader : Server.cleanHeader config series = some header) :
    (news.foldl (created config) current).lookup series.externalId =
      some { header := header, locked := false, children := fun _ => ∅ } := by
  induction news generalizing current with
  | nil => simp at hmem
  | cons head rest ih =>
      rw [List.map_cons, List.nodup_cons] at hnews
      rw [List.foldl_cons]
      rcases List.mem_cons.mp hmem with rfl | hmem
      · rw [lookup_foldl_created_of_not_mem rest _ hnews.1, created, hheader]
        exact AList.lookup_insert _
      · exact ih hnews.2 _ hmem

end BareDataSeries

section Diffs

variable [DecidableEq X]

def seriesOperation (base : Option (SeriesState C X)) (target : Option (DataSeriesDefinition C X)) :
    Option (OperationType × SeriesHeader X) :=
  match base, target with
  | none, none => none
  | none, some definition => some (.create, definition.dataSeries.content)
  | some series, none => some (.delete, series.header)
  | some series, some definition =>
      if series.header ≠ definition.dataSeries.content then
        some (.update, definition.dataSeries.content)
      else none

variable [DecidableEq C] (sets : SetOrder ExternalId) (server : Server C X)
  (target : List (DataSeriesDefinition C X))

/-- The diff of one data series. -/
def diffFor (externalId : ExternalId) : DataSeriesDefinitionDiff C X :=
  { externalId := externalId
    dataSeries := seriesOperation (server.lookup externalId) (targetOf target externalId)
    children := childrenDiff sets (baseChildren server externalId)
      (targetChildren target externalId) }

/-- One diff for each external id of the server or of the target. -/
theorem diffAllDataSeries_eq : ∃ ids : List ExternalId, ids.Nodup ∧
    (∀ externalId, externalId ∈ ids ↔
      (server.lookup externalId).isSome ∨ (targetOf target externalId).isSome) ∧
    diffAllDataSeries sets server.definitions target true =
      ids.map (diffFor sets server target) := by
  have hmem : ∀ externalId, externalId ∈ sets.order
      ((toDict DataSeriesDefinition.externalId server.definitions).keys ++
        (toDict DataSeriesDefinition.externalId target).keys).dedup ↔
      (server.lookup externalId).isSome ∨ (targetOf target externalId).isSome := by
    intro externalId
    rw [(sets.perm _).mem_iff, List.mem_dedup, List.mem_append, ← AList.mem_keys,
      ← AList.mem_keys, ← AList.lookup_isSome, ← AList.lookup_isSome, lookup_definitions,
      Option.isSome_map, targetOf]
  refine ⟨_, (sets.perm _).nodup_iff.mpr (List.nodup_dedup _), hmem, ?_⟩
  rw [← List.filterMap_eq_map, diffAllDataSeries]
  apply List.filterMap_congr
  intro externalId hexternalId
  rw [hmem] at hexternalId
  rw [lookup_definitions, ← targetOf, Function.comp_apply]
  cases hbase : server.lookup externalId with
  | none =>
      cases htarget : targetOf target externalId with
      | none => simp [hbase, htarget] at hexternalId
      | some definition =>
          obtain ⟨-, hid⟩ := mem_of_targetOf htarget
          simp only [Option.map_none, diffDataSeries, diffFor, seriesOperation, hbase, htarget,
            baseChildren_eq_nil hbase, targetChildren_eq htarget, hid]
  | some series =>
      cases htarget : targetOf target externalId with
      | none =>
          simp only [Option.map_some, diffDataSeries, diffFor, seriesOperation, hbase, htarget,
            baseChildren_eq_dump hbase, targetChildren_eq_nil htarget,
            DataSeriesDefinition.externalId, if_true]
      | some definition =>
          obtain ⟨-, hid⟩ := mem_of_targetOf htarget
          have hheader : (⟨externalId, series.header⟩ : Identifiable (SeriesHeader X)) =
              definition.dataSeries ↔ series.header = definition.dataSeries.content := by
            rw [← hid]
            constructor
            · intro heq
              rw [← heq]
            · intro heq
              rw [heq]
              rfl
          simp only [Option.map_some, diffDataSeries, diffFor, seriesOperation, hbase, htarget,
            baseChildren_eq_dump hbase, targetChildren_eq htarget,
            DataSeriesDefinition.externalId, ne_eq, hheader]

variable {sets server target}

theorem hasOperation_create {externalId : ExternalId} :
    (diffFor sets server target externalId).hasOperation .create = true ↔
      server.lookup externalId = none ∧ (targetOf target externalId).isSome := by
  cases hbase : server.lookup externalId <;> cases htarget : targetOf target externalId <;>
    simp only [DataSeriesDefinitionDiff.hasOperation, diffFor, seriesOperation, hbase, htarget]
  · simp
  · simp
  · simp
  · grind

theorem hasOperation_delete {externalId : ExternalId} :
    (diffFor sets server target externalId).hasOperation .delete = true ↔
      (server.lookup externalId).isSome ∧ targetOf target externalId = none := by
  cases hbase : server.lookup externalId <;> cases htarget : targetOf target externalId <;>
    simp only [DataSeriesDefinitionDiff.hasOperation, diffFor, seriesOperation, hbase, htarget]
  · simp
  · simp
  · simp
  · grind

theorem not_deleted_of_isSome {externalId : ExternalId}
    (htarget : (targetOf target externalId).isSome) :
    (!(diffFor sets server target externalId).hasOperation .delete) = true := by
  rw [Bool.not_eq_true', ← Bool.not_eq_true, hasOperation_delete]
  rintro ⟨-, hnone⟩
  rw [hnone] at htarget
  exact Bool.noConfusion htarget

theorem hasOperation_update {externalId : ExternalId} :
    (diffFor sets server target externalId).hasOperation .update = true ↔
      ∃ series definition, server.lookup externalId = some series ∧
        targetOf target externalId = some definition ∧
        series.header ≠ definition.dataSeries.content := by
  cases hbase : server.lookup externalId <;> cases htarget : targetOf target externalId <;>
    simp only [DataSeriesDefinitionDiff.hasOperation, diffFor, seriesOperation, hbase, htarget]
  · simp
  · simp
  · simp
  · grind

variable (sets server target) in
theorem diffFor_children (externalId : ExternalId) :
    (diffFor sets server target externalId).children =
      childrenDiff sets (baseChildren server externalId) (targetChildren target externalId) := rfl

end Diffs

section Phases

variable [DecidableEq X] [DecidableEq C] {config : ServerConfig C X}
  {sets : SetOrder ExternalId} {server : Server C X} {target : List (DataSeriesDefinition C X)}
  {ids : List ExternalId} (hnodup : ids.Nodup)
  (hids : ∀ externalId, externalId ∈ ids ↔
    (server.lookup externalId).isSome ∨ (targetOf target externalId).isSome)

section PushChildren

variable {urls : ExternalId → Bool}
  {requests : DataSeriesDefinitionDiff C X → List (ChildRequest C)}
  {chosen : DataSeriesDefinitionDiff C X → Bool} {current final : Server C X}

theorem pushChildren_changes :
    pushChildren config urls requests
        ((ids.map (diffFor sets server target)).filter chosen) current =
      modifyEach ((ids.filter fun externalId => chosen (diffFor sets server target externalId)).map
        fun externalId => (externalId, fun series =>
          attempt (SeriesState.request config urls) series
            (requests (diffFor sets server target externalId)))) current := by
  rw [pushChildren, List.filter_map, List.map_map]
  rfl

include hnodup

theorem pushChildren_isSome :
    (pushChildren config urls requests
        ((ids.map (diffFor sets server target)).filter chosen) current).isSome ↔
      ∀ externalId ∈ ids, chosen (diffFor sets server target externalId) = true →
        ((current.lookup externalId).bind fun series =>
          attempt (SeriesState.request config urls) series
            (requests (diffFor sets server target externalId))).isSome := by
  rw [pushChildren_changes, modifyEach_keys_isSome (hnodup.filter _)]
  simp only [List.mem_filter, and_imp]

theorem lookup_pushChildren (hfinal : pushChildren config urls requests
      ((ids.map (diffFor sets server target)).filter chosen) current = some final)
    (externalId : ExternalId) :
    final.lookup externalId =
      if externalId ∈ ids ∧ chosen (diffFor sets server target externalId) = true then
        (current.lookup externalId).bind fun series =>
          attempt (SeriesState.request config urls) series
            (requests (diffFor sets server target externalId))
      else current.lookup externalId := by
  rw [pushChildren_changes] at hfinal
  rw [lookup_modifyEach_keys (hnodup.filter _) _ hfinal]
  simp only [List.mem_filter]

end PushChildren

section Clear

variable (config sets server target)

/-- The deletions in a data series are all accepted. -/
def Clearable (externalId : ExternalId) : Prop :=
  ∀ series, server.lookup externalId = some series →
    ∀ request ∈ (diffFor sets server target externalId).deleteRequests,
      DeleteAccepted series (diffFor sets server target externalId).deleteRequests request

def cleared (externalId : ExternalId) (series : SeriesState C X) : SeriesState C X :=
  (diffFor sets server target externalId).deleteRequests.foldl (ChildRequest.effect config) series

variable {config sets server target}

theorem attempt_deleteRequests {urls : ExternalId → Bool} {externalId : ExternalId}
    {series : SeriesState C X} (hseries : server.lookup externalId = some series)
    (final : SeriesState C X) :
    attempt (SeriesState.request config urls) series
        (diffFor sets server target externalId).deleteRequests = some final ↔
      (∀ request ∈ (diffFor sets server target externalId).deleteRequests,
        DeleteAccepted series (diffFor sets server target externalId).deleteRequests request) ∧
        final = cleared config sets server target externalId series := by
  have hchildren := diffFor_children sets server target externalId
  exact clear_eq_some_iff (deleteRequests_staged hchildren)
    (clear_deletes_present hchildren fun type childId =>
      (contentAt_baseChildren hseries type childId).symm) final

theorem afterClear_cleared {externalId : ExternalId} {series : SeriesState C X}
    (hseries : server.lookup externalId = some series) :
    AfterClear (baseChildren server externalId) (targetChildren target externalId)
      (cleared config sets server target externalId series) :=
  afterClear_foldl (diffFor_children sets server target externalId) fun type childId =>
    (contentAt_baseChildren hseries type childId).symm

variable {urls : ExternalId → Bool}

include hnodup hids

theorem clearPhase_isSome :
    (pushChildren config urls DataSeriesDefinitionDiff.deleteRequests
        ((ids.map (diffFor sets server target)).filter fun diff => !diff.hasOperation .create)
        server).isSome ↔
      ∀ externalId, Clearable sets server target externalId := by
  rw [pushChildren_isSome hnodup]
  constructor
  · intro haccepted externalId series hseries
    have hchosen : (!(diffFor sets server target externalId).hasOperation .create) = true := by
      rw [Bool.not_eq_true', ← Bool.not_eq_true, hasOperation_create]
      simp [hseries]
    have hthis := haccepted externalId ((hids externalId).mpr (by simp [hseries])) hchosen
    rw [hseries, Option.bind_some, Option.isSome_iff_exists] at hthis
    obtain ⟨final, hfinal⟩ := hthis
    exact ((attempt_deleteRequests hseries final).mp hfinal).1
  · intro hclearable externalId hid hchosen
    cases hseries : server.lookup externalId with
    | none =>
        have htarget := ((hids externalId).mp hid).resolve_left (by simp [hseries])
        rw [hasOperation_create.mpr ⟨hseries, htarget⟩] at hchosen
        exact Bool.noConfusion hchosen
    | some series =>
        rw [Option.bind_some, Option.isSome_iff_exists]
        exact ⟨_, (attempt_deleteRequests hseries _).mpr
          ⟨hclearable externalId series hseries, rfl⟩⟩

theorem lookup_clearPhase {next : Server C X}
    (hnext : pushChildren config urls DataSeriesDefinitionDiff.deleteRequests
        ((ids.map (diffFor sets server target)).filter fun diff => !diff.hasOperation .create)
        server = some next) (externalId : ExternalId) :
    next.lookup externalId =
      (server.lookup externalId).map (cleared config sets server target externalId) := by
  have hclearable := (clearPhase_isSome hnodup hids).mp (Option.isSome_of_eq_some hnext)
  rw [lookup_pushChildren hnodup hnext]
  cases hseries : server.lookup externalId with
  | none => simp
  | some series =>
      have hchosen : (!(diffFor sets server target externalId).hasOperation .create) = true := by
        rw [Bool.not_eq_true', ← Bool.not_eq_true, hasOperation_create]
        simp [hseries]
      rw [if_pos ⟨(hids externalId).mpr (by simp [hseries]), hchosen⟩, Option.bind_some,
        Option.map_some, attempt_deleteRequests hseries]
      exact ⟨hclearable externalId series hseries, rfl⟩

end Clear

section Migrate

variable (config sets server target)

/-- A data series after the second phase. -/
def migratedAt (externalId : ExternalId) : Option (SeriesState C X) :=
  match server.lookup externalId, targetOf target externalId with
  | none, some definition => (Server.cleanHeader config definition.dataSeries).map fun header =>
      { header := header, locked := false, children := fun _ => ∅ }
  | some series, some definition =>
      if series.header ≠ definition.dataSeries.content then
        Server.updateSeries config (cleared config sets server target externalId series) externalId
          definition.dataSeries
      else some (cleared config sets server target externalId series)
  | _, none => none

/-- What happens to the data series itself is accepted. -/
def Migratable (externalId : ExternalId) : Prop :=
  (∀ series, server.lookup externalId = some series → targetOf target externalId = none →
    series.isOpen = true) ∧
  ((targetOf target externalId).isSome →
    (migratedAt config sets server target externalId).isSome)

def newSeries (externalId : ExternalId) : Option (Identifiable (SeriesHeader X)) :=
  match server.lookup externalId, targetOf target externalId with
  | none, some definition => some definition.dataSeries
  | _, _ => none

variable {config sets server target}

omit [DecidableEq X] [DecidableEq C] in
theorem newSeries_eq_some {externalId : ExternalId} {series : Identifiable (SeriesHeader X)} :
    newSeries server target externalId = some series ↔
      server.lookup externalId = none ∧ ∃ definition, targetOf target externalId = some definition ∧
        definition.dataSeries = series := by
  cases hbase : server.lookup externalId <;> cases htarget : targetOf target externalId <;>
    simp [newSeries, hbase, htarget]

omit [DecidableEq X] [DecidableEq C] in
theorem newSeries_externalId {externalId : ExternalId} {series : Identifiable (SeriesHeader X)}
    (hnew : newSeries server target externalId = some series) : series.externalId = externalId := by
  obtain ⟨-, definition, hdefinition, rfl⟩ := newSeries_eq_some.mp hnew
  exact (mem_of_targetOf hdefinition).2

/-- The three kinds of requests, data series by data series. -/
theorem migrateBareDataSeries_eq (current : Server C X) :
    migrateBareDataSeries config (ids.map (diffFor sets server target)) current =
      (attempt Server.deleteSeries current (ids.filter fun externalId =>
        (diffFor sets server target externalId).hasOperation .delete)).bind fun deleted =>
      (attempt (Server.createSeries config) deleted
        (ids.filterMap (newSeries server target))).bind fun created =>
      modifyEach ((ids.filter fun externalId =>
        (diffFor sets server target externalId).hasOperation .update).map fun externalId =>
          (externalId, fun series => (targetOf target externalId).bind fun definition =>
            Server.updateSeries config series externalId definition.dataSeries)) created := by
  have hdeleted : ((ids.map (diffFor sets server target)).filter
        (·.hasOperation .delete)).map (fun diff => diff.externalId) =
      ids.filter fun externalId =>
        (diffFor sets server target externalId).hasOperation .delete := by
    rw [List.filter_map, List.map_map]
    exact List.map_id _
  have hcreated : ((ids.map (diffFor sets server target)).filter
        (·.hasOperation .create)).filterMap (fun diff => diff.dataSeries.map fun operation =>
          (⟨diff.externalId, operation.2⟩ : Identifiable (SeriesHeader X))) =
      ids.filterMap (newSeries server target) := by
    rw [List.filter_map, List.filterMap_map, List.filterMap_filter]
    apply List.filterMap_congr
    intro externalId _
    cases hbase : server.lookup externalId <;> cases htarget : targetOf target externalId
    · simp [newSeries, DataSeriesDefinitionDiff.hasOperation, diffFor, seriesOperation, hbase,
        htarget]
    · simp [newSeries, DataSeriesDefinitionDiff.hasOperation, diffFor, seriesOperation, hbase,
        htarget, dataSeries_eq htarget]
    · simp [newSeries, DataSeriesDefinitionDiff.hasOperation, diffFor, seriesOperation, hbase,
        htarget]
    · simp only [newSeries, hbase, htarget, Function.comp_apply, hasOperation_create]
      simp
  have hupdated : ((ids.map (diffFor sets server target)).filter
        (·.hasOperation .update)).filterMap (fun diff => diff.dataSeries.map fun operation =>
          (diff.externalId, fun series => Server.updateSeries config series diff.externalId
            ⟨diff.externalId, operation.2⟩)) =
      (ids.filter fun externalId =>
        (diffFor sets server target externalId).hasOperation .update).map fun externalId =>
          (externalId, fun series => (targetOf target externalId).bind fun definition =>
            Server.updateSeries config series externalId definition.dataSeries) := by
    rw [List.filter_map, List.filterMap_map, ← List.filterMap_eq_map]
    apply List.filterMap_congr
    intro externalId hmem
    obtain ⟨series, definition, hseries, hdefinition, hne⟩ :=
      hasOperation_update.mp (List.mem_filter.mp hmem).2
    simp only [Function.comp_apply, diffFor, seriesOperation, hseries, hdefinition, if_pos hne,
      Option.map_some, Option.bind_some, dataSeries_eq hdefinition]
  rw [← hdeleted, ← hcreated, ← hupdated]
  rfl

/-- No data series that goes is referred to after the first phase. -/
theorem not_referenced_cleared (hwell : WellFormed target) {externalId : ExternalId}
    {series : SeriesState C X} (hseries : server.lookup externalId = some series)
    {childId : ExternalId} {dimension : Dimension}
    (hdimension : ((cleared config sets server target externalId series).children
      (.element .dimension)).lookup childId = some dimension) :
    (targetOf target dimension.reference).isSome := by
  obtain ⟨-, next, hnext, hsame⟩ := (afterClear_cleared hseries).target_isSome hdimension
  have hreference : next.reference = dimension.reference := by
    rcases hsame with rfl | hfalse
    · rfl
    · simp only [recreateInsteadOfUpdate, ne_eq, decide_not, Bool.not_eq_false',
        decide_eq_true_eq] at hfalse
      exact hfalse.symm
  cases htarget : targetOf target externalId with
  | none =>
      rw [targetChildren_eq_nil htarget, contentAt_nil] at hnext
      exact absurd hnext (by simp)
  | some definition =>
      have hdefinition := (mem_of_targetOf htarget).1
      rw [targetChildren_eq htarget,
        contentAt_eq_some (hwell.childIds definition hdefinition _)] at hnext
      rw [targetOf_isSome, ← hreference]
      exact hwell.references definition hdefinition _ hnext

variable {current : Server C X}
  (hcurrent : ∀ externalId, current.lookup externalId =
    (server.lookup externalId).map (cleared config sets server target externalId))

include hnodup in
omit [DecidableEq X] [DecidableEq C] in
theorem newSeries_nodup :
    ((ids.filterMap (newSeries server target)).map Identifiable.externalId).Nodup := by
  rw [List.Nodup, List.pairwise_map, List.pairwise_filterMap]
  refine List.Pairwise.imp ?_ hnodup
  intro externalId externalId' hne series hseries series' hseries' heq
  rw [newSeries_externalId hseries, newSeries_externalId hseries'] at heq
  exact hne heq

include hids in
omit [DecidableEq X] [DecidableEq C] in
theorem mem_newSeries {series : Identifiable (SeriesHeader X)} :
    series ∈ ids.filterMap (newSeries server target) ↔
      newSeries server target series.externalId = some series := by
  rw [List.mem_filterMap]
  constructor
  · rintro ⟨externalId, -, hnew⟩
    rw [newSeries_externalId hnew]
    exact hnew
  · intro hnew
    refine ⟨series.externalId, ?_, hnew⟩
    obtain ⟨-, definition, hdefinition, -⟩ := newSeries_eq_some.mp hnew
    exact (hids _).mpr (Or.inr (by rw [hdefinition]; rfl))

include hids in
theorem mem_deletedSeries {externalId : ExternalId} :
    externalId ∈ ids.filter (fun externalId =>
        (diffFor sets server target externalId).hasOperation .delete) ↔
      (server.lookup externalId).isSome ∧ targetOf target externalId = none := by
  rw [List.mem_filter, hasOperation_delete, hids]
  tauto

include hnodup hids hcurrent in
theorem deletePhase (hwell : WellFormed target) (final : Server C X) :
    attempt Server.deleteSeries current (ids.filter fun externalId =>
        (diffFor sets server target externalId).hasOperation .delete) = some final ↔
      (∀ externalId series, server.lookup externalId = some series →
        targetOf target externalId = none → series.isOpen = true) ∧
      final = (ids.filter fun externalId =>
        (diffFor sets server target externalId).hasOperation .delete).foldl
          (fun server externalId => server.erase externalId) current := by
  rw [attempt_deleteSeries (hnodup.filter _)]
  · refine and_congr_left' ?_
    simp only [mem_deletedSeries hids, hcurrent]
    constructor
    · intro h externalId series hseries htarget
      obtain ⟨found, hfound, hopen⟩ := h externalId ⟨by simp [hseries], htarget⟩
      rw [hseries, Option.map_some, Option.some.injEq] at hfound
      subst hfound
      simpa [cleared, SeriesState.isOpen] using hopen
    · rintro h externalId ⟨hseries, htarget⟩
      obtain ⟨series, hseries⟩ := Option.isSome_iff_exists.mp hseries
      refine ⟨_, by rw [hseries, Option.map_some], ?_⟩
      simpa [cleared, SeriesState.isOpen] using h externalId series hseries htarget
  · intro externalId hmem
    rw [← AList.lookup_isSome, hcurrent, Option.isSome_map]
    exact ((mem_deletedSeries hids).mp hmem).1
  · intro other series hother childId dimension hdimension hmem
    rw [hcurrent, Option.map_eq_some_iff] at hother
    obtain ⟨original, horiginal, rfl⟩ := hother
    have htarget := not_referenced_cleared hwell horiginal hdimension
    rw [((mem_deletedSeries hids).mp hmem).2] at htarget
    exact Bool.noConfusion htarget

variable (config sets server target) in
/-- A data series after the deletions and creations of the second phase. -/
def createdAt (externalId : ExternalId) : Option (SeriesState C X) :=
  match server.lookup externalId, targetOf target externalId with
  | none, some definition => (Server.cleanHeader config definition.dataSeries).map fun header =>
      { header := header, locked := false, children := fun _ => ∅ }
  | some series, some _ => some (cleared config sets server target externalId series)
  | _, none => none

include hnodup hids hcurrent in
theorem lookup_createdAt
    (hclean : ∀ series ∈ ids.filterMap (newSeries server target),
      (Server.cleanHeader config series).isSome) (externalId : ExternalId) :
    ((ids.filterMap (newSeries server target)).foldl (created config)
      ((ids.filter fun externalId =>
        (diffFor sets server target externalId).hasOperation .delete).foldl
          (fun server externalId => server.erase externalId) current)).lookup externalId =
      createdAt config sets server target externalId := by
  cases hnew : newSeries server target externalId with
  | some series =>
      have hid := newSeries_externalId hnew
      have hmem : series ∈ ids.filterMap (newSeries server target) := by
        rw [mem_newSeries hids, hid]
        exact hnew
      obtain ⟨header, hheader⟩ := Option.isSome_iff_exists.mp (hclean series hmem)
      have hlookup := lookup_foldl_created (newSeries_nodup hnodup)
        ((ids.filter fun externalId =>
          (diffFor sets server target externalId).hasOperation .delete).foldl
            (fun server externalId => server.erase externalId) current) hmem hheader
      obtain ⟨hbase, definition, htarget, rfl⟩ := newSeries_eq_some.mp hnew
      rw [hid] at hlookup
      simp only [hlookup, createdAt, hbase, htarget, hheader, Option.map_some]
  | none =>
      have hnot : externalId ∉
          (ids.filterMap (newSeries server target)).map Identifiable.externalId := by
        rw [List.mem_map]
        rintro ⟨series, hmem, rfl⟩
        rw [mem_newSeries hids, hnew] at hmem
        exact absurd hmem (by simp)
      rw [lookup_foldl_created_of_not_mem _ _ hnot, lookup_foldl_erase, hcurrent]
      simp only [mem_deletedSeries hids]
      cases hbase : server.lookup externalId <;> cases htarget : targetOf target externalId <;>
        simp_all [newSeries, createdAt]

variable (config target) in
/-- The update of a data series to its definition in the target. -/
def updateChange (externalId : ExternalId) (series : SeriesState C X) :
    Option (SeriesState C X) :=
  (targetOf target externalId).bind fun definition =>
    Server.updateSeries config series externalId definition.dataSeries

include hids in
theorem mem_updatedSeries {externalId : ExternalId} :
    externalId ∈ ids.filter (fun externalId =>
        (diffFor sets server target externalId).hasOperation .update) ↔
      (diffFor sets server target externalId).hasOperation .update = true := by
  rw [List.mem_filter, and_iff_right_iff_imp, hasOperation_update]
  rintro ⟨series, definition, hseries, -⟩
  exact (hids externalId).mpr (Or.inl (by rw [hseries]; rfl))

theorem migratedAt_eq (externalId : ExternalId) :
    migratedAt config sets server target externalId =
      if (diffFor sets server target externalId).hasOperation .update then
        (createdAt config sets server target externalId).bind
          (updateChange config target externalId)
      else createdAt config sets server target externalId := by
  cases hbase : server.lookup externalId <;> cases htarget : targetOf target externalId <;>
    simp [migratedAt, createdAt, updateChange, hasOperation_update, hbase, htarget]

include hnodup hids hcurrent

theorem migrate_eq_some_iff (hwell : WellFormed target) (next : Server C X) :
    migrateBareDataSeries config (ids.map (diffFor sets server target)) current = some next ↔
      (∀ externalId series, server.lookup externalId = some series →
        targetOf target externalId = none → series.isOpen = true) ∧
      (∀ series ∈ ids.filterMap (newSeries server target),
        (Server.cleanHeader config series).isSome) ∧
      modifyEach ((ids.filter fun externalId =>
          (diffFor sets server target externalId).hasOperation .update).map fun externalId =>
            (externalId, updateChange config target externalId))
        ((ids.filterMap (newSeries server target)).foldl (created config)
          ((ids.filter fun externalId =>
            (diffFor sets server target externalId).hasOperation .delete).foldl
              (fun server externalId => server.erase externalId) current)) = some next := by
  have habsent : ∀ series ∈ ids.filterMap (newSeries server target),
      series.externalId ∉ (ids.filter fun externalId =>
        (diffFor sets server target externalId).hasOperation .delete).foldl
          (fun server externalId => server.erase externalId) current := by
    intro series hseries
    obtain ⟨hbase, -⟩ := newSeries_eq_some.mp ((mem_newSeries hids).mp hseries)
    rw [← AList.lookup_eq_none, lookup_foldl_erase, hcurrent, hbase, Option.map_none, ite_self]
  rw [migrateBareDataSeries_eq, Option.bind_eq_some_iff]
  simp only [deletePhase hnodup hids hcurrent hwell, Option.bind_eq_some_iff]
  constructor
  · rintro ⟨_, ⟨hopen, rfl⟩, _, hcreated, hnext⟩
    rw [attempt_createSeries (newSeries_nodup hnodup) habsent] at hcreated
    obtain ⟨hclean, rfl⟩ := hcreated
    exact ⟨hopen, hclean, hnext⟩
  · rintro ⟨hopen, hclean, hnext⟩
    exact ⟨_, ⟨hopen, rfl⟩, _,
      (attempt_createSeries (newSeries_nodup hnodup) habsent _).mpr ⟨hclean, rfl⟩, hnext⟩

/-- Deletions, creations and updates are accepted data series by data series. -/
theorem migratePhase_isSome (hwell : WellFormed target) :
    (migrateBareDataSeries config (ids.map (diffFor sets server target)) current).isSome ↔
      ∀ externalId, Migratable config sets server target externalId := by
  rw [Option.isSome_iff_exists]
  simp only [migrate_eq_some_iff hnodup hids hcurrent hwell, exists_and_left,
    ← Option.isSome_iff_exists, modifyEach_keys_isSome (hnodup.filter _)]
  constructor
  · rintro ⟨hopen, hclean, hupdates⟩ externalId
    refine ⟨hopen externalId, fun htarget => ?_⟩
    obtain ⟨definition, htarget⟩ := Option.isSome_iff_exists.mp htarget
    rw [migratedAt_eq]
    split
    · rename_i hupdate
      have hthis := hupdates externalId ((mem_updatedSeries hids).mpr hupdate)
      rwa [lookup_createdAt hnodup hids hcurrent hclean] at hthis
    · cases hbase : server.lookup externalId with
      | none =>
          have hnew : newSeries server target externalId = some definition.dataSeries :=
            newSeries_eq_some.mpr ⟨hbase, definition, htarget, rfl⟩
          have hmem := hclean definition.dataSeries
            ((mem_newSeries hids).mpr ((newSeries_externalId hnew).symm ▸ hnew))
          simpa [createdAt, hbase, htarget] using hmem
      | some series => simp [createdAt, hbase, htarget]
  · intro hall
    have hclean : ∀ series ∈ ids.filterMap (newSeries server target),
        (Server.cleanHeader config series).isSome := by
      intro series hseries
      obtain ⟨hbase, definition, htarget, rfl⟩ :=
        newSeries_eq_some.mp ((mem_newSeries hids).mp hseries)
      have hthis := (hall definition.dataSeries.externalId).2 (by rw [htarget]; rfl)
      simpa [migratedAt, hbase, htarget] using hthis
    refine ⟨fun externalId => (hall externalId).1, hclean, fun externalId hmem => ?_⟩
    rw [lookup_createdAt hnodup hids hcurrent hclean]
    have hupdate := (mem_updatedSeries hids).mp hmem
    obtain ⟨series, definition, -, htarget, -⟩ := hasOperation_update.mp hupdate
    have hthis := (hall externalId).2 (by rw [htarget]; rfl)
    rwa [migratedAt_eq, if_pos hupdate] at hthis

theorem lookup_migratePhase (hwell : WellFormed target) {next : Server C X}
    (hnext : migrateBareDataSeries config (ids.map (diffFor sets server target)) current =
      some next) (externalId : ExternalId) :
    next.lookup externalId = migratedAt config sets server target externalId := by
  obtain ⟨-, hclean, hnext⟩ := (migrate_eq_some_iff hnodup hids hcurrent hwell next).mp hnext
  rw [lookup_modifyEach_keys (hnodup.filter _) _ hnext,
    lookup_createdAt hnodup hids hcurrent hclean, migratedAt_eq]
  simp only [mem_updatedSeries hids]

end Migrate


section Fill

variable (config sets server target) in
/-- The creations and updates in a data series are all accepted. -/
def Fillable (externalId : ExternalId) : Prop :=
  ∀ series, migratedAt config sets server target externalId = some series →
    ∀ request ∈ (diffFor sets server target externalId).createUpdateRequests,
      WriteAccepted config series request

variable (config sets server target) in
def filled (externalId : ExternalId) (series : SeriesState C X) : SeriesState C X :=
  (diffFor sets server target externalId).createUpdateRequests.foldl
    (ChildRequest.effect config) series

omit [DecidableEq C] [DecidableEq X] in
theorem updateSeries_eq_some {original next : SeriesState C X} {externalId : ExternalId}
    {series : Identifiable (SeriesHeader X)} :
    Server.updateSeries config original externalId series = some next ↔
      (original.isOpen = true ∧ series.externalId = externalId ∧
        (original.header.backend = series.content.backend ∨
          canMigrate original.header.backend series.content.backend = true)) ∧
      ∃ header, Server.cleanHeader config series = some header ∧
        next = { original with
          header := header
          locked := if original.header.backend = header.backend then original.locked
            else !config.migratesAtOnce } := by
  rw [Server.updateSeries, Option.ite_none_right_eq_some, Option.map_eq_some_iff]
  simp only [Bool.and_eq_true, Bool.or_eq_true, decide_eq_true_eq, and_assoc, eq_comm (a := next)]

omit [DecidableEq C] [DecidableEq X] in
theorem updateSeries_isSome {original : SeriesState C X} {externalId : ExternalId}
    {series : Identifiable (SeriesHeader X)} :
    (Server.updateSeries config original externalId series).isSome ↔
      (original.isOpen = true ∧ series.externalId = externalId ∧
        (original.header.backend = series.content.backend ∨
          canMigrate original.header.backend series.content.backend = true)) ∧
      (Server.cleanHeader config series).isSome := by
  constructor
  · intro hsome
    obtain ⟨next, hnext⟩ := Option.isSome_iff_exists.mp hsome
    obtain ⟨haccepted, header, hheader, -⟩ := updateSeries_eq_some.mp hnext
    exact ⟨haccepted, Option.isSome_of_eq_some hheader⟩
  · rintro ⟨haccepted, hsome⟩
    obtain ⟨header, hheader⟩ := Option.isSome_iff_exists.mp hsome
    exact Option.isSome_of_eq_some
      (updateSeries_eq_some.mpr ⟨haccepted, header, hheader, rfl⟩)

@[simp] theorem cleared_header {externalId : ExternalId} {series : SeriesState C X} :
    (cleared config sets server target externalId series).header = series.header := by
  rw [cleared, ChildRequest.foldl_header]

@[simp] theorem cleared_locked {externalId : ExternalId} {series : SeriesState C X} :
    (cleared config sets server target externalId series).locked = series.locked := by
  rw [cleared, ChildRequest.foldl_locked]

@[simp] theorem cleared_isOpen {externalId : ExternalId} {series : SeriesState C X} :
    (cleared config sets server target externalId series).isOpen = series.isOpen := by
  rw [SeriesState.isOpen, cleared_header, cleared_locked, SeriesState.isOpen]

theorem afterClear_migratedAt {externalId : ExternalId} {series : SeriesState C X}
    (hseries : migratedAt config sets server target externalId = some series) :
    AfterClear (baseChildren server externalId) (targetChildren target externalId) series := by
  cases hbase : server.lookup externalId with
  | none =>
      cases htarget : targetOf target externalId with
      | none => simp [migratedAt, hbase, htarget] at hseries
      | some definition =>
          simp only [migratedAt, hbase, htarget, Option.map_eq_some_iff] at hseries
          obtain ⟨header, -, rfl⟩ := hseries
          intro type childId
          rw [baseChildren_eq_nil hbase, contentAt_nil]
          exact Or.inr ⟨fun ⟨_, hold, _⟩ => absurd hold (by simp), rfl⟩
  | some original =>
      cases htarget : targetOf target externalId with
      | none => simp [migratedAt, hbase, htarget] at hseries
      | some definition =>
          have hcleared : AfterClear (baseChildren server externalId)
              (targetChildren target externalId)
              (cleared config sets server target externalId original) :=
            afterClear_cleared hbase
          simp only [migratedAt, hbase, htarget] at hseries
          split at hseries
          · obtain ⟨-, header, -, rfl⟩ := updateSeries_eq_some.mp hseries
            exact hcleared
          · obtain rfl := Option.some.inj hseries
            exact hcleared

theorem migratedAt_isSome {externalId : ExternalId}
    (hmigratable : Migratable config sets server target externalId) :
    (migratedAt config sets server target externalId).isSome ↔
      (targetOf target externalId).isSome := by
  refine ⟨fun hsome => ?_, hmigratable.2⟩
  cases hbase : server.lookup externalId <;> cases htarget : targetOf target externalId <;>
    simp_all [migratedAt]

omit [DecidableEq X] [DecidableEq C] in
theorem targetResolves (hwell : WellFormed target) {urls : ExternalId → Bool}
    (hurls : ∀ externalId, (targetOf target externalId).isSome → urls externalId = true)
    (externalId : ExternalId) :
    TargetResolves urls fun type childId =>
      contentAt (targetChildren target externalId type) childId := by
  cases htarget : targetOf target externalId with
  | none =>
      rw [targetChildren_eq_nil htarget]
      simp only [contentAt_nil]
      exact ⟨fun _ _ _ h => by simp at h, fun _ _ h => by simp at h, fun _ _ h => by simp at h⟩
  | some definition =>
      have hdefinition := (mem_of_targetOf htarget).1
      have hcontent : ∀ {type childId content},
          contentAt (definition.children type) childId = some content ↔
            ⟨childId, content⟩ ∈ definition.children type := fun {type _ _} =>
        contentAt_eq_some (hwell.childIds definition hdefinition type)
      rw [targetChildren_eq htarget]
      refine ⟨?_, ?_, ?_⟩
      · intro type type' childId hsome hsome'
        obtain ⟨content, hchild⟩ := Option.isSome_iff_exists.mp hsome
        obtain ⟨content', hchild'⟩ := Option.isSome_iff_exists.mp hsome'
        exact hwell.elementIds definition hdefinition type type' _ (hcontent.mp hchild) _
          (hcontent.mp hchild') rfl
      · intro childId dimension hchild
        apply hurls
        rw [targetOf_isSome]
        exact hwell.references definition hdefinition _ (hcontent.mp hchild)
      · intro childId index hchild place hplace
        obtain ⟨⟨elementId, element⟩, helement, rfl⟩ :=
          hwell.targets definition hdefinition _ (hcontent.mp hchild) place hplace
        rw [hcontent.mpr helement]
        rfl

section Accepted

variable {urls : ExternalId → Bool} (hwell : WellFormed target)
  (hurls : ∀ externalId, (targetOf target externalId).isSome → urls externalId = true)

include hwell hurls

theorem attempt_createUpdateRequests {externalId : ExternalId} {series : SeriesState C X}
    (hseries : migratedAt config sets server target externalId = some series)
    (final : SeriesState C X) :
    attempt (SeriesState.request config urls) series
        (diffFor sets server target externalId).createUpdateRequests = some final ↔
      (∀ request ∈ (diffFor sets server target externalId).createUpdateRequests,
        WriteAccepted config series request) ∧
        final = filled config sets server target externalId series :=
  fill_eq_some_iff (targetResolves hwell hurls externalId)
    ((afterClear_migratedAt hseries).filling (diffFor_children sets server target externalId)) final

include hnodup hids

variable {current : Server C X}
  (hmigratable : ∀ externalId, Migratable config sets server target externalId)
  (hcurrent : ∀ externalId,
    current.lookup externalId = migratedAt config sets server target externalId)

include hmigratable hcurrent

theorem fillPhase_isSome :
    (pushChildren config urls DataSeriesDefinitionDiff.createUpdateRequests
        ((ids.map (diffFor sets server target)).filter fun diff => !diff.hasOperation .delete)
        current).isSome ↔
      ∀ externalId, Fillable config sets server target externalId := by
  rw [pushChildren_isSome hnodup]
  constructor
  · intro haccepted externalId series hseries
    have htarget := (migratedAt_isSome (hmigratable externalId)).mp
      (Option.isSome_of_eq_some hseries)
    have hthis := haccepted externalId ((hids externalId).mpr (Or.inr htarget))
      (not_deleted_of_isSome htarget)
    rw [hcurrent, hseries, Option.bind_some, Option.isSome_iff_exists] at hthis
    obtain ⟨final, hfinal⟩ := hthis
    exact ((attempt_createUpdateRequests hwell hurls hseries final).mp hfinal).1
  · intro hfillable externalId hid hchosen
    have htarget : (targetOf target externalId).isSome := by
      cases htarget : targetOf target externalId with
      | some => rfl
      | none =>
          have hseries := ((hids externalId).mp hid).resolve_right (by simp [htarget])
          rw [hasOperation_delete.mpr ⟨hseries, htarget⟩] at hchosen
          exact Bool.noConfusion hchosen
    obtain ⟨series, hseries⟩ := Option.isSome_iff_exists.mp ((hmigratable externalId).2 htarget)
    rw [hcurrent, hseries, Option.bind_some, Option.isSome_iff_exists]
    exact ⟨_, (attempt_createUpdateRequests hwell hurls hseries _).mpr
      ⟨hfillable externalId series hseries, rfl⟩⟩

theorem lookup_fillPhase {next : Server C X}
    (hnext : pushChildren config urls DataSeriesDefinitionDiff.createUpdateRequests
        ((ids.map (diffFor sets server target)).filter fun diff => !diff.hasOperation .delete)
        current = some next) (externalId : ExternalId) :
    next.lookup externalId = (migratedAt config sets server target externalId).map
      (filled config sets server target externalId) := by
  have hfillable := (fillPhase_isSome hnodup hids hwell hurls hmigratable hcurrent).mp
    (Option.isSome_of_eq_some hnext)
  rw [lookup_pushChildren hnodup hnext, hcurrent]
  cases hseries : migratedAt config sets server target externalId with
  | none => simp
  | some series =>
      have htarget := (migratedAt_isSome (hmigratable externalId)).mp
        (Option.isSome_of_eq_some hseries)
      rw [if_pos ⟨(hids externalId).mpr (Or.inr htarget), not_deleted_of_isSome htarget⟩,
        Option.bind_some, Option.map_some, attempt_createUpdateRequests hwell hurls hseries]
      exact ⟨hfillable externalId series hseries, rfl⟩

end Accepted

end Fill

omit [DecidableEq C] [DecidableEq X] in
theorem push_bind (diffs : List (DataSeriesDefinitionDiff C X)) (current : Server C X) :
    push config diffs current =
      (pushChildren config (fun externalId => externalId ∈ current)
        DataSeriesDefinitionDiff.deleteRequests
        (diffs.filter fun diff => !diff.hasOperation .create) current).bind fun cleared =>
      (migrateBareDataSeries config diffs cleared).bind fun migrated =>
        pushChildren config (fun externalId => externalId ∈ migrated)
          DataSeriesDefinitionDiff.createUpdateRequests
          (diffs.filter fun diff => !diff.hasOperation .delete) migrated := rfl

theorem mem_of_migratable {migrated : Server C X}
    (hmigratable : ∀ externalId, Migratable config sets server target externalId)
    (hmigrated : ∀ externalId,
      migrated.lookup externalId = migratedAt config sets server target externalId)
    (externalId : ExternalId) (htarget : (targetOf target externalId).isSome) :
    decide (externalId ∈ migrated) = true := by
  rw [decide_eq_true_eq, ← AList.lookup_isSome, hmigrated]
  exact (hmigratable externalId).2 htarget

/-- A push is accepted when its three phases are, data series by data series. -/
theorem push_isSome (hwell : WellFormed target) :
    (push config (diffAllDataSeries sets server.definitions target true) server).isSome ↔
      ∀ externalId, Clearable sets server target externalId ∧
        Migratable config sets server target externalId ∧
        Fillable config sets server target externalId := by
  obtain ⟨ids, hnodup, hids, hdiffs⟩ :=
    diffAllDataSeries_eq sets server target
  rw [hdiffs, push_bind]
  constructor
  · intro hsome
    obtain ⟨final, hfinal⟩ := Option.isSome_iff_exists.mp hsome
    obtain ⟨afterDelete, hdelete, hfinal⟩ := Option.bind_eq_some_iff.mp hfinal
    obtain ⟨migrated, hmigrated, hfinal⟩ := Option.bind_eq_some_iff.mp hfinal
    have hclearable := (clearPhase_isSome hnodup hids).mp (Option.isSome_of_eq_some hdelete)
    have hcurrent := lookup_clearPhase hnodup hids hdelete
    have hmigratable := (migratePhase_isSome hnodup hids hcurrent hwell).mp
      (Option.isSome_of_eq_some hmigrated)
    have hlookup := lookup_migratePhase hnodup hids hcurrent hwell hmigrated
    have hfillable := (fillPhase_isSome hnodup hids hwell
      (mem_of_migratable hmigratable hlookup) hmigratable hlookup).mp
        (Option.isSome_of_eq_some hfinal)
    intro externalId
    exact ⟨hclearable externalId, hmigratable externalId, hfillable externalId⟩
  · intro hall
    obtain ⟨afterDelete, hdelete⟩ := Option.isSome_iff_exists.mp
      ((clearPhase_isSome hnodup hids).mpr fun externalId => (hall externalId).1)
    have hcurrent := lookup_clearPhase hnodup hids hdelete
    have hmigratable := fun externalId => (hall externalId).2.1
    obtain ⟨migrated, hmigrated⟩ := Option.isSome_iff_exists.mp
      ((migratePhase_isSome hnodup hids hcurrent hwell).mpr hmigratable)
    have hlookup := lookup_migratePhase hnodup hids hcurrent hwell hmigrated
    rw [hdelete, Option.bind_some, hmigrated, Option.bind_some]
    exact (fillPhase_isSome hnodup hids hwell (mem_of_migratable hmigratable hlookup)
      hmigratable hlookup).mpr fun externalId => (hall externalId).2.2

theorem lookup_push (hwell : WellFormed target) {final : Server C X}
    (hfinal : push config (diffAllDataSeries sets server.definitions target true) server =
      some final) (externalId : ExternalId) :
    final.lookup externalId = (migratedAt config sets server target externalId).map
      (filled config sets server target externalId) := by
  have hall := (push_isSome hwell).mp (Option.isSome_of_eq_some hfinal)
  obtain ⟨ids, hnodup, hids, hdiffs⟩ :=
    diffAllDataSeries_eq sets server target
  rw [hdiffs, push_bind] at hfinal
  obtain ⟨afterDelete, hdelete, hfinal⟩ := Option.bind_eq_some_iff.mp hfinal
  obtain ⟨migrated, hmigrated, hfinal⟩ := Option.bind_eq_some_iff.mp hfinal
  have hmigratable := fun externalId => (hall externalId).2.1
  have hlookup := lookup_migratePhase hnodup hids (lookup_clearPhase hnodup hids hdelete) hwell
    hmigrated
  exact lookup_fillPhase hnodup hids hwell (mem_of_migratable hmigratable hlookup) hmigratable
    hlookup hfinal externalId

end Phases

end NFCompose
