/-
What a push does to the payloads of its operations.  The references of dimensions and
the engines of endpoints are replaced in the payloads themselves, so a diff that has
been pushed is another one.
-/
import NFCompose.DiffPush

namespace NFCompose

namespace DiffPush

open EffectRules KeyedDiff

/-- What a push does on its way that a payload can tell of, or that ends it. -/
inductive PushEvent where
  | write (payload : PayloadRef)
  | nameless
deriving DecidableEq, Repr

def permissionEvents (change : NameOperation) : List PushEvent :=
  if change.operationType = .delete then []
  else if change.name.isSome then [] else [.nameless]

def elementEvents (entry : StructureType × ExternalIdOperation) : List PushEvent :=
  if entry.1 = .dimension then [.write entry.2.payload] else []

def DataSeriesDefinitionDiff.events (diff : DataSeriesDefinitionDiff) : List PushEvent :=
  (structureOps .create diff.structureDiff).flatMap elementEvents ++
    (structureOps .update diff.structureDiff).flatMap elementEvents

def dataSeriesEvents (diffs : List DataSeriesDefinitionDiff) : List PushEvent :=
  (diffs.filter fun diff => !diff.hasOperation .delete).flatMap
      DataSeriesDefinitionDiff.events ++
    diffs.flatMap fun diff => diff.groupPermissions.flatMap permissionEvents

def endpointEvents (diff : HttpEndpointDefinitionDiff) : List PushEvent :=
  match diff.httpEndpoint with
  | none => []
  | some operation =>
      if operation.operationType = .delete then [] else [.write operation.payload]

def HttpEndpointDefinitionDiff.events (diff : HttpEndpointDefinitionDiff) : List PushEvent :=
  endpointEvents diff ++
    if diff.isDeleted then [] else diff.groupPermissions.flatMap permissionEvents

def httpEndpointEvents (diffs : List HttpEndpointDefinitionDiff) : List PushEvent :=
  diffs.flatMap HttpEndpointDefinitionDiff.events

section Logic

variable {N W : Type} (client : ApiClient N W) (format : Json N → String) (pages : Nat)
  (name : String) (names : List String)

/-- What a logic has to say of the steps of a push. -/
structure PushLogic (logic : EventLogic PushError (PushState N W) PushEvent) where
  Answer : Json N → Prop
  Urls : (AList fun _ : String => String) → Prop
  Groups : (AList fun _ : String => Json N) → Prop
  sends : ∀ request, logic.Holds [] Answer (send client request)
  reads : ∀ payload, logic.Holds [] (fun _ => True) (readPayload payload)
  raisesIndexes : ∀ answer, Answer answer →
    logic.Holds [] (fun _ => True) (raising (containsIndexes answer))
  raisesUrl : ∀ answer, Answer answer →
    logic.Holds [] (fun _ => True) (raising (rawWithUrl answer))
  raisesFirst : ∀ answer, Answer answer →
    logic.Holds [] (fun _ => True) (raising (firstUrl answer))
  readsUrls : ∀ path, logic.Holds [] (fun rows => Urls (toUrls rows))
    (readPaginatedAll client rawWithUrl pages path)
  readsGroups : ∀ path, logic.Holds [] (fun groups => Groups (toGroupIds groups))
    (readPaginatedAll client rawGroup pages path)
  resolves : ∀ urls, Urls urls → ∀ payload,
    logic.Holds [.write payload] (fun _ => True) (resolveInPlace name urls payload)
  nameless : logic.Holds [.nameless] (fun _ => True) (throw .keyError : PushM N W Unit)
  unknown : ∀ groupIds, Groups groupIds → ∀ name ∈ names, groupIds.lookup name = none →
    logic.Holds [] (fun _ => True) (throw .keyError : PushM N W Unit)

namespace PushLogic

variable {client pages name names} {logic : EventLogic PushError (PushState N W) PushEvent}
  (rules : PushLogic client pages name names logic)
include rules

theorem holds_sends (request : ApiRequest N) :
    logic.Holds [] (fun _ => True) (do let _ ← send client request : PushM N W Unit) :=
  logic.holds_bind (rules.sends request) fun _ _ => logic.holds_pure trivial

theorem holds_deletes (dsExternalId childType : String) (operation : ExternalIdOperation) :
    logic.Holds [] (fun _ => True) (deletes client dsExternalId childType operation) :=
  rules.holds_sends _

theorem holds_posts (dsExternalId childType : String) (operation : ExternalIdOperation) :
    logic.Holds [] (fun _ => True) (posts client dsExternalId childType operation) :=
  logic.holds_bind (rules.reads _) fun _ _ => rules.holds_sends _

theorem holds_patches (dsExternalId childType : String) (operation : ExternalIdOperation) :
    logic.Holds [] (fun _ => True) (patches client dsExternalId childType operation) :=
  logic.holds_bind (rules.reads _) fun _ _ => rules.holds_sends _

theorem holds_simpleChildMigrateDelete (dsExternalId childType : String)
    (data : List ExternalIdOperation) :
    logic.Holds [] (fun _ => True)
      (simpleChildMigrateDelete client dsExternalId childType data) :=
  logic.holds_forM_nil fun operation _ => rules.holds_deletes _ _ operation

theorem holds_simpleChildMigrateCreateUpdate (dsExternalId childType : String)
    (data : List ExternalIdOperation) :
    logic.Holds [] (fun _ => True)
      (simpleChildMigrateCreateUpdate client dsExternalId childType data) := by
  apply logic.holds_bind (logic.holds_forM_nil fun operation _ => rules.holds_posts _ _ operation)
  intro _ _
  exact logic.holds_forM_nil fun operation _ => rules.holds_patches _ _ operation

theorem holds_withIndexes (diff : DataSeriesDefinitionDiff) {migrate : PushM N W Unit}
    (hmigrate : logic.Holds [] (fun _ => True) migrate) :
    logic.Holds [] (fun _ => True) (withIndexes client diff migrate) := by
  apply logic.holds_bind (rules.sends _)
  intro answer hanswer
  apply logic.holds_bind (rules.raisesIndexes answer hanswer)
  intro hasIndexes _
  cases hasIndexes with
  | true => exact hmigrate
  | false => exact logic.holds_pure trivial

theorem holds_deletePhase (diff : DataSeriesDefinitionDiff) :
    logic.Holds [] (fun _ => True) (do
      deleteIndexes client diff
      deleteStructureElements client diff
      simpleChildMigrateDelete client diff.externalId "consumer" diff.consumers) := by
  apply logic.holds_bind (rules.holds_withIndexes diff
    (rules.holds_simpleChildMigrateDelete _ _ _))
  intro _ _
  apply logic.holds_bind (logic.holds_forM_nil fun entry _ => rules.holds_deletes _ _ entry.2)
  intro _ _
  exact rules.holds_simpleChildMigrateDelete _ _ _

/-- A data series is written, and its raw form is answered. -/
theorem holds_writeBare (payload : PayloadRef) (request : Payload N → ApiRequest N) :
    logic.Holds [] (fun _ => True) (do
      let data ← readPayload payload
      let answer ← send client (request data)
      let _ ← raising (rawWithUrl answer) : PushM N W Unit) := by
  apply logic.holds_bind (rules.reads payload)
  intro data _
  apply logic.holds_bind (rules.sends (request data))
  intro answer hanswer
  apply logic.holds_bind (rules.raisesUrl answer hanswer)
  intro _ _
  exact logic.holds_pure trivial

theorem holds_migrateBareDataSeries (diffs : List DataSeriesDefinitionDiff) :
    logic.Holds [] (fun _ => True) (migrateBareDataSeries client diffs) := by
  apply logic.holds_bind (logic.holds_forM_nil fun _ _ => rules.holds_sends _)
  intro _ _
  apply logic.holds_bind (logic.holds_forM_nil fun operation _ =>
    rules.holds_writeBare operation.payload (.post _))
  intro _ _
  exact logic.holds_forM_nil fun operation _ =>
    rules.holds_writeBare operation.payload (.patch _)

/-- The loop over the permissions has an event for each change without a name. -/
theorem holds_putPermission (baseUrl : String) {groupIds : AList fun _ : String => Json N}
    (hgroups : rules.Groups groupIds) {change : NameOperation}
    (hnames : ∀ name ∈ change.name, name ∈ names) :
    logic.Holds (permissionEvents change) (fun _ => True)
      (putPermission client format baseUrl groupIds change) := by
  rw [permissionEvents, putPermission]
  split
  · exact logic.holds_pure trivial
  · cases hname : change.name with
    | none => exact rules.nameless
    | some name =>
        rw [Option.bind_some, Option.isSome_some, if_pos rfl]
        cases hlookup : groupIds.lookup name with
        | none => exact rules.unknown groupIds hgroups name (hnames name hname) hlookup
        | some id => exact logic.holds_bind (rules.reads _) fun _ _ => rules.holds_sends _

end PushLogic

section DataSeries

variable {client pages names} {logic : EventLogic PushError (PushState N W) PushEvent}
  (rules : PushLogic client pages "reference" names logic)
include rules

theorem holds_writeElement {urls : AList fun _ : String => String} (hurls : rules.Urls urls)
    {sends : String → ExternalIdOperation → PushM N W Unit}
    (hsends : ∀ path operation, logic.Holds [] (fun _ => True) (sends path operation))
    (entry : StructureType × ExternalIdOperation) :
    logic.Holds (elementEvents entry) (fun _ => True) (writeElement urls sends entry) := by
  rw [elementEvents, writeElement]
  split
  · exact logic.holds_bind (rules.resolves urls hurls entry.2.payload) fun _ _ => hsends _ _
  · have hskip : logic.Holds [] (fun _ => True) (pure () : PushM N W Unit) :=
      logic.holds_pure trivial
    exact logic.holds_bind hskip fun _ _ => hsends _ _

theorem holds_createUpdatePhase {urls : AList fun _ : String => String}
    (hurls : rules.Urls urls) (diff : DataSeriesDefinitionDiff) :
    logic.Holds diff.events (fun _ => True) (do
      createUpdateStructureElements client urls diff
      simpleChildMigrateCreateUpdate client diff.externalId "consumer" diff.consumers
      createUpdateIndexes client diff) := by
  have hstructure : logic.Holds diff.events (fun _ => True)
      (createUpdateStructureElements client urls diff) := by
    apply logic.holds_bind (logic.holds_forM fun entry _ => holds_writeElement rules hurls
      (rules.holds_posts diff.externalId) entry)
    intro _ _
    exact logic.holds_forM fun entry _ => holds_writeElement rules hurls
      (rules.holds_patches diff.externalId) entry
  have hrest : logic.Holds [] (fun _ => True) (do
      simpleChildMigrateCreateUpdate client diff.externalId "consumer" diff.consumers
      createUpdateIndexes client diff) := by
    apply logic.holds_bind (rules.holds_simpleChildMigrateCreateUpdate _ _ _)
    intro _ _
    exact rules.holds_withIndexes diff (rules.holds_simpleChildMigrateCreateUpdate _ _ _)
  have hphase := logic.holds_bind hstructure fun _ _ => hrest
  rw [List.append_nil] at hphase
  exact hphase

/-- A push of data series has its events one after the other. -/
theorem holds_pushDataSeries {diffs : List DataSeriesDefinitionDiff}
    (hnames : ∀ diff ∈ diffs, ∀ change ∈ diff.groupPermissions, ∀ name ∈ change.name,
      name ∈ names) :
    logic.Holds (dataSeriesEvents diffs) (fun _ => True)
      (pushDataSeries client format pages diffs) := by
  apply logic.holds_bind (logic.holds_forM_nil fun diff _ => rules.holds_deletePhase diff)
  intro _ _
  apply logic.holds_bind (rules.holds_migrateBareDataSeries diffs)
  intro _ _
  apply logic.holds_bind (rules.readsUrls _)
  intro rows hurls
  apply logic.holds_bind (logic.holds_forM fun diff _ => holds_createUpdatePhase rules hurls diff)
  intro _ _
  apply logic.holds_bind (rules.readsGroups _)
  intro groups hgroups
  apply logic.holds_forM
  intro diff hdiff
  apply logic.holds_forM
  intro change hchange
  exact rules.holds_putPermission format _ hgroups (hnames diff hdiff change hchange)

end DataSeries

section HttpEndpoints

variable {client pages names} {logic : EventLogic PushError (PushState N W) PushEvent}
  (rules : PushLogic client pages "engine" names logic)
include rules

theorem holds_getHttpEndpoint (externalId : String) :
    logic.Holds [] (fun _ => True) (getHttpEndpoint client externalId) :=
  logic.holds_bind (rules.sends _) fun answer hanswer => rules.raisesFirst answer hanswer

theorem holds_migrateHttpEndpoint {urls : AList fun _ : String => String}
    (hurls : rules.Urls urls) (diff : HttpEndpointDefinitionDiff) :
    logic.Holds (endpointEvents diff) (fun _ => True) (migrateHttpEndpoint client urls diff) := by
  rw [endpointEvents, migrateHttpEndpoint]
  cases diff.httpEndpoint with
  | none => exact logic.holds_pure trivial
  | some operation =>
      cases htype : operation.operationType with
      | delete =>
          simp only [htype, if_true]
          exact logic.holds_bind (holds_getHttpEndpoint rules _) fun _ _ => rules.holds_sends _
      | create =>
          simp only [htype, reduceCtorEq, if_false]
          exact logic.holds_bind (rules.resolves urls hurls operation.payload) fun _ _ =>
            logic.holds_bind (rules.reads _) fun _ _ => rules.holds_sends _
      | update =>
          simp only [htype, reduceCtorEq, if_false]
          exact logic.holds_bind (rules.resolves urls hurls operation.payload) fun _ _ =>
            logic.holds_bind (holds_getHttpEndpoint rules _) fun _ _ =>
              logic.holds_bind (rules.reads _) fun _ _ => rules.holds_sends _

/-- A push of endpoints has its events one after the other. -/
theorem holds_pushHttpEndpoints {diffs : List HttpEndpointDefinitionDiff}
    (hnames : ∀ diff ∈ diffs, ∀ change ∈ diff.groupPermissions, ∀ name ∈ change.name,
      name ∈ names) :
    logic.Holds (httpEndpointEvents diffs) (fun _ => True)
      (pushHttpEndpoints client format pages diffs) := by
  apply logic.holds_bind (rules.readsGroups _)
  intro groups hgroups
  apply logic.holds_bind (rules.readsUrls _)
  intro rows hurls
  apply logic.holds_forM
  intro diff hdiff
  apply logic.holds_bind (holds_migrateHttpEndpoint rules hurls diff)
  intro _ _
  cases diff.isDeleted with
  | true => exact logic.holds_pure trivial
  | false =>
      apply logic.holds_bind (holds_getHttpEndpoint rules _)
      intro endpointUrl _
      apply logic.holds_forM
      intro change hchange
      exact rules.holds_putPermission format _ hgroups (hnames diff hdiff change hchange)

end HttpEndpoints

end Logic

end DiffPush

end NFCompose
