/-
Pushing the same diff twice.  A push writes into a payload at its first dimension or
endpoint, so the second push of the diff finds urls where the first one found external
ids.  Without such an event, or when a run has to end at it, the diff stays as it is.
-/
import NFCompose.PushServers

namespace NFCompose

namespace DiffPush

open EffectRules KeyedDiff

section Payloads

variable {N : Type}

def DataSeriesDefinitionDiff.payloads (diff : DataSeriesDefinitionDiff) : List PayloadRef :=
  (diff.dataSeries.toList ++ structureTypes.flatMap diff.structureDiff ++ diff.consumers ++
      diff.indexes).map ExternalIdOperation.payload ++
    diff.groupPermissions.map NameOperation.payload

def HttpEndpointDefinitionDiff.payloads (diff : HttpEndpointDefinitionDiff) : List PayloadRef :=
  diff.httpEndpoint.toList.map ExternalIdOperation.payload ++
    diff.groupPermissions.map NameOperation.payload

/-- A push, to whatever server and however it ends, leaves the payloads of a diff as they
are.  The next push of the diff sends what it sends without the one before. -/
structure LeavesDiff (push : {W : Type} → ApiClient N W → Nat → PushM N W Unit)
    (payloads : List PayloadRef) (heap : Heap N) : Prop where
  unchanged : ∀ {W : Type} (client : ApiClient N W) (pages : Nat) (world : W),
    ∀ payload ∈ payloads,
      (finalState (push client pages) ⟨heap, world, []⟩).heap payload = heap payload
  sameRequests : ∀ {W W' : Type} (client : ApiClient N W) (pages : Nat) (world : W)
    (second : ApiClient N W') (secondPages : Nat) (secondWorld : W'),
    (finalState (push second secondPages)
        ⟨(finalState (push client pages) ⟨heap, world, []⟩).heap, secondWorld, []⟩).requests =
      (finalState (push second secondPages) ⟨heap, secondWorld, []⟩).requests

theorem leavesDiff_of_preserves {push : {W : Type} → ApiClient N W → Nat → PushM N W Unit}
    {heap : Heap N} (hkeeps : ∀ {W : Type} (client : ApiClient N W) (pages : Nat),
      Preserves (fun state => state.heap = heap) (push client pages))
    (payloads : List PayloadRef) : LeavesDiff push payloads heap where
  unchanged := by
    intro W client pages world payload _
    rw [hkeeps client pages ⟨heap, world, []⟩ rfl]
  sameRequests := by
    intro W W' client pages world second secondPages secondWorld
    rw [hkeeps client pages ⟨heap, world, []⟩ rfl]

end Payloads

section Outcome

variable {N : Type}

/-- A push with events leaves the diff when there is none, or when the first one is stuck. -/
theorem leavesDiff_iff_stuck {push : {W : Type} → ApiClient N W → Nat → PushM N W Unit}
    {payloads : List PayloadRef} {events : List PushEvent} {name : String} (names : List String)
    (heap : Heap N) (hpayloads : ∀ payload, .write payload ∈ events → payload ∈ payloads)
    (hholds : ∀ {W : Type} {client : ApiClient N W} {pages : Nat}
      {logic : EventLogic PushError (PushState N W) PushEvent},
      PushLogic client pages name names logic →
        logic.Holds events (fun _ => True) (push client pages)) :
    LeavesDiff push payloads heap ↔ ∀ event ∈ events.head?, event.Stuck name heap := by
  constructor
  · intro hleaves event hevent
    cases event with
    | nameless => exact trivial
    | write payload =>
        cases hreference : reference name (heap payload) with
        | none => exact hreference
        | some externalId =>
            have hreaches := hholds (writingRules name externalId names heap payload hreference)
            have hreplaced := hreaches.establishes _ hevent rfl ⟨heap, (), []⟩ rfl
            have hmem := hpayloads payload (List.mem_of_mem_head? hevent)
            rw [Replaced, hleaves.unchanged _ _ _ payload hmem, hreference] at hreplaced
            exact absurd (Option.some.inj hreplaced).symm (append_slash_ne externalId)
  · intro hstuck
    apply leavesDiff_of_preserves
    intro W client pages
    exact (hholds (keepingRules client name heap pages names)).keeps hstuck

/-- The groups that are named by changes of permissions. -/
def groupNames (changes : List NameOperation) : List String :=
  changes.filterMap NameOperation.name

theorem mem_groupNames {D : Type} {diffs : List D} {changes : D → List NameOperation} :
    ∀ diff ∈ diffs, ∀ change ∈ changes diff, ∀ name ∈ change.name,
      name ∈ groupNames (diffs.flatMap changes) := by
  intro diff hdiff change hchange name hname
  exact List.mem_filterMap.mpr ⟨change, List.mem_flatMap.mpr ⟨diff, hdiff, hchange⟩, hname⟩

theorem notMem_permissionEvents (payload : PayloadRef) (changes : List NameOperation) :
    .write payload ∉ changes.flatMap permissionEvents := by
  intro hmem
  obtain ⟨change, _, hevent⟩ := List.mem_flatMap.mp hmem
  rw [permissionEvents] at hevent
  split at hevent
  · cases hevent
  · split at hevent
    · cases hevent
    · cases List.mem_singleton.mp hevent

theorem mem_payloads_of_structureOps {diff : DataSeriesDefinitionDiff} {payload : PayloadRef}
    {operationType : OperationType}
    (hevent : .write payload ∈
      (structureOps operationType diff.structureDiff).flatMap elementEvents) :
    payload ∈ diff.payloads := by
  obtain ⟨entry, hentry, hevent⟩ := List.mem_flatMap.mp hevent
  rw [elementEvents] at hevent
  split at hevent
  · cases List.mem_singleton.mp hevent
    obtain ⟨type, htype, hentry⟩ := List.mem_flatMap.mp hentry
    obtain ⟨operation, hoperation, rfl⟩ := List.mem_map.mp hentry
    have hmem : operation ∈ structureTypes.flatMap diff.structureDiff :=
      List.mem_flatMap.mpr ⟨type, htype, (List.mem_filter.mp hoperation).1⟩
    apply List.mem_append_left
    apply List.mem_map_of_mem
    exact List.mem_append_left _ (List.mem_append_left _ (List.mem_append_right _ hmem))
  · cases hevent

theorem mem_payloads_of_dataSeriesEvents {diffs : List DataSeriesDefinitionDiff}
    {payload : PayloadRef} (hevent : .write payload ∈ dataSeriesEvents diffs) :
    payload ∈ diffs.flatMap DataSeriesDefinitionDiff.payloads := by
  rcases List.mem_append.mp hevent with hevent | hevent
  · obtain ⟨diff, hdiff, hevent⟩ := List.mem_flatMap.mp hevent
    apply List.mem_flatMap.mpr
    refine ⟨diff, (List.mem_filter.mp hdiff).1, ?_⟩
    rcases List.mem_append.mp hevent with hevent | hevent
    · exact mem_payloads_of_structureOps hevent
    · exact mem_payloads_of_structureOps hevent
  · obtain ⟨diff, _, hevent⟩ := List.mem_flatMap.mp hevent
    exact absurd hevent (notMem_permissionEvents payload diff.groupPermissions)

theorem mem_payloads_of_httpEndpointEvents {diffs : List HttpEndpointDefinitionDiff}
    {payload : PayloadRef} (hevent : .write payload ∈ httpEndpointEvents diffs) :
    payload ∈ diffs.flatMap HttpEndpointDefinitionDiff.payloads := by
  obtain ⟨diff, hdiff, hevent⟩ := List.mem_flatMap.mp hevent
  refine List.mem_flatMap.mpr ⟨diff, hdiff, ?_⟩
  rcases List.mem_append.mp hevent with hevent | hevent
  · apply List.mem_append_left
    rw [endpointEvents] at hevent
    cases hoperation : diff.httpEndpoint with
    | none =>
        rw [hoperation] at hevent
        cases hevent
    | some operation =>
        simp only [hoperation] at hevent
        split at hevent
        · cases hevent
        · cases List.mem_singleton.mp hevent
          exact List.mem_singleton.mpr rfl
  · split at hevent
    · cases hevent
    · exact absurd hevent (notMem_permissionEvents payload diff.groupPermissions)

variable (format : Json N → String) (heap : Heap N)

/-- A pushed diff stays as it is, and is pushed again with the same requests, exactly when
its first dimension or endpoint to be written, if it has any, cannot be resolved or is not
reached. -/
theorem push_leavesDiff_iff :
    (∀ diffs : List DataSeriesDefinitionDiff,
      LeavesDiff (fun client pages => pushDataSeries client format pages diffs)
          (diffs.flatMap DataSeriesDefinitionDiff.payloads) heap ↔
        ∀ event ∈ (dataSeriesEvents diffs).head?, event.Stuck "reference" heap) ∧
    ∀ diffs : List HttpEndpointDefinitionDiff,
      LeavesDiff (fun client pages => pushHttpEndpoints client format pages diffs)
          (diffs.flatMap HttpEndpointDefinitionDiff.payloads) heap ↔
        ∀ event ∈ (httpEndpointEvents diffs).head?, event.Stuck "engine" heap := by
  constructor
  · intro diffs
    apply leavesDiff_iff_stuck
      (groupNames (diffs.flatMap DataSeriesDefinitionDiff.groupPermissions)) heap
      fun _ => mem_payloads_of_dataSeriesEvents
    intro W client pages logic rules
    exact holds_pushDataSeries format rules mem_groupNames
  · intro diffs
    apply leavesDiff_iff_stuck
      (groupNames (diffs.flatMap HttpEndpointDefinitionDiff.groupPermissions)) heap
      fun _ => mem_payloads_of_httpEndpointEvents
    intro W client pages logic rules
    exact holds_pushHttpEndpoints format rules mem_groupNames

end Outcome

namespace PushWitness

def customerOperation : ExternalIdOperation := ⟨.create, some "customer", 0⟩

/-- The orders get a dimension that refers to the customers. -/
def ordersDiff : DataSeriesDefinitionDiff where
  externalId := "orders"
  dataSeries := none
  structureDiff := fun
    | .dimension => [customerOperation]
    | .fact _ => []
  groupPermissions := []
  consumers := []
  indexes := []

def customerPayload : Heap Nat := fun _ => AList.singleton "reference" (.string "customers")

def customersServer : ApiClient Nat Unit := answering (answer "customers" [])

def pushOrders (heap : Heap Nat) : PushState Nat Unit :=
  finalState (pushDataSeries customersServer (fun _ => "") 1 [ordersDiff]) ⟨heap, (), []⟩

/-- The second push fails where the first one creates the dimension. -/
theorem orders_not_left :
    ¬ LeavesDiff (fun client pages => pushDataSeries client (fun _ => "") pages [ordersDiff])
      ([ordersDiff].flatMap DataSeriesDefinitionDiff.payloads) customerPayload := by
  intro hleaves
  have hsame := hleaves.sameRequests customersServer 1 () customersServer 1 ()
  have hlength : (pushOrders (pushOrders customerPayload).heap).requests.length =
    (pushOrders customerPayload).requests.length := congrArg List.length hsame
  exact absurd hlength (by decide)

example : reference "reference" ((pushOrders customerPayload).heap 0) = some "customers/" := by
  decide

end PushWitness

end DiffPush

end NFCompose
