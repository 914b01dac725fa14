/-
Runs of requests for engines and http endpoints.  A living endpoint always has a living engine of
its tenant, so every request that is routed has an upstream and a secret.
-/
import NFCompose.FlowLifecycle
import NFCompose.PartialRuns
import NFCompose.Runs

namespace NFCompose

namespace FlowLifecycle

open FlowRouting (FlowRequest FlowSite FlowTables FlowView HttpEndpoint Tenant routedTo)
open PartialRuns (bind_eq_ok)
open PythonRe (CharacterDatabase)
open Runs

variable {database : CharacterDatabase} {N : Type}

section Invariant

/-- An endpoint has an engine of its tenant that is not deleted. -/
def HasEngine (state : FlowState database N) (endpoint : HttpEndpoint database N) : Prop :=
  ∃ engineId, endpoint.engineId = some engineId ∧
    ∃ engine, state.engines.lookup engineId = some engine ∧
      engineIn endpoint.tenant engine = true

structure FlowInv (state : FlowState database N) : Prop where
  id_eq : ∀ {id endpoint}, state.endpoints.lookup id = some endpoint → endpoint.id = id
  secret_ne : ∀ {id engine}, state.engines.lookup id = some engine → engine.secret ≠ ""
  hasEngine : ∀ {id endpoint}, state.endpoints.lookup id = some endpoint →
    endpoint.deletedAt = none → endpoint.system = false → HasEngine state endpoint
  unique : ∀ {id endpoint other another}, state.endpoints.lookup id = some endpoint →
    state.endpoints.lookup other = some another → endpoint.deletedAt = none →
      endpointIn endpoint.tenant another = true → endpoint.externalId = another.externalId →
        endpoint = another

/-- What a request of a tenant may write.  An endpoint that it leaves alive has an engine, and no
other endpoint of the tenant has its external id. -/
inductive FlowChange (state : FlowState database N) (tenant : Uuid) :
    FlowState database N → Prop
  | engine (id : Uuid) (engine : EngineRow N) (hsecret : engine.secret ≠ "")
      (hengine : engineIn tenant engine = true)
      (hold : ∀ old, state.engines.lookup id = some old → old.tenant = tenant) :
      FlowChange state tenant { state with engines := state.engines.insert id engine }
  | destroyedEngine (id : Uuid) (engine : EngineRow N) (now : Nat)
      (endpoints : AList fun _ : Uuid => HttpEndpoint database N) (hsecret : engine.secret ≠ "")
      (hold : ∀ old, state.engines.lookup id = some old → old.tenant = tenant)
      (hendpoints : ∀ other, endpoints.lookup other = (state.endpoints.lookup other).map
        fun endpoint => if refersTo tenant id endpoint then
          { endpoint with deletedAt := some now } else endpoint) :
      FlowChange state tenant
        { state with engines := state.engines.insert id engine, endpoints := endpoints }
  | endpoint (endpoint : HttpEndpoint database N)
      (hengine : endpoint.deletedAt = none → HasEngine state endpoint)
      (hunique : endpoint.deletedAt = none → ∀ other another,
        state.endpoints.lookup other = some another → other ≠ endpoint.id →
          endpointIn endpoint.tenant another = true →
            another.externalId ≠ endpoint.externalId) :
      FlowChange state tenant
        { state with endpoints := state.endpoints.insert endpoint.id endpoint }

theorem endpointIn_iff {tenant : Uuid} {endpoint : HttpEndpoint database N} :
    endpointIn tenant endpoint = true ↔ endpoint.tenant = tenant ∧ endpoint.deletedAt = none := by
  simp [endpointIn]

theorem engineIn_iff {tenant : Uuid} {engine : EngineRow N} :
    engineIn tenant engine = true ↔ engine.tenant = tenant ∧ engine.deletedAt = none := by
  simp [engineIn]

theorem savedSecret_ne (generated : GeneratedSecret) (secret : String) :
    (if secret.isEmpty then generated.text else secret) ≠ "" := by
  split
  · intro hempty
    have hlength := generated.length_eq
    rw [hempty] at hlength
    cases hlength
  · next hsecret =>
      rintro rfl
      exact hsecret rfl

variable {state next : FlowState database N} {tenant : Uuid}

/-- An engine of a tenant may be written without harm to the engines of the endpoints. -/
theorem HasEngine.insert {endpoint : HttpEndpoint database N} (hhas : HasEngine state endpoint)
    {id : Uuid} {engine : EngineRow N} (hengine : engineIn tenant engine = true)
    (hold : ∀ old, state.engines.lookup id = some old → old.tenant = tenant) :
    HasEngine { state with engines := state.engines.insert id engine } endpoint := by
  obtain ⟨engineId, hid, old, hlookup, hin⟩ := hhas
  by_cases heq : engineId = id
  · subst heq
    have htenant : endpoint.tenant = tenant :=
      (engineIn_iff.mp hin).1.symm.trans (hold old hlookup)
    exact ⟨engineId, hid, engine, AList.lookup_insert _, htenant ▸ hengine⟩
  · exact ⟨engineId, hid, old, (AList.lookup_insert_ne heq).trans hlookup, hin⟩

theorem secret_ne_insert (hinv : FlowInv state) {id : Uuid} {engine : EngineRow N}
    (hsecret : engine.secret ≠ "") {other : Uuid} {found : EngineRow N}
    (hfound : (state.engines.insert id engine).lookup other = some found) :
    found.secret ≠ "" := by
  by_cases heq : other = id
  · subst heq
    rw [AList.lookup_insert, Option.some.injEq] at hfound
    exact hfound ▸ hsecret
  · rw [AList.lookup_insert_ne heq] at hfound
    exact hinv.secret_ne hfound

/-- What is left alive where an engine is destroyed was there before, and refers to another one. -/
theorem living_of_destroyed {id : Uuid} {now : Nat}
    {endpoints : AList fun _ : Uuid => HttpEndpoint database N}
    (hendpoints : ∀ other, endpoints.lookup other = (state.endpoints.lookup other).map
      fun endpoint => if refersTo tenant id endpoint then
        { endpoint with deletedAt := some now } else endpoint)
    {other : Uuid} {endpoint : HttpEndpoint database N}
    (hlookup : endpoints.lookup other = some endpoint) (hliving : endpoint.deletedAt = none) :
    state.endpoints.lookup other = some endpoint ∧ refersTo tenant id endpoint = false := by
  rw [hendpoints] at hlookup
  obtain ⟨before, hbefore, heq⟩ := Option.map_eq_some_iff.mp hlookup
  split at heq
  · subst heq
    cases hliving
  · next hrefers =>
      subst heq
      exact ⟨hbefore, Bool.not_eq_true _ ▸ hrefers⟩

theorem inv_of_destroyedEngine (hinv : FlowInv state) {id : Uuid} {engine : EngineRow N}
    {now : Nat} {endpoints : AList fun _ : Uuid => HttpEndpoint database N}
    (hsecret : engine.secret ≠ "")
    (hold : ∀ old, state.engines.lookup id = some old → old.tenant = tenant)
    (hendpoints : ∀ other, endpoints.lookup other = (state.endpoints.lookup other).map
      fun endpoint => if refersTo tenant id endpoint then
        { endpoint with deletedAt := some now } else endpoint) :
    FlowInv { state with engines := state.engines.insert id engine, endpoints := endpoints } := by
  constructor
  · intro other endpoint hlookup
    rw [hendpoints] at hlookup
    obtain ⟨before, hbefore, rfl⟩ := Option.map_eq_some_iff.mp hlookup
    have hid : before.id = other := hinv.id_eq hbefore
    split
    · exact hid
    · exact hid
  · exact secret_ne_insert hinv hsecret
  · intro other endpoint hlookup hliving hsystem
    obtain ⟨hbefore, hrefers⟩ := living_of_destroyed hendpoints hlookup hliving
    obtain ⟨engineId, hid, found, hfound, hin⟩ := hinv.hasEngine hbefore hliving hsystem
    have hne : engineId ≠ id := by
      rintro rfl
      have htenant := (engineIn_iff.mp hin).1.symm.trans (hold found hfound)
      have hrefer : refersTo tenant engineId endpoint = true := by
        simp [refersTo, endpointIn_iff, htenant, hliving, hid]
      rw [hrefers] at hrefer
      cases hrefer
    exact ⟨engineId, hid, found, (AList.lookup_insert_ne hne).trans hfound, hin⟩
  · intro id endpoint other another hlookup hanother hliving hin hexternal
    obtain ⟨hbefore, -⟩ := living_of_destroyed hendpoints hlookup hliving
    obtain ⟨hbefore', -⟩ := living_of_destroyed hendpoints hanother (endpointIn_iff.mp hin).2
    exact hinv.unique hbefore hbefore' hliving hin hexternal

theorem inv_of_endpoint (hinv : FlowInv state) {endpoint : HttpEndpoint database N}
    (hengine : endpoint.deletedAt = none → HasEngine state endpoint)
    (hunique : endpoint.deletedAt = none → ∀ other another,
      state.endpoints.lookup other = some another → other ≠ endpoint.id →
        endpointIn endpoint.tenant another = true → another.externalId ≠ endpoint.externalId) :
    FlowInv { state with endpoints := state.endpoints.insert endpoint.id endpoint } := by
  have hcases : ∀ {id found},
      (state.endpoints.insert endpoint.id endpoint).lookup id = some found →
        (id = endpoint.id ∧ found = endpoint) ∨
          (id ≠ endpoint.id ∧ state.endpoints.lookup id = some found) := by
    intro id found hfound
    by_cases heq : id = endpoint.id
    · subst heq
      rw [AList.lookup_insert, Option.some.injEq] at hfound
      exact .inl ⟨rfl, hfound.symm⟩
    · rw [AList.lookup_insert_ne heq] at hfound
      exact .inr ⟨heq, hfound⟩
  constructor
  · intro id found hfound
    rcases hcases hfound with ⟨rfl, rfl⟩ | ⟨-, hfound⟩
    · rfl
    · exact hinv.id_eq hfound
  · exact hinv.secret_ne
  · intro id found hfound hliving hsystem
    rcases hcases hfound with ⟨-, rfl⟩ | ⟨-, hfound⟩
    · exact hengine hliving
    · exact hinv.hasEngine hfound hliving hsystem
  · intro id found other another hfound hanother hliving hin hexternal
    rcases hcases hfound with ⟨-, rfl⟩ | ⟨hne, hbefore⟩
    · rcases hcases hanother with ⟨-, rfl⟩ | ⟨hother, hbefore⟩
      · rfl
      · exact absurd hexternal.symm (hunique hliving other another hbefore hother hin)
    · rcases hcases hanother with ⟨-, rfl⟩ | ⟨-, hbefore'⟩
      · obtain ⟨htenant, hdeleted⟩ := endpointIn_iff.mp hin
        exact absurd hexternal (hunique hdeleted id found hbefore hne
          (endpointIn_iff.mpr ⟨htenant.symm, hliving⟩))
      · exact hinv.unique hbefore hbefore' hliving hin hexternal

theorem FlowChange.inv (hchange : FlowChange state tenant next) (hinv : FlowInv state) :
    FlowInv next := by
  cases hchange with
  | engine id engine hsecret hengine hold =>
      exact ⟨hinv.id_eq, secret_ne_insert hinv hsecret, fun hlookup hliving hsystem =>
        (hinv.hasEngine hlookup hliving hsystem).insert hengine hold, hinv.unique⟩
  | destroyedEngine id engine now endpoints hsecret hold hendpoints =>
      exact inv_of_destroyedEngine hinv hsecret hold hendpoints
  | endpoint endpoint hengine hunique => exact inv_of_endpoint hinv hengine hunique

end Invariant

section Inversion

variable {settings : FlowSettings N} {state next : FlowState database N}
  {request : FlowApiRequest N}

theorem getObject_eq_ok {α : Type} {isObject isListed : α → Bool} {reaches : Uuid → Bool}
    {table : AList fun _ : Uuid => α} {id : Uuid} {object : α}
    (hobject : getObject isObject isListed reaches table id = .ok object) :
    table.lookup id = some object ∧ isObject object = true ∧ isListed object = true := by
  unfold getObject at hobject
  split at hobject
  · cases hobject
  · next found hfound =>
      split at hobject
      · next hreached =>
          cases hobject
          obtain ⟨hlookup, hin⟩ := Option.filter_eq_some_iff.mp hfound
          exact ⟨hlookup, hin, (Bool.and_eq_true_iff.mp hreached).1⟩
      · split at hobject
        · cases hobject
        · cases hobject

theorem fieldOr_eq_ok {α β : Type} {field : String} {kept : Option β}
    {check : α → Except FlowError β} {given : Option α} {value : β}
    (hfield : fieldOr field kept check given = .ok value) :
    (∃ asked, given = some asked ∧ check asked = .ok value) ∨ kept = some value := by
  cases given with
  | some asked => exact .inl ⟨asked, rfl, hfield⟩
  | none =>
      cases kept with
      | some old => exact .inr (congrArg some (Except.ok.inj hfield))
      | none => cases hfield

theorem getEngine_eq_ok {id : Uuid} {engine : EngineRow N}
    (hengine : getEngine state request id = .ok engine) :
    state.engines.lookup id = some engine ∧ engineIn request.tenant engine = true := by
  obtain ⟨hlookup, hin, -⟩ := getObject_eq_ok hengine
  exact ⟨hlookup, hin⟩

theorem getEndpoint_eq_ok {id : Uuid} {endpoint : HttpEndpoint database N}
    (hendpoint : getEndpoint state request id = .ok endpoint) :
    state.endpoints.lookup id = some endpoint ∧
      endpointIn request.tenant endpoint = true ∧ endpoint.system = false := by
  obtain ⟨hlookup, hin, hlisted⟩ := getObject_eq_ok hendpoint
  exact ⟨hlookup, hin, by simpa using hlisted⟩

theorem tenant_of_lookup {id : Uuid} {engine : EngineRow N} {tenant : Uuid}
    (hlookup : state.engines.lookup id = some engine) (hin : engineIn tenant engine = true) :
    ∀ old, state.engines.lookup id = some old → old.tenant = tenant := by
  intro old hold
  cases hlookup.symm.trans hold
  exact (engineIn_iff.mp hin).1

/-- An engine of the tenant that is saved is saved with a secret. -/
theorem change_saveEngine {id : Uuid} {engine : EngineRow N} {tenant : Uuid}
    (generated : GeneratedSecret) (hengine : engineIn tenant engine = true)
    (hold : ∀ old, state.engines.lookup id = some old → old.tenant = tenant) :
    FlowChange state tenant (saveEngine state generated id engine) := by
  refine .engine id _ ?_ ?_ hold
  · exact savedSecret_ne generated engine.secret
  · rw [engineIn_iff] at hengine ⊢
    exact hengine

/-- What is done with an engine that `get_object` finds leaves it in its tenant. -/
theorem change_of_getEngine {id : Uuid} {engine changed : EngineRow N}
    (hengine : getEngine state request id = .ok engine)
    (htenant : changed.tenant = engine.tenant) (hdeleted : changed.deletedAt = engine.deletedAt) :
    FlowChange state request.tenant (saveEngine state request.generated id changed) := by
  obtain ⟨hlookup, hin⟩ := getEngine_eq_ok hengine
  refine change_saveEngine _ ?_ (tenant_of_lookup hlookup hin)
  rw [engineIn_iff] at hin ⊢
  rw [htenant, hdeleted]
  exact hin

theorem saveEndpoint_eq_ok {endpoint : HttpEndpoint database N}
    (hsaved : saveEndpoint state endpoint = .ok next) :
    next = { state with endpoints := state.endpoints.insert endpoint.id endpoint } := by
  unfold saveEndpoint at hsaved
  split at hsaved
  · split at hsaved
    · exact (Except.ok.inj hsaved).symm
    · cases hsaved
  · split at hsaved
    · cases hsaved
    · split at hsaved
      · cases hsaved
      · exact (Except.ok.inj hsaved).symm

theorem engineField_eq_ok {engineId : Uuid} {value : Option Uuid}
    (hfield : engineField state request engineId = .ok value) :
    value = some engineId ∧ ∃ engine, state.engines.lookup engineId = some engine ∧
      engineIn request.tenant engine = true := by
  unfold engineField at hfield
  split at hfield
  · next hseen =>
      obtain ⟨engine, hengine⟩ := Option.isSome_iff_exists.mp hseen.1
      exact ⟨(Except.ok.inj hfield).symm, engine, Option.filter_eq_some_iff.mp hengine⟩
  · cases hfield

section ExternalIds

variable [DecidableEq N] {kind : String} {isUsed : N → Bool} {externalId value : N}

theorem validateExternalId_new
    (hvalid : validateExternalId settings kind isUsed none externalId = .ok value) :
    isUsed value = false := by
  simp only [validateExternalId] at hvalid
  split at hvalid
  · cases hvalid
  · next hunused =>
      split at hvalid
      · cases hvalid
        exact Bool.not_eq_true _ ▸ hunused
      · cases hvalid

theorem validateExternalId_old {old : N}
    (hvalid : validateExternalId settings kind isUsed (some old) externalId = .ok value) :
    value = old := by
  simp only [validateExternalId] at hvalid
  split at hvalid
  · cases hvalid
  · next hsame =>
      split at hvalid
      · cases hvalid
        exact not_not.mp hsame
      · cases hvalid

end ExternalIds

section Requests

variable [DecidableEq N]

theorem change_createEngine {id : Uuid} {externalId : Option N} {upstream : Option String}
    (hcreated : createEngine settings state request id externalId upstream = .ok next) :
    FlowChange state request.tenant next := by
  unfold createEngine at hcreated
  obtain ⟨externalId, -, hcreated⟩ := bind_eq_ok hcreated
  obtain ⟨upstream, -, hcreated⟩ := bind_eq_ok hcreated
  split at hcreated
  · cases hcreated
  · next hnew =>
      cases hcreated
      refine change_saveEngine _ (engineIn_iff.mpr ⟨rfl, rfl⟩) fun old hold => ?_
      rw [AList.lookup_eq_none.mpr hnew] at hold
      cases hold

theorem change_updateEngine {id : Uuid} {isPartial : Bool} {externalId : Option N}
    {upstream : Option String}
    (hupdated : updateEngine settings state request id isPartial externalId upstream = .ok next) :
    FlowChange state request.tenant next := by
  unfold updateEngine at hupdated
  obtain ⟨engine, hengine, hupdated⟩ := bind_eq_ok hupdated
  obtain ⟨externalId, -, hupdated⟩ := bind_eq_ok hupdated
  obtain ⟨upstream, -, hupdated⟩ := bind_eq_ok hupdated
  cases hupdated
  exact change_of_getEngine hengine rfl rfl

omit [DecidableEq N] in
theorem change_destroyEngine {id : Uuid} {cascadeDelete : Bool}
    (hdestroyed : destroyEngine state request id cascadeDelete = .ok next) :
    FlowChange state request.tenant next := by
  unfold destroyEngine at hdestroyed
  obtain ⟨engine, hengine, hdestroyed⟩ := bind_eq_ok hdestroyed
  obtain ⟨hlookup, hin⟩ := getEngine_eq_ok hengine
  have hold := tenant_of_lookup hlookup hin
  have hsecret := savedSecret_ne request.generated engine.secret
  split at hdestroyed
  · cases hdestroyed
    exact .destroyedEngine id _ request.now _ hsecret hold fun other =>
      KeyedTable.lookup_mapRows _ _ other
  · split at hdestroyed
    · cases hdestroyed
    · next hunreferenced =>
        cases hdestroyed
        refine .destroyedEngine id _ request.now state.endpoints hsecret hold fun other => ?_
        cases hother : state.endpoints.lookup other with
        | none => rfl
        | some endpoint =>
            have hrefers : ¬ refersTo request.tenant id endpoint = true := fun hrefers =>
              hunreferenced (List.any_eq_true.mpr
                ⟨⟨other, endpoint⟩, KeyedTable.mem_entries_iff.mpr hother, hrefers⟩)
            rw [Option.map_some, if_neg hrefers]

omit [DecidableEq N] in
theorem change_putSecret {id : Uuid} {secret : Option String}
    (hput : putSecret settings state request id secret = .ok next) :
    FlowChange state request.tenant next := by
  unfold putSecret at hput
  obtain ⟨engine, hengine, hput⟩ := bind_eq_ok hput
  obtain ⟨secret, -, hput⟩ := bind_eq_ok hput
  cases hput
  exact change_of_getEngine hengine rfl rfl

omit [DecidableEq N] in
theorem change_deleteSecret {id : Uuid} (hdeleted : deleteSecret state request id = .ok next) :
    FlowChange state request.tenant next := by
  unfold deleteSecret at hdeleted
  obtain ⟨engine, hengine, hdeleted⟩ := bind_eq_ok hdeleted
  cases hdeleted
  exact change_of_getEngine hengine rfl rfl

theorem change_createEndpoint {id : Uuid} {fields : EndpointFields N}
    (hcreated : createEndpoint settings state request id fields = .ok next) :
    FlowChange state request.tenant next := by
  unfold createEndpoint at hcreated
  obtain ⟨engineId, hengineId, hcreated⟩ := bind_eq_ok hcreated
  obtain ⟨externalId, hexternal, hcreated⟩ := bind_eq_ok hcreated
  obtain ⟨path, -, hcreated⟩ := bind_eq_ok hcreated
  obtain ⟨method, -, hcreated⟩ := bind_eq_ok hcreated
  obtain ⟨isPublic, -, hcreated⟩ := bind_eq_ok hcreated
  split at hcreated
  · cases hcreated
  · rw [saveEndpoint_eq_ok hcreated]
    refine .endpoint _ (fun _ => ?_) fun _ other another hanother _ hin heq => ?_
    · obtain ⟨asked, -, hfield⟩ | hkept := fieldOr_eq_ok hengineId
      · obtain ⟨hasked, engine, hlookup, hin⟩ := engineField_eq_ok hfield
        exact ⟨asked, hasked, engine, hlookup, hin⟩
      · cases hkept
    · obtain ⟨asked, -, hvalid⟩ | hkept := fieldOr_eq_ok hexternal
      · obtain ⟨checked, -, hvalid⟩ := bind_eq_ok hvalid
        have hunused := validateExternalId_new hvalid
        rw [List.any_eq_false] at hunused
        have hother := hunused _ (KeyedTable.mem_entries_iff.mpr hanother)
        rw [Bool.and_eq_true, decide_eq_true_eq] at hother
        exact hother ⟨hin, heq⟩
      · cases hkept

theorem change_updateEndpoint (hinv : FlowInv state) {id : Uuid} {isPartial : Bool}
    {fields : EndpointFields N}
    (hupdated : updateEndpoint settings state request id isPartial fields = .ok next) :
    FlowChange state request.tenant next := by
  unfold updateEndpoint at hupdated
  obtain ⟨endpoint, hendpoint, hupdated⟩ := bind_eq_ok hupdated
  obtain ⟨engineId, hengineId, hupdated⟩ := bind_eq_ok hupdated
  obtain ⟨externalId, hexternal, hupdated⟩ := bind_eq_ok hupdated
  obtain ⟨path, -, hupdated⟩ := bind_eq_ok hupdated
  obtain ⟨method, -, hupdated⟩ := bind_eq_ok hupdated
  obtain ⟨isPublic, -, hupdated⟩ := bind_eq_ok hupdated
  obtain ⟨hlookup, hin, hsystem⟩ := getEndpoint_eq_ok hendpoint
  obtain ⟨htenant, hliving⟩ := endpointIn_iff.mp hin
  rw [saveEndpoint_eq_ok hupdated]
  refine .endpoint _ (fun _ => ?_) fun _ other another hanother hne hin' heq => ?_
  · obtain ⟨asked, -, hfield⟩ | hkept := fieldOr_eq_ok hengineId
    · obtain ⟨hasked, engine, hlookup', hin'⟩ := engineField_eq_ok hfield
      exact ⟨asked, hasked, engine, hlookup', htenant ▸ hin'⟩
    · split at hkept
      · cases hkept
        have hhas : HasEngine state endpoint := hinv.hasEngine hlookup hliving hsystem
        exact hhas
      · cases hkept
  · have hsame : externalId = endpoint.externalId := by
      obtain ⟨asked, -, hvalid⟩ | hkept := fieldOr_eq_ok hexternal
      · obtain ⟨checked, -, hvalid⟩ := bind_eq_ok hvalid
        exact validateExternalId_old hvalid
      · split at hkept
        · exact (Option.some.inj hkept).symm
        · cases hkept
    have hequal : endpoint = another :=
      hinv.unique hlookup hanother hliving hin' (hsame.symm.trans heq.symm)
    have hid : other = endpoint.id := by rw [hequal, hinv.id_eq hanother]
    exact hne hid

omit [DecidableEq N] in
theorem change_destroyEndpoint {id : Uuid}
    (hdestroyed : destroyEndpoint state request id = .ok next) :
    FlowChange state request.tenant next := by
  unfold destroyEndpoint at hdestroyed
  obtain ⟨endpoint, -, hdestroyed⟩ := bind_eq_ok hdestroyed
  rw [saveEndpoint_eq_ok hdestroyed]
  exact .endpoint _ (fun hliving => nomatch hliving) fun hliving => nomatch hliving

/-- Whatever a request is about, it only makes a change of its tenant. -/
theorem change_of_handle (hinv : FlowInv state)
    (hhandled : handle settings state request = .ok next) :
    FlowChange state request.tenant next := by
  unfold handle at hhandled
  split at hhandled
  · split at hhandled
    · exact change_createEngine hhandled
    · exact change_updateEngine hhandled
    · exact change_destroyEngine hhandled
    · exact change_putSecret hhandled
    · exact change_deleteSecret hhandled
    · exact change_createEndpoint hhandled
    · exact change_updateEndpoint hinv hhandled
    · exact change_destroyEndpoint hhandled
  · cases hhandled

theorem flowStep_keeps_inv (hinv : FlowInv state) : FlowInv (flowStep settings state request) := by
  unfold flowStep
  split
  · next next hhandled => exact (change_of_handle hinv hhandled).inv hinv
  · exact hinv

end Requests

end Inversion

section Routing

variable {state : FlowState database N}

/-- The tables that the views read. -/
def FlowInv.flowTables (hinv : FlowInv state) : FlowTables database N where
  tenants := state.tenants
  engines := state.engines.entries.map fun entry => ⟨entry.1, entry.2.tenant, entry.2.deletedAt⟩
  endpoints := state.endpoints.entries.map Sigma.snd
  unique_externalId := by
    intro endpoint hendpoint another hanother hliving hliving' htenant hexternal
    obtain ⟨⟨id, endpoint⟩, hid, rfl⟩ := List.mem_map.mp hendpoint
    obtain ⟨⟨other, another⟩, hother, rfl⟩ := List.mem_map.mp hanother
    exact hinv.unique (KeyedTable.mem_entries_iff.mp hid) (KeyedTable.mem_entries_iff.mp hother)
      hliving (endpointIn_iff.mpr ⟨htenant.symm, hliving'⟩) hexternal

theorem mem_endpoints_iff (hinv : FlowInv state) {endpoint : HttpEndpoint database N} :
    endpoint ∈ hinv.flowTables.endpoints ↔
      ∃ id, state.endpoints.lookup id = some endpoint := by
  constructor
  · intro hmem
    obtain ⟨⟨id, endpoint⟩, hid, rfl⟩ := List.mem_map.mp hmem
    exact ⟨id, KeyedTable.mem_entries_iff.mp hid⟩
  · rintro ⟨id, hlookup⟩
    exact List.mem_map.mpr ⟨⟨id, endpoint⟩, KeyedTable.mem_entries_iff.mpr hlookup, rfl⟩

/-- The condition on the engine is the one that the requests keep, for an endpoint that is not
of the system. -/
theorem isRouted_iff (hinv : FlowInv state) {endpoint : HttpEndpoint database N} :
    endpoint.isRouted hinv.flowTables.engines = true ↔
      (endpoint.system = false ∧ HasEngine state endpoint) ∨
        (endpoint.system = true ∧ endpoint.engineId = none) := by
  have hengine : ∀ engineId, (hinv.flowTables.engines.any fun engine =>
      engine.id = engineId ∧ engine.tenant = endpoint.tenant ∧ engine.deletedAt = none) = true ↔
        ∃ engine, state.engines.lookup engineId = some engine ∧
          engineIn endpoint.tenant engine = true := by
    intro engineId
    simp only [List.any_eq_true, decide_eq_true_eq, engineIn_iff, ← KeyedTable.mem_entries_iff]
    constructor
    · rintro ⟨engine, hmem, rfl, hin⟩
      obtain ⟨⟨id, row⟩, hrow, rfl⟩ := List.mem_map.mp hmem
      exact ⟨row, hrow, hin⟩
    · rintro ⟨row, hrow, hin⟩
      exact ⟨_, List.mem_map.mpr ⟨_, hrow, rfl⟩, rfl, hin⟩
  unfold FlowRouting.HttpEndpoint.isRouted HasEngine
  cases endpoint.engineId with
  | none =>
      cases endpoint.system with
      | false => simp
      | true => simp
  | some engineId =>
      cases endpoint.system with
      | false => simpa using hengine engineId
      | true => simp

variable [LinearOrder N]

theorem mem_activeEndpoints_iff {tables : FlowTables database N}
    {currentTenant tenant : Option Uuid} {method : String} {isPublic : Bool}
    {endpoint : HttpEndpoint database N} :
    endpoint ∈ FlowRouting.activeEndpoints tables currentTenant tenant method isPublic ↔
      endpoint ∈ tables.endpoints ∧ endpoint.deletedAt = none ∧
        currentTenant.all (· = endpoint.tenant) = true ∧
          endpoint.isRouted tables.engines = true ∧ tenant = some endpoint.tenant ∧
            endpoint.method = method ∧ endpoint.isPublic = isPublic := by
  rw [FlowRouting.activeEndpoints, List.mem_insertionSort, List.mem_filter, decide_eq_true_eq]

/-- The upstream and the secret are those of the engine of the endpoint, or of the system. -/
def ProxiedAs (settings : FlowSettings N) (state : FlowState database N)
    (endpoint : HttpEndpoint database N) (upstream secret : String) : Prop :=
  (endpoint.system = true ∧ upstream = settings.flowUpstreamImpl ∧
      secret = settings.flowSystemSecret) ∨
    ∃ engineId engine, endpoint.engineId = some engineId ∧
      state.engines.lookup engineId = some engine ∧ engineIn endpoint.tenant engine = true ∧
        upstream = engine.upstream ∧ secret = engine.secret

omit [LinearOrder N] in
theorem engineProp_of_isRouted {settings : FlowSettings N} (hinv : FlowInv state)
    {endpoint : HttpEndpoint database N}
    (hrouted : endpoint.isRouted hinv.flowTables.engines = true) {hasUser : Bool}
    (huser : endpoint.isPublic = false → hasUser = true) :
    ∃ upstream secret, ProxiedAs settings state endpoint upstream secret ∧
      getUpstream settings state hasUser true endpoint = .ok upstream ∧
        engineProp state hasUser true EngineRow.secret settings.flowSystemSecret endpoint =
          .ok secret := by
  obtain ⟨hsystem, engineId, hid, engine, hlookup, hin⟩ | ⟨hsystem, hid⟩ :=
    (isRouted_iff hinv).mp hrouted
  · obtain ⟨htenant, hliving⟩ := engineIn_iff.mp hin
    refine ⟨engine.upstream, engine.secret,
      .inr ⟨engineId, engine, hid, hlookup, hin, rfl, rfl⟩, ?_, ?_⟩
    · simp [getUpstream, engineProp, hid, hlookup, htenant, hliving]
    · simp [engineProp, hid, hlookup, htenant, hliving]
  · refine ⟨settings.flowUpstreamImpl, settings.flowSystemSecret,
      .inl ⟨hsystem, rfl, rfl⟩, ?_, ?_⟩
    · cases hpublic : endpoint.isPublic with
      | true => simp [getUpstream, engineProp, hid, hsystem, hpublic]
      | false => simp [getUpstream, engineProp, hid, hsystem, hpublic, huser hpublic]
    · cases hpublic : endpoint.isPublic with
      | true => simp [engineProp, hid, hsystem, hpublic]
      | false => simp [engineProp, hid, hsystem, hpublic, huser hpublic]

omit [LinearOrder N] in
theorem secret_ne_of_proxiedAs {settings : FlowSettings N}
    (hsystem : settings.flowSystemSecret ≠ "") (hinv : FlowInv state)
    {endpoint : HttpEndpoint database N} {upstream secret : String}
    (hproxied : ProxiedAs settings state endpoint upstream secret) : secret ≠ "" := by
  obtain ⟨-, -, rfl⟩ | ⟨engineId, engine, -, hlookup, -, -, rfl⟩ := hproxied
  · exact hsystem
  · exact hinv.secret_ne hlookup

omit [LinearOrder N] in
/-- A routed endpoint is asked with a user, unless it is public. -/
theorem proxiedTo_of_isRouted {settings : FlowSettings N}
    (hsystem : settings.flowSystemSecret ≠ "") (hinv : FlowInv state)
    {endpoint : HttpEndpoint database N}
    (hrouted : endpoint.isRouted hinv.flowTables.engines = true) {U : Type} {view : FlowView}
    {currentTenant : Option Uuid} {request : FlowRequest U}
    (hpublic : endpoint.isPublic = true ↔ view = .publicImpl)
    (hasked : view = .impl → currentTenant.isSome = true ∧ request.user.isSome = true) :
    ∃ upstream secret,
      proxiedTo settings state view currentTenant request endpoint = .ok (upstream, secret) ∧
        secret ≠ "" ∧ ProxiedAs settings state endpoint upstream secret := by
  have hfound : ∀ hasUser, (endpoint.isPublic = false → hasUser = true) →
      ∃ upstream secret, secret ≠ "" ∧ ProxiedAs settings state endpoint upstream secret ∧
        getUpstream settings state hasUser true endpoint = .ok upstream ∧
          getSecret settings state hasUser true endpoint = .ok secret := by
    intro hasUser huser
    obtain ⟨upstream, secret, hproxied, hupstream, hsecret⟩ :=
      engineProp_of_isRouted hinv hrouted huser
    have hne := secret_ne_of_proxiedAs hsystem hinv hproxied
    refine ⟨upstream, secret, hne, hproxied, hupstream, ?_⟩
    simp [getSecret, hsecret, hne, bind, Except.bind, pure, Except.pure]
  cases view with
  | impl =>
      obtain ⟨hcurrent, huser⟩ := hasked rfl
      obtain ⟨upstream, secret, hne, hproxied, hupstream, hsecret⟩ := hfound true fun _ => rfl
      refine ⟨upstream, secret, ?_, hne, hproxied⟩
      simp [proxiedTo, hcurrent, huser, hupstream, hsecret, bind, Except.bind, pure,
        Except.pure]
  | publicImpl =>
      obtain ⟨upstream, secret, hne, hproxied, hupstream, hsecret⟩ :=
        hfound false fun hprivate => absurd (hpublic.mpr rfl) (by rw [hprivate]; decide)
      refine ⟨upstream, secret, ?_, hne, hproxied⟩
      simp [proxiedTo, hupstream, hsecret, bind, Except.bind, pure, Except.pure]

variable {U G C : Type} [DecidableEq U] [DecidableEq G]

/-- The tenant that a request is for. -/
def tenantFor (site : FlowSite database U G C N) (view : FlowView) (request : FlowRequest U) :
    Option Uuid :=
  match view with
  | .impl => site.currentTenant
  | .publicImpl =>
      match request.publicTarget.map
          fun target => FlowRouting.tenantsNamed site.tables target.1 with
      | some [tenant] => some tenant.id
      | _ => none

def isPublicView : FlowView → Bool
  | .impl => false
  | .publicImpl => true

/-- An endpoint that a view finds is an active one of the tenant. -/
theorem active_of_usable {site : FlowSite database U G C N} {view : FlowView}
    {request : FlowRequest U} {endpoint : HttpEndpoint database N}
    (husable : endpoint ∈ view.usable site request) :
    ∃ method, endpoint ∈ FlowRouting.activeEndpoints site.tables site.currentTenant
        (tenantFor site view request) method (isPublicView view) ∧
      (view = .impl → request.user.isSome = true) := by
  cases view with
  | impl =>
      rw [FlowRouting.FlowView.usable] at husable
      split at husable
      · next endpoints hendpoints =>
          obtain ⟨method, -, hendpoints⟩ := Option.map_eq_some_iff.mp hendpoints
          refine ⟨method, (FlowRouting.endpointsOfUser_sublist hendpoints).subset husable,
            fun _ => ?_⟩
          cases huser : request.user with
          | some user => rfl
          | none =>
              rw [huser] at hendpoints
              cases hendpoints
              cases husable
      · cases husable
  | publicImpl =>
      rw [FlowRouting.FlowView.usable] at husable
      split at husable
      · next name path method htarget hmethod =>
          rw [FlowRouting.publicEndpoints] at husable
          split at husable
          · next tenant htenant =>
              have hactive : endpoint ∈ FlowRouting.activeEndpoints site.tables site.currentTenant
                  (tenantFor site .publicImpl request) method true := by
                rw [tenantFor, htarget, Option.map_some, htenant]
                exact husable
              refine ⟨method, hactive, fun hview => ?_⟩
              cases hview
          · cases husable
      · cases husable

/-- A request is routed to a living endpoint of the tenant that it is for, and it is given an
upstream and a secret that is not empty. -/
structure Served (settings : FlowSettings N) (state : FlowState database N)
    (site : FlowSite database U G C N) (view : FlowView) (request : FlowRequest U)
    (endpoint : HttpEndpoint database N) : Prop where
  stored : ∃ id, state.endpoints.lookup id = some endpoint
  living : endpoint.deletedAt = none
  tenant_eq : tenantFor site view request = some endpoint.tenant
  public_iff : endpoint.isPublic = true ↔ view = .publicImpl
  proxied : ∃ upstream secret,
    proxiedTo settings state view site.currentTenant request endpoint = .ok (upstream, secret) ∧
      secret ≠ "" ∧ ProxiedAs settings state endpoint upstream secret

theorem served_of_usable {settings : FlowSettings N} (hsecret : settings.flowSystemSecret ≠ "")
    (hinv : FlowInv state) {site : FlowSite database U G C N}
    (hsite : site.tables = hinv.flowTables)
    {view : FlowView} {request : FlowRequest U} {endpoint : HttpEndpoint database N}
    (husable : endpoint ∈ view.usable site request) :
    Served settings state site view request endpoint := by
  obtain ⟨method, hactive, huser⟩ := active_of_usable husable
  obtain ⟨hmem, hliving, -, hrouted, htenant, -, hview⟩ := mem_activeEndpoints_iff.mp hactive
  rw [hsite] at hmem hrouted
  have hpublic : endpoint.isPublic = true ↔ view = .publicImpl := by
    rw [hview]
    cases view with
    | impl => simp [isPublicView]
    | publicImpl => simp [isPublicView]
  refine ⟨(mem_endpoints_iff hinv).mp hmem, hliving, htenant, hpublic,
    proxiedTo_of_isRouted hsecret hinv hrouted hpublic ?_⟩
  rintro rfl
  have hcurrent : site.currentTenant = some endpoint.tenant := htenant
  exact ⟨by rw [hcurrent]; rfl, huser rfl⟩

/-- In every state that requests reach, the endpoints that are not deleted are routed, unless they
are of the system, and whatever a request is routed to can be served. -/
theorem routed_requests_are_served [DecidableEq N] (settings : FlowSettings N)
    (hsecret : settings.flowSystemSecret ≠ "") (hinv : FlowInv state)
    (requests : List (FlowApiRequest N)) :
    ∃ hreached : FlowInv (run (flowStep settings) state requests),
      (∀ endpoint ∈ hreached.flowTables.endpoints, endpoint.deletedAt = none →
        endpoint.system = false →
          endpoint ∈ FlowRouting.activeEndpoints hreached.flowTables (some endpoint.tenant)
            (some endpoint.tenant) endpoint.method endpoint.isPublic) ∧
      ∀ site : FlowSite database U G C N, site.tables = hreached.flowTables →
        ∀ (view : FlowView) (request : FlowRequest U),
          ∀ routed ∈ routedTo (view.answer site request),
            Served settings (run (flowStep settings) state requests) site view request
              routed.1 := by
  have hreached : FlowInv (run (flowStep settings) state requests) :=
    run_keeps FlowInv (fun _ _ hinv => flowStep_keeps_inv hinv) hinv requests
  refine ⟨hreached, ?_, ?_⟩
  · intro endpoint hmem hliving hsystem
    obtain ⟨id, hlookup⟩ := (mem_endpoints_iff hreached).mp hmem
    have hhas := hreached.hasEngine hlookup hliving hsystem
    exact mem_activeEndpoints_iff.mpr ⟨hmem, hliving, by simp,
      (isRouted_iff hreached).mpr (.inl ⟨hsystem, hhas⟩), rfl, rfl, rfl⟩
  · intro site hsite view request routed hrouted
    rw [FlowRouting.routedTo_answer, Option.mem_def] at hrouted
    obtain ⟨uri, -, hrouted⟩ := Option.bind_eq_some_iff.mp hrouted
    obtain ⟨endpoint, hfound, rfl⟩ := Option.map_eq_some_iff.mp hrouted
    exact served_of_usable hsecret hreached hsite (FlowRouting.mem_of_firstMatch hfound).1

end Routing

namespace FlowWitness

open FlowRouting.RoutingWitness (asciiDatabase)

def generated : GeneratedSecret where
  text := String.ofList (List.replicate 64 'x')
  length_eq := by decide +kernel

def settings : FlowSettings Nat where
  text externalId := Nat.toDigits 10 externalId
  urlValidator upstream := upstream.toList.take 4 = ['h', 't', 't', 'p']
  validatePassword secret := 12 ≤ secret.length
  flowUpstreamImpl := "http://system"
  flowSystemSecret := "system secret"

/-- A tenant without engines. -/
def state : FlowState asciiDatabase Nat where
  tenants := [⟨"bakery", "bakery".toList, none⟩]
  engines := ∅
  endpoints := ∅

def asks (action : FlowAction Nat) : FlowApiRequest Nat :=
  ⟨"bakery", 7, generated, true, fun _ => true, fun _ => true, action⟩

/-- An endpoint changes its engine before the first one is destroyed. -/
def requests : List (FlowApiRequest Nat) :=
  [asks (.createEngine "first" (some 1) (some "http://first")),
    asks (.createEngine "second" (some 2) (some "http://second")),
    asks (.createEndpoint "cakes"
      ⟨some "first", some 11, some "/api/flow/impl/cakes".toList, some "GET", some true⟩),
    asks (.updateEndpoint "cakes" true ⟨some "second", none, none, none, none⟩),
    asks (.destroyEngine "first" true)]

theorem inv_state : FlowInv state := by
  constructor
  · intro id endpoint hlookup
    cases hlookup
  · intro id engine hlookup
    cases hlookup
  · intro id endpoint hlookup
    cases hlookup
  · intro id endpoint other another hlookup
    cases hlookup

theorem inv_reached : FlowInv (run (flowStep settings) state requests) :=
  run_keeps FlowInv (fun _ _ hinv => flowStep_keeps_inv hinv) inv_state requests

def site : FlowSite asciiDatabase Nat Nat Unit Nat :=
  { FlowRouting.RoutingWitness.site with
    tables := inv_reached.flowTables
    currentTenant := none }

def request : FlowRequest Nat where
  user := none
  originalUri := some ⟨"/api/flow/public/impl/bakery/cakes".toList, by decide⟩
  originalMethod := some "GET"

theorem cakes_are_served :
    ∃ routed ∈ routedTo (FlowView.publicImpl.answer site request), routed.1.id = "cakes" ∧
      Served settings (run (flowStep settings) state requests) site .publicImpl request
        routed.1 := by
  have hrouted : (routedTo (FlowView.publicImpl.answer site request)).map
      (fun routed => routed.1.id) = some "cakes" := by decide +kernel
  obtain ⟨routed, hrouted, hid⟩ := Option.map_eq_some_iff.mp hrouted
  obtain ⟨_, _, hserved⟩ := routed_requests_are_served (U := Nat) (G := Nat) (C := Unit) settings
    (by decide) inv_state requests
  exact ⟨routed, hrouted, hid, hserved site rfl .publicImpl request routed hrouted⟩

end FlowWitness

end FlowLifecycle

end NFCompose
