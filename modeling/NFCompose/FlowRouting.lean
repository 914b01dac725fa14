/-
Routing of requests to http endpoints.  The pattern of an endpoint is anchored in its text, and
it is matched against the path that is read from the forwarded uri.
-/
import Mathlib.Data.List.Sort
import Mathlib.Data.Prod.Lex
import NFCompose.ObjectAccess
import NFCompose.RegexAnchors
import NFCompose.UrlParts

namespace NFCompose

namespace FlowRouting

open PythonRe (CharacterDatabase Compiled anchored compile)

def httpMethods : List String := ["GET", "POST", "PUT", "PATCH", "DELETE", "HEAD"]

/-- `validate_path` -/
def validatePath (database : CharacterDatabase) (path : List Char) : Bool :=
  (compile database path).isSome

/-- External ids are compared as the database compares them. -/
structure HttpEndpoint (database : CharacterDatabase) (N : Type) where
  id : Uuid
  externalId : N
  tenant : Uuid
  path : List Char
  method : String
  isPublic : Bool
  engineId : Option Uuid
  system : Bool
  deletedAt : Option Nat
  path_valid : validatePath database path = true
  method_mem : method ∈ httpMethods
deriving DecidableEq

structure Engine where
  id : Uuid
  tenant : Uuid
  deletedAt : Option Nat

structure Tenant where
  id : Uuid
  name : List Char
  deletedAt : Option Nat

/-- External ids are unique among the endpoints of a tenant that are not deleted. -/
structure FlowTables (database : CharacterDatabase) (N : Type) where
  tenants : List Tenant
  engines : List Engine
  endpoints : List (HttpEndpoint database N)
  unique_externalId : ∀ endpoint ∈ endpoints, ∀ other ∈ endpoints,
    endpoint.deletedAt = none → other.deletedAt = none → endpoint.tenant = other.tenant →
      endpoint.externalId = other.externalId → endpoint = other

section Endpoints

variable {database : CharacterDatabase} {N : Type} [LinearOrder N]

/-- The ordering by `system` and `external_id`. -/
def HttpEndpoint.orderKey (endpoint : HttpEndpoint database N) : Bool ×ₗ N :=
  toLex (endpoint.system, endpoint.externalId)

/-- The condition on the engine: one that is there and not deleted, or none for the endpoints
of the system. -/
def HttpEndpoint.isRouted (engines : List Engine) (endpoint : HttpEndpoint database N) : Bool :=
  match endpoint.engineId, endpoint.system with
  | some engineId, false => engines.any fun engine =>
      engine.id = engineId ∧ engine.tenant = endpoint.tenant ∧ engine.deletedAt = none
  | none, true => true
  | _, _ => false

/-- `active_endpoints`.  The manager only sees the current tenant, if there is one. -/
def activeEndpoints (tables : FlowTables database N) (currentTenant tenant : Option Uuid)
    (method : String) (isPublic : Bool) : List (HttpEndpoint database N) :=
  (tables.endpoints.filter fun endpoint =>
    endpoint.deletedAt = none ∧ currentTenant.all (· = endpoint.tenant) ∧
      endpoint.isRouted tables.engines ∧ tenant = some endpoint.tenant ∧
        endpoint.method = method ∧ endpoint.isPublic = isPublic).insertionSort
    fun endpoint other => endpoint.orderKey ≤ other.orderKey

end Endpoints

section Views

/-- A value of a header, which is a single line. -/
structure HeaderText where
  text : List Char
  one_line : '\n' ∉ text

/-- A request without a user is anonymous. -/
structure FlowRequest (U : Type) where
  user : Option U
  originalUri : Option HeaderText
  originalMethod : Option String

inductive FlowError where
  | permission (error : PermissionError)
  /-- The `ValueError` of `urlparse`. -/
  | invalidUri
  /-- The `re.error` of a pattern between anchors. -/
  | invalidPattern

/-- The answers with the headers for the proxy. -/
inductive FlowAnswer (database : CharacterDatabase) (N : Type) where
  | forbidden
  | options
  | routed (endpoint : HttpEndpoint database N) (flowpath : List Char)

/-- The views: the authenticated and the public one. -/
inductive FlowView where
  | impl
  | publicImpl

def outsideBasePath : List Char := "/api/flow/impl".toList

def flowBasePath : List Char := "/api/flow/impl".toList

def basePathPublic : List Char := "/api/flow/public/impl/".toList

/-- `replace_pattern.sub` on a single line. -/
def replaceBasePath (basePath uri : List Char) : List Char :=
  match uri.dropPrefix? "/api/flow/impl".toList with
  | some rest => basePath ++ rest
  | none => uri

def isTenantChar (c : Char) : Bool :=
  PythonRe.isAsciiLetter c || PythonRe.isDigit c || c = '_' || c = '-'

/-- `replace_pattern_public.match`: the tenant and what follows it. -/
def matchPublic (uri : List Char) : Option (List Char × List Char) :=
  match uri.dropPrefix? basePathPublic with
  | none => none
  | some rest =>
      match rest.dropWhile isTenantChar with
      | '/' :: path =>
          let tenant := rest.takeWhile isTenantChar
          if tenant = [] then none else some (tenant, path)
      | _ => none

def pathFromUri (accepts : List Char → Bool) (uri : List Char) : Option (List Char) :=
  (UrlParts.urlparse accepts uri).map UrlParts.ParseResult.path

variable {database : CharacterDatabase} {N : Type} [LinearOrder N]

/-- The loop over the endpoints, which ends with the first match. -/
def firstMatch (accepts : List Char → Bool) (uri : List Char) :
    List (HttpEndpoint database N) → Except FlowError (Option (HttpEndpoint database N))
  | [] => .ok none
  | endpoint :: endpoints =>
      match pathFromUri accepts uri with
      | none => .error .invalidUri
      | some path =>
          match compile database (anchored endpoint.path) with
          | none => .error .invalidPattern
          | some pattern =>
              if pattern.matches database path then .ok (some endpoint)
              else firstMatch accepts uri endpoints

variable {U G C : Type} [DecidableEq U] [DecidableEq G]

/-- What the views read.  `accepts` says which network locations `urlparse` accepts. -/
structure FlowSite (database : CharacterDatabase) (U G C N : Type) where
  accepts : List Char → Bool
  directory : ObjectAccess.UserDirectory U G (HttpEndpoint database N)
  permissions : ObjectAccess.PermissionTables U G C Uuid
  contentType : C
  tables : FlowTables database N
  currentTenant : Option Uuid

/-- The permission that is needed on an endpoint. -/
def useQuery : ObjectAccess.AccessQuery where
  perms := ["flow.use"]
  withStaff := false
  appLabel := "flow"
  useGroups := true
  anyPerm := false
  withSuperuser := true
  withTenantManager := true
  acceptGlobalPerms := false

variable (site : FlowSite database U G C N)

def endpointModel : ObjectAccess.QueriedModel (HttpEndpoint database N) C Uuid :=
  ⟨site.contentType, HttpEndpoint.id⟩

/-- The endpoints in `can_use_endpoint_impl`: none for anonymous users and for those without a
global permission. -/
def endpointsOfUser (tenant : Option Uuid) (user : Option U) (method : String) :
    Except PermissionError (List (HttpEndpoint database N)) :=
  match user with
  | none => .ok []
  | some user =>
      if ObjectAccess.hasPerm site.directory user "flow.use" ||
          ObjectAccess.hasPerm site.directory user "flow.impl" then
        ObjectAccess.getObjectsForUserCustom site.directory site.permissions (endpointModel site)
          useQuery (some user) site.currentTenant
          (activeEndpoints site.tables site.currentTenant tenant method false)
      else .ok []

def canUseEndpointImpl (tenant : Option Uuid) (user : Option U) (uri : List Char)
    (method : String) : Except FlowError (Option (HttpEndpoint database N)) :=
  match endpointsOfUser site tenant user method with
  | .error error => .error (.permission error)
  | .ok endpoints => firstMatch site.accepts uri endpoints

def canUseEndpointPublicImpl (tenant : Uuid) (uri : List Char) (method : String) :
    Except FlowError (Option (HttpEndpoint database N)) :=
  firstMatch site.accepts uri
    (activeEndpoints site.tables site.currentTenant (some tenant) method true)

/-- The answer for an endpoint that has been found, or not. -/
def answerWith (flowpath : List Char) : Option (HttpEndpoint database N) → FlowAnswer database N
  | some endpoint => .routed endpoint flowpath
  | none => .forbidden

def flowImplView (request : FlowRequest U) : Except FlowError (FlowAnswer database N) :=
  match request.originalUri, request.originalMethod with
  | some uri, some method =>
      if method = "OPTIONS" then .ok .options
      else
        (canUseEndpointImpl site site.currentTenant request.user uri.text method).map
          (answerWith (replaceBasePath flowBasePath uri.text))
  | _, _ => .ok .forbidden

/-- The tenants of a name. -/
def tenantsNamed (tables : FlowTables database N) (name : List Char) : List Tenant :=
  tables.tenants.filter fun tenant => tenant.deletedAt = none ∧ tenant.name = name

def flowImplPublicView (request : FlowRequest U) : Except FlowError (FlowAnswer database N) :=
  match request.originalUri, request.originalMethod with
  | some uri, some method =>
      if method = "OPTIONS" then .ok .options
      else
        match matchPublic uri.text with
        | none => .ok .forbidden
        | some (name, path) =>
            match tenantsNamed site.tables name with
            | [tenant] =>
                (canUseEndpointPublicImpl site tenant.id (outsideBasePath ++ '/' :: path)
                  method).map (answerWith (flowBasePath ++ '/' :: path))
            | _ => .ok .forbidden
  | _, _ => .ok .forbidden

def FlowView.answer (view : FlowView) (request : FlowRequest U) :
    Except FlowError (FlowAnswer database N) :=
  match view with
  | .impl => flowImplView site request
  | .publicImpl => flowImplPublicView site request

end Views

section Spec

variable {database : CharacterDatabase} {N : Type} [LinearOrder N]
variable {U G C : Type} [DecidableEq U] [DecidableEq G]
variable (site : FlowSite database U G C N) (view : FlowView) (request : FlowRequest U)

/-- The endpoint that a request is routed to, and the uri that is then forwarded. -/
def routedTo (answer : Except FlowError (FlowAnswer database N)) :
    Option (HttpEndpoint database N × List Char) :=
  match answer with
  | .ok (.routed endpoint flowpath) => some (endpoint, flowpath)
  | _ => none

/-- The pattern of the path of an endpoint. -/
def HttpEndpoint.pattern (endpoint : HttpEndpoint database N) : Compiled :=
  (compile database endpoint.path).get endpoint.path_valid

/-- The pattern matches the whole path of a uri. -/
def HttpEndpoint.matchesPath (uri : List Char) (endpoint : HttpEndpoint database N) : Bool :=
  endpoint.pattern.fullmatches database (uri.takeWhile (· ≠ '?'))

/-- The tenant and the path that a request for the public view is about. -/
def FlowRequest.publicTarget (request : FlowRequest U) : Option (List Char × List Char) :=
  request.originalUri.bind fun uri => matchPublic uri.text

/-- The uri that a view forwards, if there is one. -/
def FlowView.forwardedUri : FlowView → Option (List Char)
  | .impl => request.originalUri.map HeaderText.text
  | .publicImpl => request.publicTarget.map fun target => flowBasePath ++ '/' :: target.2

/-- The public endpoints of a tenant, if there is exactly one tenant of that name. -/
def publicEndpoints (name : List Char) (method : String) : List (HttpEndpoint database N) :=
  match tenantsNamed site.tables name with
  | [tenant] => activeEndpoints site.tables site.currentTenant (some tenant.id) method true
  | _ => []

/-- The endpoints that the caller of a view may use, in their order. -/
def FlowView.usable : FlowView → List (HttpEndpoint database N)
  | .impl =>
      match request.originalMethod.map (endpointsOfUser site site.currentTenant request.user) with
      | some (.ok endpoints) => endpoints
      | _ => []
  | .publicImpl =>
      match request.publicTarget, request.originalMethod with
      | some (name, _), some method => publicEndpoints site name method
      | _, _ => []

/-- The first endpoint, in the order of `system` and `external_id`, that the caller may use and
that matches the whole path of the forwarded uri is the one that the request is routed to. -/
structure RoutesByPath : Prop where
  sound : ∀ routed ∈ routedTo (view.answer site request),
    some routed.2 = view.forwardedUri request ∧ routed.1 ∈ view.usable site request ∧
      routed.1.matchesPath routed.2 ∧
        ∀ endpoint ∈ view.usable site request, endpoint.matchesPath routed.2 →
          routed.1.orderKey ≤ endpoint.orderKey
  complete : ∀ uri ∈ view.forwardedUri request, routedTo (view.answer site request) = none →
    ∀ endpoint ∈ view.usable site request, ¬ endpoint.matchesPath uri

/-- Up to the first endpoint that matches the whole path, a path is read from the uri, no
pattern has global flags, and the branches of the patterns, of which only the last one is
matched against the whole path that is read, agree with the path of the uri. -/
def ReadsPath (accepts : List Char → Bool) (uri : List Char) :
    List (HttpEndpoint database N) → Prop
  | [] => True
  | endpoint :: endpoints =>
      match pathFromUri accepts uri, endpoint.pattern.flags with
      | some path, [] =>
          endpoint.pattern.matchesAnchored database path = endpoint.matchesPath uri ∧
            (endpoint.matchesPath uri ∨ ReadsPath accepts uri endpoints)
      | _, _ => ∀ unmatched ∈ endpoint :: endpoints, ¬ unmatched.matchesPath uri

end Spec

section Matching

variable {database : CharacterDatabase} {N : Type} [LinearOrder N]
variable {accepts : List Char → Bool} {uri : List Char}

omit [LinearOrder N] in
theorem compile_path (endpoint : HttpEndpoint database N) :
    compile database endpoint.path = some endpoint.pattern :=
  (Option.some_get endpoint.path_valid).symm

/-- A path that `urlparse` reads is a single line. -/
theorem one_line_of_pathFromUri {path : List Char} (hpath : pathFromUri accepts uri = some path) :
    '\n' ∉ path := by
  obtain ⟨parts, hparts, rfl⟩ := Option.map_eq_some_iff.mp hpath
  obtain ⟨-, -, rest, hsafe, hrest⟩ := UrlParts.urlparse_eq_some hparts
  intro hbreak
  rw [hrest] at hbreak
  have hmem := UrlParts.mem_of_mem_splitRest (.inl hbreak)
  exact absurd (hsafe _ (List.mem_append_right _ hmem)) (by decide)

omit [LinearOrder N] in
theorem firstMatch_cons (endpoint : HttpEndpoint database N)
    (endpoints : List (HttpEndpoint database N)) {path : List Char}
    (hpath : pathFromUri accepts uri = some path) (hflags : endpoint.pattern.flags = []) :
    firstMatch accepts uri (endpoint :: endpoints) =
      if endpoint.pattern.matchesAnchored database path then .ok (some endpoint)
      else firstMatch accepts uri endpoints := by
  obtain ⟨between, hbetween, hmatches⟩ := PythonRe.matches_anchored
    (one_line_of_pathFromUri hpath) (compile_path endpoint) hflags
  rw [firstMatch, hpath]
  simp only [hbetween, hmatches]

omit [LinearOrder N] in
/-- A uri that cannot be read, or global flags, end the loop with an error. -/
theorem firstMatch_error (endpoint : HttpEndpoint database N)
    (endpoints : List (HttpEndpoint database N))
    (herror : pathFromUri accepts uri = none ∨ endpoint.pattern.flags ≠ []) :
    (firstMatch accepts uri (endpoint :: endpoints)).toOption.join = none := by
  rw [firstMatch]
  split
  · rfl
  · next path hpath =>
      have hflags := herror.resolve_left (by rw [hpath]; exact Option.some_ne_none _)
      rw [PythonRe.compile_anchored_none (compile_path endpoint) hflags]
      rfl

omit [LinearOrder N] in
theorem mem_of_firstMatch {endpoints : List (HttpEndpoint database N)}
    {endpoint : HttpEndpoint database N}
    (hfound : (firstMatch accepts uri endpoints).toOption.join = some endpoint) :
    endpoint ∈ endpoints ∧ ∃ path, pathFromUri accepts uri = some path ∧
      endpoint.pattern.matchesAnchored database path = true := by
  induction endpoints with
  | nil => cases hfound
  | cons first endpoints ih =>
      by_cases herror : pathFromUri accepts uri = none ∨ first.pattern.flags ≠ []
      · rw [firstMatch_error first endpoints herror] at hfound
        cases hfound
      · rw [not_or, not_not] at herror
        obtain ⟨hsome, hflags⟩ := herror
        obtain ⟨path, hpath⟩ := Option.ne_none_iff_exists'.mp hsome
        rw [firstMatch_cons first endpoints hpath hflags] at hfound
        split at hfound
        · next hmatches =>
            cases hfound
            exact ⟨List.mem_cons_self, path, hpath, hmatches⟩
        · obtain ⟨hmem, hread⟩ := ih hfound
          exact ⟨List.mem_cons_of_mem _ hmem, hread⟩

omit [LinearOrder N] in
/-- The loop finds the first endpoint that matches the whole path exactly when the patterns
read it as it is. -/
theorem firstMatch_eq_find_iff (endpoints : List (HttpEndpoint database N)) :
    (firstMatch accepts uri endpoints).toOption.join =
        endpoints.find? (HttpEndpoint.matchesPath uri) ↔
      ReadsPath accepts uri endpoints := by
  induction endpoints with
  | nil => exact ⟨fun _ => trivial, fun _ => rfl⟩
  | cons endpoint endpoints ih =>
      by_cases herror : pathFromUri accepts uri = none ∨ endpoint.pattern.flags ≠ []
      · rw [firstMatch_error endpoint endpoints herror, eq_comm, List.find?_eq_none, ReadsPath]
        split
        · next path hpath hflags =>
            rcases herror with hnone | hsome
            · rw [hpath] at hnone
              cases hnone
            · exact absurd hflags hsome
        · exact Iff.rfl
      · rw [not_or, not_not] at herror
        obtain ⟨hsome, hflags⟩ := herror
        obtain ⟨path, hpath⟩ := Option.ne_none_iff_exists'.mp hsome
        rw [firstMatch_cons endpoint endpoints hpath hflags, ReadsPath, hpath, hflags,
          List.find?_cons]
        cases hread : endpoint.pattern.matchesAnchored database path with
        | true =>
            cases hwhole : endpoint.matchesPath uri with
            | true => exact ⟨fun _ => ⟨hread, .inl rfl⟩, fun _ => rfl⟩
            | false =>
                constructor
                · intro hfound
                  have hother := List.find?_some hfound.symm
                  rw [hwhole] at hother
                  cases hother
                · rintro ⟨hsame, -⟩
                  rw [hread] at hsame
                  cases hsame
        | false =>
            cases hwhole : endpoint.matchesPath uri with
            | true =>
                constructor
                · intro hfound
                  obtain ⟨-, other, hother, hmatches⟩ := mem_of_firstMatch hfound
                  rw [hpath] at hother
                  cases hother
                  rw [hread] at hmatches
                  cases hmatches
                · rintro ⟨hsame, -⟩
                  rw [hread] at hsame
                  cases hsame
            | false =>
                refine ih.trans ⟨fun hreads => ⟨hread, .inr hreads⟩, ?_⟩
                rintro ⟨-, hwhole | hreads⟩
                · cases hwhole
                · exact hreads

/-- A pattern without global flags of which each branch, the last one apart, matches no
beginning of a path that is not matched as a whole. -/
structure HttpEndpoint.ReadsWhole (uri : List Char) (endpoint : HttpEndpoint database N) :
    Prop where
  no_flags : endpoint.pattern.flags = []
  early : ∀ items ∈ endpoint.pattern.branches.dropLast,
    PythonRe.branchResults database (uri.takeWhile (· ≠ '?')) endpoint.pattern.flags items ≠ [] →
      endpoint.matchesPath uri = true

omit [LinearOrder N] in
/-- On a rooted uri, what is read is the path of the uri. -/
theorem readsPath_of_isRooted (huri : UrlParts.IsRooted uri)
    {endpoints : List (HttpEndpoint database N)}
    (hendpoints : ∀ endpoint ∈ endpoints, endpoint.ReadsWhole uri) :
    ReadsPath accepts uri endpoints := by
  induction endpoints with
  | nil => trivial
  | cons endpoint endpoints ih =>
      obtain ⟨hendpoint, hmore⟩ := List.forall_mem_cons.mp hendpoints
      have hpath : pathFromUri accepts uri = some (uri.takeWhile (· ≠ '?')) :=
        UrlParts.urlparse_of_isRooted accepts huri
      rw [ReadsPath, hpath, hendpoint.no_flags]
      exact ⟨PythonRe.matchesAnchored_eq_iff.mpr hendpoint.early, .inr (ih hmore)⟩

omit [LinearOrder N] in
theorem readsWhole_of_single {endpoint : HttpEndpoint database N} {items : List PythonRe.Pattern}
    (hflags : endpoint.pattern.flags = []) (hsingle : endpoint.pattern.branches = [items]) :
    endpoint.ReadsWhole uri :=
  ⟨hflags, PythonRe.matchesAnchored_eq_iff.mp (PythonRe.matchesAnchored_single hsingle)⟩

end Matching

section Order

variable {database : CharacterDatabase} {N : Type} [LinearOrder N]
variable {U G C : Type} [DecidableEq U] [DecidableEq G]
variable {site : FlowSite database U G C N}

theorem mem_activeEndpoints {tables : FlowTables database N} {currentTenant tenant : Option Uuid}
    {method : String} {isPublic : Bool} {endpoint : HttpEndpoint database N}
    (hactive : endpoint ∈ activeEndpoints tables currentTenant tenant method isPublic) :
    endpoint ∈ tables.endpoints ∧ endpoint.deletedAt = none ∧ tenant = some endpoint.tenant ∧
      endpoint.method = method := by
  rw [activeEndpoints, List.mem_insertionSort, List.mem_filter, decide_eq_true_eq] at hactive
  obtain ⟨hmem, hdeleted, -, -, htenant, hmethod, -⟩ := hactive
  exact ⟨hmem, hdeleted, htenant, hmethod⟩

/-- The order of the active endpoints is strict, as their external ids are different. -/
theorem orderKey_injOn {tables : FlowTables database N} {currentTenant tenant : Option Uuid}
    {method : String} {isPublic : Bool} {endpoint other : HttpEndpoint database N}
    (hendpoint : endpoint ∈ activeEndpoints tables currentTenant tenant method isPublic)
    (hother : other ∈ activeEndpoints tables currentTenant tenant method isPublic)
    (hkey : endpoint.orderKey = other.orderKey) : endpoint = other := by
  obtain ⟨hmem, hdeleted, htenant, -⟩ := mem_activeEndpoints hendpoint
  obtain ⟨hmem', hdeleted', htenant', -⟩ := mem_activeEndpoints hother
  have hsame : endpoint.tenant = other.tenant := Option.some.inj (htenant.symm.trans htenant')
  have hexternal : endpoint.externalId = other.externalId :=
    (Prod.ext_iff.mp (toLex.injective hkey)).2
  exact tables.unique_externalId endpoint hmem other hmem' hdeleted hdeleted' hsame hexternal

theorem pairwise_activeEndpoints (tables : FlowTables database N)
    (currentTenant tenant : Option Uuid) (method : String) (isPublic : Bool) :
    (activeEndpoints tables currentTenant tenant method isPublic).Pairwise
      fun endpoint other => endpoint.orderKey ≤ other.orderKey := by
  have htotal : Std.Total fun endpoint other : HttpEndpoint database N =>
      endpoint.orderKey ≤ other.orderKey := ⟨fun endpoint other => le_total _ _⟩
  have htrans : IsTrans (HttpEndpoint database N) fun endpoint other =>
      endpoint.orderKey ≤ other.orderKey := ⟨fun _ _ _ => le_trans⟩
  exact List.pairwise_insertionSort _ _

/-- No endpoint may have this method, so a request with it finds none. -/
theorem activeEndpoints_options (tables : FlowTables database N)
    (currentTenant tenant : Option Uuid) (isPublic : Bool) :
    activeEndpoints tables currentTenant tenant "OPTIONS" isPublic = [] := by
  refine List.eq_nil_iff_forall_not_mem.mpr fun endpoint hactive => ?_
  have hmethod := endpoint.method_mem
  rw [(mem_activeEndpoints hactive).2.2.2] at hmethod
  exact absurd hmethod (by decide)

/-- Endpoints of a user are active endpoints, in their order. -/
theorem endpointsOfUser_sublist {tenant : Option Uuid} {user : Option U} {method : String}
    {endpoints : List (HttpEndpoint database N)}
    (hendpoints : endpointsOfUser site tenant user method = .ok endpoints) :
    endpoints.Sublist (activeEndpoints site.tables site.currentTenant tenant method false) := by
  rw [endpointsOfUser.eq_def] at hendpoints
  split at hendpoints
  · cases hendpoints
    exact List.nil_sublist _
  · split at hendpoints
    · exact ObjectAccess.getObjectsForUserCustom_sublist hendpoints
    · cases hendpoints
      exact List.nil_sublist _

/-- Endpoints in the order of their keys, of which no two are the same. -/
def Ordered (endpoints : List (HttpEndpoint database N)) : Prop :=
  endpoints.Pairwise (fun endpoint other => endpoint.orderKey ≤ other.orderKey) ∧
    ∀ endpoint ∈ endpoints, ∀ other ∈ endpoints, endpoint.orderKey = other.orderKey →
      endpoint = other

theorem Ordered.sublist {endpoints more : List (HttpEndpoint database N)} (hmore : Ordered more)
    (hsublist : endpoints.Sublist more) : Ordered endpoints :=
  ⟨hmore.1.sublist hsublist, fun endpoint hendpoint other hother =>
    hmore.2 endpoint (hsublist.subset hendpoint) other (hsublist.subset hother)⟩

theorem ordered_activeEndpoints (tables : FlowTables database N)
    (currentTenant tenant : Option Uuid) (method : String) (isPublic : Bool) :
    Ordered (activeEndpoints tables currentTenant tenant method isPublic) :=
  ⟨pairwise_activeEndpoints tables currentTenant tenant method isPublic,
    fun _ hendpoint _ hother => orderKey_injOn hendpoint hother⟩

/-- In an ordered list, the first match is the least one. -/
theorem find_eq_some_iff {endpoints : List (HttpEndpoint database N)} (hordered : Ordered endpoints)
    {matching : HttpEndpoint database N → Bool} {endpoint : HttpEndpoint database N} :
    endpoints.find? matching = some endpoint ↔
      endpoint ∈ endpoints ∧ matching endpoint = true ∧
        ∀ other ∈ endpoints, matching other → endpoint.orderKey ≤ other.orderKey := by
  have hleast : ∀ {first}, endpoints.find? matching = some first →
      ∀ other ∈ endpoints, matching other → first.orderKey ≤ other.orderKey := by
    intro first hfound other hother hmatching
    obtain ⟨-, front, behind, rfl, hfront⟩ := List.find?_eq_some_iff_append.mp hfound
    rcases List.mem_append.mp hother with hother | hother
    · have hnot := hfront other hother
      rw [hmatching] at hnot
      cases hnot
    · rcases List.mem_cons.mp hother with rfl | hother
      · exact le_refl _
      · exact List.rel_of_pairwise_cons (List.pairwise_append.mp hordered.1).2.1 hother
  constructor
  · intro hfound
    exact ⟨List.mem_of_find?_eq_some hfound, List.find?_some hfound, hleast hfound⟩
  · rintro ⟨hmem, hmatching, hmin⟩
    obtain ⟨first, hfirst⟩ := Option.isSome_iff_exists.mp
      (List.find?_isSome.mpr ⟨endpoint, hmem, hmatching⟩)
    have hkey : first.orderKey = endpoint.orderKey :=
      le_antisymm (hleast hfirst endpoint hmem hmatching)
        (hmin first (List.mem_of_find?_eq_some hfirst) (List.find?_some hfirst))
    rw [hfirst, hordered.2 first (List.mem_of_find?_eq_some hfirst) endpoint hmem hkey]

end Order

section Routing

variable {database : CharacterDatabase} {N : Type} [LinearOrder N]
variable {U G C : Type} [DecidableEq U] [DecidableEq G]
variable (site : FlowSite database U G C N) (view : FlowView) (request : FlowRequest U)

omit [DecidableEq U] [DecidableEq G] in
theorem publicEndpoints_options (name : List Char) : publicEndpoints site name "OPTIONS" = [] := by
  rw [publicEndpoints]
  split
  · exact activeEndpoints_options _ _ _ _
  · rfl

omit [DecidableEq U] [DecidableEq G] in
theorem ordered_publicEndpoints (name : List Char) (method : String) :
    Ordered (publicEndpoints site name method) := by
  rw [publicEndpoints]
  split
  · exact ordered_activeEndpoints _ _ _ _ _
  · exact ⟨List.Pairwise.nil, nofun⟩

theorem replaceBasePath_eq_self (uri : List Char) : replaceBasePath flowBasePath uri = uri := by
  rw [replaceBasePath]
  split
  · next rest hrest =>
      obtain ⟨front, rfl, hfront⟩ := List.dropPrefix?_eq_some_iff.mp hrest
      rw [eq_of_beq hfront]
      rfl
  · rfl

theorem ordered_usable : Ordered (view.usable site request) := by
  have hnil : Ordered ([] : List (HttpEndpoint database N)) := ⟨List.Pairwise.nil, nofun⟩
  cases view with
  | impl =>
      rw [FlowView.usable]
      split
      · next endpoints hendpoints =>
          obtain ⟨method, -, hendpoints⟩ := Option.map_eq_some_iff.mp hendpoints
          exact (ordered_activeEndpoints _ _ _ _ _).sublist (endpointsOfUser_sublist hendpoints)
      · exact hnil
  | publicImpl =>
      rw [FlowView.usable]
      split
      · exact ordered_publicEndpoints site _ _
      · exact hnil

omit [LinearOrder N] in
theorem routedTo_map {found : Except FlowError (Option (HttpEndpoint database N))}
    (flowpath : List Char) : routedTo (found.map (answerWith flowpath)) =
      found.toOption.join.map fun endpoint => (endpoint, flowpath) := by
  rcases found with error | _ | endpoint
  · rfl
  · rfl
  · rfl

/-- The authenticated view routes a request to the endpoint that the loop finds. -/
theorem routedTo_flowImplView : routedTo (flowImplView site request) =
    (FlowView.impl.forwardedUri request).bind fun uri =>
      (firstMatch site.accepts uri (FlowView.impl.usable site request)).toOption.join.map
        fun endpoint => (endpoint, uri) := by
  rw [flowImplView, FlowView.forwardedUri, FlowView.usable]
  cases request.originalUri with
  | none => rfl
  | some uri =>
      cases request.originalMethod with
      | none => rfl
      | some method =>
          rw [Option.map_some, Option.bind_some, Option.map_some]
          by_cases hoptions : method = "OPTIONS"
          · subst hoptions
            cases hendpoints : endpointsOfUser site site.currentTenant request.user "OPTIONS" with
            | error error => rfl
            | ok endpoints =>
                have hsublist := endpointsOfUser_sublist hendpoints
                rw [activeEndpoints_options, List.sublist_nil] at hsublist
                subst hsublist
                rfl
          · simp only [if_neg hoptions, replaceBasePath_eq_self, routedTo_map]
            rw [canUseEndpointImpl]
            cases endpointsOfUser site site.currentTenant request.user method with
            | error error => rfl
            | ok endpoints => rfl

/-- The public view routes a request to the endpoint that the loop finds. -/
theorem routedTo_flowImplPublicView : routedTo (flowImplPublicView site request) =
    (FlowView.publicImpl.forwardedUri request).bind fun uri =>
      (firstMatch site.accepts uri (FlowView.publicImpl.usable site request)).toOption.join.map
        fun endpoint => (endpoint, uri) := by
  rw [flowImplPublicView, FlowView.forwardedUri, FlowView.usable, FlowRequest.publicTarget]
  cases request.originalUri with
  | none => rfl
  | some uri =>
      rw [Option.bind_some]
      cases request.originalMethod with
      | none =>
          cases matchPublic uri.text with
          | none => rfl
          | some target => rfl
      | some method =>
          by_cases hoptions : method = "OPTIONS"
          · subst hoptions
            cases matchPublic uri.text with
            | none => rfl
            | some target =>
                simp only [publicEndpoints_options]
                rfl
          · simp only [if_neg hoptions]
            rcases matchPublic uri.text with _ | ⟨name, path⟩
            · rfl
            · rw [Option.map_some, Option.bind_some]
              simp only [publicEndpoints]
              rcases tenantsNamed site.tables name with _ | ⟨tenant, _ | _⟩
              · rfl
              · exact routedTo_map _
              · rfl

/-- A request is routed to the endpoint that the loop finds. -/
theorem routedTo_answer : routedTo (view.answer site request) =
    (view.forwardedUri request).bind fun uri =>
      (firstMatch site.accepts uri (view.usable site request)).toOption.join.map
        fun endpoint => (endpoint, uri) := by
  cases view with
  | impl => exact routedTo_flowImplView site request
  | publicImpl => exact routedTo_flowImplPublicView site request

theorem routesByPath_iff_find : RoutesByPath site view request ↔
    ∀ uri ∈ view.forwardedUri request,
      (firstMatch site.accepts uri (view.usable site request)).toOption.join =
        (view.usable site request).find? (HttpEndpoint.matchesPath uri) := by
  have hordered := ordered_usable site view request
  constructor
  · rintro ⟨hsound, hcomplete⟩ uri huri
    rw [routedTo_answer, Option.mem_def.mp huri, Option.bind_some] at hsound hcomplete
    cases hfound : (firstMatch site.accepts uri (view.usable site request)).toOption.join with
    | none =>
        rw [hfound] at hcomplete
        exact (List.find?_eq_none.mpr (hcomplete uri rfl rfl)).symm
    | some endpoint =>
        rw [hfound] at hsound
        obtain ⟨-, hmem, hmatches, hleast⟩ := hsound (endpoint, uri) rfl
        exact ((find_eq_some_iff hordered).mpr ⟨hmem, hmatches, hleast⟩).symm
  · intro hfind
    constructor
    · intro routed hrouted
      rw [routedTo_answer, Option.mem_def] at hrouted
      obtain ⟨uri, huri, hrouted⟩ := Option.bind_eq_some_iff.mp hrouted
      obtain ⟨endpoint, hfound, rfl⟩ := Option.map_eq_some_iff.mp hrouted
      rw [hfind uri huri] at hfound
      exact ⟨huri.symm, (find_eq_some_iff hordered).mp hfound⟩
    · intro uri huri hnone
      rw [routedTo_answer, Option.mem_def.mp huri, Option.bind_some, Option.map_eq_none_iff,
        hfind uri huri] at hnone
      exact List.find?_eq_none.mp hnone

/-- Requests are routed by whole paths exactly when the patterns of the endpoints read the
forwarded uri as it is. -/
theorem routesByPath_iff : RoutesByPath site view request ↔
    ∀ uri ∈ view.forwardedUri request,
      ReadsPath site.accepts uri (view.usable site request) := by
  rw [routesByPath_iff_find]
  exact forall₂_congr fun uri _ => firstMatch_eq_find_iff _

/-- Where the uri is rooted and the patterns have a single branch and no global flags, requests
are routed by whole paths. -/
theorem routesByPath_of_isRooted
    (hrooted : ∀ uri ∈ view.forwardedUri request, UrlParts.IsRooted uri)
    (hpatterns : ∀ endpoint ∈ view.usable site request, endpoint.pattern.flags = [] ∧
      ∃ items, endpoint.pattern.branches = [items]) :
    RoutesByPath site view request := by
  rw [routesByPath_iff_find]
  intro uri huri
  refine (firstMatch_eq_find_iff _).mpr (readsPath_of_isRooted (hrooted uri huri) ?_)
  intro endpoint hendpoint
  obtain ⟨hflags, items, hsingle⟩ := hpatterns endpoint hendpoint
  exact readsWhole_of_single hflags hsingle

end Routing

namespace RoutingWitness

/-- The characters of ASCII. -/
def asciiDatabase : CharacterDatabase where
  decimal := fun c => if PythonRe.isDigit c then some (PythonRe.digitValue c) else none
  isSpace := PythonRe.isWhitespace
  isWord := PythonRe.isAsciiWord
  sameLetter := fun c d => c.toLower = d.toLower
  isIdentifier := fun name =>
    name.head?.any (fun c => PythonRe.isAsciiWord c && !PythonRe.isDigit c) &&
      name.all PythonRe.isAsciiWord
  lookup := fun _ => none

/-- An endpoint for two paths. -/
def endpoint : HttpEndpoint asciiDatabase Nat where
  id := "orders"
  externalId := 0
  tenant := "shop"
  path := "/api/flow/impl/a|/api/flow/impl/b".toList
  method := "GET"
  isPublic := false
  engineId := none
  system := true
  deletedAt := none
  path_valid := by decide +kernel
  method_mem := by decide

theorem flow_no_dot : '.' ∉ "flow".toList := by
  decide

theorem singleton_unique : ∀ first ∈ [endpoint], ∀ second ∈ [endpoint],
    first.deletedAt = none → second.deletedAt = none → first.tenant = second.tenant →
      first.externalId = second.externalId → first = second := by
  intro first hfirst second hsecond _ _ _ _
  rw [List.mem_singleton.mp hfirst, List.mem_singleton.mp hsecond]

theorem row_nodup :
    [(⟨5, (), "use", "orders"⟩ : ObjectAccess.PermissionRow Nat Unit String)].Nodup :=
  List.nodup_singleton _

def site : FlowSite asciiDatabase Nat Nat Unit Nat where
  accepts := fun _ => true
  directory :=
    { endpoint := fun _ => ⟨"flow", ["use"], flow_no_dot⟩
      isActive := fun _ => true
      isSuperuser := fun _ => false
      groups := fun _ => []
      userPermissions := fun _ => ["flow.use"]
      groupPermissions := fun _ => []
      permissions := ["flow.use"]
      codenames := fun _ => ["use"]
      tenantManager := fun _ _ => []
      isStaff := fun _ => false
      anonymousUser := 0 }
  permissions := ⟨[⟨5, (), "use", "orders"⟩], [], row_nodup⟩
  contentType := ()
  tables := ⟨[], [], [endpoint], singleton_unique⟩
  currentTenant := some "shop"

def request : FlowRequest Nat where
  user := some 5
  originalUri := some ⟨"/api/flow/impl/a/secret".toList, by decide⟩
  originalMethod := some "GET"

/-- The first of the two paths is only matched as a beginning. -/
theorem longer_path_is_routed : ¬ RoutesByPath site .impl request := by
  intro hroutes
  have hrouted : routedTo (FlowView.impl.answer site request) =
      some (endpoint, "/api/flow/impl/a/secret".toList) := by decide +kernel
  have hmatches := (hroutes.sound _ hrouted).2.2.1
  exact absurd hmatches (by decide +kernel)

end RoutingWitness

end FlowRouting

end NFCompose
