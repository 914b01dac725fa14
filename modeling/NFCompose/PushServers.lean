/-
The servers to which diffs are pushed.  To any server a push keeps the payloads until it
writes.  One that knows everything lets it write.
-/
import NFCompose.DiffFrame

namespace NFCompose

namespace DiffPush

open EffectRules KeyedDiff

section Stuck

variable {N : Type}

/-- The external id to which a payload refers. -/
def reference (name : String) (payload : Payload N) : Option String :=
  match payload.lookup name with
  | some (.string externalId) => some externalId
  | _ => none

/-- A run ends at this event, before anything is written. -/
def PushEvent.Stuck (name : String) (heap : Heap N) : PushEvent → Prop
  | .write payload => reference name (heap payload) = none
  | .nameless => True

end Stuck

section Keeping

variable {N W : Type} (client : ApiClient N W) (name : String) (heap : Heap N)

/-- The payloads are as they were before the push. -/
abbrev Untouched (state : PushState N W) : Prop := state.heap = heap

theorem preserves_send (request : ApiRequest N) :
    Preserves (Untouched heap) (send client request) := by
  intro state hheap
  rw [finalState, EStateM.run, send]
  rcases client.send request state.world with ⟨answer, world⟩
  cases answer <;> exact hheap

theorem preserves_raising {A : Type} (answer : Except PushError A) :
    Preserves (Untouched (W := W) heap) (raising answer) := by
  intro state hheap
  cases answer <;> exact hheap

theorem preserves_readPaginatedAll {A : Type} (converter : Json N → Except PushError A)
    (pages : Nat) (path : String) :
    Preserves (Untouched heap) (readPaginatedAll client converter pages path) := by
  induction pages generalizing path with
  | zero => exact (stops_throw _).preserves
  | succ pages ih =>
      apply (preserves_send client heap _).bind (results_true _)
      intro pageData _
      apply (preserves_raising heap _).bind (results_true _)
      intro page _
      obtain ⟨items, next⟩ := page
      cases next with
      | null => exact preserves_pure _
      | string path => exact (ih path).bind (results_true _) fun rest _ => preserves_pure _
      | _ => exact (stops_throw _).preserves

theorem stops_resolveInPlace (urls : AList fun _ : String => String) {payload : PayloadRef}
    (hstuck : reference name (heap payload) = none) :
    Stops (Untouched (W := W) heap) (resolveInPlace name urls payload) := by
  intro state hheap
  subst hheap
  rw [reference] at hstuck
  rw [EStateM.run, resolveInPlace]
  cases hlookup : (state.heap payload).lookup name with
  | none => exact ⟨_, state, rfl, rfl⟩
  | some value =>
      rw [hlookup] at hstuck
      cases value with
      | string externalId => cases hstuck
      | _ => exact ⟨_, state, rfl, rfl⟩

theorem keepsUntil_nil {A : Type} {action : PushM N W A}
    (hpreserves : Preserves (Untouched heap) action) :
    KeepsUntil (Untouched heap) (PushEvent.Stuck name heap) [] (fun _ => True) action :=
  ⟨fun _ => hpreserves, nofun, results_true action⟩

/-- To any server, a push keeps the payloads until it writes. -/
def keepingRules (pages : Nat) (names : List String) :
    PushLogic client pages name names
      (keepsUntil PushError (Untouched heap) (PushEvent.Stuck name heap)) where
  Answer := fun _ => True
  Urls := fun _ => True
  Groups := fun _ => True
  sends := fun request => keepsUntil_nil name heap (preserves_send client heap request)
  reads := fun _ => keepsUntil_nil name heap fun _ hheap => hheap
  raisesIndexes := fun _ _ => keepsUntil_nil name heap (preserves_raising heap _)
  raisesUrl := fun _ _ => keepsUntil_nil name heap (preserves_raising heap _)
  raisesFirst := fun _ _ => keepsUntil_nil name heap (preserves_raising heap _)
  readsUrls := fun path =>
    keepsUntil_nil name heap (preserves_readPaginatedAll client heap _ pages path)
  readsGroups := fun path =>
    keepsUntil_nil name heap (preserves_readPaginatedAll client heap _ pages path)
  resolves := by
    intro urls _ payload
    refine ⟨nofun, ?_, results_true _⟩
    intro event hevent hstuck
    cases hevent
    exact stops_resolveInPlace name heap urls hstuck
  nameless := ⟨nofun, fun _ _ _ => stops_throw _, results_true _⟩
  unknown := fun _ _ _ _ _ => keepsUntil_nil name heap (stops_throw _).preserves

end Keeping

section Writing

variable {N : Type} (name : String) (externalId : String) (names : List String)

/-- Something that is a data series, an engine, an endpoint and a group. -/
def row (externalId name : String) : Json N :=
  .object [("url", .string (externalId ++ "/")), ("external_id", .string externalId),
    ("name", .string name), ("id", .null)]

/-- One answer for all requests. -/
def answer : Json N :=
  .object [("url", .string (externalId ++ "/")), ("external_id", .string externalId),
    ("indexes", .null), ("next", .null),
    ("results", .array (("" :: names).map (row externalId)))]

def answering (answer : Json N) : ApiClient N Unit where
  baseUrl := ""
  send := fun _ world => (some answer, world)

theorem lookup_foldl_insert {A V : Type} (key : A → String) (value : A → V) (items : List A)
    (table : AList fun _ : String => V) (wanted : String) :
    (items.foldl (fun table item => table.insert (key item) (value item)) table).lookup wanted =
      ((items.reverse.find? (key · = wanted)).map value).or (table.lookup wanted) := by
  induction items generalizing table with
  | nil => rfl
  | cons item items ih =>
      rw [List.foldl_cons, ih, List.reverse_cons, List.find?_append, Option.map_or,
        Option.or_assoc]
      congr 1
      by_cases hkey : key item = wanted
      · rw [hkey, AList.lookup_insert, List.find?_singleton, if_pos (decide_eq_true hkey)]
        rfl
      · rw [AList.lookup_insert_ne (Ne.symm hkey), List.find?_singleton,
          if_neg (by rw [decide_eq_true_eq]; exact hkey)]
        rfl

/-- A step has a result, and adds nothing but requests. -/
def Returns {A : Type} (value : A) (action : PushM N Unit A) : Prop :=
  ∀ state, ∃ requests, action.run state = .ok value { state with requests := requests }

theorem returns_send (answer : Json N) (request : ApiRequest N) :
    Returns answer (send (answering answer) request) :=
  fun state => ⟨state.requests ++ [request], rfl⟩

theorem returns_raising {A : Type} {value : A} {answer : Except PushError A}
    (hanswer : answer = .ok value) : Returns (N := N) value (raising answer) := by
  intro state
  subst hanswer
  exact ⟨state.requests, rfl⟩

theorem Returns.bind {A B : Type} {value : A} {last : B} {action : PushM N Unit A}
    {next : A → PushM N Unit B} (haction : Returns value action)
    (hnext : Returns last (next value)) : Returns last (action >>= next) := by
  intro state
  obtain ⟨first, hfirst⟩ := haction state
  obtain ⟨requests, hrequests⟩ := hnext { state with requests := first }
  exact ⟨requests, (run_bind_ok hfirst).trans hrequests⟩

theorem field_answer :
    field "results" (answer externalId names : Json N) =
      .ok (.array (("" :: names).map (row externalId))) ∧
    field "next" (answer externalId names : Json N) = .ok .null := ⟨rfl, rfl⟩

theorem parsePage_answer {A : Type} {converter : Json N → Except PushError A}
    {convert : String → A}
    (hconverter : ∀ name, converter (row externalId name) = .ok (convert name)) :
    parsePage converter (answer externalId names) =
      .ok (("" :: names).map convert, .null) := by
  have hitems : (("" :: names).map (row externalId)).mapM converter =
      .ok (("" :: names).map convert) := by
    rw [List.mapM_map]
    have hpure : (converter ∘ row externalId) = fun name => pure (convert name) :=
      funext hconverter
    rw [hpure, List.mapM_pure]
    rfl
  rw [parsePage, (field_answer externalId names).1, (field_answer externalId names).2]
  simp only [hitems]
  rfl

theorem returns_readPaginatedAll {A : Type} {converter : Json N → Except PushError A}
    {convert : String → A}
    (hconverter : ∀ name, converter (row externalId name) = .ok (convert name))
    (path : String) :
    Returns (("" :: names).map convert)
      (readPaginatedAll (answering (answer externalId names)) converter 1 path) := by
  apply (returns_send _ _).bind
  apply (returns_raising (parsePage_answer externalId names hconverter)).bind
  exact returns_raising rfl

theorem rawWithUrl_row (name : String) :
    rawWithUrl (row externalId name : Json N) = .ok ⟨externalId ++ "/", externalId⟩ := rfl

theorem rawGroup_row (name : String) :
    rawGroup (row externalId name : Json N) = .ok ⟨name, .null⟩ := rfl

theorem lookup_toUrls (wanted : String) :
    (toUrls (("" :: names).map fun _ => (⟨externalId ++ "/", externalId⟩ : RawWithUrl))).lookup
      wanted = if wanted = externalId then some (externalId ++ "/") else none := by
  rw [toUrls, lookup_foldl_insert RawWithUrl.externalId RawWithUrl.url, ← List.map_reverse,
    List.find?_map, Option.map_map]
  split
  · next heq =>
      have hfound : (("" :: names).reverse.find? fun _ => decide (externalId = wanted)).isSome :=
        List.find?_isSome.mpr ⟨"", by simp, decide_eq_true heq.symm⟩
      obtain ⟨found, hfound⟩ := Option.isSome_iff_exists.mp hfound
      have hfind := congrArg (Option.map fun _ => externalId ++ "/") hfound
      exact (congrArg (Option.or · _) hfind).trans rfl
  · next hne =>
      have hnone : (("" :: names).reverse.find? fun _ => decide (externalId = wanted)) = none :=
        List.find?_eq_none.mpr fun _ _ => by simpa using Ne.symm hne
      have hfind := congrArg (Option.map fun _ => externalId ++ "/") hnone
      exact (congrArg (Option.or · _) hfind).trans rfl

theorem lookup_toGroupIds {wanted : String} (hwanted : wanted ∈ names) :
    (toGroupIds (("" :: names).map fun name => (⟨name, .null⟩ : RawGroup N))).lookup wanted ≠
      none := by
  rw [toGroupIds, lookup_foldl_insert RawGroup.name RawGroup.id]
  have hfound : ((("" :: names).map fun name => (⟨name, .null⟩ : RawGroup N)).reverse.find?
      (·.name = wanted)).isSome := by
    rw [List.find?_isSome]
    refine ⟨⟨wanted, .null⟩, ?_, decide_eq_true rfl⟩
    rw [List.mem_reverse]
    exact List.mem_map.mpr ⟨wanted, List.mem_cons_of_mem _ hwanted, rfl⟩
  obtain ⟨group, hgroup⟩ := Option.isSome_iff_exists.mp hfound
  rw [hgroup]
  exact nofun

variable (heap : Heap N) (target : PayloadRef)

/-- A payload has the url where it had the external id. -/
def Replaced (state : PushState N Unit) : Prop :=
  reference name (state.heap target) = some (externalId ++ "/")

theorem append_slash_ne : externalId ++ "/" ≠ externalId := by
  intro heq
  have hlength := congrArg String.length heq
  rw [String.length_append] at hlength
  exact absurd hlength (by simp)

theorem reachesFirst_nil {A : Type} {action : PushM N Unit A} {value : A} {result : A → Prop}
    (hreturns : Returns value action) (hresult : result value) :
    ReachesFirst (Untouched heap) (Replaced name externalId target) (· = PushEvent.write target)
      []
      result action where
  yields := by
    intro _ state hheap
    obtain ⟨requests, hrun⟩ := hreturns state
    exact ⟨value, _, hrun, hheap⟩
  establishes := nofun
  preserves := by
    intro state hreplaced
    obtain ⟨requests, hrun⟩ := hreturns state
    rw [finalState_ok hrun]
    exact hreplaced
  results := by
    intro state other after hrun
    obtain ⟨requests, hvalue⟩ := hreturns state
    cases hvalue.symm.trans hrun
    exact hresult

theorem run_resolveInPlace {W : Type} (urls : AList fun _ : String => String)
    {state : PushState N W} {payload : PayloadRef}
    (hreference : reference name (state.heap payload) = some externalId) :
    (resolveInPlace name urls payload).run state =
      match urls.lookup externalId with
      | none => .error .keyError state
      | some url => .ok () { state with
          heap := Function.update state.heap payload
            ((state.heap payload).insert name (.string url)) } := by
  rw [reference] at hreference
  rw [EStateM.run, resolveInPlace]
  cases hlookup : (state.heap payload).lookup name with
  | none =>
      rw [hlookup] at hreference
      cases hreference
  | some value =>
      rw [hlookup] at hreference
      cases value with
      | string text =>
          cases hreference
          rfl
      | _ => cases hreference

/-- Only one payload is written. -/
theorem heap_resolveInPlace_of_ne {W : Type} (urls : AList fun _ : String => String)
    (state : PushState N W) {payload other : PayloadRef} (hne : other ≠ payload) :
    (finalState (resolveInPlace name urls payload) state).heap other = state.heap other := by
  cases hreference : reference name (state.heap payload) with
  | none =>
      obtain ⟨error, after, hrun, hafter⟩ :=
        stops_resolveInPlace name state.heap urls hreference state rfl
      rw [finalState_error hrun, hafter]
  | some externalId =>
      have hrun := run_resolveInPlace name externalId urls hreference
      cases hurl : urls.lookup externalId with
      | none =>
          rw [hurl] at hrun
          rw [finalState_error hrun]
      | some url =>
          rw [hurl] at hrun
          rw [finalState_ok hrun]
          exact Function.update_of_ne hne _ _

/-- The urls name the external id, and no url is an external id. -/
structure Resolving (urls : AList fun _ : String => String) : Prop where
  known : urls.lookup externalId = some (externalId ++ "/")
  unknown : urls.lookup (externalId ++ "/") = none

theorem resolving_toUrls : Resolving externalId
    (toUrls (("" :: names).map fun _ => (⟨externalId ++ "/", externalId⟩ : RawWithUrl))) where
  known := by rw [lookup_toUrls, if_pos rfl]
  unknown := by rw [lookup_toUrls, if_neg (append_slash_ne externalId)]

theorem establishes_resolveInPlace {urls : AList fun _ : String => String}
    (hurls : Resolving externalId urls)
    (hreference : reference name (heap target) = some externalId) :
    Establishes (Untouched heap) (Replaced name externalId target)
      (resolveInPlace name urls target) := by
  intro state hheap
  subst hheap
  have hrun := run_resolveInPlace name externalId urls hreference
  rw [hurls.known] at hrun
  rw [finalState_ok hrun, Replaced]
  simp only [Function.update_self, reference, AList.lookup_insert]

theorem preserves_resolveInPlace {urls : AList fun _ : String => String}
    (hurls : Resolving externalId urls) (payload : PayloadRef) :
    Preserves (Replaced (N := N) name externalId target) (resolveInPlace name urls payload) := by
  intro state hreplaced
  by_cases heq : target = payload
  · have hrun := run_resolveInPlace name (externalId ++ "/") urls (heq ▸ hreplaced)
    rw [hurls.unknown] at hrun
    rw [finalState_error hrun]
    exact hreplaced
  · rw [Replaced, heap_resolveInPlace_of_ne name urls state heq]
    exact hreplaced

/-- To a server that knows the first external id and all groups, a push replaces the first
reference. -/
def writingRules (hreference : reference name (heap target) = some externalId) :
    PushLogic (answering (answer externalId names)) 1 name names
      (reachesFirst PushError (Untouched heap) (Replaced name externalId target)
        (· = PushEvent.write target)) where
  Answer := (· = answer externalId names)
  Urls := Resolving externalId
  Groups := fun groupIds => ∀ name ∈ names, groupIds.lookup name ≠ none
  sends := fun request => reachesFirst_nil name externalId heap target (returns_send _ request) rfl
  reads := fun payload =>
    ⟨fun _ => fun state hheap => ⟨_, state, rfl, hheap⟩, nofun, fun _ hreplaced => hreplaced,
      results_true _⟩
  raisesIndexes := by
    intro answer hanswer
    subst hanswer
    exact reachesFirst_nil name externalId heap target (returns_raising rfl) trivial
  raisesUrl := by
    intro answer hanswer
    subst hanswer
    exact reachesFirst_nil name externalId heap target (returns_raising rfl) trivial
  raisesFirst := by
    intro answer hanswer
    subst hanswer
    exact reachesFirst_nil name externalId heap target (returns_raising rfl) trivial
  readsUrls := fun path => reachesFirst_nil name externalId heap target
    (returns_readPaginatedAll externalId names (rawWithUrl_row externalId) path)
    (resolving_toUrls externalId names)
  readsGroups := fun path => reachesFirst_nil name externalId heap target
    (returns_readPaginatedAll externalId names (rawGroup_row externalId) path)
    fun _ hname => lookup_toGroupIds names hname
  resolves := by
    intro urls hurls payload
    refine ⟨nofun, ?_, preserves_resolveInPlace name externalId target hurls payload,
      results_true _⟩
    intro event hevent hfits
    cases hevent
    cases hfits
    exact establishes_resolveInPlace name externalId heap target hurls hreference
  nameless := by
    refine ⟨nofun, ?_, fun _ hreplaced => hreplaced, results_true _⟩
    intro event hevent hfits
    cases hevent
    cases hfits
  unknown := fun _ hgroups name hname hlookup => absurd hlookup (hgroups name hname)

end Writing

end DiffPush

end NFCompose
