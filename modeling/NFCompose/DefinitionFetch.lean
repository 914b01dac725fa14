/-
The client reads the definitions of data series from a server.  The references
of dimensions are urls there; a fetch names their targets through the data
series that it has read itself.
-/
import Mathlib.Algebra.BigOperators.Group.Multiset.Basic
import Mathlib.Data.Multiset.Bind
import NFCompose.StructureDiff

namespace NFCompose

open KeyedDiff

abbrev RestUrl := String

/-- `Consumer`; `H` stands for its name, mode, headers, timeout and retries. -/
structure ConsumerDefinition (H : Type) where
  target : RestUrl
  settings : H
deriving DecidableEq

structure RawDimension where
  name : String
  optional : Bool
  reference : RestUrl

structure DataSeriesGroupPermissions where
  name : String
  groupPermissions : List String
deriving DecidableEq

variable {H X : Type}

/-- A row of the data series endpoint, with what its urls answer. -/
structure RawDataSeries (H X : Type) where
  url : RestUrl
  externalId : ExternalId
  header : SeriesHeader X
  facts : FactType → List (Identifiable Fact)
  dimensions : List (Identifiable RawDimension)
  consumers : List (Identifiable (ConsumerDefinition H))
  /-- Not all versions of the server have indexes. -/
  indexes : Option (List (Identifiable Index))
  permissionGroup : List DataSeriesGroupPermissions

structure FetchedDefinition (H X : Type) extends DataSeriesDefinition (ConsumerDefinition H) X where
  groupPermissions : List DataSeriesGroupPermissions

/-- What the endpoints of a server answer while its definitions are read. -/
structure ServerContent (H X : Type) where
  rows : List (RawDataSeries H X)
  urls_nodup : (rows.map RawDataSeries.url).Nodup
  externalIds_nodup : (rows.map RawDataSeries.externalId).Nodup
  externalIds_sqlSafe : ∀ row ∈ rows, validateExternalIdSqlSafe row.externalId = true
  references_resolve : ∀ row ∈ rows, ∀ dimension ∈ row.dimensions,
    ∃ target ∈ rows, target.url = dimension.content.reference

/-- The form field behind the `external_id` filter of the data series endpoint:
what it makes of a value, or `none` when it refuses it.  It strips blanks, so a
valid external id is taken as it is. -/
structure FilterField where
  clean : String → Option String
  clean_sqlSafe : ∀ externalId, validateExternalIdSqlSafe externalId = true →
    clean externalId = some externalId

/-- `urlparse` and `urlunparse`, as far as the host of a url is concerned. -/
structure UrlParser where
  netloc : RestUrl → String
  replaceNetloc : RestUrl → String → RestUrl

structure FetchOptions where
  urls : UrlParser
  domainAliases : AList fun _ : String => String
  regexFilter : Option (ExternalId → Bool)

inductive FetchError where
  | keyError (url : RestUrl)
  | notFound (url : RestUrl)
  | badRequest (value : String)
deriving DecidableEq

def replaceDomain (urls : UrlParser) (domainAliases : AList fun _ : String => String)
    (url : RestUrl) : RestUrl :=
  match domainAliases.lookup (urls.netloc url) with
  | some netloc => urls.replaceNetloc url netloc
  | none => url

/-- `Consumer.from_raw`. -/
def ConsumerDefinition.fromRaw (options : FetchOptions) (raw : ConsumerDefinition H) :
    ConsumerDefinition H :=
  { raw with target := replaceDomain options.urls options.domainAliases raw.target }

abbrev DsLookup := AList fun _ : RestUrl => ExternalId

/-- `Dimension.from_raw`. -/
def Dimension.fromRaw (dsLookup : DsLookup) (raw : Identifiable RawDimension) :
    Except FetchError (Identifiable Dimension) :=
  match dsLookup.lookup raw.content.reference with
  | some reference => .ok ⟨raw.externalId, raw.content.name, raw.content.optional, reference⟩
  | none => .error (.keyError raw.content.reference)

/-- `raw_ds_by_url`. -/
def rawDsByUrl (rows : List (RawDataSeries H X)) : DsLookup :=
  rows.foldl (fun byUrl row => byUrl.insert row.url row.externalId) ∅

def FetchedDefinition.assemble (options : FetchOptions) (raw : RawDataSeries H X)
    (dimensions : List (Identifiable Dimension)) (onlyStructure : Bool) :
    FetchedDefinition H X where
  dataSeries := ⟨raw.externalId, raw.header⟩
  children := fun
    | .element (.fact type) => raw.facts type
    | .element .dimension => dimensions
    | .consumer =>
        if onlyStructure then [] else raw.consumers.map fun consumer =>
          ⟨consumer.externalId, consumer.content.fromRaw options⟩
    | .index => raw.indexes.getD []
  groupPermissions := if onlyStructure then [] else raw.permissionGroup

namespace ServerContent

/-- `client.get` of the url of a data series. -/
def get (server : ServerContent H X) (url : RestUrl) : Except FetchError (RawDataSeries H X) :=
  match server.rows.find? fun row => row.url = url with
  | some row => .ok row
  | none => .error (.notFound url)

/-- The lookup for a single data series: every target is requested once. -/
def ownLookup (server : ServerContent H X) (dimensions : List (Identifiable RawDimension)) :
    Except FetchError DsLookup :=
  dimensions.foldlM (fun byUrl dimension =>
    if dimension.content.reference ∈ byUrl then .ok byUrl
    else (server.get dimension.content.reference).map fun row =>
      byUrl.insert dimension.content.reference row.externalId) ∅

/-- `_data_series_definition`. -/
def dataSeriesDefinition (server : ServerContent H X) (options : FetchOptions)
    (rawDsByUrl : Option DsLookup) (raw : RawDataSeries H X) (onlyStructure : Bool) :
    Except FetchError (FetchedDefinition H X) := do
  let dsByUrl ← match rawDsByUrl with
    | some byUrl => .ok byUrl
    | none => server.ownLookup raw.dimensions
  let dimensions ← raw.dimensions.mapM (Dimension.fromRaw dsByUrl)
  return .assemble options raw dimensions onlyStructure

/-- The rows that the endpoint lists for a value of its `external_id` filter; an
empty value does not filter. -/
def query (server : ServerContent H X) (field : FilterField) (externalId : String) :
    Except FetchError (List (RawDataSeries H X)) :=
  match field.clean externalId with
  | none => .error (.badRequest externalId)
  | some value =>
      .ok (server.rows.filter fun row => value = "" ∨ row.externalId = value)

/-- The rows a fetch works on. -/
def allRawDataSeries (server : ServerContent H X) (field : FilterField)
    (externalIds : Option (List String)) : Except FetchError (List (RawDataSeries H X)) :=
  match externalIds with
  | some externalIds =>
      ((externalIds.filter fun externalId => externalId ≠ "").mapM (server.query field)).map
        List.flatten
  | none => .ok server.rows

end ServerContent

def FetchOptions.Passes (options : FetchOptions) (row : RawDataSeries H X) : Prop :=
  ∀ regex ∈ options.regexFilter, regex row.externalId = true

instance (options : FetchOptions) (row : RawDataSeries H X) : Decidable (options.Passes row) :=
  inferInstanceAs (Decidable (∀ regex ∈ options.regexFilter, regex row.externalId = true))

/-- `ComposeDataSeriesDefinitionFetcher.fetch`. -/
def ServerContent.fetch (server : ServerContent H X) (field : FilterField)
    (options : FetchOptions) (externalIds : Option (List String)) :
    Except FetchError (List (FetchedDefinition H X)) := do
  let rows ← server.allRawDataSeries field externalIds
  (rows.filter fun row => options.Passes row).mapM fun row =>
    server.dataSeriesDefinition options (some (rawDsByUrl rows)) row false

section Lists

universe u v w

variable {A : Type u} {B : Type v} {E : Type w}

/-- A fallible map with only one possible result an element. -/
theorem mapM_eq_ok_iff {f : A → Except E B} {g : A → B} {list : List A} {results : List B}
    (hagree : ∀ elem ∈ list, ∀ result, f elem = .ok result → result = g elem) :
    list.mapM f = .ok results ↔
      (∀ elem ∈ list, f elem = .ok (g elem)) ∧ results = list.map g := by
  induction list generalizing results with
  | nil => simp [pure, Except.pure, eq_comm]
  | cons head tail ih =>
      have ih (results : List B) : tail.mapM f = .ok results ↔
          (∀ elem ∈ tail, f elem = .ok (g elem)) ∧ results = tail.map g := by
        apply ih
        intro elem hmem
        exact hagree elem (List.mem_cons_of_mem head hmem)
      rw [List.mapM_cons, List.forall_mem_cons]
      cases hhead : f head with
      | error error => simp [bind, Except.bind]
      | ok result =>
          have hresult := hagree head List.mem_cons_self result hhead
          subst hresult
          cases htail : tail.mapM f with
          | error error =>
              have hnone : ¬ ∀ elem ∈ tail, f elem = .ok (g elem) := by
                intro hall
                rw [(ih _).mpr ⟨hall, rfl⟩] at htail
                cases htail
              simp [bind, Except.bind, hnone]
          | ok rest =>
              obtain ⟨hall, rfl⟩ := (ih rest).mp htail
              simp only [bind, Except.bind, pure, Except.pure, Except.ok.injEq, List.map_cons]
              constructor
              · rintro rfl
                exact ⟨⟨trivial, hall⟩, rfl⟩
              · rintro ⟨-, rfl⟩
                rfl

theorem filter_eq_flatMap_replicate (p : A → Bool) (list : List A) :
    list.filter p = list.flatMap fun elem => List.replicate (if p elem then 1 else 0) elem := by
  induction list with
  | nil => rfl
  | cons head tail ih =>
      rw [List.filter_cons, List.flatMap_cons, ← ih]
      split <;> simp

/-- What is selected for each query in turn is each element as often as a query
selects it. -/
theorem flatMap_filter_perm (selects : A → B → Bool) (list : List A) (queries : List B) :
    (queries.flatMap fun query => list.filter fun elem => selects elem query).Perm
      (list.flatMap fun elem =>
        List.replicate (queries.filter (selects elem)).length elem) := by
  induction queries with
  | nil => simp
  | cons head tail ih =>
      rw [List.flatMap_cons, filter_eq_flatMap_replicate]
      refine (ih.append_left _).trans ((List.flatMap_append_perm list _ _).trans ?_)
      apply List.Perm.of_eq
      congr 1
      funext elem
      rw [List.replicate_append_replicate, List.filter_cons]
      split
      · rw [List.length_cons, Nat.add_comm]
      · rw [Nat.zero_add]

theorem count_flatMap_replicate [DecidableEq B] {key : A → B} {list : List A}
    (hnodup : (list.map key).Nodup) (times : A → Nat) {elem : A} (hmem : elem ∈ list) :
    ((list.flatMap fun elem => List.replicate (times elem) elem).map key).count (key elem) =
      times elem := by
  induction list with
  | nil => cases hmem
  | cons head tail ih =>
      rw [List.map_cons, List.nodup_cons] at hnodup
      rw [List.flatMap_cons, List.map_append, List.map_replicate, List.count_append,
        List.count_replicate]
      rcases List.mem_cons.mp hmem with rfl | htail
      · have habsent : key elem ∉
            (tail.flatMap fun elem => List.replicate (times elem) elem).map key := by
          intro hkey
          apply hnodup.1
          simp only [List.mem_map, List.mem_flatMap, List.mem_replicate] at hkey ⊢
          obtain ⟨other, ⟨_, hother, _, rfl⟩, hkey⟩ := hkey
          exact ⟨other, hother, hkey⟩
        rw [List.count_eq_zero_of_not_mem habsent]
        simp
      · have hne : key head ≠ key elem := by
          intro heq
          exact hnodup.1 (heq ▸ List.mem_map_of_mem htail)
        simp [hne, ih hnodup.2 htail]

end Lists

section Lookup

theorem lookup_rawDsByUrl (rows : List (RawDataSeries H X)) (url : RestUrl) :
    (rawDsByUrl rows).lookup url =
      ((toDict RawDataSeries.url rows).lookup url).map RawDataSeries.externalId := by
  induction rows using List.reverseRecOn with
  | nil => rfl
  | append_singleton rows row ih =>
      rw [rawDsByUrl, toDict, List.foldl_concat, List.foldl_concat]
      by_cases hurl : url = row.url
      · rw [hurl, AList.lookup_insert, AList.lookup_insert, Option.map_some]
      · rw [AList.lookup_insert_ne hurl, AList.lookup_insert_ne hurl]
        exact ih

theorem mem_of_lookup_rawDsByUrl {rows : List (RawDataSeries H X)} {url : RestUrl}
    {externalId : ExternalId} (hlookup : (rawDsByUrl rows).lookup url = some externalId) :
    ∃ row ∈ rows, row.url = url ∧ row.externalId = externalId := by
  rw [lookup_rawDsByUrl, Option.map_eq_some_iff] at hlookup
  obtain ⟨row, hrow, hexternalId⟩ := hlookup
  have ⟨hmem, hurl⟩ := mem_of_lookup_toDict hrow
  exact ⟨row, hmem, hurl, hexternalId⟩

theorem mem_rawDsByUrl {rows : List (RawDataSeries H X)} {url : RestUrl} :
    url ∈ rawDsByUrl rows ↔ ∃ row ∈ rows, row.url = url := by
  rw [← AList.lookup_isSome, lookup_rawDsByUrl, Option.isSome_map, AList.lookup_isSome,
    mem_toDict, List.mem_map]

end Lookup

namespace ServerContent

variable {server : ServerContent H X} {options : FetchOptions}

/-- The external id of the data series at a url. -/
def nameOf (server : ServerContent H X) (url : RestUrl) : ExternalId :=
  ((rawDsByUrl server.rows).lookup url).getD ""

def dimensionOf (server : ServerContent H X) (raw : Identifiable RawDimension) :
    Identifiable Dimension :=
  ⟨raw.externalId, raw.content.name, raw.content.optional, server.nameOf raw.content.reference⟩

/-- The definition of a data series with every reference resolved. -/
def definition (server : ServerContent H X) (options : FetchOptions)
    (onlyStructure : Bool) (row : RawDataSeries H X) : FetchedDefinition H X :=
  .assemble options row (row.dimensions.map server.dimensionOf) onlyStructure

@[simp] theorem definition_externalId (onlyStructure : Bool) (row : RawDataSeries H X) :
    (server.definition options onlyStructure row).externalId = row.externalId := rfl

theorem nameOf_url {row : RawDataSeries H X} (hrow : row ∈ server.rows) :
    server.nameOf row.url = row.externalId := by
  have hlookup : (toDict RawDataSeries.url server.rows).lookup row.url = some row :=
    (lookup_toDict server.urls_nodup).mpr ⟨hrow, rfl⟩
  rw [nameOf, lookup_rawDsByUrl, hlookup]
  rfl

/-- A lookup that names every url it knows as the server does. -/
def Truthful (server : ServerContent H X) (dsLookup : DsLookup) : Prop :=
  ∀ url externalId, dsLookup.lookup url = some externalId → externalId = server.nameOf url

theorem truthful_rawDsByUrl {rows : List (RawDataSeries H X)}
    (hrows : ∀ row ∈ rows, row ∈ server.rows) : server.Truthful (rawDsByUrl rows) := by
  intro url externalId hlookup
  obtain ⟨row, hrow, rfl, rfl⟩ := mem_of_lookup_rawDsByUrl hlookup
  exact (nameOf_url (hrows row hrow)).symm

theorem fromRaw_eq_ok {dsLookup : DsLookup} (htruth : server.Truthful dsLookup)
    (raw : Identifiable RawDimension) :
    Dimension.fromRaw dsLookup raw = .ok (server.dimensionOf raw) ↔
      raw.content.reference ∈ dsLookup := by
  rw [← AList.lookup_isSome, Dimension.fromRaw]
  cases hlookup : dsLookup.lookup raw.content.reference with
  | none => simp
  | some externalId =>
      have hname := htruth _ _ hlookup
      simp [dimensionOf, hname]

theorem eq_of_fromRaw {dsLookup : DsLookup} (htruth : server.Truthful dsLookup)
    {raw : Identifiable RawDimension} {result : Identifiable Dimension}
    (hok : Dimension.fromRaw dsLookup raw = .ok result) : result = server.dimensionOf raw := by
  rw [Dimension.fromRaw] at hok
  split at hok
  · next externalId hlookup =>
      cases hok
      rw [dimensionOf, ← htruth _ _ hlookup]
  · cases hok

theorem dataSeriesDefinition_eq_ok {dsLookup : DsLookup} (htruth : server.Truthful dsLookup)
    {row : RawDataSeries H X} {onlyStructure : Bool} {result : FetchedDefinition H X} :
    server.dataSeriesDefinition options (some dsLookup) row onlyStructure = .ok result ↔
      (∀ dimension ∈ row.dimensions, dimension.content.reference ∈ dsLookup) ∧
        result = server.definition options onlyStructure row := by
  have hdimensions (results : List (Identifiable Dimension)) :
      row.dimensions.mapM (Dimension.fromRaw dsLookup) = .ok results ↔
        (∀ dimension ∈ row.dimensions, dimension.content.reference ∈ dsLookup) ∧
          results = row.dimensions.map server.dimensionOf := by
    simp only [← fromRaw_eq_ok htruth]
    apply mapM_eq_ok_iff
    intro raw _ result
    exact eq_of_fromRaw htruth
  rw [dataSeriesDefinition]
  cases hmapM : row.dimensions.mapM (Dimension.fromRaw dsLookup) with
  | error error =>
      have hnone : ¬ ∀ dimension ∈ row.dimensions, dimension.content.reference ∈ dsLookup := by
        intro hall
        rw [(hdimensions _).mpr ⟨hall, rfl⟩] at hmapM
        cases hmapM
      simp [bind, Except.bind, hmapM, hnone]
  | ok dimensions =>
      obtain ⟨hall, rfl⟩ := (hdimensions dimensions).mp hmapM
      simp only [bind, Except.bind, hmapM, pure, Except.pure, Except.ok.injEq]
      constructor
      · rintro rfl
        exact ⟨hall, rfl⟩
      · rintro ⟨-, rfl⟩
        rfl

/-- The lookup of a single data series resolves every reference. -/
theorem ownLookup_resolves (dimensions : List (Identifiable RawDimension))
    (hdimensions : ∀ dimension ∈ dimensions,
      ∃ target ∈ server.rows, target.url = dimension.content.reference) :
    ∃ dsLookup, server.ownLookup dimensions = .ok dsLookup ∧ server.Truthful dsLookup ∧
      ∀ dimension ∈ dimensions, dimension.content.reference ∈ dsLookup := by
  induction dimensions using List.reverseRecOn with
  | nil =>
      refine ⟨∅, rfl, ?_, by simp⟩
      intro url externalId hlookup
      simp at hlookup
  | append_singleton dimensions dimension ih =>
      obtain ⟨dsLookup, hlookup, htruth, hmem⟩ := ih fun other hother =>
        hdimensions other (List.mem_append_left _ hother)
      obtain ⟨target, htarget, hurl⟩ := hdimensions dimension (by simp)
      rw [ownLookup] at hlookup
      rw [ownLookup, List.foldlM_append, hlookup]
      by_cases hknown : dimension.content.reference ∈ dsLookup
      · refine ⟨dsLookup, by simp [bind, Except.bind, pure, Except.pure, hknown], htruth, ?_⟩
        intro other hother
        rcases List.mem_append.mp hother with hother | hother
        · exact hmem other hother
        · rw [List.mem_singleton.mp hother]
          exact hknown
      · obtain ⟨row, hget, hrow, hrowUrl⟩ : ∃ row,
            server.get dimension.content.reference = .ok row ∧
              row ∈ server.rows ∧ row.url = dimension.content.reference := by
          rw [get]
          cases hfind : server.rows.find? fun row => row.url = dimension.content.reference with
          | none =>
              have habsent := List.find?_eq_none.mp hfind target htarget
              simp [hurl] at habsent
          | some row =>
              exact ⟨row, rfl, List.mem_of_find?_eq_some hfind,
                by simpa using List.find?_some hfind⟩
        refine ⟨dsLookup.insert dimension.content.reference row.externalId,
          by simp [bind, Except.bind, pure, Except.pure, hknown, hget, Except.map], ?_, ?_⟩
        · intro url externalId hfound
          by_cases heq : url = dimension.content.reference
          · subst heq
            rw [AList.lookup_insert, Option.some.injEq] at hfound
            rw [← hfound, ← hrowUrl, nameOf_url hrow]
          · rw [AList.lookup_insert_ne heq] at hfound
            exact htruth url externalId hfound
        · intro other hother
          rw [AList.mem_insert]
          rcases List.mem_append.mp hother with hother | hother
          · exact Or.inr (hmem other hother)
          · rw [List.mem_singleton.mp hother]
            exact Or.inl rfl

/-- The definition of a single data series never lacks the target of a
dimension. -/
theorem dataSeriesDefinition_single {row : RawDataSeries H X} (hrow : row ∈ server.rows)
    (onlyStructure : Bool) :
    server.dataSeriesDefinition options none row onlyStructure =
      .ok (server.definition options onlyStructure row) := by
  obtain ⟨dsLookup, hlookup, htruth, hmem⟩ :=
    server.ownLookup_resolves row.dimensions (server.references_resolve row hrow)
  have hok : server.dataSeriesDefinition options (some dsLookup) row onlyStructure =
      .ok (server.definition options onlyStructure row) :=
    (dataSeriesDefinition_eq_ok htruth).mpr ⟨hmem, rfl⟩
  simp only [dataSeriesDefinition, hlookup, bind, Except.bind] at hok ⊢
  exact hok

end ServerContent

/-- Whether the request for an external id asks for a row. -/
def FilterField.asks (field : FilterField) (row : RawDataSeries H X) (externalId : String) :
    Bool :=
  externalId ≠ "" && (field.clean externalId).any fun value =>
    value = "" || row.externalId = value

/-- The definitions fetched for external ids are those of the unrestricted fetch
whose external id is among them. -/
def FetchRestricts (field : FilterField) (server : ServerContent H X) (options : FetchOptions)
    (externalIds : List String) : Prop :=
  ∃ all part, server.fetch field options none = .ok all ∧
    server.fetch field options (some externalIds) = .ok part ∧
    part.Perm (all.filter fun definition => definition.externalId ∈ externalIds)

/-- External ids that no request refuses, that ask for every data series at most
once and by its own external id, and for the targets of all its dimensions. -/
structure SelfContained (field : FilterField) (server : ServerContent H X)
    (options : FetchOptions) (externalIds : List String) : Prop where
  accepted : ∀ externalId ∈ externalIds, externalId ≠ "" → field.clean externalId ≠ none
  once : ∀ row ∈ server.rows, options.Passes row →
    (externalIds.filter (field.asks row)).Sublist [row.externalId]
  closed : ∀ row ∈ server.rows, options.Passes row → row.externalId ∈ externalIds →
    ∀ dimension ∈ row.dimensions, ∃ target ∈ server.rows,
      target.url = dimension.content.reference ∧
        ∃ externalId ∈ externalIds, field.asks target externalId

theorem ne_empty_of_sqlSafe {externalId : ExternalId}
    (hsafe : validateExternalIdSqlSafe externalId = true) : externalId ≠ "" := by
  rintro rfl
  revert hsafe
  decide

namespace ServerContent

variable {server : ServerContent H X} {options : FetchOptions} {field : FilterField}

/-- The rows that the requests for external ids ask for, request by request. -/
def asked (server : ServerContent H X) (field : FilterField) (externalIds : List String) :
    List (RawDataSeries H X) :=
  externalIds.flatMap fun externalId => server.rows.filter fun row => field.asks row externalId

theorem mem_asked {externalIds : List String} {row : RawDataSeries H X} :
    row ∈ server.asked field externalIds ↔
      row ∈ server.rows ∧ ∃ externalId ∈ externalIds, field.asks row externalId := by
  simp only [asked, List.mem_flatMap, List.mem_filter]
  constructor
  · rintro ⟨externalId, hmem, hrow, hasks⟩
    exact ⟨hrow, externalId, hmem, hasks⟩
  · rintro ⟨hrow, externalId, hmem, hasks⟩
    exact ⟨externalId, hmem, hrow, hasks⟩

theorem query_eq_ok {externalId : String} (hne : externalId ≠ "")
    (hclean : field.clean externalId ≠ none) :
    server.query field externalId =
      .ok (server.rows.filter fun row => field.asks row externalId) := by
  obtain ⟨value, hvalue⟩ := Option.ne_none_iff_exists'.mp hclean
  simp [query, FilterField.asks, hvalue, hne]

theorem allRawDataSeries_eq_ok {externalIds : List String} {rows : List (RawDataSeries H X)} :
    server.allRawDataSeries field (some externalIds) = .ok rows ↔
      (∀ externalId ∈ externalIds, externalId ≠ "" → field.clean externalId ≠ none) ∧
        rows = server.asked field externalIds := by
  have hasked : server.asked field externalIds =
      ((externalIds.filter fun externalId => externalId ≠ "").map fun externalId =>
        server.rows.filter fun row => field.asks row externalId).flatten := by
    rw [asked, ← List.flatMap_def]
    induction externalIds with
    | nil => rfl
    | cons head tail ih =>
        rw [List.filter_cons, List.flatMap_cons, ih]
        split
        · rfl
        · next hempty => simp_all [FilterField.asks]
  have hmapM (pages : List (List (RawDataSeries H X))) :
      (externalIds.filter fun externalId => externalId ≠ "").mapM (server.query field) =
          .ok pages ↔
        (∀ externalId ∈ externalIds.filter fun externalId => externalId ≠ "",
          server.query field externalId =
            .ok (server.rows.filter fun row => field.asks row externalId)) ∧
        pages = (externalIds.filter fun externalId => externalId ≠ "").map fun externalId =>
          server.rows.filter fun row => field.asks row externalId := by
    apply mapM_eq_ok_iff
    intro externalId hmem page hpage
    have hne : externalId ≠ "" := by simpa using (List.mem_filter.mp hmem).2
    have hclean : field.clean externalId ≠ none := by
      intro hnone
      simp [query, hnone] at hpage
    rw [query_eq_ok hne hclean, Except.ok.injEq] at hpage
    exact hpage.symm
  have haccepted : (∀ externalId ∈ externalIds.filter fun externalId => externalId ≠ "",
      server.query field externalId =
        .ok (server.rows.filter fun row => field.asks row externalId)) ↔
      ∀ externalId ∈ externalIds, externalId ≠ "" → field.clean externalId ≠ none := by
    simp only [List.mem_filter, decide_eq_true_eq]
    constructor
    · intro hall externalId hmem hne hnone
      have hok := hall externalId ⟨hmem, hne⟩
      simp [query, hnone] at hok
    · rintro hall externalId ⟨hmem, hne⟩
      exact query_eq_ok hne (hall externalId hmem hne)
  rw [haccepted] at hmapM
  rw [allRawDataSeries, hasked]
  cases hpages : (externalIds.filter fun externalId => externalId ≠ "").mapM
      (server.query field) with
  | error error =>
      have hnone : ¬ ∀ externalId ∈ externalIds, externalId ≠ "" →
          field.clean externalId ≠ none := by
        intro hall
        rw [(hmapM _).mpr ⟨hall, rfl⟩] at hpages
        cases hpages
      simp only [Except.map, hnone, false_and, reduceCtorEq]
  | ok pages =>
      obtain ⟨hall, rfl⟩ := (hmapM pages).mp hpages
      simp only [Except.map, Except.ok.injEq]
      constructor
      · rintro rfl
        exact ⟨hall, rfl⟩
      · rintro ⟨-, rfl⟩
        rfl

/-- A fetch over rows of the server succeeds when these contain the targets of
all dimensions, and names them as the server does. -/
theorem fetchRows_eq_ok {rows : List (RawDataSeries H X)}
    (hrows : ∀ row ∈ rows, row ∈ server.rows) {result : List (FetchedDefinition H X)} :
    ((rows.filter fun row => options.Passes row).mapM fun row =>
        server.dataSeriesDefinition options (some (rawDsByUrl rows)) row false) = .ok result ↔
      (∀ row ∈ rows, options.Passes row → ∀ dimension ∈ row.dimensions,
        ∃ target ∈ rows, target.url = dimension.content.reference) ∧
      result = (rows.filter fun row => options.Passes row).map
        (server.definition options false) := by
  have hdefinition (row : RawDataSeries H X) (definition : FetchedDefinition H X) :
      server.dataSeriesDefinition options (some (rawDsByUrl rows)) row false = .ok definition ↔
        (∀ dimension ∈ row.dimensions, ∃ target ∈ rows,
          target.url = dimension.content.reference) ∧
        definition = server.definition options false row := by
    simp only [← mem_rawDsByUrl]
    exact dataSeriesDefinition_eq_ok (truthful_rawDsByUrl hrows)
  rw [mapM_eq_ok_iff (g := server.definition options false)
    fun row _ definition hok => ((hdefinition row definition).mp hok).2]
  apply and_congr_left'
  simp only [List.mem_filter, decide_eq_true_eq, and_imp, hdefinition, and_true]

/-- The unrestricted fetch always succeeds. -/
theorem fetch_all (field : FilterField) (server : ServerContent H X) (options : FetchOptions) :
    server.fetch field options none = .ok
      ((server.rows.filter fun row => options.Passes row).map
        (server.definition options false)) := by
  simp only [fetch, allRawDataSeries, bind, Except.bind]
  rw [fetchRows_eq_ok fun _ hrow => hrow]
  exact ⟨fun row hrow _ => server.references_resolve row hrow, rfl⟩

theorem fetch_some_eq_ok {externalIds : List String} {part : List (FetchedDefinition H X)} :
    server.fetch field options (some externalIds) = .ok part ↔
      (∀ externalId ∈ externalIds, externalId ≠ "" → field.clean externalId ≠ none) ∧
      (∀ row ∈ server.asked field externalIds, options.Passes row →
        ∀ dimension ∈ row.dimensions, ∃ target ∈ server.asked field externalIds,
          target.url = dimension.content.reference) ∧
      part = ((server.asked field externalIds).filter fun row => options.Passes row).map
        (server.definition options false) := by
  have hrows : ∀ row ∈ server.asked field externalIds, row ∈ server.rows :=
    fun row hrow => (mem_asked.mp hrow).1
  rw [fetch, ← fetchRows_eq_ok hrows]
  cases hall : server.allRawDataSeries field (some externalIds) with
  | error error =>
      have hnone : ¬ ∀ externalId ∈ externalIds, externalId ≠ "" →
          field.clean externalId ≠ none := by
        intro haccepted
        rw [allRawDataSeries_eq_ok.mpr ⟨haccepted, rfl⟩] at hall
        cases hall
      simp only [bind, Except.bind, hnone, false_and, reduceCtorEq]
  | ok rows =>
      obtain ⟨haccepted, rfl⟩ := allRawDataSeries_eq_ok.mp hall
      simp only [bind, Except.bind]
      exact ⟨fun hok => ⟨haccepted, hok⟩, And.right⟩

theorem asks_own {row : RawDataSeries H X} (hrow : row ∈ server.rows) :
    field.asks row row.externalId = true := by
  have hsafe := server.externalIds_sqlSafe row hrow
  have hne := ne_empty_of_sqlSafe hsafe
  simp [FilterField.asks, hne, field.clean_sqlSafe _ hsafe]

/-- How often a row has to be asked for. -/
theorem length_asks_eq_iff {externalIds : List String} {row : RawDataSeries H X}
    (hrow : row ∈ server.rows) :
    (externalIds.filter (field.asks row)).length =
        (if row.externalId ∈ externalIds then 1 else 0) ↔
      (externalIds.filter (field.asks row)).Sublist [row.externalId] := by
  have hown : row.externalId ∈ externalIds.filter (field.asks row) ↔
      row.externalId ∈ externalIds := by
    simp [List.mem_filter, asks_own hrow]
  rw [List.sublist_singleton]
  split
  · next hmem =>
      rw [← hown] at hmem
      rw [List.length_eq_one_iff]
      constructor
      · rintro ⟨externalId, hfilter⟩
        rw [hfilter, List.mem_singleton] at hmem
        exact Or.inr (hmem ▸ hfilter)
      · rintro (hempty | hfilter)
        · rw [hempty] at hmem
          cases hmem
        · exact ⟨row.externalId, hfilter⟩
  · next hmem =>
      rw [← hown] at hmem
      rw [List.length_eq_zero_iff]
      constructor
      · exact Or.inl
      · rintro (hempty | hfilter)
        · exact hempty
        · exact absurd (by rw [hfilter]; exact List.mem_singleton_self _) hmem

theorem asked_filter_perm (externalIds : List String) :
    ((server.asked field externalIds).filter fun row => options.Passes row).Perm
      ((server.rows.filter fun row => options.Passes row).flatMap fun row =>
        List.replicate (externalIds.filter (field.asks row)).length row) := by
  refine List.Perm.trans (List.Perm.of_eq ?_)
    (flatMap_filter_perm field.asks (server.rows.filter fun row => options.Passes row) externalIds)
  rw [asked, List.filter_flatMap]
  congr 1
  funext externalId
  rw [List.filter_filter, List.filter_filter]
  congr 1
  funext row
  rw [Bool.and_comm]

/-- What is fetched is the restriction when every row is asked for once by its
own external id, and by nothing else. -/
theorem definitions_perm_iff {externalIds : List String} :
    (((server.asked field externalIds).filter fun row => options.Passes row).map
        (server.definition options false)).Perm
      (((server.rows.filter fun row => options.Passes row).map
        (server.definition options false)).filter fun definition =>
          definition.externalId ∈ externalIds) ↔
    ∀ row ∈ server.rows, options.Passes row →
      (externalIds.filter (field.asks row)).Sublist [row.externalId] := by
  have hasked : ((server.asked field externalIds).filter fun row => options.Passes row).Perm _ :=
    asked_filter_perm externalIds
  have hrestricted : ((server.rows.filter fun row => options.Passes row).map
        (server.definition options false)).filter (fun definition =>
          definition.externalId ∈ externalIds) =
      ((server.rows.filter fun row => options.Passes row).flatMap fun row =>
        List.replicate (if row.externalId ∈ externalIds then 1 else 0) row).map
          (server.definition options false) := by
    rw [List.filter_map, filter_eq_flatMap_replicate]
    simp only [Function.comp_apply, decide_eq_true_eq]
    rfl
  have hnodup : ((server.rows.filter fun row => options.Passes row).map
      RawDataSeries.externalId).Nodup :=
    List.Nodup.sublist (List.filter_sublist.map _) server.externalIds_nodup
  have hcounts : (∀ row ∈ server.rows, options.Passes row →
        (externalIds.filter (field.asks row)).Sublist [row.externalId]) ↔
      ∀ row ∈ server.rows.filter fun row => options.Passes row,
        (externalIds.filter (field.asks row)).length =
          if row.externalId ∈ externalIds then 1 else 0 := by
    simp only [List.mem_filter, decide_eq_true_eq, and_imp]
    constructor
    · intro honce row hrow hpasses
      exact (length_asks_eq_iff hrow).mpr (honce row hrow hpasses)
    · intro hlength row hrow hpasses
      exact (length_asks_eq_iff hrow).mp (hlength row hrow hpasses)
  rw [hrestricted, hcounts]
  constructor
  · intro hperm row hrow
    have hdefinitions := ((hasked.map _).symm.trans hperm).map
      FetchedDefinition.toDataSeriesDefinition
    have hkeys := hdefinitions.map DataSeriesDefinition.externalId
    simp only [List.map_map] at hkeys
    have hcount := hkeys.count_eq row.externalId
    have hleft := count_flatMap_replicate hnodup
      (fun row => (externalIds.filter (field.asks row)).length) hrow
    have hright := count_flatMap_replicate hnodup
      (fun row => if row.externalId ∈ externalIds then 1 else 0) hrow
    exact hleft.symm.trans (hcount.trans hright)
  · intro hlength
    refine (hasked.map _).trans (List.Perm.of_eq ?_)
    congr 1
    apply List.flatMap_congr
    intro row hrow
    rw [hlength row hrow]

end ServerContent

/-- For distinct valid external ids only the references of dimensions can leave
the selection. -/
theorem selfContained_iff_references {field : FilterField} {server : ServerContent H X}
    {options : FetchOptions} {externalIds : List String} (hnodup : externalIds.Nodup)
    (hsafe : ∀ externalId ∈ externalIds, validateExternalIdSqlSafe externalId = true) :
    SelfContained field server options externalIds ↔
      ∀ row ∈ server.rows, options.Passes row → row.externalId ∈ externalIds →
        ∀ dimension ∈ row.dimensions, ∃ target ∈ server.rows,
          target.url = dimension.content.reference ∧ target.externalId ∈ externalIds := by
  have hasks : ∀ row : RawDataSeries H X, ∀ externalId ∈ externalIds,
      field.asks row externalId = decide (externalId = row.externalId) := by
    intro row externalId hmem
    have hne : externalId ≠ "" := ne_empty_of_sqlSafe (hsafe externalId hmem)
    simp [FilterField.asks, hne, field.clean_sqlSafe _ (hsafe externalId hmem), eq_comm]
  constructor
  · intro hcontained row hrow hpasses hmem dimension hdimension
    obtain ⟨target, htarget, hurl, externalId, hexternalId, htargetAsks⟩ :=
      hcontained.closed row hrow hpasses hmem dimension hdimension
    rw [hasks target externalId hexternalId, decide_eq_true_eq] at htargetAsks
    exact ⟨target, htarget, hurl, htargetAsks ▸ hexternalId⟩
  · intro hclosed
    constructor
    · intro externalId hmem _
      rw [field.clean_sqlSafe externalId (hsafe externalId hmem)]
      exact Option.some_ne_none externalId
    · intro row _ _
      rw [List.filter_congr (hasks row)]
      have hcount := List.nodup_iff_count_le_one.mp hnodup row.externalId
      have hfilter : externalIds.filter (fun externalId => externalId = row.externalId) =
          List.replicate (externalIds.count row.externalId) row.externalId :=
        List.filter_eq _
      rw [hfilter]
      exact (List.replicate_sublist_replicate row.externalId).mpr hcount
    · intro row hrow hpasses hmem dimension hdimension
      obtain ⟨target, htarget, hurl, htargetMem⟩ :=
        hclosed row hrow hpasses hmem dimension hdimension
      refine ⟨target, htarget, hurl, target.externalId, htargetMem, ?_⟩
      rw [hasks target _ htargetMem, decide_eq_true_eq]

/-- When fetching a subset of the data series is restriction. -/
theorem fetch_restricts_iff (field : FilterField) (server : ServerContent H X)
    (options : FetchOptions) (externalIds : List String) :
    FetchRestricts field server options externalIds ↔
      SelfContained field server options externalIds := by
  constructor
  · rintro ⟨all, part, hall, hpart, hperm⟩
    rw [ServerContent.fetch_all, Except.ok.injEq] at hall
    subst hall
    obtain ⟨haccepted, hresolved, rfl⟩ := ServerContent.fetch_some_eq_ok.mp hpart
    rw [ServerContent.definitions_perm_iff] at hperm
    refine ⟨haccepted, hperm, ?_⟩
    intro row hrow hpasses hexternalId dimension hdimension
    have hasked : row ∈ server.asked field externalIds :=
      ServerContent.mem_asked.mpr
        ⟨hrow, row.externalId, hexternalId, ServerContent.asks_own hrow⟩
    obtain ⟨target, htarget, hurl⟩ := hresolved row hasked hpasses dimension hdimension
    have ⟨htargetRow, hasks⟩ := ServerContent.mem_asked.mp htarget
    exact ⟨target, htargetRow, hurl, hasks⟩
  · intro hcontained
    refine ⟨_, _, ServerContent.fetch_all field server options,
      ServerContent.fetch_some_eq_ok.mpr ⟨hcontained.accepted, ?_, rfl⟩,
      ServerContent.definitions_perm_iff.mpr hcontained.once⟩
    intro row hrow hpasses dimension hdimension
    obtain ⟨hserver, externalId, hmem, hasks⟩ := ServerContent.mem_asked.mp hrow
    have hown : externalId = row.externalId := by
      have hfilter : externalId ∈ externalIds.filter (field.asks row) :=
        List.mem_filter.mpr ⟨hmem, hasks⟩
      exact List.mem_singleton.mp ((hcontained.once row hserver hpasses).subset hfilter)
    subst hown
    obtain ⟨target, htarget, hurl, hasks⟩ :=
      hcontained.closed row hserver hpasses hmem dimension hdimension
    exact ⟨target, ServerContent.mem_asked.mpr ⟨htarget, hasks⟩, hurl⟩

namespace FetchWitness

def row (externalId url : String) (dimensions : List (Identifiable RawDimension)) :
    RawDataSeries Unit Unit where
  url := url
  externalId := externalId
  header := ⟨externalId, .dynamicSqlNoHistory, (), false⟩
  facts := fun _ => []
  dimensions := dimensions
  consumers := []
  indexes := some []
  permissionGroup := []

/-- The orders of a shop refer to its customers. -/
def shop : ServerContent Unit Unit where
  rows := [row "orders" "/orders/" [⟨"customer", "customer", false, "/customers/"⟩],
    row "customers" "/customers/" []]
  urls_nodup := by decide
  externalIds_nodup := by decide
  externalIds_sqlSafe := by decide
  references_resolve := by decide

def field : FilterField := ⟨some, fun _ _ => rfl⟩

def options : FetchOptions := ⟨⟨fun _ => "", fun url _ => url⟩, ∅, none⟩

theorem orders_without_customers_not_fetched : ¬ FetchRestricts field shop options ["orders"] := by
  rintro ⟨all, part, -, hpart, -⟩
  have hfetch : shop.fetch field options (some ["orders"]) =
      .error (.keyError "/customers/") := rfl
  rw [hfetch] at hpart
  cases hpart

end FetchWitness

end NFCompose
