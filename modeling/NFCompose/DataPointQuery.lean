/-
The query of a data point list.  The client concatenates it by hand, and the list
view reads the filter, the changes since a time and the external ids from its
form fields.
-/
import Mathlib.Data.Bool.AllAny
import NFCompose.UrlForms
import NFCompose.UserDefinedFilter

namespace NFCompose

open UrlForms

variable {N : Type}

/-- A datetime; the offset is in microseconds, and a naive datetime has none. -/
structure Datetime where
  year : Nat
  month : Nat
  day : Nat
  hour : Nat
  minute : Nat
  second : Nat
  microsecond : Nat
  utcoffset : Option Int
deriving DecidableEq, Repr

namespace Datetime

/-- A number with leading zeros. -/
def padded (width n : Nat) : String :=
  String.ofList (List.replicate (width - (Nat.toDigits 10 n).length) '0' ++ Nat.toDigits 10 n)

/-- The text of a datetime without its offset. -/
def localText (datetime : Datetime) : String :=
  padded 4 datetime.year ++ "-" ++ padded 2 datetime.month ++ "-" ++ padded 2 datetime.day ++
    "T" ++ padded 2 datetime.hour ++ ":" ++ padded 2 datetime.minute ++ ":" ++
    padded 2 datetime.second ++
    (if datetime.microsecond = 0 then "" else "." ++ padded 6 datetime.microsecond)

/-- The text of an offset without its sign. -/
def offsetText (microseconds : Nat) : String :=
  padded 2 (microseconds / 3600000000) ++ ":" ++ padded 2 (microseconds / 60000000 % 60) ++
    if microseconds % 60000000 = 0 then ""
    else ":" ++ padded 2 (microseconds / 1000000 % 60) ++
      if microseconds % 1000000 = 0 then "" else "." ++ padded 6 (microseconds % 1000000)

def isoformat (datetime : Datetime) : String :=
  match datetime.utcoffset with
  | none => datetime.localText
  | some offset =>
      datetime.localText ++ (if offset < 0 then "-" else "+") ++ offsetText offset.natAbs

end Datetime

namespace ComposeClient

/-- `ComposeDataPointFetcher`. -/
structure DataPointFetcher (N : Type) where
  dataSeriesExternalId : String
  pagesize : Nat
  filter : Option (List (String × Json N))
  externalIds : Option (List String)
  changesSince : Option Datetime

namespace DataPointFetcher

variable (dumps : Json N → String) (fetcher : DataPointFetcher N)

def filterParam : String :=
  match fetcher.filter with
  | none => ""
  | some filter => "&filter=" ++ dumps (.object filter)

def changesSinceParam : String :=
  match fetcher.changesSince with
  | none => ""
  | some changesSince => "&changes_since=" ++ changesSince.isoformat

def externalIdParam (externalId : String) : String :=
  "external_id=" ++ String.ofList (quote externalId.toList)

/-- The parameters besides the page size.  None when nothing is to be fetched. -/
def extraQueryParams : Option String :=
  let params := fetcher.filterParam dumps ++ fetcher.changesSinceParam
  match fetcher.externalIds with
  | none => some params
  | some externalIds =>
      let externalIdFilter := "&".intercalate (externalIds.map externalIdParam)
      if externalIdFilter = "" then none else some (params ++ "&" ++ externalIdFilter)

/-- The URL of the first page. -/
def url (baseUrl : String) : Option String :=
  (fetcher.extraQueryParams dumps).map fun params =>
    baseUrl ++ "/api/dataseries/by-external-id/dataseries/" ++ fetcher.dataSeriesExternalId ++
      "/datapoint/?identify_dimensions_by_external_id&pagesize=" ++ fetcher.pagesize.repr ++ params

end DataPointFetcher

end ComposeClient

section View

variable (get : List (String × String))

/-- `get_filter_value`; an error is the text of the `ValidationError`. -/
def getFilterValue (loads : String → Option (Json N)) : Except String (List (String × Json N)) :=
  match lastValue "filter" get with
  | none => .ok []
  | some text =>
      if text = "" then .ok []
      else match loads text with
        | none => .error ("filter " ++ text ++ " could not be parsed as valid json")
        | some (.object filter) => .ok filter
        | some _ => .error "filter in url parameters was no json object/dictionary"

/-- `get_changes_since`. -/
def getChangesSince (parseDatetime : String → Option Datetime) : Option Datetime :=
  (lastValue "changes_since" get).bind parseDatetime

def getExternalIds : Option (List String) :=
  if get.any fun field => field.1 = "external_id" then some (allValues "external_id" get)
  else none

end View

section RoundTrip

open ComposeClient

/-- What a request has for the view. -/
def fieldsOfUrl (url : String) : List (String × String) := formFields (queryString url.toList)

/-- The view reads what the fetcher was given. -/
structure ReadAsGiven (loads : String → Option (Json N))
    (parseDatetime : String → Option Datetime) (fetcher : DataPointFetcher N)
    (url : String) : Prop where
  filter : getFilterValue (fieldsOfUrl url) loads = .ok (fetcher.filter.getD [])
  changesSince : getChangesSince (fieldsOfUrl url) parseDatetime = fetcher.changesSince
  externalIds : getExternalIds (fieldsOfUrl url) = fetcher.externalIds

/-- There is a request, and the view reads it as it was given. -/
def QueryRoundTrips (dumps : Json N → String) (loads : String → Option (Json N))
    (parseDatetime : String → Option Datetime) (baseUrl : String)
    (fetcher : DataPointFetcher N) : Prop :=
  ∃ url, fetcher.url dumps baseUrl = some url ∧ ReadAsGiven loads parseDatetime fetcher url

/-- The text of the filter is in the request as it was written. -/
def FilterArrives (dumps : Json N → String) (baseUrl : String)
    (fetcher : DataPointFetcher N) : Prop :=
  ∃ url, fetcher.url dumps baseUrl = some url ∧
    lastValue "filter" (fieldsOfUrl url) = fetcher.filter.map fun filter => dumps (.object filter)

end RoundTrip

section Parts

open ComposeClient

def externalIdPart (externalId : String) : List Char :=
  paramPart "external_id" (String.ofList (quote externalId.toList))

namespace ComposeClient.DataPointFetcher

variable (dumps : Json N → String) (fetcher : DataPointFetcher N)

def filterParts : List (List Char) :=
  fetcher.filter.toList.map fun filter => paramPart "filter" (dumps (.object filter))

def changesSinceParts : List (List Char) :=
  fetcher.changesSince.toList.map fun changesSince =>
    paramPart "changes_since" changesSince.isoformat

/-- The parts after the filter. -/
def backParts : List (List Char) :=
  fetcher.changesSinceParts ++ (fetcher.externalIds.getD []).map externalIdPart

end ComposeClient.DataPointFetcher

variable {dumps : Json N → String} {fetcher : DataPointFetcher N}

theorem extraQueryParams_toList (hids : fetcher.externalIds ≠ some []) :
    ∃ params, fetcher.extraQueryParams dumps = some params ∧
      params.toList = joinedParts (fetcher.filterParts dumps ++ fetcher.backParts) := by
  have hfilter : (fetcher.filterParam dumps).toList = joinedParts (fetcher.filterParts dumps) := by
    rw [DataPointFetcher.filterParam, DataPointFetcher.filterParts]
    cases fetcher.filter <;> simp [joinedParts, paramPart]
  have hsince : fetcher.changesSinceParam.toList = joinedParts fetcher.changesSinceParts := by
    rw [DataPointFetcher.changesSinceParam, DataPointFetcher.changesSinceParts]
    cases fetcher.changesSince <;> simp [joinedParts, paramPart]
  rw [DataPointFetcher.extraQueryParams, DataPointFetcher.backParts, joinedParts_append,
    joinedParts_append, ← hfilter, ← hsince]
  cases hexternal : fetcher.externalIds with
  | none => exact ⟨_, rfl, by simp [joinedParts]⟩
  | some externalIds =>
      obtain ⟨first, rest, rfl⟩ := List.exists_cons_of_ne_nil
        (fun hnil => hids (hnil ▸ hexternal) : externalIds ≠ [])
      have hjoined : ("&".intercalate ((first :: rest).map
          DataPointFetcher.externalIdParam)).toList = externalIdPart first ++
            joinedParts (rest.map externalIdPart) := by
        rw [String.toList_intercalate, List.map_map, ← intercalate_eq_joinedParts]
        have hparam : String.toList ∘ DataPointFetcher.externalIdParam = externalIdPart := by
          funext externalId
          simp [DataPointFetcher.externalIdParam, externalIdPart, paramPart]
        rw [hparam]
        rfl
      have hnonempty : "&".intercalate ((first :: rest).map
          DataPointFetcher.externalIdParam) ≠ "" := by
        intro hempty
        rw [hempty] at hjoined
        cases hjoined
      refine ⟨_, if_neg hnonempty, ?_⟩
      rw [String.toList_append, String.toList_append, String.toList_append, hjoined]
      simp [joinedParts]

/-- The URL of a fetcher, with its parts. -/
theorem url_toList (hids : fetcher.externalIds ≠ some []) (baseUrl : String) :
    ∃ url, fetcher.url dumps baseUrl = some url ∧
      url.toList = (baseUrl.toList ++ "/api/dataseries/by-external-id/dataseries/".toList ++
        fetcher.dataSeriesExternalId.toList ++ "/datapoint/".toList) ++ '?' ::
          ("identify_dimensions_by_external_id".toList ++
            joinedParts (paramPart "pagesize" fetcher.pagesize.repr ::
              (fetcher.filterParts dumps ++ fetcher.backParts))) := by
  obtain ⟨params, hparams, htext⟩ := @extraQueryParams_toList N dumps fetcher hids
  refine ⟨_, by rw [DataPointFetcher.url, hparams, Option.map_some], ?_⟩
  simp only [String.toList_append, htext]
  simp [joinedParts, paramPart, DataPointFetcher.backParts]

end Parts

section Characters

open ComposeClient Datetime

/-- The texts of datetimes without the signs of their offsets. -/
def IsTimeText (text : String) : Prop :=
  ∀ c ∈ text.toList, c.isDigit = true ∨ c ∈ ['-', ':', '.', 'T']

theorem IsTimeText.append {first second : String} (hfirst : IsTimeText first)
    (hsecond : IsTimeText second) : IsTimeText (first ++ second) := by
  intro c hc
  rw [String.toList_append, List.mem_append] at hc
  exact hc.elim (hfirst c) (hsecond c)

theorem isTimeText_padded (width n : Nat) : IsTimeText (padded width n) := by
  intro c hc
  rw [padded, String.toList_ofList, List.mem_append] at hc
  rcases hc with hzero | hdigit
  · rw [(List.mem_replicate.mp hzero).2]
    exact Or.inl rfl
  · exact Or.inl (Nat.isDigit_of_mem_toDigits (by decide) (by decide) hdigit)

theorem isTimeText_localText (datetime : Datetime) : IsTimeText datetime.localText := by
  have hpadded := isTimeText_padded
  have hdash : IsTimeText "-" := by simp [IsTimeText]
  have hcolon : IsTimeText ":" := by simp [IsTimeText]
  have hletter : IsTimeText "T" := by simp [IsTimeText]
  have hfraction : IsTimeText
      (if datetime.microsecond = 0 then "" else "." ++ padded 6 datetime.microsecond) := by
    by_cases hmicrosecond : datetime.microsecond = 0
    · simp [hmicrosecond, IsTimeText]
    · rw [if_neg hmicrosecond]
      exact IsTimeText.append (by simp [IsTimeText]) (hpadded _ _)
  exact ((((((((((((hpadded _ _).append hdash).append (hpadded _ _)).append hdash).append
    (hpadded _ _)).append hletter).append (hpadded _ _)).append hcolon).append
    (hpadded _ _)).append hcolon).append (hpadded _ _)).append hfraction)

theorem isTimeText_offsetText (microseconds : Nat) : IsTimeText (offsetText microseconds) := by
  have hpadded := isTimeText_padded
  have hcolon : IsTimeText ":" := by simp [IsTimeText]
  have hempty : IsTimeText "" := by simp [IsTimeText]
  refine ((hpadded _ _).append hcolon).append (hpadded _ _) |>.append ?_
  by_cases hseconds : microseconds % 60000000 = 0
  · rw [if_pos hseconds]
    exact hempty
  · rw [if_neg hseconds]
    refine (hcolon.append (hpadded _ _)).append ?_
    by_cases hfraction : microseconds % 1000000 = 0
    · rw [if_pos hfraction]
      exact hempty
    · rw [if_neg hfraction]
      exact IsTimeText.append (by simp [IsTimeText]) (hpadded _ _)

theorem IsTimeText.not_mem {text : String} (htime : IsTimeText text) {c : Char}
    (hc : (c.isDigit || c ∈ ['-', ':', '.', 'T']) = false) : c ∉ text.toList := by
  intro hmem
  rw [Bool.or_eq_false_iff, decide_eq_false_iff_not] at hc
  rcases htime c hmem with hdigit | hother
  · rw [hc.1] at hdigit
    cases hdigit
  · exact hc.2 hother

/-- What becomes of a datetime in a query: a space stands for the sign of an offset
that is not negative. -/
def arrivingText (datetime : Datetime) : String :=
  match datetime.utcoffset with
  | none => datetime.localText
  | some offset =>
      datetime.localText ++ (if offset < 0 then "-" else " ") ++ offsetText offset.natAbs

theorem IsTimeText.plusToSpace_eq {text : String} (htime : IsTimeText text) :
    plusToSpace text.toList = text.toList :=
  plusToSpace_eq_self_iff.mpr (htime.not_mem (by decide))

/-- The characters that a datetime has besides the sign plus. -/
theorem not_mem_isoformat (datetime : Datetime) {c : Char}
    (hc : (c.isDigit || c ∈ ['-', ':', '.', 'T']) = false) (hplus : c ≠ '+') :
    c ∉ datetime.isoformat.toList := by
  have hlocal := (isTimeText_localText datetime).not_mem hc
  rw [isoformat]
  cases datetime.utcoffset with
  | none => exact hlocal
  | some offset =>
      have hoffset := (isTimeText_offsetText offset.natAbs).not_mem hc
      have hdash : c ≠ '-' := by
        rintro rfl
        exact absurd hc (by decide)
      by_cases hnegative : offset < 0 <;> simp [hnegative, hlocal, hoffset, hplus, hdash]

theorem decodeText_isoformat (datetime : Datetime) :
    decodeText datetime.isoformat.toList = (arrivingText datetime).toList := by
  have hlocal := (isTimeText_localText datetime).plusToSpace_eq
  rw [decodeText_eq_plusToSpace (not_mem_isoformat datetime (by decide) (by decide)), isoformat,
    arrivingText]
  cases datetime.utcoffset with
  | none => exact hlocal
  | some offset =>
      have hoffset := (isTimeText_offsetText offset.natAbs).plusToSpace_eq
      simp only [String.toList_append, plusToSpace_append, hlocal, hoffset]
      by_cases hnegative : offset < 0
      · rw [if_pos hnegative, if_pos hnegative]
        rfl
      · rw [if_neg hnegative, if_neg hnegative]
        rfl

end Characters

section Fields

open ComposeClient

theorem isPart_paramPart {name value : String} (hseparator : '&' ∉ name.toList ++ value.toList)
    (hfragment : '#' ∉ name.toList ++ value.toList) : IsPart (paramPart name value) := by
  rw [List.mem_append, not_or] at hseparator hfragment
  refine ⟨by simp [paramPart], ?_, ?_⟩
  · simp [paramPart, hseparator.1, hseparator.2]
  · simp [paramPart, hfragment.1, hfragment.2]

theorem isPart_externalIdPart (externalId : String) : IsPart (externalIdPart externalId) := by
  have hquote : ∀ c, (isUnreserved c || c = '%') = false → c ∉ quote externalId.toList := by
    intro c hc hmem
    rw [Bool.or_eq_false_iff, decide_eq_false_iff_not] at hc
    rcases mem_quote hmem with hunreserved | hpercent
    · rw [hc.1] at hunreserved
      cases hunreserved
    · exact hc.2 hpercent
  have htext := @String.toList_ofList (quote externalId.toList)
  apply isPart_paramPart
  · rw [htext, List.mem_append, not_or]
    exact ⟨by decide, hquote '&' (by decide)⟩
  · rw [htext, List.mem_append, not_or]
    exact ⟨by decide, hquote '#' (by decide)⟩

theorem isPart_isoformat (datetime : Datetime) :
    IsPart (paramPart "changes_since" datetime.isoformat) := by
  apply isPart_paramPart
  · rw [List.mem_append, not_or]
    exact ⟨by decide, not_mem_isoformat datetime (by decide) (by decide)⟩
  · rw [List.mem_append, not_or]
    exact ⟨by decide, not_mem_isoformat datetime (by decide) (by decide)⟩

theorem isPart_pagesize (pagesize : Nat) : IsPart (paramPart "pagesize" pagesize.repr) := by
  have hdigits : ∀ c, c.isDigit = false → c ∉ pagesize.repr.toList := by
    intro c hc hmem
    rw [Nat.toList_repr] at hmem
    rw [Nat.isDigit_of_mem_toDigits (by decide) (by decide) hmem] at hc
    cases hc
  apply isPart_paramPart
  · rw [List.mem_append, not_or]
    exact ⟨by decide, hdigits '&' (by decide)⟩
  · rw [List.mem_append, not_or]
    exact ⟨by decide, hdigits '#' (by decide)⟩

variable {dumps : Json N → String} {fetcher : DataPointFetcher N}

theorem isPart_backParts : ∀ part ∈ fetcher.backParts, IsPart part := by
  intro part hpart
  rcases List.mem_append.mp hpart with hsince | hid
  · obtain ⟨changesSince, -, rfl⟩ := List.mem_map.mp hsince
    exact isPart_isoformat changesSince
  · obtain ⟨externalId, -, rfl⟩ := List.mem_map.mp hid
    exact isPart_externalIdPart externalId

/-- The fields that every request has. -/
def fixedFields (fetcher : DataPointFetcher N) : List (String × String) :=
  [fieldOf "identify_dimensions_by_external_id".toList,
    fieldOf (paramPart "pagesize" fetcher.pagesize.repr)]

theorem isName_filter : IsName "filter" := ⟨by decide, by decide, by decide, by decide, by decide⟩

theorem isName_changesSince : IsName "changes_since" :=
  ⟨by decide, by decide, by decide, by decide, by decide⟩

theorem isName_externalId : IsName "external_id" :=
  ⟨by decide, by decide, by decide, by decide, by decide⟩

theorem isName_pagesize : IsName "pagesize" :=
  ⟨by decide, by decide, by decide, by decide, by decide⟩

/-- The names of the fields that every request has. -/
theorem fixedFields_names : (fixedFields fetcher).map Prod.fst =
    ["identify_dimensions_by_external_id", "pagesize"] := by
  have hidentify : fieldOf "identify_dimensions_by_external_id".toList =
      ("identify_dimensions_by_external_id", "") := by
    rw [fieldOf_name (by decide), decodeText_eq_self (by decide) (not_hasEscape (by decide)),
      String.ofList_toList]
  rw [fixedFields, hidentify, paramPart, fieldOf_param isName_pagesize]
  rfl

/-- The fields after the filter. -/
theorem backFields : fetcher.backParts.map fieldOf =
    fetcher.changesSince.toList.map (fun changesSince =>
        ("changes_since", arrivingText changesSince)) ++
      (fetcher.externalIds.getD []).map fun externalId => ("external_id", externalId) := by
  rw [DataPointFetcher.backParts, DataPointFetcher.changesSinceParts, List.map_append, List.map_map,
    List.map_map]
  refine congrArg₂ (· ++ ·) (List.map_congr_left ?_) (List.map_congr_left ?_)
  · intro changesSince _
    rw [Function.comp_apply, paramPart, fieldOf_param isName_changesSince, decodeText_isoformat,
      String.ofList_toList]
  · intro externalId _
    rw [Function.comp_apply, externalIdPart, paramPart, fieldOf_param isName_externalId,
      String.toList_ofList, decodeText_quote, String.ofList_toList]

/-- What is in front of the query has neither a question mark nor a fragment. -/
structure SafePath (baseUrl : String) (fetcher : DataPointFetcher N) : Prop where
  question : '?' ∉ baseUrl.toList
  fragment : '#' ∉ baseUrl.toList
  externalId : validateExternalIdSqlSafe fetcher.dataSeriesExternalId = true

theorem queryString_url {baseUrl : String} (hpath : SafePath baseUrl fetcher)
    (hids : fetcher.externalIds ≠ some []) :
    ∃ url, fetcher.url dumps baseUrl = some url ∧
      queryString url.toList = ("identify_dimensions_by_external_id".toList ++
        joinedParts (paramPart "pagesize" fetcher.pagesize.repr ::
          (fetcher.filterParts dumps ++ fetcher.backParts))).takeWhile (· ≠ '#') := by
  obtain ⟨url, hurl, htext⟩ := @url_toList N dumps fetcher hids baseUrl
  refine ⟨url, hurl, ?_⟩
  have hsafe : ∀ c, (c.isAlphanum || c = '_') = false →
      c ∉ fetcher.dataSeriesExternalId.toList := fun c hc => not_mem_of_safe hpath.externalId hc
  have hquestion := hsafe '?' (by decide)
  have hfragment := hsafe '#' (by decide)
  rw [htext, queryString_append]
  · simp only [List.mem_append, not_or]
    exact ⟨⟨⟨hpath.question, by decide⟩, hquestion⟩, by decide⟩
  · simp only [List.mem_append, not_or]
    exact ⟨⟨⟨hpath.fragment, by decide⟩, hfragment⟩, by decide⟩

theorem formFields_identify :
    formFields "identify_dimensions_by_external_id".toList =
      [fieldOf "identify_dimensions_by_external_id".toList] :=
  formFields_part (by decide) (by decide)

theorem fieldsOfUrl_none {baseUrl : String} (hpath : SafePath baseUrl fetcher)
    (hids : fetcher.externalIds ≠ some []) (hfilter : fetcher.filter = none) :
    ∃ url, fetcher.url dumps baseUrl = some url ∧
      fieldsOfUrl url = fixedFields fetcher ++ fetcher.backParts.map fieldOf := by
  obtain ⟨url, hurl, hquery⟩ := @queryString_url N dumps fetcher baseUrl hpath hids
  refine ⟨url, hurl, ?_⟩
  have hparts : ∀ part ∈ paramPart "pagesize" fetcher.pagesize.repr :: fetcher.backParts,
      IsPart part := List.forall_mem_cons.mpr ⟨isPart_pagesize _, isPart_backParts⟩
  have hwhole := takeWhile_fragment "identify_dimensions_by_external_id".toList []
    (joinedParts (paramPart "pagesize" fetcher.pagesize.repr :: fetcher.backParts)) (by decide)
    (fragment_joinedParts hparts)
  rw [fieldsOfUrl, hquery, DataPointFetcher.filterParts, hfilter]
  refine Eq.trans (congrArg formFields hwhole) ?_
  rw [if_neg (by simp)]
  exact (formFields_append_joined hparts _).trans (congrArg (· ++ _) formFields_identify)

/-- The fields of a request with a filter; a fragment in the filter ends them. -/
theorem fieldsOfUrl_some {baseUrl : String} (hpath : SafePath baseUrl fetcher)
    (hids : fetcher.externalIds ≠ some []) {filter : List (String × Json N)}
    (hfilter : fetcher.filter = some filter) :
    ∃ url, fetcher.url dumps baseUrl = some url ∧
      fieldsOfUrl url = fixedFields fetcher ++ (formFields ("filter".toList ++ '=' ::
          (dumps (.object filter)).toList.takeWhile (· ≠ '#')) ++
        if '#' ∈ (dumps (.object filter)).toList then [] else fetcher.backParts.map fieldOf) := by
  obtain ⟨url, hurl, hquery⟩ := @queryString_url N dumps fetcher baseUrl hpath hids
  refine ⟨url, hurl, ?_⟩
  generalize hvalue : (dumps (.object filter)).toList = value
  have hparts : fetcher.filterParts dumps = ["filter".toList ++ '=' :: value] := by
    rw [DataPointFetcher.filterParts, hfilter, ← hvalue]
    rfl
  have hfront : '#' ∉ "identify_dimensions_by_external_id".toList ++
      joinedParts [paramPart "pagesize" fetcher.pagesize.repr] ++ '&' ::
        ("filter".toList ++ ['=']) := by
    simp only [List.mem_append, not_or]
    refine ⟨⟨by decide, fragment_joinedParts ?_⟩, by decide⟩
    exact List.forall_mem_singleton.mpr (isPart_pagesize _)
  have hwhole := takeWhile_fragment _ value (joinedParts fetcher.backParts) hfront
    (fragment_joinedParts isPart_backParts)
  have hback : ∀ part ∈ (if '#' ∈ value then [] else fetcher.backParts), IsPart part := by
    intro part hpart
    by_cases hfragment : '#' ∈ value
    · rw [if_pos hfragment] at hpart
      cases hpart
    · rw [if_neg hfragment] at hpart
      exact isPart_backParts part hpart
  have hfixed : formFields ("identify_dimensions_by_external_id".toList ++
      joinedParts [paramPart "pagesize" fetcher.pagesize.repr]) = fixedFields fetcher := by
    rw [formFields_append_joined (List.forall_mem_singleton.mpr (isPart_pagesize _)),
      formFields_identify]
    rfl
  have hquery' : queryString url.toList = ("identify_dimensions_by_external_id".toList ++
      joinedParts [paramPart "pagesize" fetcher.pagesize.repr] ++ '&' ::
        ("filter".toList ++ '=' :: value.takeWhile (· ≠ '#'))) ++
      joinedParts (if '#' ∈ value then [] else fetcher.backParts) := by
    have hjoined : joinedParts (if '#' ∈ value then [] else fetcher.backParts) =
        if '#' ∈ value then [] else joinedParts fetcher.backParts := by
      split <;> rfl
    rw [hquery, hparts, hjoined]
    simpa [joinedParts] using hwhole
  have hlast : (if '#' ∈ value then [] else fetcher.backParts).map fieldOf =
      if '#' ∈ value then [] else fetcher.backParts.map fieldOf := by
    split <;> rfl
  rw [fieldsOfUrl, hquery', formFields_append_joined hback, formFields_append, hfixed,
    List.append_assoc, hlast]

theorem allValues_fixedFields {name : String}
    (hname : name ∉ ["identify_dimensions_by_external_id", "pagesize"]) :
    allValues name (fixedFields fetcher) = [] := by
  apply allValues_eq_nil
  rintro field hfield rfl
  rw [← @fixedFields_names N fetcher] at hname
  exact hname (List.mem_map_of_mem hfield)

theorem allValues_backFields (fetcher : DataPointFetcher N) :
    allValues "filter" (fetcher.backParts.map fieldOf) = [] ∧
      allValues "changes_since" (fetcher.backParts.map fieldOf) =
        fetcher.changesSince.toList.map arrivingText ∧
      allValues "external_id" (fetcher.backParts.map fieldOf) = fetcher.externalIds.getD [] := by
  rw [backFields]
  simp only [allValues_append, allValues_map_self,
    allValues_map_ne (by decide : "changes_since" ≠ "filter"),
    allValues_map_ne (by decide : "external_id" ≠ "filter"),
    allValues_map_ne (by decide : "external_id" ≠ "changes_since"),
    allValues_map_ne (by decide : "changes_since" ≠ "external_id")]
  have hids := allValues_map_self "external_id" (fun externalId => externalId)
    (fetcher.externalIds.getD [])
  rw [List.map_id'] at hids
  simp [hids]

/-- The fields of a request whose filter has nothing that is read as anything else. -/
theorem fieldsOfUrl_survives {baseUrl : String} (hpath : SafePath baseUrl fetcher)
    (hids : fetcher.externalIds ≠ some [])
    (hsurvives : ∀ filter, fetcher.filter = some filter →
      Survives (dumps (.object filter)).toList) :
    ∃ url, fetcher.url dumps baseUrl = some url ∧
      fieldsOfUrl url = fixedFields fetcher ++
        ((fetcher.filter.toList.map fun filter => ("filter", dumps (.object filter))) ++
          fetcher.backParts.map fieldOf) := by
  cases hfilter : fetcher.filter with
  | none => exact fieldsOfUrl_none hpath hids hfilter
  | some filter =>
      have hsafe := hsurvives filter hfilter
      obtain ⟨url, hurl, hfields⟩ := @fieldsOfUrl_some N dumps fetcher baseUrl hpath hids _ hfilter
      have hvalue : (dumps (.object filter)).toList.takeWhile (· ≠ '#') =
          (dumps (.object filter)).toList := by
        rw [List.takeWhile_eq_self_iff]
        intro c hc
        rw [decide_eq_true_iff]
        rintro rfl
        exact hsafe.fragment hc
      have hpart : '&' ∉ "filter".toList ++ '=' :: (dumps (.object filter)).toList := by
        rw [List.mem_append, List.mem_cons, not_or, not_or]
        exact ⟨by decide, by decide, hsafe.separator⟩
      refine ⟨url, hurl, ?_⟩
      rw [hfields, hvalue, if_neg hsafe.fragment, formFields_part (by simp) hpart,
        fieldOf_param isName_filter, decodeText_eq_self hsafe.plus hsafe.escape,
        String.ofList_toList]
      rfl

end Fields

section RoundTripProof

open ComposeClient

variable {dumps : Json N → String} {loads : String → Option (Json N)}
  {parseDatetime : String → Option Datetime} {baseUrl : String} {fetcher : DataPointFetcher N}

/-- The last filter is read from the text of the fetcher's filter. -/
theorem lastValue_filter (hpath : SafePath baseUrl fetcher) (hids : fetcher.externalIds ≠ some [])
    {filter : List (String × Json N)} (hfilter : fetcher.filter = some filter) :
    ∃ url, fetcher.url dumps baseUrl = some url ∧
      lastValue "filter" (fieldsOfUrl url) = lastValue "filter" (formFields
        ("filter".toList ++ '=' :: (dumps (.object filter)).toList.takeWhile (· ≠ '#'))) := by
  obtain ⟨url, hurl, hfields⟩ := @fieldsOfUrl_some N dumps fetcher baseUrl hpath hids _ hfilter
  have hrest : allValues "filter" (if '#' ∈ (dumps (.object filter)).toList then []
      else fetcher.backParts.map fieldOf) = [] := by
    split
    · rfl
    · exact (allValues_backFields fetcher).1
  refine ⟨url, hurl, ?_⟩
  rw [hfields, lastValue, allValues_append, allValues_append, hrest,
    allValues_fixedFields (by decide), List.nil_append, List.append_nil, lastValue]

/-- The text of the filter arrives exactly when nothing in it is read as anything else. -/
theorem filterArrives_iff (hpath : SafePath baseUrl fetcher) (hids : fetcher.externalIds ≠ some [])
    (hascii : ∀ filter, fetcher.filter = some filter →
      ∀ c ∈ (dumps (.object filter)).toList, c.utf8Size = 1) :
    FilterArrives dumps baseUrl fetcher ↔ ∀ filter, fetcher.filter = some filter →
      Survives (dumps (.object filter)).toList := by
  rw [FilterArrives]
  cases hfilter : fetcher.filter with
  | none =>
      obtain ⟨url, hurl, hfields⟩ := @fieldsOfUrl_none N dumps fetcher baseUrl hpath hids hfilter
      refine iff_of_true ⟨url, hurl, ?_⟩ nofun
      rw [hfields, lastValue, allValues_append, (allValues_backFields fetcher).1,
        allValues_fixedFields (by decide)]
      rfl
  | some filter =>
      obtain ⟨url, hurl, hlast⟩ := @lastValue_filter N dumps baseUrl fetcher hpath hids _ hfilter
      have hiff := lastValue_param_eq_iff isName_filter (hascii filter hfilter)
      rw [String.ofList_toList, ← hlast] at hiff
      constructor
      · rintro ⟨other, hother, harrives⟩ given hgiven
        cases Option.some.inj (hurl.symm.trans hother)
        cases hgiven
        exact hiff.mp harrives
      · intro hsurvives
        exact ⟨url, hurl, hiff.mpr (hsurvives filter rfl)⟩

/-- The last time is that of the fetcher, when no fragment cuts it off. -/
theorem lastValue_changesSince (hpath : SafePath baseUrl fetcher)
    (hids : fetcher.externalIds ≠ some [])
    (hfragment : ∀ filter, fetcher.filter = some filter →
      '#' ∉ (dumps (.object filter)).toList)
    {changesSince : Datetime} (hsince : fetcher.changesSince = some changesSince) :
    ∃ url, fetcher.url dumps baseUrl = some url ∧
      lastValue "changes_since" (fieldsOfUrl url) = some (arrivingText changesSince) := by
  have hback := (allValues_backFields fetcher).2.1
  rw [hsince, Option.toList_some, List.map_singleton] at hback
  cases hfilter : fetcher.filter with
  | none =>
      obtain ⟨url, hurl, hfields⟩ := @fieldsOfUrl_none N dumps fetcher baseUrl hpath hids hfilter
      refine ⟨url, hurl, ?_⟩
      rw [hfields, lastValue, allValues_append, hback, List.getLast?_concat]
  | some filter =>
      obtain ⟨url, hurl, hfields⟩ := @fieldsOfUrl_some N dumps fetcher baseUrl hpath hids _ hfilter
      refine ⟨url, hurl, ?_⟩
      rw [hfields, if_neg (hfragment filter hfilter), lastValue, ← List.append_assoc,
        allValues_append, hback, List.getLast?_concat]

/-- What the view reads as changes since a time. -/
theorem parse_arrivingText {changesSince : Datetime}
    (hparse : parseDatetime changesSince.isoformat = some changesSince)
    (hspace : ∀ offset, changesSince.utcoffset = some offset → 0 ≤ offset →
      parseDatetime (changesSince.localText ++ " " ++ Datetime.offsetText offset.natAbs) = none) :
    parseDatetime (arrivingText changesSince) = some changesSince ↔
      ∀ offset, changesSince.utcoffset = some offset → offset < 0 := by
  rw [arrivingText]
  rw [Datetime.isoformat] at hparse
  cases hoffset : changesSince.utcoffset with
  | none =>
      rw [hoffset] at hparse
      exact iff_of_true hparse nofun
  | some offset =>
      rw [hoffset] at hparse
      simp only [Option.some.injEq, forall_eq']
      by_cases hnegative : offset < 0
      · simp only [if_pos hnegative] at hparse ⊢
        exact iff_of_true hparse hnegative
      · simp only [if_neg hnegative, hspace offset hoffset (Int.not_lt.mp hnegative)]
        exact iff_of_false nofun hnegative

/-- A filter that arrives as it was written and a time that is read again are enough. -/
theorem query_roundTrips_of_survives (hpath : SafePath baseUrl fetcher)
    (hids : fetcher.externalIds ≠ some [])
    (hempty : loads "" = none)
    (hloads : ∀ filter, fetcher.filter = some filter →
      loads (dumps (.object filter)) = some (.object filter))
    (hparse : ∀ changesSince, fetcher.changesSince = some changesSince →
      parseDatetime (arrivingText changesSince) = some changesSince)
    (hsurvives : ∀ filter, fetcher.filter = some filter →
      Survives (dumps (.object filter)).toList) :
    QueryRoundTrips dumps loads parseDatetime baseUrl fetcher := by
  obtain ⟨url, hurl, hfields⟩ := @fieldsOfUrl_survives N dumps fetcher baseUrl hpath hids hsurvives
  obtain ⟨hfilterNil, hsince, hexternal⟩ := allValues_backFields fetcher
  refine ⟨url, hurl, ?_, ?_, ?_⟩
  · have hlast : lastValue "filter" (fieldsOfUrl url) =
        fetcher.filter.map fun filter => dumps (.object filter) := by
      rw [hfields, lastValue, allValues_append, allValues_append, allValues_map_self, hfilterNil,
        allValues_fixedFields (by decide)]
      cases fetcher.filter <;> rfl
    rw [getFilterValue, hlast]
    cases hfilter : fetcher.filter with
    | none => rfl
    | some filter =>
        have hjson := hloads filter hfilter
        have hne : dumps (.object filter) ≠ "" := by
          intro heq
          rw [heq, hempty] at hjson
          cases hjson
        simp only [Option.map_some, if_neg hne, hjson]
        rfl
  · have hlast : lastValue "changes_since" (fieldsOfUrl url) =
        fetcher.changesSince.map arrivingText := by
      rw [hfields, lastValue, allValues_append, allValues_append,
        allValues_map_ne (by decide), hsince, allValues_fixedFields (by decide)]
      cases fetcher.changesSince <;> rfl
    rw [getChangesSince, hlast]
    cases hgiven : fetcher.changesSince with
    | none => rfl
    | some changesSince => exact hparse changesSince hgiven
  · have hvalues : allValues "external_id" (fieldsOfUrl url) = fetcher.externalIds.getD [] := by
      rw [hfields, allValues_append, allValues_append, allValues_map_ne (by decide), hexternal,
        allValues_fixedFields (by decide)]
      rfl
    have hany : ((fieldsOfUrl url).any fun field => field.1 = "external_id") =
        !(fetcher.externalIds.getD []).isEmpty := by
      rw [← hvalues, allValues, List.isEmpty_map, Bool.eq_iff_iff, List.any_eq_true,
        Bool.not_eq_true', List.isEmpty_eq_false_iff_exists_mem]
      simp only [List.mem_filter]
    rw [getExternalIds, hvalues, hany]
    cases hgiven : fetcher.externalIds with
    | none => rfl
    | some externalIds =>
        cases externalIds with
        | nil => exact absurd hgiven hids
        | cons first rest => rfl

/-- The view reads what the fetcher was given when the filter's text has no number sign,
no ampersand, no plus sign and no escape, and the time a negative offset.  This is exactly
when the text of the filter arrives, and the offset has to be negative whatever the filter
is, unless its text begins a fragment. -/
theorem query_roundTrips (hpath : SafePath baseUrl fetcher)
    (hids : fetcher.externalIds ≠ some [])
    (hempty : loads "" = none)
    (hascii : ∀ filter, fetcher.filter = some filter →
      ∀ c ∈ (dumps (.object filter)).toList, c.utf8Size = 1)
    (hloads : ∀ filter, fetcher.filter = some filter →
      loads (dumps (.object filter)) = some (.object filter))
    (hparse : ∀ changesSince, fetcher.changesSince = some changesSince →
      parseDatetime changesSince.isoformat = some changesSince)
    (hspace : ∀ changesSince, fetcher.changesSince = some changesSince →
      ∀ offset, changesSince.utcoffset = some offset → 0 ≤ offset →
        parseDatetime (changesSince.localText ++ " " ++ Datetime.offsetText offset.natAbs) =
          none) :
    ((∀ filter, fetcher.filter = some filter → Survives (dumps (.object filter)).toList) →
        (∀ changesSince, fetcher.changesSince = some changesSince →
          ∀ offset, changesSince.utcoffset = some offset → offset < 0) →
        QueryRoundTrips dumps loads parseDatetime baseUrl fetcher) ∧
      (FilterArrives dumps baseUrl fetcher ↔
        ∀ filter, fetcher.filter = some filter → Survives (dumps (.object filter)).toList) ∧
      ((∀ filter, fetcher.filter = some filter → '#' ∉ (dumps (.object filter)).toList) →
        QueryRoundTrips dumps loads parseDatetime baseUrl fetcher →
        ∀ changesSince, fetcher.changesSince = some changesSince →
          ∀ offset, changesSince.utcoffset = some offset → offset < 0) := by
  have hsince := fun changesSince hgiven =>
    parse_arrivingText (hparse changesSince hgiven) (hspace changesSince hgiven)
  refine ⟨?_, filterArrives_iff hpath hids hascii, ?_⟩
  · intro hsurvives hnegative
    exact query_roundTrips_of_survives hpath hids hempty hloads
      (fun changesSince hgiven => (hsince changesSince hgiven).mpr (hnegative changesSince hgiven))
      hsurvives
  · rintro hfragment ⟨url, hurl, hread⟩ changesSince hgiven
    obtain ⟨other, hother, hlast⟩ := lastValue_changesSince hpath hids hfragment hgiven
    cases Option.some.inj (hurl.symm.trans hother)
    have hchanges := hread.changesSince
    rw [getChangesSince, hlast, hgiven, Option.bind_some] at hchanges
    exact (hsince changesSince hgiven).mp hchanges

end RoundTripProof

namespace QueryWitness

open ComposeClient

/-- The texts of filters with one plain string. -/
def dumps : Json Nat → String
  | .object [(key, .string value)] => "\x7b\"" ++ key ++ "\": \"" ++ value ++ "\"\x7d"
  | _ => ""

def named (name : String) : List (String × Json Nat) := [("name", .string name)]

def loads (text : String) : Option (Json Nat) :=
  ((["a b", "a+b", "a&b"].map named).find? fun filter => dumps (.object filter) = text).map .object

def atOffset (hours : Int) : Datetime := ⟨2024, 1, 2, 3, 4, 5, 0, some (hours * 3600000000)⟩

def parseDatetime (text : String) : Option Datetime :=
  [atOffset (-5), atOffset 0].find? fun datetime => datetime.isoformat = text

def baseUrl : String := "http://skipper.local:8000"

def fetcher (name : String) (hours : Int) : DataPointFetcher Nat :=
  ⟨"orders", 100, some (named name), some ["a&b", "c d"], some (atOffset hours)⟩

theorem safePath (name : String) (hours : Int) : SafePath baseUrl (fetcher name hours) :=
  ⟨by decide, by decide, (by decide : validateExternalIdSqlSafe "orders" = true)⟩

/-- External ids with reserved characters, and a time before midnight in Greenwich. -/
theorem five_hours_west_roundTrips :
    QueryRoundTrips dumps loads parseDatetime baseUrl (fetcher "a b" (-5)) := by
  have hfilter : ∀ {P : List (String × Json Nat) → Prop}, P (named "a b") →
      ∀ filter, (fetcher "a b" (-5)).filter = some filter → P filter := by
    rintro P hP filter hgiven
    cases hgiven
    exact hP
  have hsince : ∀ {P : Datetime → Prop}, P (atOffset (-5)) →
      ∀ changesSince, (fetcher "a b" (-5)).changesSince = some changesSince → P changesSince := by
    rintro P hP changesSince hgiven
    cases hgiven
    exact hP
  have hnegative : ∀ offset, (atOffset (-5)).utcoffset = some offset → offset < 0 := by
    rintro offset hoffset
    cases hoffset
    decide
  refine (query_roundTrips (safePath "a b" (-5)) (by simp [fetcher]) rfl
    (hfilter (List.all_iff_forall_prop.mp (by decide))) (hfilter rfl)
    (hsince (by decide)) (hsince ?_)).1 (hfilter ?_)
    (hsince hnegative)
  · intro offset hoffset hpositive
    exact absurd (hnegative offset hoffset) (Int.not_lt.mpr hpositive)
  · exact ⟨by decide, by decide, by decide, not_hasEscape (by decide)⟩

theorem not_roundTrips_of_filter {name text : String}
    (htext : lastValue "filter" (formFields ("filter".toList ++ '=' ::
      (dumps (.object (named name))).toList.takeWhile (· ≠ '#'))) = some text)
    (hother : getFilterValue [("filter", text)] loads ≠ .ok (named name)) :
    ¬ QueryRoundTrips dumps loads parseDatetime baseUrl (fetcher name (-5)) := by
  rintro ⟨url, hurl, hread⟩
  obtain ⟨found, hfound, hlast⟩ := @lastValue_filter Nat dumps baseUrl (fetcher name (-5))
    (safePath name (-5)) (by simp [fetcher]) (named name) rfl
  cases Option.some.inj (hurl.symm.trans hfound)
  have hsingle : lastValue "filter" [("filter", text)] = some text := rfl
  have hfilter := hread.filter
  rw [getFilterValue, hlast, htext, ← hsingle] at hfilter
  exact hother hfilter

/-- Greenwich time is not read, and neither is a filter with an ampersand or a plus sign. -/
theorem reserved_characters_lost :
    ¬ QueryRoundTrips dumps loads parseDatetime baseUrl (fetcher "a b" 0) ∧
      ¬ QueryRoundTrips dumps loads parseDatetime baseUrl (fetcher "a&b" (-5)) ∧
      ¬ QueryRoundTrips dumps loads parseDatetime baseUrl (fetcher "a+b" (-5)) := by
  refine ⟨?_, ?_, ?_⟩
  · rintro ⟨url, hurl, hread⟩
    obtain ⟨found, hfound, hlast⟩ := @lastValue_changesSince Nat dumps baseUrl (fetcher "a b" 0)
      (safePath "a b" 0) (by simp [fetcher]) (by rintro filter hgiven; cases hgiven; decide)
      (atOffset 0) rfl
    cases Option.some.inj (hurl.symm.trans hfound)
    have hsince := hread.changesSince
    rw [getChangesSince, hlast, Option.bind_some] at hsince
    have hnone : parseDatetime (arrivingText (atOffset 0)) = none := by decide
    rw [hnone] at hsince
    cases hsince
  · apply @not_roundTrips_of_filter "a&b" "\x7b\"name\": \"a"
    · decide +kernel
    · rintro ⟨⟩
  · apply @not_roundTrips_of_filter "a+b" "\x7b\"name\": \"a b\"\x7d"
    · decide +kernel
    · intro hread
      have hspace : getFilterValue [("filter", "\x7b\"name\": \"a b\"\x7d")] loads =
          .ok (named "a b") := rfl
      rw [hspace, Except.ok.injEq] at hread
      simp [named] at hread

end QueryWitness

end NFCompose
