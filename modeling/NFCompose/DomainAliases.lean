/-
Domain aliases: a dump replaces the domains of a server by their aliases, with the inverted
map, and the definitions that are loaded get the domains of the map again.
-/
import Mathlib.Data.Bool.AllAny
import NFCompose.DefinitionFetch
import NFCompose.UrlParts

namespace NFCompose

namespace DomainAliases

open UrlParts

abbrev DomainMap := AList fun _ : String => String

inductive AliasError where
  | valueError
  | assertionError (message : String)
deriving DecidableEq, Repr

def invertDict (d : DomainMap) : Option DomainMap :=
  d.entries.foldlM (fun out entry =>
    if entry.2 ∈ out then none else some (out.insert entry.2 entry.1)) ∅

section Replacing

variable (accepts : List Char → Bool)

/-- `replace_domain`.  For urls that can be parsed it is the function of the fetched
definitions (`replaceDomain_eq_ok`). -/
def replaceDomain (url : RestUrl) (domainAliases : DomainMap) : Except AliasError RestUrl :=
  match urlparse accepts url.toList with
  | none => .error .valueError
  | some parsedUpstream =>
      match domainAliases.lookup (String.ofList parsedUpstream.netloc) with
      | some domain =>
          .ok (String.ofList (urlunparse { parsedUpstream with netloc := domain.toList }))
      | none => .ok url

/-- A url in a definition that is dumped. -/
def dumpUrl (domainAliases : DomainMap) (url : RestUrl) : Except AliasError RestUrl :=
  match invertDict domainAliases with
  | none => .error (.assertionError "passed domain aliases are not invertible")
  | some inverted => replaceDomain accepts url inverted

/-- A url in a definition that is loaded as the target of a diff. -/
def loadUrl (domainAliases : DomainMap) (url : RestUrl) : Except AliasError RestUrl :=
  match invertDict domainAliases with
  | none => .error (.assertionError "passed domain aliases are not invertible")
  | some _ => replaceDomain accepts url domainAliases

/-- Domains and the domains that stand for them. -/
structure AliasMap where
  aliases : DomainMap
  domains : ∀ key domain, aliases.lookup key = some domain →
    IsDomain accepts key.toList ∧ IsDomain accepts domain.toList

/-- The parser of the fetched definitions, for urls that can be parsed. -/
def urlParser : UrlParser where
  netloc := fun url => ((urlparse accepts url.toList).map fun parsed =>
    String.ofList parsed.netloc).getD ""
  replaceNetloc := fun url netloc => ((urlparse accepts url.toList).map fun parsed =>
    String.ofList (urlunparse { parsed with netloc := netloc.toList })).getD url

theorem replaceDomain_eq_ok {url : RestUrl} {parts : ParseResult}
    (hparsed : urlparse accepts url.toList = some parts) (domainAliases : DomainMap) :
    replaceDomain accepts url domainAliases =
      .ok (NFCompose.replaceDomain (urlParser accepts) domainAliases url) := by
  have hnetloc : (urlParser accepts).netloc url = String.ofList parts.netloc := by
    simp only [urlParser, hparsed, Option.map_some, Option.getD_some]
  have hreplace : ∀ domain, (urlParser accepts).replaceNetloc url domain =
      String.ofList (urlunparse { parts with netloc := domain.toList }) := by
    intro domain
    simp only [urlParser, hparsed, Option.map_some, Option.getD_some]
  rw [replaceDomain, NFCompose.replaceDomain, hparsed, hnetloc]
  cases hlookup : domainAliases.lookup (String.ofList parts.netloc) with
  | none => simp only [hlookup]
  | some domain => simp only [hlookup, hreplace]

end Replacing

section Inverting

theorem lookup_invert_from {entries : List (Sigma fun _ : String => String)}
    {out inverted : DomainMap}
    (hinvert : entries.foldlM (fun out entry =>
      if entry.2 ∈ out then none else some (out.insert entry.2 entry.1)) out = some inverted)
    (domain key : String) :
    inverted.lookup domain = some key ↔
      out.lookup domain = some key ∨ ⟨key, domain⟩ ∈ entries := by
  induction entries generalizing out with
  | nil =>
      cases hinvert
      simp
  | cons entry entries ih =>
      rw [List.foldlM_cons] at hinvert
      split at hinvert
      · cases hinvert
      · next hfresh =>
          rw [ih hinvert, List.mem_cons]
          by_cases hdomain : domain = entry.2
          · have hnone : out.lookup domain = none := by
              rw [AList.lookup_eq_none, hdomain]
              exact hfresh
            rw [hnone, hdomain, AList.lookup_insert, Option.some.injEq]
            constructor
            · rintro (rfl | hmem)
              · exact .inr (.inl rfl)
              · exact .inr (.inr hmem)
            · rintro (hnone | heq | hmem)
              · cases hnone
              · exact .inl (congrArg Sigma.fst heq).symm
              · exact .inr hmem
          · rw [AList.lookup_insert_ne hdomain]
            constructor
            · rintro (hlookup | hmem)
              · exact .inl hlookup
              · exact .inr (.inr hmem)
            · rintro (hlookup | heq | hmem)
              · exact .inl hlookup
              · cases heq
                exact absurd rfl hdomain
              · exact .inr hmem

/-- The inverted map has the keys of the domains. -/
theorem lookup_invertDict {d inverted : DomainMap} (hinvert : invertDict d = some inverted)
    (domain key : String) :
    inverted.lookup domain = some key ↔ d.lookup key = some domain := by
  rw [lookup_invert_from hinvert, ← AList.mem_lookup_iff, Option.mem_def, AList.lookup_empty]
  simp

end Inverting

section RoundTrip

variable {accepts : List Char → Bool} {url : RestUrl} {parts : ParseResult}

theorem replaceDomain_of_lookup_none (hparsed : urlparse accepts url.toList = some parts)
    {domainAliases : DomainMap}
    (hnone : domainAliases.lookup (String.ofList parts.netloc) = none) :
    replaceDomain accepts url domainAliases = .ok url := by
  simp only [replaceDomain, hparsed, hnone]

theorem replaceDomain_of_lookup (hparsed : urlparse accepts url.toList = some parts)
    {domainAliases : DomainMap} {domain : String}
    (hdomain : domainAliases.lookup (String.ofList parts.netloc) = some domain) :
    replaceDomain accepts url domainAliases =
      .ok (String.ofList (urlunparse { parts with netloc := domain.toList })) := by
  simp only [replaceDomain, hparsed, hdomain]

/-- The url after a dump and a load. -/
def roundTrip (accepts : List Char → Bool) (domainAliases : DomainMap) (url : RestUrl) :
    Except AliasError RestUrl := do
  let dumped ← dumpUrl accepts domainAliases url
  loadUrl accepts domainAliases dumped

theorem netloc_ne_nil {netloc : List Char}
    (hdomain : IsDomain accepts (String.ofList netloc).toList) : netloc ≠ [] := by
  rintro rfl
  exact hdomain.ne_nil rfl

/-- A url with another domain is written with this domain, and read so. -/
theorem urlparse_replaced {domain : String} (hurl : Reproduced accepts url.toList parts)
    (hne : parts.netloc ≠ []) (hdomain : IsDomain accepts domain.toList) :
    urlparse accepts
        (String.ofList (urlunparse { parts with netloc := domain.toList })).toList =
      some { parts with netloc := domain.toList } := by
  rw [String.toList_ofList]
  exact (reproduced_replace hurl hne hdomain).parsed

variable (map : AliasMap accepts) {inverted : DomainMap}
  (hinvert : invertDict map.aliases = some inverted)
  (hurl : Reproduced accepts url.toList parts)
include hinvert hurl

/-- A url whose host is a domain of the map is dumped with the key, and loaded back. -/
theorem roundTrip_of_value {key : String}
    (hkey : map.aliases.lookup key = some (String.ofList parts.netloc)) :
    roundTrip accepts map.aliases url = .ok url := by
  obtain ⟨hkeyDomain, hhost⟩ := map.domains key _ hkey
  have hne := netloc_ne_nil hhost
  have hdump : dumpUrl accepts map.aliases url =
      .ok (String.ofList (urlunparse { parts with netloc := key.toList })) := by
    simp only [dumpUrl, hinvert]
    exact replaceDomain_of_lookup hurl.parsed ((lookup_invertDict hinvert _ _).mpr hkey)
  have hread := urlparse_replaced hurl hne hkeyDomain
  have hload : loadUrl accepts map.aliases
      (String.ofList (urlunparse { parts with netloc := key.toList })) = .ok url := by
    simp only [loadUrl, hinvert]
    have hlookup : map.aliases.lookup (String.ofList key.toList) =
        some (String.ofList parts.netloc) := by rw [String.ofList_toList]; exact hkey
    rw [replaceDomain_of_lookup hread hlookup]
    simp only [String.toList_ofList]
    rw [hurl.unparsed, String.ofList_toList]
  rw [roundTrip, hdump]
  exact hload

/-- A url whose host is no domain of the map is dumped as it is. -/
theorem dumpUrl_of_no_value
    (hvalue : ∀ key, map.aliases.lookup key ≠ some (String.ofList parts.netloc)) :
    dumpUrl accepts map.aliases url = .ok url := by
  simp only [dumpUrl, hinvert]
  apply replaceDomain_of_lookup_none hurl.parsed
  rw [Option.eq_none_iff_forall_ne_some]
  intro key hkey
  exact hvalue key ((lookup_invertDict hinvert _ _).mp hkey)

/-- A url whose host is no key of the map is loaded as it is. -/
theorem loadUrl_of_no_key
    (hkey : map.aliases.lookup (String.ofList parts.netloc) = none) :
    loadUrl accepts map.aliases url = .ok url := by
  simp only [loadUrl, hinvert]
  exact replaceDomain_of_lookup_none hurl.parsed hkey

/-- A url comes back from a dump and a load, unless its host is a key of the map and no
domain of it: then only the load replaces the host. -/
theorem roundTrip_eq_iff :
    (roundTrip accepts map.aliases url = .ok url ↔
      (map.aliases.lookup (String.ofList parts.netloc) = none ∨
        ∃ key, map.aliases.lookup key = some (String.ofList parts.netloc))) ∧
    (map.aliases.lookup (String.ofList parts.netloc) = none →
      (∀ key, map.aliases.lookup key ≠ some (String.ofList parts.netloc)) →
        dumpUrl accepts map.aliases url = .ok url ∧
          loadUrl accepts map.aliases url = .ok url) := by
  constructor
  · by_cases hvalue : ∃ key, map.aliases.lookup key = some (String.ofList parts.netloc)
    · obtain ⟨key, hkey⟩ := hvalue
      exact iff_of_true (roundTrip_of_value map hinvert hurl hkey) (.inr ⟨key, hkey⟩)
    · have hdump := dumpUrl_of_no_value map hinvert hurl (not_exists.mp hvalue)
      have htrip : roundTrip accepts map.aliases url = loadUrl accepts map.aliases url := by
        rw [roundTrip, hdump]
        rfl
      rw [htrip]
      cases hdomain : map.aliases.lookup (String.ofList parts.netloc) with
      | none => exact iff_of_true (loadUrl_of_no_key map hinvert hurl hdomain) (.inl rfl)
      | some domain =>
          apply iff_of_false
          · intro hload
            simp only [loadUrl, hinvert] at hload
            rw [replaceDomain_of_lookup hurl.parsed hdomain] at hload
            obtain ⟨hhost, hother⟩ := map.domains _ _ hdomain
            have hread := urlparse_replaced hurl (netloc_ne_nil hhost) hother
            rw [Except.ok.inj hload, hurl.parsed] at hread
            have hnetloc := congrArg ParseResult.netloc (Option.some.inj hread)
            have hsame : map.aliases.lookup (String.ofList parts.netloc) =
                some (String.ofList parts.netloc) := by
              rw [hdomain, hnetloc, String.ofList_toList]
            exact hvalue ⟨_, hsame⟩
          · rintro (hnone | hexists)
            · cases hnone
            · exact hvalue hexists
  · intro hkey hvalue
    exact ⟨dumpUrl_of_no_value map hinvert hurl hvalue, loadUrl_of_no_key map hinvert hurl hkey⟩

end RoundTrip

namespace AliasWitness

def accepts : List Char → Bool := fun _ => true

/-- The production is `compose.local` where definitions are kept. -/
def aliases : DomainMap := AList.singleton "compose.local" "compose.example"

theorem isDomain_local : IsDomain accepts "compose.local".toList :=
  ⟨by decide, List.all_iff_forall_prop.mp (by decide), List.all_iff_forall_prop.mp (by decide),
    by decide⟩

theorem isDomain_example : IsDomain accepts "compose.example".toList :=
  ⟨by decide, List.all_iff_forall_prop.mp (by decide), List.all_iff_forall_prop.mp (by decide),
    by decide⟩

def map : AliasMap accepts where
  aliases := aliases
  domains := by
    intro key domain hlookup
    rw [← Option.mem_def, AList.mem_lookup_iff] at hlookup
    cases List.mem_singleton.mp hlookup
    exact ⟨isDomain_local, isDomain_example⟩

def targetUrl (host : String) : RestUrl := "https://" ++ host ++ "/hook;v=1?all=1#top"

def targetParts (host : String) : ParseResult where
  scheme := "https".toList
  netloc := host.toList
  path := "/hook".toList
  params := "v=1".toList
  query := "all=1".toList
  fragment := "top".toList

theorem reproduced_local :
    Reproduced accepts (targetUrl "compose.local").toList (targetParts "compose.local") :=
  ⟨by decide, by decide⟩

theorem reproduced_example :
    Reproduced accepts (targetUrl "compose.example").toList (targetParts "compose.example") :=
  ⟨by decide, by decide⟩

theorem invertDict_map :
    invertDict map.aliases = some (AList.singleton "compose.example" "compose.local") := rfl

/-- A target that has the alias as its host on the server comes back with the domain. -/
theorem alias_on_server_changes :
    Reproduced accepts (targetUrl "compose.local").toList (targetParts "compose.local") ∧
      roundTrip accepts map.aliases (targetUrl "compose.local") =
        .ok (targetUrl "compose.example") ∧
      targetUrl "compose.example" ≠ targetUrl "compose.local" :=
  ⟨reproduced_local, by decide, by decide⟩

theorem example_round_trip :
    (roundTrip accepts map.aliases (targetUrl "compose.example") =
        .ok (targetUrl "compose.example") ↔
      (map.aliases.lookup (String.ofList (targetParts "compose.example").netloc) = none ∨
        ∃ key, map.aliases.lookup key =
          some (String.ofList (targetParts "compose.example").netloc))) ∧
    (map.aliases.lookup (String.ofList (targetParts "compose.example").netloc) = none →
      (∀ key, map.aliases.lookup key ≠
        some (String.ofList (targetParts "compose.example").netloc)) →
          dumpUrl accepts map.aliases (targetUrl "compose.example") =
              .ok (targetUrl "compose.example") ∧
            loadUrl accepts map.aliases (targetUrl "compose.example") =
              .ok (targetUrl "compose.example")) :=
  roundTrip_eq_iff map invertDict_map reproduced_example

end AliasWitness

end DomainAliases

end NFCompose
