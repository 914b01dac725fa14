/-
The parts of a URL: what `urlparse` reads and `urlunparse` writes.  A network location can
be replaced by another one, and the rest of the URL is read as before.
-/
import Mathlib.Data.List.TakeWhile

namespace UrlParts

structure ParseResult where
  scheme : List Char
  netloc : List Char
  path : List Char
  params : List Char
  query : List Char
  fragment : List Char
deriving DecidableEq, Repr

section Parsing

def isControlOrSpace (c : Char) : Bool := decide (c.toNat ≤ 32)

def isUnsafe (c : Char) : Bool := c = '\t' || c = '\r' || c = '\n'

/-- What is dropped from a url before it is read. -/
def clean (url : List Char) : List Char :=
  (url.dropWhile isControlOrSpace).filter fun c => !isUnsafe c

def isAsciiAlpha (c : Char) : Bool :=
  decide (65 ≤ c.toNat ∧ c.toNat ≤ 90) || decide (97 ≤ c.toNat ∧ c.toNat ≤ 122)

def isSchemeChar (c : Char) : Bool :=
  isAsciiAlpha c || decide (48 ≤ c.toNat ∧ c.toNat ≤ 57) || c = '+' || c = '-' || c = '.'

def isScheme (text : List Char) : Bool := text.head?.any isAsciiAlpha && text.all isSchemeChar

def splitScheme (url : List Char) : List Char × List Char :=
  match url.dropWhile (· ≠ ':') with
  | [] => ([], url)
  | _ :: rest =>
      if isScheme (url.takeWhile (· ≠ ':')) then
        ((url.takeWhile (· ≠ ':')).map Char.toLower, rest)
      else ([], url)

/-- What ends a network location. -/
def isDelimiter (c : Char) : Bool := c = '/' || c = '?' || c = '#'

def splitNetloc : List Char → List Char × List Char
  | '/' :: '/' :: rest => (rest.takeWhile (!isDelimiter ·), rest.dropWhile (!isDelimiter ·))
  | url => ([], url)

/-- The text in front of the first of these characters, and the text behind it. -/
def splitOnce (c : Char) (text : List Char) : List Char × List Char :=
  (text.takeWhile (· ≠ c), (text.dropWhile (· ≠ c)).tail)

def usesParams : List (List Char) :=
  ["", "ftp", "hdl", "prospero", "http", "https", "shttp", "rtsp", "rtspu", "sip", "sips",
    "mms", "sftp", "tel"].map String.toList

def usesNetloc : List (List Char) :=
  ["", "ftp", "http", "gopher", "nntp", "telnet", "imap", "wais", "file", "mms", "https",
    "shttp", "snews", "prospero", "rtsp", "rtspu", "rsync", "svn", "svn+ssh", "sftp", "nfs",
    "git", "git+ssh", "ws", "wss"].map String.toList

/-- The text up to the last slash, and the last segment. -/
def lastSegment (url : List Char) : List Char × List Char :=
  ((url.reverse.dropWhile (· ≠ '/')).reverse, (url.reverse.takeWhile (· ≠ '/')).reverse)

def splitParams (url : List Char) : List Char × List Char :=
  let (front, segment) := lastSegment url
  (front ++ (splitOnce ';' segment).1, (splitOnce ';' segment).2)

/-- A network location that is read.  `accepts` says which bracketed hosts and which
characters outside of ASCII are allowed. -/
def isNetloc (accepts : List Char → Bool) (netloc : List Char) : Bool :=
  netloc.isEmpty || (netloc.contains '[' == netloc.contains ']' && accepts netloc)

/-- What follows the network location of a url. -/
def splitRest (scheme netloc rest : List Char) : ParseResult :=
  let (rest, fragment) := splitOnce '#' rest
  let (rest, query) := splitOnce '?' rest
  let (path, params) := if scheme ∈ usesParams then splitParams rest else (rest, [])
  ⟨scheme, netloc, path, params, query, fragment⟩

/-- `urlparse`.  There is no result when it raises a `ValueError`. -/
def urlparse (accepts : List Char → Bool) (url : List Char) : Option ParseResult :=
  let (scheme, rest) := splitScheme (clean url)
  let (netloc, rest) := splitNetloc rest
  if isNetloc accepts netloc then some (splitRest scheme netloc rest) else none

end Parsing

section Unparsing

/-- A separator and a text, if there is a text. -/
def following (separator : Char) (text : List Char) : List Char :=
  if text = [] then [] else separator :: text

def joinPath (parts : ParseResult) : List Char := parts.path ++ following ';' parts.params

/-- The path after a network location. -/
def rooted (path : List Char) : List Char :=
  if path ≠ [] ∧ path.head? ≠ some '/' then '/' :: path else path

def joinNetloc (parts : ParseResult) : List Char :=
  if parts.netloc ≠ [] ∨ (parts.scheme ≠ [] ∧ parts.scheme ∈ usesNetloc ∧
      (joinPath parts).take 2 ≠ ['/', '/']) then
    '/' :: '/' :: (parts.netloc ++ rooted (joinPath parts))
  else joinPath parts

def joinScheme (scheme rest : List Char) : List Char :=
  if scheme = [] then rest else scheme ++ ':' :: rest

def urlunparse (parts : ParseResult) : List Char :=
  joinScheme parts.scheme
    (joinNetloc parts ++ following '?' parts.query ++ following '#' parts.fragment)

end Unparsing

section Characters

/-- A fact about the characters of schemes, which are ASCII. -/
theorem forall_isSchemeChar (property : Char → Bool)
    (hall : ∀ n < 128, isSchemeChar (Char.ofNat n) = true → property (Char.ofNat n) = true)
    {c : Char} (hc : isSchemeChar c = true) : property c = true := by
  have hsmall : c.toNat < 128 := by
    simp only [isSchemeChar, isAsciiAlpha, Bool.or_eq_true, decide_eq_true_eq] at hc
    rcases hc with (((halpha | hdigit) | rfl) | rfl) | rfl
    · omega
    · omega
    · decide
    · decide
    · decide
  rw [← Char.ofNat_toNat c] at hc ⊢
  exact hall c.toNat hsmall hc

theorem isUnsafe_of_isSchemeChar {c : Char} (hc : isSchemeChar c = true) :
    isUnsafe c = false := by
  have hsafe := forall_isSchemeChar (fun c => !isUnsafe c) (by decide) hc
  simpa using hsafe

theorem ne_colon_of_isSchemeChar {c : Char} (hc : isSchemeChar c = true) : c ≠ ':' := by
  rintro rfl
  exact absurd hc (by decide)

theorem isSchemeChar_toLower {c : Char} (hc : isSchemeChar c = true) :
    isSchemeChar c.toLower = true :=
  forall_isSchemeChar (fun c => isSchemeChar c.toLower) (by decide) hc

theorem toLower_toLower {c : Char} (hc : isSchemeChar c = true) :
    c.toLower.toLower = c.toLower := by
  have hlower := forall_isSchemeChar
    (fun c => decide (c.toLower.toLower = c.toLower)) (by decide) hc
  exact of_decide_eq_true hlower

theorem isSchemeChar_of_isAsciiAlpha {c : Char} (halpha : isAsciiAlpha c = true) :
    isSchemeChar c = true := by
  simp [isSchemeChar, halpha]

theorem isAsciiAlpha_toLower {c : Char} (halpha : isAsciiAlpha c = true) :
    isAsciiAlpha c.toLower = true := by
  have hlower := forall_isSchemeChar
    (fun c => !isAsciiAlpha c || isAsciiAlpha c.toLower) (by decide)
    (isSchemeChar_of_isAsciiAlpha halpha)
  simpa [halpha] using hlower

theorem isControlOrSpace_of_isAsciiAlpha {c : Char} (hc : isAsciiAlpha c = true) :
    isControlOrSpace c = false := by
  simp only [isAsciiAlpha, Bool.or_eq_true, decide_eq_true_eq] at hc
  simp only [isControlOrSpace, decide_eq_false_iff_not]
  omega

end Characters

section Composing

/-- A text splits in front of its first character of a kind. -/
theorem takeWhile_append_stop {stops : Char → Bool} {front rest : List Char}
    (hfront : ∀ c ∈ front, stops c = false) (hrest : ∀ c ∈ rest.head?, stops c = true) :
    (front ++ rest).takeWhile (!stops ·) = front ∧ (front ++ rest).dropWhile (!stops ·) = rest := by
  have hpos : ∀ c ∈ front, (!stops c) = true := fun c hc => by rw [hfront c hc]; rfl
  rw [List.takeWhile_append_of_pos hpos, List.dropWhile_append_of_pos hpos]
  cases rest with
  | nil => exact ⟨List.append_nil front, rfl⟩
  | cons c rest =>
      have hstop := hrest c rfl
      rw [List.takeWhile_cons_of_neg (by simp [hstop]), List.append_nil,
        List.dropWhile_cons_of_neg (by simp [hstop])]
      exact ⟨rfl, rfl⟩

/-- A scheme as it is read: none, or one in small letters. -/
def IsReadScheme (scheme : List Char) : Prop :=
  scheme = [] ∨ (isScheme scheme = true ∧ scheme.map Char.toLower = scheme)

theorem isReadScheme_splitScheme (url : List Char) : IsReadScheme (splitScheme url).1 := by
  rw [splitScheme]
  split
  · exact .inl rfl
  · split
    · next hscheme =>
        right
        rw [isScheme, Bool.and_eq_true] at hscheme
        obtain ⟨hhead, hall⟩ := hscheme
        rw [List.all_eq_true] at hall
        constructor
        · rw [isScheme, Bool.and_eq_true]
          constructor
          · rw [List.head?_map, Option.any_map]
            obtain ⟨c, hc, halpha⟩ := Option.any_eq_true _ _ |>.mp hhead
            exact Option.any_eq_true _ _ |>.mpr ⟨c, hc, isAsciiAlpha_toLower halpha⟩
          · rw [List.all_map, List.all_eq_true]
            intro c hc
            exact isSchemeChar_toLower (hall c hc)
        · rw [List.map_map]
          apply List.map_congr_left
          intro c hc
          exact toLower_toLower (hall c hc)
    · exact .inl rfl

/-- A url with a network location. -/
def compose (scheme netloc rest : List Char) : List Char :=
  joinScheme scheme ('/' :: '/' :: (netloc ++ rest))

theorem splitScheme_compose {scheme : List Char} (hscheme : IsReadScheme scheme)
    (netloc rest : List Char) :
    splitScheme (compose scheme netloc rest) = (scheme, '/' :: '/' :: (netloc ++ rest)) := by
  rcases hscheme with rfl | ⟨hscheme, hlower⟩
  · have hslash : isScheme (('/' :: '/' :: (netloc ++ rest)).takeWhile (· ≠ ':')) = false := by
      rw [List.takeWhile_cons_of_pos (by decide)]
      rfl
    rw [compose, joinScheme, if_pos rfl, splitScheme, hslash]
    split <;> rfl
  · have hne : scheme ≠ [] := by
      rintro rfl
      cases hscheme
    have hall := (Bool.and_eq_true _ _ ▸ hscheme).2
    rw [List.all_eq_true] at hall
    have hfront : ∀ c ∈ scheme, decide (c = ':') = false :=
      fun c hc => decide_eq_false (ne_colon_of_isSchemeChar (hall c hc))
    have hcolon : ∀ c ∈ (':' :: '/' :: '/' :: (netloc ++ rest)).head?, decide (c = ':') = true := by
      simp
    have hcut := takeWhile_append_stop hfront hcolon
    simp only [← decide_not] at hcut
    rw [compose, joinScheme, if_neg hne, splitScheme, hcut.1, hcut.2]
    simp only [hscheme, if_true, hlower]

/-- A url whose characters are all read. -/
theorem clean_eq_self {url : List Char} (hhead : ∀ c ∈ url.head?, isControlOrSpace c = false)
    (hsafe : ∀ c ∈ url, isUnsafe c = false) : clean url = url := by
  have hdrop : url.dropWhile isControlOrSpace = url := by
    cases url with
    | nil => rfl
    | cons c rest => exact List.dropWhile_cons_of_neg (by rw [hhead c rfl]; decide)
  rw [clean, hdrop, List.filter_eq_self]
  intro c hc
  rw [hsafe c hc]
  rfl

theorem isUnsafe_of_mem_clean {url : List Char} {c : Char} (hc : c ∈ clean url) :
    isUnsafe c = false := by
  simpa using (List.mem_filter.mp hc).2

theorem clean_compose {scheme netloc rest : List Char} (hscheme : IsReadScheme scheme)
    (hnetloc : ∀ c ∈ netloc, isUnsafe c = false) (hrest : ∀ c ∈ rest, isUnsafe c = false) :
    clean (compose scheme netloc rest) = compose scheme netloc rest := by
  have htail : ∀ c ∈ '/' :: '/' :: (netloc ++ rest), isUnsafe c = false := by
    intro c hc
    simp only [List.mem_cons, List.mem_append] at hc
    rcases hc with rfl | rfl | hc | hc
    · rfl
    · rfl
    · exact hnetloc c hc
    · exact hrest c hc
  rcases hscheme with rfl | ⟨hscheme, -⟩
  · rw [compose, joinScheme, if_pos rfl]
    exact clean_eq_self (by simp [isControlOrSpace]) htail
  · rw [isScheme, Bool.and_eq_true, List.all_eq_true] at hscheme
    obtain ⟨first, hfirst, halpha⟩ := (Option.any_eq_true _ _).mp hscheme.1
    have hne : scheme ≠ [] := by
      rintro rfl
      cases hfirst
    rw [compose, joinScheme, if_neg hne]
    apply clean_eq_self
    · intro c hc
      rw [List.head?_append, hfirst, Option.some_or] at hc
      cases hc
      exact isControlOrSpace_of_isAsciiAlpha halpha
    · intro c hc
      rcases List.mem_append.mp hc with hc | hc
      · exact isUnsafe_of_isSchemeChar (hscheme.2 c hc)
      · rcases List.mem_cons.mp hc with rfl | hc
        · rfl
        · exact htail c hc

/-- A composed url is read as it was composed. -/
theorem urlparse_compose (accepts : List Char → Bool) {scheme netloc rest : List Char}
    (hscheme : IsReadScheme scheme) (hdelimiters : ∀ c ∈ netloc, isDelimiter c = false)
    (hroot : ∀ c ∈ rest.head?, isDelimiter c = true)
    (hnetloc : ∀ c ∈ netloc, isUnsafe c = false) (hrest : ∀ c ∈ rest, isUnsafe c = false) :
    urlparse accepts (compose scheme netloc rest) =
      if isNetloc accepts netloc then some (splitRest scheme netloc rest) else none := by
  have hcut := takeWhile_append_stop hdelimiters hroot
  rw [urlparse, clean_compose hscheme hnetloc hrest, splitScheme_compose hscheme]
  simp only [splitNetloc, hcut.1, hcut.2]

end Composing

section Replacing

/-- What `urlparse` reads as a network location. -/
structure IsDomain (accepts : List Char → Bool) (domain : List Char) : Prop where
  ne_nil : domain ≠ []
  no_delimiter : ∀ c ∈ domain, isDelimiter c = false
  safe : ∀ c ∈ domain, isUnsafe c = false
  accepted : isNetloc accepts domain = true

/-- What is written behind the network location of a url. -/
def joinRest (parts : ParseResult) : List Char :=
  rooted (joinPath parts) ++ following '?' parts.query ++ following '#' parts.fragment

theorem urlunparse_eq_compose {parts : ParseResult} (hnetloc : parts.netloc ≠ []) :
    urlunparse parts = compose parts.scheme parts.netloc (joinRest parts) := by
  rw [urlunparse, joinNetloc, if_pos (.inl hnetloc), compose, joinRest]
  simp only [List.cons_append, List.append_assoc]

theorem isDelimiter_head_joinRest (parts : ParseResult) :
    ∀ c ∈ (joinRest parts).head?, isDelimiter c = true := by
  intro c hc
  rw [joinRest, List.append_assoc] at hc
  cases hpath : rooted (joinPath parts) with
  | cons first path =>
      rw [hpath] at hc
      cases hc
      rw [rooted] at hpath
      split at hpath
      · cases hpath
        rfl
      · next hroot =>
          rw [not_and_or, not_ne_iff, not_ne_iff] at hroot
          rcases hroot with hnil | hhead
          · rw [hnil] at hpath
            cases hpath
          · rw [hpath] at hhead
            cases hhead
            rfl
  | nil =>
      rw [hpath, List.nil_append, following, following] at hc
      split at hc
      · split at hc
        · cases hc
        · cases hc
          rfl
      · cases hc
        rfl

theorem mem_of_mem_splitOnce {c separator : Char} {text : List Char}
    (hc : c ∈ (splitOnce separator text).1 ∨ c ∈ (splitOnce separator text).2) : c ∈ text := by
  rcases hc with hc | hc
  · exact (List.takeWhile_prefix _).subset hc
  · exact (List.dropWhile_suffix _).subset (List.mem_of_mem_tail hc)

theorem mem_of_mem_splitParams {c : Char} {url : List Char}
    (hc : c ∈ (splitParams url).1 ∨ c ∈ (splitParams url).2) : c ∈ url := by
  have hsegment : ∀ c ∈ (lastSegment url).2, c ∈ url := by
    intro c hc
    have hreverse := (List.takeWhile_prefix _).subset (List.mem_reverse.mp hc)
    exact List.mem_reverse.mp hreverse
  rcases hc with hc | hc
  · rcases List.mem_append.mp hc with hc | hc
    · have hreverse := (List.dropWhile_suffix _).subset (List.mem_reverse.mp hc)
      exact List.mem_reverse.mp hreverse
    · exact hsegment c (mem_of_mem_splitOnce (.inl hc))
  · exact hsegment c (mem_of_mem_splitOnce (.inr hc))

/-- All that is read behind the network location is written there. -/
theorem mem_of_mem_splitRest {c : Char} {scheme netloc rest : List Char}
    (hc : c ∈ (splitRest scheme netloc rest).path ∨ c ∈ (splitRest scheme netloc rest).params ∨
      c ∈ (splitRest scheme netloc rest).query ∨
      c ∈ (splitRest scheme netloc rest).fragment) : c ∈ rest := by
  simp only [splitRest] at hc
  have hfront : ∀ c ∈ (splitOnce '?' (splitOnce '#' rest).1).1, c ∈ rest :=
    fun c hc => mem_of_mem_splitOnce (.inl (mem_of_mem_splitOnce (.inl hc)))
  rcases hc with hc | hc | hc | hc
  · split at hc
    · exact hfront c (mem_of_mem_splitParams (.inl hc))
    · exact hfront c hc
  · split at hc
    · exact hfront c (mem_of_mem_splitParams (.inr hc))
    · cases hc
  · exact mem_of_mem_splitOnce (.inl (mem_of_mem_splitOnce (.inr hc)))
  · exact mem_of_mem_splitOnce (.inr hc)

theorem mem_following {c separator : Char} {text : List Char}
    (hc : c ∈ following separator text) : c = separator ∨ c ∈ text := by
  rw [following] at hc
  split at hc
  · cases hc
  · exact List.mem_cons.mp hc

theorem mem_joinRest {c : Char} {parts : ParseResult} (hc : c ∈ joinRest parts) :
    isUnsafe c = false ∨ c ∈ parts.path ∨ c ∈ parts.params ∨ c ∈ parts.query ∨
      c ∈ parts.fragment := by
  simp only [joinRest, List.mem_append] at hc
  have hpath : c ∈ joinPath parts → isUnsafe c = false ∨ c ∈ parts.path ∨ c ∈ parts.params := by
    intro hc
    rcases List.mem_append.mp hc with hc | hc
    · exact .inr (.inl hc)
    · rcases mem_following hc with rfl | hc
      · exact .inl rfl
      · exact .inr (.inr hc)
  rcases hc with (hc | hc) | hc
  · have hcases : c = '/' ∨ c ∈ joinPath parts := by
      rw [rooted] at hc
      split at hc
      · exact List.mem_cons.mp hc
      · exact .inr hc
    rcases hcases with rfl | hc
    · exact .inl rfl
    · rcases hpath hc with hc | hc | hc
      · exact .inl hc
      · exact .inr (.inl hc)
      · exact .inr (.inr (.inl hc))
  · rcases mem_following hc with rfl | hc
    · exact .inl rfl
    · exact .inr (.inr (.inr (.inl hc)))
  · rcases mem_following hc with rfl | hc
    · exact .inl rfl
    · exact .inr (.inr (.inr (.inr hc)))

/-- A url that `urlparse` and `urlunparse` reproduce. -/
structure Reproduced (accepts : List Char → Bool) (url : List Char) (parts : ParseResult) :
    Prop where
  parsed : urlparse accepts url = some parts
  unparsed : urlunparse parts = url

theorem mem_of_mem_splitScheme {c : Char} {url : List Char} (hc : c ∈ (splitScheme url).2) :
    c ∈ url := by
  rw [splitScheme] at hc
  split at hc
  · exact hc
  · next hdrop =>
      split at hc
      · have hmem : c ∈ url.dropWhile (· ≠ ':') := by
          rw [hdrop]
          exact List.mem_cons_of_mem _ hc
        exact (List.dropWhile_suffix _).subset hmem
      · exact hc

theorem splitNetloc_spec (url : List Char) :
    (∀ c ∈ (splitNetloc url).1, isDelimiter c = false) ∧
      ∀ c ∈ (splitNetloc url).1 ++ (splitNetloc url).2, c ∈ url := by
  rw [splitNetloc.eq_def]
  split
  · next rest =>
      constructor
      · intro c hc
        simpa using List.mem_takeWhile_imp hc
      · intro c hc
        rw [List.takeWhile_append_dropWhile] at hc
        exact List.mem_cons_of_mem _ (List.mem_cons_of_mem _ hc)
  · exact ⟨nofun, fun c hc => hc⟩

theorem urlparse_eq_some {accepts : List Char → Bool} {url : List Char} {parts : ParseResult}
    (hparsed : urlparse accepts url = some parts) :
    IsReadScheme parts.scheme ∧ (∀ c ∈ parts.netloc, isDelimiter c = false) ∧
      ∃ rest, (∀ c ∈ parts.netloc ++ rest, isUnsafe c = false) ∧
        parts = splitRest parts.scheme parts.netloc rest := by
  have hscheme := isReadScheme_splitScheme (clean url)
  have hnetloc := splitNetloc_spec (splitScheme (clean url)).2
  simp only [urlparse] at hparsed
  split at hparsed
  · cases hparsed
    refine ⟨hscheme, hnetloc.1, (splitNetloc (splitScheme (clean url)).2).2, ?_, rfl⟩
    intro c hc
    exact isUnsafe_of_mem_clean (mem_of_mem_splitScheme (hnetloc.2 c hc))
  · cases hparsed

/-- Another network location in a url that is reproduced. -/
theorem reproduced_replace {accepts : List Char → Bool} {url : List Char} {parts : ParseResult}
    (hurl : Reproduced accepts url parts) (hne : parts.netloc ≠ []) {domain : List Char}
    (hdomain : IsDomain accepts domain) :
    Reproduced accepts (urlunparse { parts with netloc := domain })
      { parts with netloc := domain } := by
  refine ⟨?_, rfl⟩
  obtain ⟨hscheme, hdelimiters, rest, hsafe, hrest⟩ := urlparse_eq_some hurl.parsed
  have hjoined : ∀ c ∈ joinRest parts, isUnsafe c = false := by
    intro c hc
    rcases mem_joinRest hc with hc | hc
    · exact hc
    · rw [hrest] at hc
      exact hsafe c (List.mem_append_right _ (mem_of_mem_splitRest hc))
  have hread := urlparse_compose accepts hscheme hdelimiters (isDelimiter_head_joinRest parts)
    (fun c hc => hsafe c (List.mem_append_left _ hc)) hjoined
  rw [← urlunparse_eq_compose hne, hurl.unparsed, hurl.parsed] at hread
  split at hread
  · have hparts := Option.some.inj hread
    rw [urlunparse_eq_compose hdomain.ne_nil,
      urlparse_compose accepts hscheme hdomain.no_delimiter
        (isDelimiter_head_joinRest { parts with netloc := domain }) hdomain.safe hjoined,
      if_pos hdomain.accepted]
    have hsplit : splitRest parts.scheme domain (joinRest parts) =
        { splitRest parts.scheme parts.netloc (joinRest parts) with netloc := domain } := rfl
    exact congrArg some (hsplit.trans (by rw [← hparts]))
  · cases hread

end Replacing

section Rooted

/-- A path with a query, in which nothing is dropped and nothing else is set apart. -/
structure IsRooted (url : List Char) : Prop where
  slash : url.head? = some '/'
  no_netloc : url.tail.head? ≠ some '/'
  safe : ∀ c ∈ url, isUnsafe c = false
  no_params : ';' ∉ url
  no_fragment : '#' ∉ url

theorem splitOnce_of_notMem {c : Char} {text : List Char} (hc : c ∉ text) :
    splitOnce c text = (text, []) := by
  have hall : ∀ d ∈ text, decide (d ≠ c) = true := by
    intro d hd
    exact decide_eq_true (ne_of_mem_of_not_mem hd hc)
  rw [splitOnce, List.takeWhile_eq_self_iff.mpr hall, List.dropWhile_eq_nil_iff.mpr hall]
  rfl

theorem lastSegment_append (url : List Char) :
    (lastSegment url).1 ++ (lastSegment url).2 = url := by
  rw [lastSegment, ← List.reverse_append, List.takeWhile_append_dropWhile, List.reverse_reverse]

theorem splitParams_of_notMem {url : List Char} (hurl : ';' ∉ url) :
    splitParams url = (url, []) := by
  have hsegment : ';' ∉ (lastSegment url).2 := by
    intro hmem
    rw [← lastSegment_append url] at hurl
    exact hurl (List.mem_append_right _ hmem)
  simp only [splitParams, splitOnce_of_notMem hsegment, lastSegment_append]

theorem splitScheme_of_slash (rest : List Char) :
    splitScheme ('/' :: rest) = ([], '/' :: rest) := by
  rw [splitScheme]
  split
  · rfl
  · rw [List.takeWhile_cons_of_pos (by decide)]
    rfl

/-- The path is all that stands in front of the query. -/
theorem urlparse_of_isRooted (accepts : List Char → Bool) {url : List Char} (hurl : IsRooted url) :
    (urlparse accepts url).map ParseResult.path = some (url.takeWhile (· ≠ '?')) := by
  obtain ⟨rest, rfl⟩ : ∃ rest, url = '/' :: rest := by
    cases url with
    | nil => cases hurl.slash
    | cons c rest => exact ⟨rest, congrArg (· :: rest) (Option.some.inj hurl.slash)⟩
  have hclean : clean ('/' :: rest) = '/' :: rest := by
    refine clean_eq_self (fun c hc => ?_) hurl.safe
    cases hc
    rfl
  have hnetloc : splitNetloc ('/' :: rest) = ([], '/' :: rest) := by
    cases rest with
    | nil => rfl
    | cons c rest =>
        rw [splitNetloc]
        rintro more heq
        cases heq
        exact hurl.no_netloc rfl
  have hpath : ';' ∉ ('/' :: rest).takeWhile (· ≠ '?') :=
    fun hmem => hurl.no_params ((List.takeWhile_prefix _).subset hmem)
  rw [urlparse, hclean, splitScheme_of_slash]
  simp only [hnetloc]
  have haccepted : isNetloc accepts [] = true := rfl
  rw [if_pos haccepted, Option.map_some, splitRest, splitOnce_of_notMem hurl.no_fragment]
  simp only [splitOnce, if_pos (show ([] : List Char) ∈ usesParams by decide),
    splitParams_of_notMem hpath]

end Rooted

end UrlParts
