/-
`IdBasedPagination`: the rows after a token come from the page query hooks of
the view or from its queryset, the page is cut out of the over-fetched rows, and
the links to the next and the previous page carry the text of a row.
-/
import NFCompose.KeysetPaging
import Mathlib.Data.Prod.Lex
import Mathlib.Order.WithBot

namespace NFCompose

open KeysetPaging

variable {R K : Type}

def isAscii (text : String) : Bool := text.toList.all fun c => c.toNat < 128

/-- `x.encode('ascii')` raises for other characters; base64 itself loses nothing,
so a token is written as the text it encodes. -/
def b64encode (text : String) : Option String := if isAscii text then some text else none

/-- The page query hooks of a view.  `resultOrder` is the order in which the
database returns the rows of the page query: the query that resolves dimensions
orders and limits its central table but not the join around it. -/
structure PageHooks (key : R → K) where
  paginationText : K → String
  startObject : String → Option K
  includePrev : Bool
  resultOrder : List R → List R
  startObject_paginationText : ∀ row, startObject (paginationText (key row)) = some (key row)
  paginationText_ascii : ∀ row, isAscii (paginationText (key row)) = true
  resultOrder_perm : ∀ rows, (resultOrder rows).Perm rows

/-- A list view: `key` is what its rows are ordered by, `str` prints a row and
`idValue` is the value for which a text stands in `id__gte`. -/
structure ListView (R K : Type) where
  key : R → K
  str : R → String
  idValue : String → Option K
  hooks : Option (PageHooks key)

namespace ListView

/-- `encode_last_id` before it is encoded. -/
def lastIdText (view : ListView R K) (row : R) : String :=
  match view.hooks with
  | some hooks => hooks.paginationText (view.key row)
  | none => view.str row

def encodeLastId (view : ListView R K) (row : R) : Option String :=
  b64encode (view.lastIdText row)

def readLastId (view : ListView R K) (lastId : String) : Option K :=
  match view.hooks with
  | some hooks => hooks.startObject lastId
  | none => view.idValue lastId

end ListView

/-- What `paginate_queryset` leaves on the paginator. -/
structure Paginated (R : Type) where
  page : List R
  nextLastIdObject : Option R
  prevPage : Option (List R)

inductive PrevLink where
  | null
  | firstPage
  | last (lastId : String)
deriving DecidableEq, Repr

structure ListResponse (R : Type) where
  next : Option String
  previous : PrevLink
  data : List R

/-- The last part of `paginate_queryset`: the page and the object of the next
link, cut out of the rows that were queried. -/
def cutPage (pageSize : Nat) (lastIdInList : Bool) (qs : List R) : List R × Option R :=
  let additionalMinus := if qs.length = pageSize + 2 then 1 else 0
  if lastIdInList then
    (if 0 < additionalMinus then (qs.take (qs.length - additionalMinus)).drop 1
      else qs.drop 1,
     if pageSize + 1 < qs.length then qs[qs.length - 1 - additionalMinus]? else none)
  else
    (if pageSize < qs.length then qs.take (qs.length - (1 + additionalMinus)) else qs,
     if pageSize < qs.length then qs[qs.length - 2 - additionalMinus]? else none)

namespace ListView

variable [LinearOrder K]

/-- `raw_display_data_point_query` over the rows of the data series, which are
given in key order.  `PageClauses` has the text that it renders for a page. -/
def rawDisplayDataPointQuery (view : ListView R K) (hooks : PageHooks view.key)
    (startObject : Option String) (reverse : Bool) (limit : Nat) (rows : List R) :
    Option (List R) :=
  match startObject with
  | none => some (hooks.resultOrder ((if reverse then rows.reverse else rows).take limit))
  | some text =>
      (hooks.startObject text).map fun start =>
        let selected := if reverse then (rows.filter fun row => view.key row ≤ start).reverse
          else rows.filter fun row => start ≤ view.key row
        hooks.resultOrder (selected.take limit)

def nextPageQuery (view : ListView R K) (lastId : Option String) (limit : Nat)
    (rows : List R) : Option (List R) :=
  match view.hooks with
  | some hooks => view.rawDisplayDataPointQuery hooks lastId false limit rows
  | none =>
      match lastId with
      | none => some rows
      | some lastId =>
          (view.idValue lastId).map fun value => rows.filter fun row => value ≤ view.key row

def prevPageQuery (view : ListView R K) (lastId : String) (limit : Nat)
    (qs rows : List R) : Option (Option (List R)) :=
  match view.hooks with
  | some hooks =>
      if hooks.includePrev then
        (view.rawDisplayDataPointQuery hooks (some lastId) true limit rows).map some
      else some none
  | none =>
      (view.idValue lastId).map fun value =>
        some (qs.reverse.filter fun row => view.key row ≤ value)

def prevPage (view : ListView R K) (pageSize : Nat) (lastId : Option String)
    (qs rows : List R) : Option (Option (List R)) :=
  match lastId with
  | some lastId =>
      (view.prevPageQuery lastId (pageSize + 1) qs rows).map fun rev =>
        rev.map fun rev => rev.take (pageSize + 1)
  | none => some none

def paginateQueryset (view : ListView R K) (pageSize : Nat) (lastId : Option String)
    (rows : List R) : Option (Paginated R) := do
  let limit := if lastId.isSome then pageSize + 2 else pageSize + 1
  let qs ← view.nextPageQuery lastId limit rows
  let prevPage ← view.prevPage pageSize lastId qs rows
  let qsAsList := qs.take (pageSize + 2)
  match qsAsList with
  | [] => some { page := [], nextLastIdObject := none, prevPage := prevPage }
  | first :: _ => do
      let firstId ← view.encodeLastId first
      let cut := cutPage pageSize (lastId = some firstId) qsAsList
      some { page := cut.1, nextLastIdObject := cut.2, prevPage := prevPage }

omit [LinearOrder K] in
def getNextLink (view : ListView R K) (paginated : Paginated R) : Option (Option String) :=
  match paginated.nextLastIdObject with
  | none => some none
  | some row => (view.encodeLastId row).map some

omit [LinearOrder K] in
def getPrevLink (view : ListView R K) (pageSize : Nat) (paginated : Paginated R) :
    Option PrevLink :=
  match paginated.prevPage with
  | none => some .null
  | some prevPage =>
      if pageSize < prevPage.length then
        match prevPage.getLast? with
        | some row => (view.encodeLastId row).map .last
        | none => some .firstPage
      else some .firstPage

def list (view : ListView R K) (pageSize : Nat) (lastId : Option String) (rows : List R) :
    Option (ListResponse R) := do
  let paginated ← view.paginateQueryset pageSize lastId rows
  let next ← view.getNextLink paginated
  let previous ← view.getPrevLink pageSize paginated
  some { next := next, previous := previous, data := paginated.page }

/-- A request as a client that follows the next links sees it. -/
def request (view : ListView R K) (pageSize : Nat) (lastId : Option String)
    (rows : List R) : Option (Page R String) :=
  (view.list pageSize lastId rows).map fun response =>
    { rows := response.data, next := response.next }

/-- The pages that follow one another by next links are complete. -/
def PaginationComplete (view : ListView R K) : Prop :=
  ∀ pageSize, 1 ≤ pageSize → Complete view.key (view.request pageSize)

/-- The text of a row, read again, starts behind the rows before it and not
behind a row after it, and tells the row from the rows after it. -/
def ResumesAfter (view : ListView R K) (row : R) : Prop :=
  ∃ value, view.readLastId (view.lastIdText row) = some value ∧
    (∀ lower, view.key lower < view.key row → view.key lower < value) ∧
    (∀ greater, view.key row < view.key greater →
      value ≤ view.key greater ∧ view.lastIdText greater ≠ view.lastIdText row) ∧
    (value ≤ view.key row →
      ∀ same, view.key same = view.key row → view.lastIdText same = view.lastIdText row)

/-- When the next links of a view can be followed. -/
def Resumable (view : ListView R K) : Prop :=
  match view.hooks with
  | some hooks => ∀ rows, Listed view.key rows → hooks.resultOrder rows = rows
  | none => (∀ row, isAscii (view.lastIdText row) = true) ∧
      ∀ row greater, view.key row < view.key greater → view.ResumesAfter row

end ListView

section Cut

theorem getLast?_take_of_lt {rest : List R} {pageSize : Nat} (hsize : 1 ≤ pageSize)
    (hmore : pageSize < rest.length) :
    (rest.take pageSize).getLast? = rest[pageSize - 1]? := by
  rw [List.getLast?_eq_getElem?, List.length_take, Nat.min_eq_left (Nat.le_of_lt hmore),
    List.getElem?_take_of_lt (by omega)]

/-- Over-fetching one or two rows does not change the page that is cut out. -/
theorem cutPage_fresh (rest : List R) {pageSize : Nat} (hsize : 1 ≤ pageSize)
    {limit : Nat} (hlimit : limit = pageSize + 1 ∨ limit = pageSize + 2) :
    cutPage pageSize false (rest.take limit) =
      (rest.take pageSize,
        if pageSize < rest.length then (rest.take pageSize).getLast? else none) := by
  have hlength : (rest.take limit).length = min limit rest.length := List.length_take
  by_cases hmore : pageSize < rest.length
  · have hover : pageSize < (rest.take limit).length := by omega
    rw [if_pos hmore, getLast?_take_of_lt hsize hmore]
    simp only [cutPage, Bool.false_eq_true, ↓reduceIte, if_pos hover, Prod.mk.injEq]
    by_cases htwo : (rest.take limit).length = pageSize + 2
    · rw [if_pos htwo, htwo]
      refine ⟨?_, ?_⟩
      · rw [List.take_take]
        congr 1
        omega
      · rw [List.getElem?_take_of_lt (by omega)]
        congr 1
    · have hone : (rest.take limit).length = pageSize + 1 := by omega
      rw [if_neg htwo, hone]
      refine ⟨?_, ?_⟩
      · rw [List.take_take]
        congr 1
        omega
      · rw [List.getElem?_take_of_lt (by omega)]
        congr 1
  · have hall : rest.take limit = rest := List.take_of_length_le (by omega)
    rw [hall]
    simp only [cutPage, Bool.false_eq_true, ↓reduceIte, if_neg hmore]
    rw [List.take_of_length_le (by omega)]

/-- When the row of the token is still there, it is dropped from the page. -/
theorem cutPage_resumed (first : R) (rest : List R) {pageSize : Nat} (hsize : 1 ≤ pageSize) :
    cutPage pageSize true ((first :: rest).take (pageSize + 2)) =
      (rest.take pageSize,
        if pageSize < rest.length then (rest.take pageSize).getLast? else none) := by
  rw [List.take_succ_cons]
  have hlength : (rest.take (pageSize + 1)).length = min (pageSize + 1) rest.length :=
    List.length_take
  by_cases hmore : pageSize < rest.length
  · have hfull : (rest.take (pageSize + 1)).length = pageSize + 1 := by omega
    rw [if_pos hmore, getLast?_take_of_lt hsize hmore]
    simp only [cutPage, ↓reduceIte, List.length_cons, hfull, Nat.lt_add_one, Prod.mk.injEq,
      Nat.add_sub_cancel, List.take_succ_cons, List.drop_succ_cons, List.drop_zero]
    refine ⟨?_, ?_⟩
    · rw [List.take_take, Nat.min_eq_left (by omega)]
    · obtain ⟨size, rfl⟩ : ∃ size, pageSize = size + 1 := ⟨pageSize - 1, by omega⟩
      rw [List.getElem?_cons_succ, List.getElem?_take_of_lt (by omega)]
      rfl
  · have hall : rest.take (pageSize + 1) = rest := List.take_of_length_le (by omega)
    have hshort : ¬(first :: rest).length = pageSize + 2 := by
      rw [List.length_cons]
      omega
    have hnone : ¬pageSize + 1 < (first :: rest).length := by
      rw [List.length_cons]
      omega
    rw [hall, List.take_of_length_le (Nat.le_of_not_lt hmore)]
    simp only [cutPage, ↓reduceIte, if_neg hshort, if_neg hnone, if_neg hmore,
      List.drop_succ_cons, List.drop_zero, Nat.lt_irrefl]

end Cut

namespace ListView

variable [LinearOrder K] {view : ListView R K}

/-- The first row that was queried is the row of the token. -/
def lastIdInList (view : ListView R K) (lastId : Option String) (qs : List R) : Bool :=
  match qs with
  | [] => false
  | first :: _ => lastId = some (view.lastIdText first)

/-- The query of the previous page accepts every token that the query of the
next page accepts. -/
theorem prevPage_isSome (pageSize : Nat) {lastId : Option String} (qs rows : List R)
    (hread : ∀ text, lastId = some text → (view.readLastId text).isSome) :
    (view.prevPage pageSize lastId qs rows).isSome := by
  cases lastId with
  | none => rfl
  | some lastId =>
      have hread := hread lastId rfl
      simp only [prevPage, Option.isSome_map]
      cases hhooks : view.hooks with
      | none =>
          simp only [readLastId, hhooks] at hread
          simpa only [prevPageQuery, hhooks, Option.isSome_map] using hread
      | some hooks =>
          simp only [readLastId, hhooks] at hread
          simp only [prevPageQuery, hhooks]
          split
          · simpa only [rawDisplayDataPointQuery, Option.isSome_map] using hread
          · rfl

omit [LinearOrder K] in
theorem encodeLastId_eq (hascii : ∀ row, isAscii (view.lastIdText row) = true) (row : R) :
    view.encodeLastId row = some (view.lastIdText row) := by
  simp only [encodeLastId, b64encode, hascii row, ↓reduceIte]

omit [LinearOrder K] in
theorem getPrevLink_isSome (hascii : ∀ row, isAscii (view.lastIdText row) = true)
    (pageSize : Nat) (paginated : Paginated R) :
    (view.getPrevLink pageSize paginated).isSome := by
  simp only [getPrevLink, encodeLastId_eq hascii, Option.map_some]
  split
  · rfl
  · split
    · split <;> rfl
    · rfl

omit [LinearOrder K] in
theorem getNextLink_eq (hascii : ∀ row, isAscii (view.lastIdText row) = true)
    (paginated : Paginated R) :
    view.getNextLink paginated = some (paginated.nextLastIdObject.map view.lastIdText) := by
  simp only [getNextLink, encodeLastId_eq hascii]
  cases paginated.nextLastIdObject <;> rfl

/-- An accepted request answers with the page cut out of the queried rows. -/
theorem request_eq (hascii : ∀ row, isAscii (view.lastIdText row) = true)
    {pageSize : Nat} {lastId : Option String} {qs rows : List R}
    (hread : ∀ text, lastId = some text → (view.readLastId text).isSome)
    (hqs : view.nextPageQuery lastId
      (if lastId.isSome then pageSize + 2 else pageSize + 1) rows = some qs) :
    view.request pageSize lastId rows =
      let qsAsList := qs.take (pageSize + 2)
      let cut := cutPage pageSize (view.lastIdInList lastId qsAsList) qsAsList
      some { rows := cut.1, next := cut.2.map view.lastIdText } := by
  obtain ⟨prevPage, hprev⟩ := Option.isSome_iff_exists.mp
    (prevPage_isSome pageSize qs rows hread)
  have hpaginated : view.paginateQueryset pageSize lastId rows =
      let qsAsList := qs.take (pageSize + 2)
      let cut := cutPage pageSize (view.lastIdInList lastId qsAsList) qsAsList
      some { page := cut.1, nextLastIdObject := cut.2, prevPage := prevPage } := by
    simp only [paginateQueryset, hqs, hprev, Option.bind_eq_bind, Option.bind_some]
    cases hlist : qs.take (pageSize + 2) with
    | nil => simp [cutPage, lastIdInList]
    | cons first rest =>
        simp only [encodeLastId_eq hascii, Option.bind_some, lastIdInList]
  have hprevious : ∀ paginated, ∃ previous,
      view.getPrevLink pageSize paginated = some previous :=
    fun paginated => Option.isSome_iff_exists.mp (getPrevLink_isSome hascii pageSize paginated)
  choose previous hprevious using hprevious
  simp only [request, list, hpaginated, Option.bind_eq_bind, Option.bind_some,
    getNextLink_eq hascii, hprevious, Option.map_some]

/-- The hooks print and read back keys, so their tokens resume after every row. -/
theorem resumesAfter_of_hooks {hooks : PageHooks view.key} (hhooks : view.hooks = some hooks)
    (row : R) : view.ResumesAfter row := by
  have hread : ∀ row, view.readLastId (view.lastIdText row) = some (view.key row) := by
    intro row
    simp only [readLastId, lastIdText, hhooks, hooks.startObject_paginationText]
  refine ⟨view.key row, hread row, fun lower hlt => hlt, ?_, ?_⟩
  · intro greater hlt
    refine ⟨le_of_lt hlt, fun htext => ?_⟩
    have hkey : some (view.key greater) = some (view.key row) := by
      rw [← hread greater, ← hread row, htext]
    exact absurd (Option.some.inj hkey) (ne_of_gt hlt)
  · intro _ same hsame
    simp only [lastIdText, hhooks, hsame]

/-- What the query behind a token lists: the rows from its value on. -/
theorem nextPageQuery_token
    (horder : ∀ hooks, view.hooks = some hooks →
      ∀ rows, Listed view.key rows → hooks.resultOrder rows = rows)
    {text : String} {value : K} (hread : view.readLastId text = some value)
    {rows : List R} (hrows : Listed view.key rows) (limit : Nat) :
    ∃ qs, view.nextPageQuery (some text) limit rows = some qs ∧
      qs.take limit = (rows.filter fun row => value ≤ view.key row).take limit := by
  cases hhooks : view.hooks with
  | none =>
      simp only [readLastId, hhooks] at hread
      exact ⟨_, by simp only [nextPageQuery, hhooks, hread, Option.map_some], rfl⟩
  | some hooks =>
      simp only [readLastId, hhooks] at hread
      refine ⟨(rows.filter fun row => value ≤ view.key row).take limit, ?_, ?_⟩
      · simp only [nextPageQuery, hhooks, rawDisplayDataPointQuery, hread, Option.map_some,
          Bool.false_eq_true, ↓reduceIte]
        rw [horder hooks hhooks _
          (hrows.sublist ((List.take_sublist _ _).trans List.filter_sublist))]
      · rw [List.take_take, Nat.min_self]

theorem nextPageQuery_first
    (horder : ∀ hooks, view.hooks = some hooks →
      ∀ rows, Listed view.key rows → hooks.resultOrder rows = rows)
    {rows : List R} (hrows : Listed view.key rows) (pageSize : Nat) :
    ∃ qs limit, view.nextPageQuery none (pageSize + 1) rows = some qs ∧
      (limit = pageSize + 1 ∨ limit = pageSize + 2) ∧
      qs.take (pageSize + 2) = rows.take limit := by
  cases hhooks : view.hooks with
  | none => exact ⟨rows, pageSize + 2, by simp only [nextPageQuery, hhooks], Or.inr rfl, rfl⟩
  | some hooks =>
      refine ⟨rows.take (pageSize + 1), pageSize + 1, ?_, Or.inl rfl, ?_⟩
      · simp only [nextPageQuery, hhooks, rawDisplayDataPointQuery, Bool.false_eq_true,
          ↓reduceIte]
        rw [horder hooks hhooks _ (hrows.sublist (List.take_sublist _ _))]
      · rw [List.take_take]
        congr 1
        omega

/-- The rows from the value of a token on are the rows behind its row, with that
row itself in front when it is still there and the value reaches it. -/
theorem filter_ge_eq {rows : List R} (hrows : Listed view.key rows) {last : R} {value : K}
    (hlower : ∀ lower, view.key lower < view.key last → view.key lower < value)
    (hgreater : ∀ greater, view.key last < view.key greater → value ≤ view.key greater) :
    (rows.filter fun row => value ≤ view.key row) = after view.key (some last) rows ∨
      value ≤ view.key last ∧ ∃ same, view.key same = view.key last ∧
        (rows.filter fun row => value ≤ view.key row) =
          same :: after view.key (some last) rows := by
  induction rows with
  | nil => exact Or.inl rfl
  | cons head tail ih =>
      have htail : Listed view.key tail := hrows.sublist (List.sublist_cons_self _ _)
      have hhead : ∀ row ∈ tail, view.key head < view.key row :=
        fun _ => List.rel_of_pairwise_cons hrows
      rcases lt_trichotomy (view.key head) (view.key last) with hlt | heq | hgt
      · have hvalue : ¬value ≤ view.key head := not_le_of_gt (hlower head hlt)
        have hlast : ¬view.key last < view.key head := not_lt_of_gt hlt
        simpa only [after, List.filter_cons, hvalue, hlast, decide_false, Bool.false_eq_true,
          ↓reduceIte] using ih htail
      · -- only greater rows follow the row of the token
        have hrest : tail.filter (fun row => value ≤ view.key row) = tail := by
          rw [List.filter_eq_self]
          intro row hrow
          exact decide_eq_true (hgreater row (heq ▸ hhead row hrow))
        have hback : tail.filter (fun row => view.key last < view.key row) = tail := by
          rw [List.filter_eq_self]
          intro row hrow
          exact decide_eq_true (heq ▸ hhead row hrow)
        have hlast : ¬view.key last < view.key head := not_lt_of_ge (le_of_eq heq)
        by_cases hvalue : value ≤ view.key head
        · right
          refine ⟨heq ▸ hvalue, head, heq, ?_⟩
          simp only [after, List.filter_cons, hvalue, hlast, hrest, hback, decide_true,
            decide_false, Bool.false_eq_true, ↓reduceIte]
        · left
          simp only [after, List.filter_cons, hvalue, hlast, hrest, hback, decide_false,
            Bool.false_eq_true, ↓reduceIte]
      · have hvalue : value ≤ view.key head := hgreater head hgt
        have hrest : tail.filter (fun row => value ≤ view.key row) = tail := by
          rw [List.filter_eq_self]
          intro row hrow
          exact decide_eq_true (hgreater row (lt_trans hgt (hhead row hrow)))
        have hback : tail.filter (fun row => view.key last < view.key row) = tail := by
          rw [List.filter_eq_self]
          intro row hrow
          exact decide_eq_true (lt_trans hgt (hhead row hrow))
        left
        simp only [after, List.filter_cons, hvalue, hgt, hrest, hback, decide_true, ↓reduceIte]

/-- A view whose tokens resume after every row answers with keyset pages. -/
theorem request_answers
    (horder : ∀ hooks, view.hooks = some hooks →
      ∀ rows, Listed view.key rows → hooks.resultOrder rows = rows)
    (hascii : ∀ row, isAscii (view.lastIdText row) = true)
    (hresumes : ∀ row greater, view.key row < view.key greater → view.ResumesAfter row)
    {pageSize : Nat} (hsize : 1 ≤ pageSize) :
    Answers view.key view.lastIdText pageSize (view.request pageSize) := by
  intro last rows hrows hlast
  cases last with
  | none =>
      obtain ⟨qs, limit, hqs, hlimit, htake⟩ := nextPageQuery_first horder hrows pageSize
      have hfresh : view.lastIdInList none (rows.take limit) = false := by
        cases rows.take limit <;> simp [lastIdInList]
      rw [Option.map_none, request_eq hascii (fun text h => by simp at h) hqs]
      simp only [htake, hfresh, cutPage_fresh rows hsize hlimit, keysetPage, after,
        apply_ite (Option.map view.lastIdText), Option.map_none]
      rfl
  | some row =>
      obtain ⟨greater, hgreater⟩ := hlast row rfl
      obtain ⟨value, hread, hlow, hup, hsame⟩ := hresumes row greater hgreater
      obtain ⟨qs, hqs, htake⟩ := nextPageQuery_token horder hread hrows (pageSize + 2)
      rw [Option.map_some, request_eq hascii
        (fun text h => by rw [← Option.some.inj h, hread]; rfl) hqs]
      rcases filter_ge_eq hrows hlow (fun greater h => (hup greater h).1) with
        hgone | ⟨hvalue, same, hkey, hthere⟩
      · have hfresh : view.lastIdInList (some (view.lastIdText row))
            ((after view.key (some row) rows).take (pageSize + 2)) = false := by
          cases hrest : after view.key (some row) rows with
          | nil => rfl
          | cons first rest =>
              have hfirst : first ∈ after view.key (some row) rows := by simp [hrest]
              have hgt : view.key row < view.key first := by
                simpa [after] using (List.mem_filter.mp hfirst).2
              simpa [lastIdInList] using fun h => (hup first hgt).2 h.symm
        simp only [htake, hgone, hfresh, cutPage_fresh _ hsize (Or.inr rfl), keysetPage,
          apply_ite (Option.map view.lastIdText), Option.map_none]
      · have hfound : view.lastIdInList (some (view.lastIdText row))
            ((same :: after view.key (some row) rows).take (pageSize + 2)) = true := by
          rw [List.take_succ_cons]
          simpa [lastIdInList] using (hsame hvalue same hkey).symm
        simp only [htake, hthere, hfound, cutPage_resumed same _ hsize, keysetPage,
          apply_ite (Option.map view.lastIdText), Option.map_none]

section Queryset

/-- The second request of a traversal that began with the page of `row` alone. -/
theorem second_request (hcomplete : view.PaginationComplete) (hhooks : view.hooks = none)
    (hascii : ∀ row, isAscii (view.lastIdText row) = true) {row greater : R}
    (hlt : view.key row < view.key greater) (second : List R)
    (hsecond : Listed view.key second) (hgreater : greater ∈ second) :
    ∃ page, view.request 1 (some (view.lastIdText row)) second = some page ∧
      (∀ shown ∈ page.rows, view.key row < view.key shown) ∧
      (page.next = none → ∃ shown ∈ page.rows, view.key shown = view.key greater) := by
  have hfirst : view.request 1 none [row, greater] =
      some { rows := [row], next := some (view.lastIdText row) } := by
    have hqs : view.nextPageQuery none 2 [row, greater] = some [row, greater] := by
      simp only [nextPageQuery, hhooks]
    rw [request_eq hascii (fun text h => by simp at h) hqs]
    rfl
  have hlisted : Listed view.key [row, greater] := by simpa [Listed] using hlt
  have hdelivered := (hcomplete 1 (Nat.le_refl 1)).changing [[row, greater], second]
    (by simpa using ⟨hlisted, hsecond⟩)
  cases hpage : view.request 1 (some (view.lastIdText row)) second with
  | none =>
      have hfailed : readPages (view.request 1) none [] [[row, greater], second] =
          .failed [row] := by
        simp only [readPages, hfirst, hpage, List.nil_append]
      exact absurd hfailed (hdelivered.served [row])
  | some page =>
      refine ⟨page, rfl, ?_, ?_⟩
      · have hyielded : (readPages (view.request 1) none [] [[row, greater], second]).yielded =
            [row] ++ page.rows := by
          simp only [readPages, hfirst, hpage, List.nil_append]
          split <;> rfl
        have hpages := hdelivered.listed
        rw [hyielded, listed_append] at hpages
        exact hpages.2.2 row (by simp)
      · intro hlast
        have hfinished : readPages (view.request 1) none [] [[row, greater], second] =
            .finished ([row] ++ page.rows) := by
          simp only [readPages, hfirst, hpage, hlast, List.nil_append]
        obtain ⟨shown, hshown, hkey⟩ := hdelivered.kept _ hfinished (view.key greater)
          (by simpa using ⟨greater, hgreater, rfl⟩)
        rcases List.mem_append.mp hshown with hrow | hshown
        · rw [List.mem_singleton.mp hrow] at hkey
          exact absurd hkey (ne_of_lt hlt)
        · exact ⟨shown, hshown, hkey⟩

theorem ascii_of_complete (hcomplete : view.PaginationComplete) (hhooks : view.hooks = none)
    (row : R) : isAscii (view.lastIdText row) = true := by
  by_contra hascii
  have hrequest : view.request 1 none [row] = none := by
    simp [request, list, paginateQueryset, prevPage, nextPageQuery, hhooks, encodeLastId,
      b64encode, hascii]
  have hdelivered := (hcomplete 1 (Nat.le_refl 1)).changing [[row]] (by simp [Listed])
  apply hdelivered.served []
  simp only [readPages, hrequest]

/-- The second page of such a traversal, cut out of the rows from the value of
the token on. -/
theorem second_page (hcomplete : view.PaginationComplete) (hhooks : view.hooks = none)
    {row greater : R} (hlt : view.key row < view.key greater) {value : K}
    (hread : view.readLastId (view.lastIdText row) = some value) (second selected : List R)
    (hsecond : Listed view.key second) (hgreater : greater ∈ second)
    (hselected : second.filter (fun row => value ≤ view.key row) = selected) :
    let cut := cutPage 1 (view.lastIdInList (some (view.lastIdText row)) (selected.take 3))
      (selected.take 3)
    (∀ shown ∈ cut.1, view.key row < view.key shown) ∧
      (cut.2 = none → ∃ shown ∈ cut.1, view.key shown = view.key greater) := by
  have hascii := ascii_of_complete hcomplete hhooks
  have hvalue : view.idValue (view.lastIdText row) = some value := by
    simpa only [readLastId, hhooks] using hread
  have hqs : view.nextPageQuery (some (view.lastIdText row)) 3 second = some selected := by
    simp only [nextPageQuery, hhooks, hvalue, Option.map_some, hselected]
  obtain ⟨page, hpage, hbehind, hlast⟩ :=
    second_request hcomplete hhooks hascii hlt second hsecond hgreater
  rw [request_eq hascii (fun text h => by rw [← Option.some.inj h, hread]; rfl) hqs] at hpage
  obtain rfl := Option.some.inj hpage
  exact ⟨hbehind, fun hnone => hlast (by rw [hnone, Option.map_none])⟩

/-- Otherwise a row inserted in front of the row of the token would be listed
behind it. -/
theorem lt_value_of_complete (hcomplete : view.PaginationComplete) (hhooks : view.hooks = none)
    {row greater : R} (hlt : view.key row < view.key greater) {value : K}
    (hread : view.readLastId (view.lastIdText row) = some value) {lower : R}
    (hlower : view.key lower < view.key row) : view.key lower < value := by
  by_contra hnot
  have hlow : value ≤ view.key lower := le_of_not_gt hnot
  have hmid : value ≤ view.key row := le_trans hlow (le_of_lt hlower)
  have hup : value ≤ view.key greater := le_trans hmid (le_of_lt hlt)
  obtain ⟨hbehind, -⟩ := second_page hcomplete hhooks hlt hread
    [lower, row, greater] [lower, row, greater]
    (by simpa [Listed] using ⟨⟨hlower, lt_trans hlower hlt⟩, hlt⟩) (by simp)
    (by simp [hlow, hmid, hup])
  cases hflag : view.lastIdInList (some (view.lastIdText row)) ([lower, row, greater].take 3) with
  | true =>
      rw [hflag] at hbehind
      exact lt_irrefl _ (hbehind row (by simp [cutPage]))
  | false =>
      rw [hflag] at hbehind
      exact lt_asymm hlower (hbehind lower (by simp [cutPage]))

/-- Otherwise a row behind the row of the token would never be listed. -/
theorem value_le_of_complete (hcomplete : view.PaginationComplete) (hhooks : view.hooks = none)
    {row next : R} (hnext : view.key row < view.key next) {value : K}
    (hread : view.readLastId (view.lastIdText row) = some value) : value ≤ view.key next := by
  by_contra hnot
  have hmid : ¬value ≤ view.key row := fun h => hnot (le_trans h (le_of_lt hnext))
  obtain ⟨-, hlast⟩ := second_page hcomplete hhooks hnext hread [row, next] []
    (by simpa [Listed] using hnext) (by simp) (by simp [hnot, hmid])
  obtain ⟨shown, hshown, -⟩ := hlast rfl
  simp [cutPage, lastIdInList] at hshown

/-- Otherwise, with the row of the token deleted, `next` would be taken for it
and dropped. -/
theorem lastIdText_ne_of_complete (hcomplete : view.PaginationComplete)
    (hhooks : view.hooks = none) {row next : R} (hnext : view.key row < view.key next) {value : K}
    (hread : view.readLastId (view.lastIdText row) = some value) :
    view.lastIdText next ≠ view.lastIdText row := by
  intro htext
  have hup := value_le_of_complete hcomplete hhooks hnext hread
  obtain ⟨-, hlast⟩ := second_page hcomplete hhooks hnext hread [next] [next]
    (by simp [Listed]) (by simp) (by simp [hup])
  have hfound : view.lastIdInList (some (view.lastIdText row)) ([next].take 3) = true := by
    simpa [lastIdInList] using htext.symm
  rw [hfound] at hlast
  obtain ⟨shown, hshown, -⟩ := hlast rfl
  simp [cutPage] at hshown

/-- Otherwise a row that prints differently after an update would be listed
again. -/
theorem lastIdText_eq_of_complete (hcomplete : view.PaginationComplete)
    (hhooks : view.hooks = none) {row greater : R} (hlt : view.key row < view.key greater)
    {value : K} (hread : view.readLastId (view.lastIdText row) = some value)
    (hmid : value ≤ view.key row) {same : R} (hsame : view.key same = view.key row) :
    view.lastIdText same = view.lastIdText row := by
  by_contra htext
  have hlow : value ≤ view.key same := hsame ▸ hmid
  have hup : value ≤ view.key greater := le_trans hmid (le_of_lt hlt)
  obtain ⟨hbehind, -⟩ := second_page hcomplete hhooks hlt hread
    [same, greater] [same, greater]
    (by simpa [Listed, hsame] using hlt) (by simp) (by simp [hlow, hup])
  have hfresh : view.lastIdInList (some (view.lastIdText row)) ([same, greater].take 3) =
      false := by
    simpa [lastIdInList] using fun h => htext h.symm
  rw [hfresh] at hbehind
  exact ne_of_gt (hbehind same (by simp [cutPage])) hsame

/-- Only texts that resume after their row lead a client through all rows. -/
theorem resumesAfter_of_complete (hcomplete : view.PaginationComplete)
    (hhooks : view.hooks = none) {row greater : R}
    (hlt : view.key row < view.key greater) : view.ResumesAfter row := by
  have hascii := ascii_of_complete hcomplete hhooks
  cases hread : view.readLastId (view.lastIdText row) with
  | none =>
      have hrejected : view.idValue (view.lastIdText row) = none := by
        simpa only [readLastId, hhooks] using hread
      obtain ⟨page, hpage, -⟩ :=
        second_request hcomplete hhooks hascii hlt [greater] (by simp [Listed]) (by simp)
      simp [request, list, paginateQueryset, nextPageQuery, hhooks, hrejected] at hpage
  | some value =>
      refine ⟨value, hread, ?_, ?_, ?_⟩
      · intro lower hlower
        exact lt_value_of_complete hcomplete hhooks hlt hread hlower
      · intro next hnext
        exact ⟨value_le_of_complete hcomplete hhooks hnext hread,
          lastIdText_ne_of_complete hcomplete hhooks hnext hread⟩
      · intro hmid same hsame
        exact lastIdText_eq_of_complete hcomplete hhooks hlt hread hmid hsame

end Queryset

/-- One page that holds all rows shows the order in which the hooks list them. -/
theorem resultOrder_of_complete (hcomplete : view.PaginationComplete)
    {hooks : PageHooks view.key} (hhooks : view.hooks = some hooks) (rows : List R)
    (hrows : Listed view.key rows) : hooks.resultOrder rows = rows := by
  have hascii : ∀ row, isAscii (view.lastIdText row) = true := by
    intro row
    simp only [lastIdText, hhooks, hooks.paginationText_ascii]
  have hlength := (hooks.resultOrder_perm rows).length_eq
  have hrequest : view.request (rows.length + 1) none rows =
      some { rows := hooks.resultOrder rows, next := none } := by
    have hqs : view.nextPageQuery none (rows.length + 1 + 1) rows =
        some (hooks.resultOrder rows) := by
      simp only [nextPageQuery, hhooks, rawDisplayDataPointQuery, Bool.false_eq_true,
        ↓reduceIte]
      rw [List.take_of_length_le (by omega)]
    rw [request_eq hascii (fun text h => by simp at h) hqs]
    have htake : (hooks.resultOrder rows).take (rows.length + 1 + 2) =
        hooks.resultOrder rows := List.take_of_length_le (by omega)
    have hflag : view.lastIdInList none (hooks.resultOrder rows) = false := by
      cases hooks.resultOrder rows <;> simp [lastIdInList]
    have hshort : ¬rows.length + 1 < (hooks.resultOrder rows).length := by omega
    simp only [htake, hflag, cutPage, Bool.false_eq_true, ↓reduceIte, if_neg hshort,
      Option.map_none]
  obtain ⟨requests, hread⟩ :=
    (hcomplete (rows.length + 1) (by omega)).unchanged rows hrows
  cases requests with
  | zero => simp [readPages] at hread
  | succ requests =>
      rw [List.replicate_succ] at hread
      simpa only [readPages, hrequest, List.nil_append, Outcome.finished.injEq] using hread

end ListView

theorem ListView.answers_of_resumable [LinearOrder K] {view : ListView R K}
    (hresumable : view.Resumable) {pageSize : Nat} (hsize : 1 ≤ pageSize) :
    Answers view.key view.lastIdText pageSize (view.request pageSize) := by
  cases hhooks : view.hooks with
  | none =>
      simp only [ListView.Resumable, hhooks] at hresumable
      obtain ⟨hascii, hresumes⟩ := hresumable
      have horder : ∀ hooks, view.hooks = some hooks →
          ∀ rows, Listed view.key rows → hooks.resultOrder rows = rows :=
        fun hooks h => absurd (hhooks.symm.trans h) (by simp)
      exact request_answers horder hascii hresumes hsize
  | some hooks =>
      simp only [ListView.Resumable, hhooks] at hresumable
      have horder : ∀ other, view.hooks = some other →
          ∀ rows, Listed view.key rows → other.resultOrder rows = rows := by
        intro other h
        rwa [← Option.some.inj (hhooks.symm.trans h)]
      have hascii : ∀ row, isAscii (view.lastIdText row) = true := by
        intro row
        simp only [ListView.lastIdText, hhooks, hooks.paginationText_ascii]
      exact request_answers horder hascii (fun row _ _ => resumesAfter_of_hooks hhooks row) hsize

theorem ListView.complete_of_resumable [LinearOrder K] {view : ListView R K}
    (hresumable : view.Resumable) : view.PaginationComplete := fun _ hsize =>
  complete_of_answers (answers_of_resumable hresumable hsize) hsize

theorem ListView.resumable_of_complete [LinearOrder K] {view : ListView R K}
    (hcomplete : view.PaginationComplete) : view.Resumable := by
  cases hhooks : view.hooks with
  | none =>
      simp only [ListView.Resumable, hhooks]
      exact ⟨ascii_of_complete hcomplete hhooks,
        fun row greater hlt => resumesAfter_of_complete hcomplete hhooks hlt⟩
  | some hooks =>
      simp only [ListView.Resumable, hhooks]
      exact resultOrder_of_complete hcomplete hhooks

/-- Exactly the resumable views list every row that stays, once and in order. -/
theorem pagination_complete_iff [LinearOrder K] (view : ListView R K) :
    view.PaginationComplete ↔ view.Resumable :=
  ⟨ListView.resumable_of_complete, ListView.complete_of_resumable⟩

namespace PaginationWitness

/-- `DataSeries.__str__` of the series `a`, for its id. -/
def dataSeriesStr (id : Nat) : String := "DataSeries \"a\" (a," ++ toString id ++ ")"

def parseId (text : String) : Option Nat :=
  if text.toList.all Char.isDigit && !text.toList.isEmpty then
    some (text.toList.foldl (fun value digit => 10 * value + (digit.toNat - 48)) 0)
  else none

/-- A view of the data series without page query hooks. -/
def dataSeriesList : ListView Nat Nat where
  key := id
  str := dataSeriesStr
  idValue := parseId
  hooks := none

/-- The second request of a client is refused: the token does not carry an id. -/
theorem queryset_fallback_refuses_token : ¬dataSeriesList.PaginationComplete := by
  intro hcomplete
  have hdelivered := (hcomplete 1 (Nat.le_refl 1)).changing [[1, 2], [1, 2]] (by decide)
  exact hdelivered.served [1] (by decide)

end PaginationWitness

section DataPoints

variable {I T P : Type}

structure DataPointRow (I T P : Type) where
  id : I
  insertedAt : T
  payload : P

inductive PaginationValue (I T : Type) where
  | id (value : I)
  | insertedAt (value : T)

/-- `json.dumps` with sorted keys and `json.loads` on objects of such values. -/
structure JsonCodec (V : Type) where
  dumps : List (String × V) → String
  loads : String → Option (List (String × V))
  loads_dumps : ∀ object, (object.map Prod.fst).Nodup → loads (dumps object) = some object
  dumps_ascii : ∀ object, isAscii (dumps object) = true

/-- The order columns of the query: `inserted_at`, if the materialised table is
used, and `id`. -/
abbrev PageKey (I T : Type) := WithBot T ×ₗ I

def DataPointRow.pageKey (useMaterialized : Bool) (row : DataPointRow I T P) : PageKey I T :=
  toLex (if useMaterialized then ↑row.insertedAt else ⊥, row.id)

/-- The column `pagination_data` of a row with this key. -/
def paginationData (pageKey : PageKey I T) : List (String × PaginationValue I T) :=
  match (ofLex pageKey).1 with
  | some insertedAt =>
      [("id", .id (ofLex pageKey).2), ("inserted_at", .insertedAt insertedAt)]
  | none => [("id", .id (ofLex pageKey).2)]

inductive PageStartError where
  | validation (message : String)
  | database
deriving DecidableEq, Repr

/-- How `raw_display_data_point_query` reads its `start_object`.  A value of
another kind is refused by the database. -/
def pageStart (json : JsonCodec (PaginationValue I T)) (useMaterialized : Bool)
    (startObject : String) : Except PageStartError (PageKey I T) :=
  match json.loads startObject with
  | none => .error (.validation "could not parse last query parameter. Is it valid json?")
  | some pageStart =>
      match pageStart.lookup "id" with
      | none => .error (.validation "id was not part of last query parameter!")
      | some (.insertedAt _) => .error .database
      | some (.id id) =>
          if useMaterialized then
            match pageStart.lookup "inserted_at" with
            | none => .error (.validation "inserted_at was not part of last query parameter!")
            | some (.id _) => .error .database
            | some (.insertedAt insertedAt) => .ok (toLex (↑insertedAt, id))
          else .ok (toLex (⊥, id))

theorem pageStart_paginationData (json : JsonCodec (PaginationValue I T))
    (useMaterialized : Bool) (row : DataPointRow I T P) :
    pageStart json useMaterialized (json.dumps (paginationData (row.pageKey useMaterialized))) =
      .ok (row.pageKey useMaterialized) := by
  cases useMaterialized with
  | false =>
      have hdata : paginationData (row.pageKey false) = [("id", .id row.id)] := rfl
      have hload : json.loads (json.dumps [("id", .id row.id)]) = some [("id", .id row.id)] :=
        json.loads_dumps _ (by simp)
      simp only [pageStart, hdata, hload]
      rfl
  | true =>
      have hdata : paginationData (row.pageKey true) =
          [("id", .id row.id), ("inserted_at", .insertedAt row.insertedAt)] := rfl
      have hload : json.loads (json.dumps
          [("id", .id row.id), ("inserted_at", .insertedAt row.insertedAt)]) =
            some [("id", .id row.id), ("inserted_at", .insertedAt row.insertedAt)] :=
        json.loads_dumps _ (by simp)
      simp only [pageStart, hdata, hload]
      rfl

/-- The list view of data points. -/
def dataPointList (json : JsonCodec (PaginationValue I T)) (useMaterialized includePrev : Bool)
    (resultOrder : List (DataPointRow I T P) → List (DataPointRow I T P))
    (hperm : ∀ rows, (resultOrder rows).Perm rows) :
    ListView (DataPointRow I T P) (PageKey I T) where
  key := DataPointRow.pageKey useMaterialized
  str := fun row => json.dumps (paginationData (row.pageKey useMaterialized))
  idValue := fun _ => none
  hooks := some
    { paginationText := fun pageKey => json.dumps (paginationData pageKey)
      startObject := fun text => (pageStart json useMaterialized text).toOption
      includePrev := includePrev
      resultOrder := resultOrder
      startObject_paginationText := fun row => by
        rw [pageStart_paginationData]
        rfl
      paginationText_ascii := fun row => json.dumps_ascii _
      resultOrder_perm := hperm }

variable [LinearOrder I] [LinearOrder T]

/-- Without a reordering join the list of data points is complete, over the
materialised table as over the history. -/
theorem dataPointList_complete (json : JsonCodec (PaginationValue I T))
    (useMaterialized includePrev : Bool) :
    (dataPointList json useMaterialized includePrev (fun rows : List (DataPointRow I T P) => rows)
      fun _ => .refl _).PaginationComplete :=
  ListView.complete_of_resumable fun _ _ => rfl

end DataPoints

end NFCompose
