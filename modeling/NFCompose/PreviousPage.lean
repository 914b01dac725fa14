/-
The previous links of `IdBasedPagination`: the token of the page before is looked
up in the rows up to the own token, queried backwards.
-/
import NFCompose.Pagination

namespace NFCompose

open KeysetPaging

variable {R K : Type} [LinearOrder K]

namespace ListView

/-- The pages, with their tokens, that a client reaches by next links. -/
inductive Reached (view : ListView R K) (pageSize : Nat) (rows : List R) :
    Option String → ListResponse R → Prop
  | first {response : ListResponse R} (hlist : view.list pageSize none rows = some response) :
      Reached view pageSize rows none response
  | next {lastId : Option String} {text : String} {earlier response : ListResponse R}
      (hearlier : Reached view pageSize rows lastId earlier) (hnext : earlier.next = some text)
      (hlist : view.list pageSize (some text) rows = some response) :
      Reached view pageSize rows (some text) response

/-- Following the previous link of `page` answers `response`.  There is no link to
follow only where the view shows none. -/
def PreviousLeadsTo (view : ListView R K) (pageSize : Nat) (rows : List R)
    (page response : ListResponse R) : Prop :=
  match page.previous with
  | .null => ∃ hooks, view.hooks = some hooks ∧ hooks.includePrev = false
  | .firstPage => view.list pageSize none rows = some response
  | .last lastId => view.list pageSize (some lastId) rows = some response

/-- The previous link of a page that was reached leads to the page it was reached
from, whose next link leads to it again. -/
def PreviousUndoesNext (view : ListView R K) (pageSize : Nat) (rows : List R) : Prop :=
  ∀ lastId text earlier page, view.Reached pageSize rows lastId earlier →
    earlier.next = some text → view.list pageSize (some text) rows = some page →
    view.PreviousLeadsTo pageSize rows page earlier

/-- The links of the view can be followed: its tokens resume after their rows, and
the database returns the rows of a page query in the order asked for. -/
structure LinksFollow (view : ListView R K) : Prop where
  resumable : view.Resumable
  reversed : ∀ hooks, view.hooks = some hooks → ∀ rows, Listed view.key rows →
    hooks.resultOrder rows.reverse = rows.reverse

variable {view : ListView R K} {pageSize : Nat} {rows : List R}

section Links

omit [LinearOrder K] in
theorem getPrevLink_short {paginated : Paginated R} {prevPage : List R}
    (hprev : paginated.prevPage = some prevPage) (hshort : prevPage.length ≤ pageSize) :
    view.getPrevLink pageSize paginated = some .firstPage := by
  simp only [getPrevLink, hprev, if_neg (Nat.not_lt_of_le hshort)]

theorem list_of_request {lastId : Option String} {page : Page R String}
    (hrequest : view.request pageSize lastId rows = some page) :
    ∃ response, view.list pageSize lastId rows = some response ∧
      response.data = page.rows ∧ response.next = page.next := by
  obtain ⟨response, hlist, hpage⟩ := Option.map_eq_some_iff.mp hrequest
  exact ⟨response, hlist, by rw [← hpage], by rw [← hpage]⟩

/-- The previous link of an answer is made from the rows queried backwards. -/
theorem previous_of_list {lastId : Option String} {response : ListResponse R}
    (hlist : view.list pageSize lastId rows = some response) :
    ∃ qs paginated, view.nextPageQuery lastId
        (if lastId.isSome then pageSize + 2 else pageSize + 1) rows = some qs ∧
      view.prevPage pageSize lastId qs rows = some paginated.prevPage ∧
      view.getPrevLink pageSize paginated = some response.previous := by
  simp only [list, Option.bind_eq_bind, Option.bind_eq_some_iff, Option.some.injEq] at hlist
  obtain ⟨paginated, hpaginated, next, -, previous, hprevious, rfl⟩ := hlist
  simp only [paginateQueryset, Option.bind_eq_bind, Option.bind_eq_some_iff] at hpaginated
  obtain ⟨qs, hqs, prevPage, hprev, hpaginated⟩ := hpaginated
  refine ⟨qs, paginated, hqs, ?_, hprevious⟩
  rw [hprev]
  split at hpaginated
  · rw [← Option.some.inj hpaginated]
  · obtain ⟨firstId, -, hpaginated⟩ := Option.bind_eq_some_iff.mp hpaginated
    rw [← Option.some.inj hpaginated]

end Links

section Forward

variable (hresumable : view.Resumable) (hsize : 1 ≤ pageSize) (hrows : Listed view.key rows)
include hresumable hsize hrows

/-- The page behind the first `count` rows. -/
theorem list_behind {count : Nat} (hcount : count = 0 ∨ count < rows.length) :
    ∃ response,
      view.list pageSize ((rows.take count).getLast?.map view.lastIdText) rows = some response ∧
      response.data = (rows.drop count).take pageSize ∧
      response.next = if count + pageSize < rows.length then
        (rows.take (count + pageSize)).getLast?.map view.lastIdText else none := by
  have hresume : KeysetPaging.Resumable view.key (rows.take count) := by
    rcases hcount with rfl | hcount
    · exact resumable_nil
    · intro row hrow
      have hsplit := hrows
      rw [← List.take_append_drop count rows, listed_append] at hsplit
      have hdrop : rows.drop count ≠ [] := by
        intro hnil
        rw [List.drop_eq_nil_iff] at hnil
        omega
      obtain ⟨greater, hgreater⟩ := List.exists_mem_of_ne_nil _ hdrop
      exact ⟨greater, hsplit.2.2 row (List.mem_of_getLast? hrow) greater hgreater⟩
  have hanswer := answers_of_resumable hresumable hsize _ rows hrows hresume
  obtain ⟨response, hlist, hdata, hnext⟩ := list_of_request hanswer
  simp only [keysetPage, after_take hrows, List.length_drop] at hdata hnext
  refine ⟨response, hlist, hdata, ?_⟩
  rw [hnext]
  by_cases hmore : count + pageSize < rows.length
  · have hlast : (rows.take (count + pageSize)).getLast? =
        ((rows.drop count).take pageSize).getLast? := by
      rw [List.take_add]
      exact getLast?_append_page _ hsize (by rw [List.length_drop]; omega)
    rw [if_pos hmore, if_pos (by omega), hlast]
  · rw [if_neg hmore, if_neg (by omega)]

/-- A page that is reached lies a whole number of pages behind the first row. -/
theorem Reached.pages_before {lastId : Option String} {response : ListResponse R}
    (hreached : view.Reached pageSize rows lastId response) :
    ∃ pages, (pages * pageSize = 0 ∨ pages * pageSize < rows.length) ∧
      lastId = (rows.take (pages * pageSize)).getLast?.map view.lastIdText ∧
      view.list pageSize lastId rows = some response := by
  induction hreached with
  | first hlist => exact ⟨0, by simp, by simp, hlist⟩
  | next hearlier hnext hlist ih =>
      obtain ⟨pages, hpages, rfl, hsame⟩ := ih
      obtain ⟨behind, hbehind, -, hmore⟩ := list_behind hresumable hsize hrows hpages
      rw [hsame, Option.some.injEq] at hbehind
      rw [← hbehind, hnext] at hmore
      refine ⟨pages + 1, ?_, ?_, hlist⟩
      · rw [Nat.succ_mul]
        split at hmore
        · right
          assumption
        · simp at hmore
      · rw [Nat.succ_mul]
        split at hmore
        · exact hmore
        · simp at hmore

end Forward

section Backward

/-- The link back to the page behind `row`. -/
def linkBack (view : ListView R K) : Option R → PrevLink
  | none => .firstPage
  | some row => .last (view.lastIdText row)

theorem previousLeadsTo_of_linkBack {page response : ListResponse R} {row : Option R}
    (hprevious : page.previous = view.linkBack row)
    (hlist : view.list pageSize (row.map view.lastIdText) rows = some response) :
    view.PreviousLeadsTo pageSize rows page response := by
  cases row with
  | none => simpa only [PreviousLeadsTo, hprevious, linkBack, Option.map_none] using hlist
  | some row => simpa only [PreviousLeadsTo, hprevious, linkBack, Option.map_some] using hlist

/-- One row more than a page, queried backwards, ends with the row before the page. -/
theorem getLast?_backwards {count : Nat} (hcount : count ≤ rows.length)
    (hmore : pageSize < count) :
    ((rows.take count).reverse.take (pageSize + 1)).getLast? =
      (rows.take (count - pageSize)).getLast? := by
  have hlength : (rows.take count).length = count := by
    rw [List.length_take, Nat.min_eq_left hcount]
  rw [List.take_reverse, List.getLast?_reverse, List.head?_drop, hlength,
    List.getElem?_take_of_lt (by omega), List.getLast?_take, if_neg (by omega)]
  have hindex : count - (pageSize + 1) = count - pageSize - 1 := by omega
  have hbound : count - pageSize - 1 < rows.length := by omega
  rw [hindex, List.getElem?_eq_getElem hbound]
  rfl

/-- The hooks link back to the page before, if they link back at all. -/
theorem previous_of_hooks {hooks : PageHooks view.key} (hhooks : view.hooks = some hooks)
    (hreversed : ∀ rows, Listed view.key rows → hooks.resultOrder rows.reverse = rows.reverse)
    (hrows : Listed view.key rows) {count : Nat} (hcount : count ≤ rows.length)
    (hinclude : hooks.includePrev = true) {last : R}
    (hlast : (rows.take count).getLast? = some last) {page : ListResponse R}
    (hlist : view.list pageSize (some (view.lastIdText last)) rows = some page) :
    page.previous = view.linkBack (rows.take (count - pageSize)).getLast? := by
  obtain ⟨qs, paginated, -, hprev, hprevious⟩ := previous_of_list hlist
  have hread : hooks.startObject (view.lastIdText last) = some (view.key last) := by
    simp only [lastIdText, hhooks, hooks.startObject_paginationText]
  have hbackwards : hooks.resultOrder ((rows.take count).reverse.take (pageSize + 1)) =
      (rows.take count).reverse.take (pageSize + 1) := by
    rw [List.take_reverse]
    exact hreversed _ (hrows.sublist ((List.drop_sublist _ _).trans (List.take_sublist _ _)))
  simp only [prevPage, prevPageQuery, hhooks, hinclude, ↓reduceIte, rawDisplayDataPointQuery,
    hread, Option.map_some, filter_le_take hrows hlast, hbackwards, List.take_take,
    Nat.min_self, Option.some.injEq] at hprev
  have hlength : ((rows.take count).reverse.take (pageSize + 1)).length =
      min (pageSize + 1) count := by
    rw [List.length_take, List.length_reverse, List.length_take, Nat.min_eq_left hcount]
  by_cases hmore : pageSize < count
  · have hback := getLast?_backwards hcount hmore
    simp only [getPrevLink, ← hprev, hlength, hback] at hprevious
    rw [if_pos (by omega)] at hprevious
    cases hrow : (rows.take (count - pageSize)).getLast? with
    | none =>
        rw [hrow, Option.some.injEq] at hprevious
        exact hprevious.symm
    | some row =>
        have hascii : isAscii (view.lastIdText row) = true := by
          simp only [lastIdText, hhooks, hooks.paginationText_ascii]
        simp only [hrow, encodeLastId, b64encode, hascii, ↓reduceIte, Option.map_some,
          Option.some.injEq] at hprevious
        exact hprevious.symm
  · rw [getPrevLink_short hprev.symm (by omega), Option.some.injEq] at hprevious
    rw [Nat.sub_eq_zero_of_le (Nat.le_of_not_lt hmore), ← hprevious]
    rfl

/-- The queryset behind a token starts at it, so no more than one of its rows is up
to the token. -/
theorem length_backwards_le {rows : List R} (hrows : Listed view.key rows) (value : K) :
    (((rows.filter fun row => value ≤ view.key row).reverse).filter
      fun row => view.key row ≤ value).length ≤ 1 := by
  rw [List.filter_reverse, List.length_reverse]
  have hlisted : Listed view.key ((rows.filter fun row => value ≤ view.key row).filter
      fun row => view.key row ≤ value) :=
    hrows.sublist (List.filter_sublist.trans List.filter_sublist)
  have hkey : ∀ row ∈ (rows.filter fun row => value ≤ view.key row).filter
      (fun row => view.key row ≤ value), view.key row = value := by
    intro row hrow
    simp only [List.mem_filter, decide_eq_true_eq] at hrow
    exact le_antisymm hrow.2 hrow.1.2
  revert hlisted hkey
  match (rows.filter fun row => value ≤ view.key row).filter
      (fun row => view.key row ≤ value) with
  | [] => simp
  | [_] => simp
  | first :: second :: rest =>
      intro hlisted hkey
      have hlt : view.key first < view.key second :=
        List.rel_of_pairwise_cons hlisted (by simp)
      rw [hkey first (by simp), hkey second (by simp)] at hlt
      exact absurd hlt (lt_irrefl value)

/-- The queryset always links back to the first page. -/
theorem previous_of_queryset (hhooks : view.hooks = none) (hsize : 1 ≤ pageSize)
    (hrows : Listed view.key rows) {text : String} {page : ListResponse R}
    (hlist : view.list pageSize (some text) rows = some page) : page.previous = .firstPage := by
  obtain ⟨qs, paginated, hqs, hprev, hprevious⟩ := previous_of_list hlist
  simp only [nextPageQuery, hhooks, Option.map_eq_some_iff] at hqs
  obtain ⟨value, hvalue, rfl⟩ := hqs
  simp only [prevPage, prevPageQuery, hhooks, hvalue, Option.map_some, Option.some.injEq] at hprev
  rw [getPrevLink_short hprev.symm, Option.some.injEq] at hprevious
  · exact hprevious.symm
  · have hone := length_backwards_le hrows value
    rw [List.length_take]
    omega

end Backward

section Inverse

variable (hsize : 1 ≤ pageSize) (hrows : Listed view.key rows)
include hsize hrows

/-- A page whose next link was followed, and the row its token was made from. -/
theorem Reached.before_next (hresumable : view.Resumable) {lastId : Option String}
    {text : String} {earlier : ListResponse R}
    (hreached : view.Reached pageSize rows lastId earlier) (hnext : earlier.next = some text) :
    ∃ pages last, pages * pageSize + pageSize < rows.length ∧
      (rows.take (pages * pageSize + pageSize)).getLast? = some last ∧
      text = view.lastIdText last ∧
      view.list pageSize ((rows.take (pages * pageSize)).getLast?.map view.lastIdText) rows =
        some earlier := by
  obtain ⟨pages, hpages, rfl, hlist⟩ := hreached.pages_before hresumable hsize hrows
  obtain ⟨behind, hbehind, -, hmore⟩ := list_behind hresumable hsize hrows hpages
  rw [hlist, Option.some.injEq] at hbehind
  rw [← hbehind, hnext] at hmore
  split at hmore
  · rename_i hlength
    obtain ⟨last, hlast, htext⟩ := Option.map_eq_some_iff.mp hmore.symm
    exact ⟨pages, last, hlength, hlast, htext.symm, hlist⟩
  · simp at hmore

theorem previousUndoesNext_of_hooks (hfollow : view.LinksFollow) {hooks : PageHooks view.key}
    (hhooks : view.hooks = some hooks) : view.PreviousUndoesNext pageSize rows := by
  intro lastId text earlier page hreached hnext hpage
  obtain ⟨pages, last, hlength, hlast, rfl, hlist⟩ :=
    hreached.before_next hsize hrows hfollow.resumable hnext
  cases hinclude : hooks.includePrev with
  | false =>
      have hnull : page.previous = .null := by
        obtain ⟨qs, paginated, -, hprev, hprevious⟩ := previous_of_list hpage
        simp only [prevPage, prevPageQuery, hhooks, hinclude, Bool.false_eq_true, ↓reduceIte,
          Option.map_some, Option.map_none, Option.some.injEq] at hprev
        simp only [getPrevLink, ← hprev, Option.some.injEq] at hprevious
        exact hprevious.symm
      simp only [PreviousLeadsTo, hnull]
      exact ⟨hooks, hhooks, hinclude⟩
  | true =>
      have hprevious := previous_of_hooks hhooks (hfollow.reversed hooks hhooks) hrows
        (Nat.le_of_lt hlength) hinclude hlast hpage
      rw [Nat.add_sub_cancel] at hprevious
      exact previousLeadsTo_of_linkBack hprevious hlist

theorem previousUndoesNext_of_short (hresumable : view.Resumable) (hhooks : view.hooks = none)
    (hshort : rows.length ≤ 2 * pageSize) : view.PreviousUndoesNext pageSize rows := by
  intro lastId text earlier page hreached hnext hpage
  obtain ⟨pages, last, hlength, -, -, hlist⟩ :=
    hreached.before_next hsize hrows hresumable hnext
  have hpages : pages = 0 := by
    by_contra hne
    have hone : pageSize ≤ pages * pageSize := Nat.le_mul_of_pos_left _ (by omega)
    omega
  subst hpages
  simpa only [PreviousLeadsTo, previous_of_queryset hhooks hsize hrows hpage, Nat.zero_mul,
    List.take_zero, List.getLast?_nil, Option.map_none] using hlist

/-- The third page does not lead back to the second one. -/
theorem short_of_previousUndoesNext (hresumable : view.Resumable) (hhooks : view.hooks = none)
    (hundo : view.PreviousUndoesNext pageSize rows) : rows.length ≤ 2 * pageSize := by
  by_contra hlong
  have hbehind := fun (count : Nat) (hcount : count = 0 ∨ count < rows.length) =>
    list_behind hresumable hsize hrows hcount
  have hlast : ∀ count, 0 < count → ∃ last, (rows.take count).getLast? = some last := by
    intro count hcount
    have hne : rows.take count ≠ [] := by
      intro hnil
      have hlength := congrArg List.length hnil
      rw [List.length_take, List.length_nil] at hlength
      omega
    exact ⟨_, List.getLast?_eq_getLast_of_ne_nil hne⟩
  obtain ⟨last, hlast₁⟩ := hlast pageSize (by omega)
  obtain ⟨nextLast, hlast₂⟩ := hlast (pageSize + pageSize) (by omega)
  obtain ⟨first, hfirst, hfirstData, hfirstNext⟩ := hbehind 0 (Or.inl rfl)
  obtain ⟨second, hsecond, hsecondData, hsecondNext⟩ := hbehind pageSize (Or.inr (by omega))
  obtain ⟨third, hthird, -⟩ := hbehind (pageSize + pageSize) (Or.inr (by omega))
  rw [List.take_zero, List.getLast?_nil, Option.map_none] at hfirst
  rw [hlast₁, Option.map_some] at hsecond
  rw [hlast₂, Option.map_some] at hthird
  rw [if_pos (by omega), Nat.zero_add, hlast₁, Option.map_some] at hfirstNext
  rw [if_pos (by omega), hlast₂, Option.map_some] at hsecondNext
  have hback := hundo _ _ second third (.next (.first hfirst) hfirstNext hsecond)
    hsecondNext hthird
  simp only [PreviousLeadsTo, previous_of_queryset hhooks hsize hrows hthird, hfirst,
    Option.some.injEq] at hback
  -- both pages are not empty, and no row is on both
  have hsame : rows.take pageSize = (rows.drop pageSize).take pageSize := by
    rw [← hsecondData, ← hback, hfirstData, List.drop_zero]
  have hlisted := hrows
  rw [← List.take_append_drop pageSize rows, listed_append] at hlisted
  have hmem : last ∈ rows.take pageSize := List.mem_of_getLast? hlast₁
  have hagain : last ∈ rows.drop pageSize := List.mem_of_mem_take (hsame ▸ hmem)
  exact lt_irrefl _ (hlisted.2.2 last hmem last hagain)

end Inverse

/-- The page query hooks undo every next link; the queryset undoes only the first
one, so the previous links of its views are right up to the second page. -/
theorem previous_undoes_next_iff (view : ListView R K) (hfollow : view.LinksFollow)
    {pageSize : Nat} (hsize : 1 ≤ pageSize) {rows : List R} (hrows : Listed view.key rows) :
    view.PreviousUndoesNext pageSize rows ↔
      view.hooks.isSome = true ∨ rows.length ≤ 2 * pageSize := by
  cases hhooks : view.hooks with
  | some hooks =>
      simp only [Option.isSome_some, true_or, iff_true]
      exact previousUndoesNext_of_hooks hsize hrows hfollow hhooks
  | none =>
      simp only [Option.isSome_none, Bool.false_eq_true, false_or]
      exact ⟨short_of_previousUndoesNext hsize hrows hfollow.resumable hhooks,
        previousUndoesNext_of_short hsize hrows hfollow.resumable hhooks⟩

end ListView


namespace PreviousPageWitness

/-- The hooks of a view whose rows are their ids. -/
def idHooks : PageHooks (id : Nat → Nat) where
  paginationText := fun id => "\x7b\"id\": " ++ id.repr ++ "\x7d"
  startObject := fun text => some (Nat.ofDigitChars 10 (text.toList.drop 7).dropLast 0)
  includePrev := true
  resultOrder := id
  startObject_paginationText := fun row => by
    have hprefix : "\x7b\"id\": ".toList.length = 7 := by decide
    have hsuffix : "\x7d".toList = ['\x7d'] := by decide
    rw [String.toList_append, String.toList_append, List.append_assoc, ← hprefix,
      List.drop_left, hsuffix, List.dropLast_concat, Nat.toList_repr,
      Nat.ofDigitChars_ten_toDigits]
  paginationText_ascii := fun row => by
    rw [isAscii, String.toList_append, String.toList_append, List.all_append, List.all_append,
      Nat.toList_repr, Bool.and_eq_true, Bool.and_eq_true]
    refine ⟨⟨by decide, List.all_eq_true.mpr fun digit hdigit => ?_⟩, by decide⟩
    have hrange := Nat.isDigit_of_mem_toDigits (by decide) (by decide) hdigit
    simp only [Char.isDigit, Bool.and_eq_true, decide_eq_true_eq, ge_iff_le,
      UInt32.le_iff_toNat_le] at hrange ⊢
    exact Nat.lt_of_le_of_lt hrange.2 (by decide)
  resultOrder_perm := fun rows => .refl rows

/-- The list of such rows through the hooks. -/
def hookedList : ListView Nat Nat := ⟨id, Nat.repr, PaginationWitness.parseId, some idHooks⟩

/-- The list of such rows through a queryset; a row prints as its id. -/
def querysetList : ListView Nat Nat := ⟨id, Nat.repr, PaginationWitness.parseId, none⟩

theorem hookedList_undoes : hookedList.PreviousUndoesNext 1 [1, 2, 3] :=
  (ListView.previous_undoes_next_iff hookedList
    ⟨fun _ _ => rfl, fun hooks hhooks rows _ => by
      obtain rfl := Option.some.inj hhooks
      rfl⟩
    (Nat.le_refl 1) (by decide)).mpr (Or.inl rfl)

/-- The third page links back to the first one, not to the second. -/
theorem querysetList_returns_to_first : ¬querysetList.PreviousUndoesNext 1 [1, 2, 3] := by
  intro hundo
  have hfirst : querysetList.list 1 none [1, 2, 3] =
      some { next := some "1", previous := .null, data := [1] } := rfl
  have hsecond : querysetList.list 1 (some "1") [1, 2, 3] =
      some { next := some "2", previous := .firstPage, data := [2] } := rfl
  have hthird : querysetList.list 1 (some "2") [1, 2, 3] =
      some { next := none, previous := .firstPage, data := [3] } := rfl
  have hback := hundo _ _ _ _ (.next (.first hfirst) rfl hsecond) rfl hthird
  simp [ListView.PreviousLeadsTo, hfirst] at hback

end PreviousPageWitness

end NFCompose
