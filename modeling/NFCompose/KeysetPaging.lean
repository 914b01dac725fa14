/-
Paging through rows by key.  A client follows the tokens it is given, each
request may see other rows, and a page continues behind the last row delivered.
-/
import Mathlib.Order.Lattice
import Mathlib.Data.List.Basic

namespace KeysetPaging

universe u v w

variable {R : Type u} {K : Type v} {T : Type w}

structure Page (R : Type u) (T : Type w) where
  rows : List R
  next : Option T
deriving DecidableEq, Repr

inductive Outcome (R : Type u) (T : Type w) where
  | running (yielded : List R) (token : Option T)
  | finished (yielded : List R)
  | failed (yielded : List R)
deriving DecidableEq, Repr

def Outcome.yielded : Outcome R T → List R
  | .running yielded _ => yielded
  | .finished yielded => yielded
  | .failed yielded => yielded

/-- Follows the tokens: the `i`-th request sees the `i`-th list of rows. -/
def readPages (request : Option T → List R → Option (Page R T)) :
    Option T → List R → List (List R) → Outcome R T
  | token, yielded, [] => .running yielded token
  | token, yielded, rows :: later =>
      match request token rows with
      | none => .failed yielded
      | some page =>
          match page.next with
          | none => .finished (yielded ++ page.rows)
          | some next => readPages request (some next) (yielded ++ page.rows) later

section Keyed

variable [LinearOrder K] (key : R → K)

/-- Distinct keys, in key order. -/
def Listed (rows : List R) : Prop := rows.Pairwise fun left right => key left < key right

instance (rows : List R) : Decidable (Listed key rows) :=
  inferInstanceAs (Decidable (rows.Pairwise _))

/-- What a traversal owes to its client, whatever happened to the rows between
two requests. -/
structure Delivered (snapshots : List (List R)) (outcome : Outcome R T) : Prop where
  served : ∀ yielded, outcome ≠ .failed yielded
  listed : Listed key outcome.yielded
  seen : ∀ row ∈ outcome.yielded, ∃ rows ∈ snapshots, row ∈ rows
  kept : ∀ yielded, outcome = .finished yielded →
    ∀ k, (∀ rows ∈ snapshots, ∃ row ∈ rows, key row = k) → ∃ row ∈ yielded, key row = k

/-- Without changes the traversal ends and lists exactly the rows; with changes
it delivers every row that stays. -/
structure Complete (request : Option T → List R → Option (Page R T)) : Prop where
  unchanged : ∀ rows, Listed key rows →
    ∃ requests, readPages request none [] (List.replicate requests rows) = .finished rows
  changing : ∀ snapshots, (∀ rows ∈ snapshots, Listed key rows) →
    Delivered key snapshots (readPages request none [] snapshots)

/-- The rows behind the last one that was delivered. -/
def after : Option R → List R → List R
  | none, rows => rows
  | some last, rows => rows.filter fun row => key last < key row

def keysetPage (encode : R → T) (size : Nat) (last : Option R) (rows : List R) : Page R T :=
  let rest := after key last rows
  { rows := rest.take size
    next := if size < rest.length then (rest.take size).getLast?.map encode else none }

/-- The request answers every token it can have handed out with the keyset page;
a row is handed out as a token only when a greater one exists. -/
def Answers (encode : R → T) (size : Nat)
    (request : Option T → List R → Option (Page R T)) : Prop :=
  ∀ (last : Option R) (rows : List R), Listed key rows →
    (∀ row, last = some row → ∃ greater, key row < key greater) →
    request (last.map encode) rows = some (keysetPage key encode size last rows)

variable {key}

@[simp] theorem listed_nil : Listed key [] := List.Pairwise.nil

theorem Listed.sublist {rows part : List R} (hrows : Listed key rows)
    (hpart : part.Sublist rows) : Listed key part := List.Pairwise.sublist hpart hrows

theorem listed_append {front back : List R} :
    Listed key (front ++ back) ↔ Listed key front ∧ Listed key back ∧
      ∀ left ∈ front, ∀ right ∈ back, key left < key right := List.pairwise_append

theorem Listed.le_getLast {rows : List R} (hrows : Listed key rows) {last : R}
    (hlast : rows.getLast? = some last) {row : R} (hrow : row ∈ rows) :
    key row ≤ key last := by
  obtain ⟨front, rfl⟩ := List.getLast?_eq_some_iff.mp hlast
  rw [List.mem_append, List.mem_singleton] at hrow
  rcases hrow with hfront | rfl
  · exact le_of_lt ((listed_append.mp hrows).2.2 row hfront last (by simp))
  · exact le_refl _

theorem after_sublist (last : Option R) (rows : List R) :
    (after key last rows).Sublist rows := by
  cases last with
  | none => exact List.Sublist.refl _
  | some last => exact List.filter_sublist

/-- Behind the delivered rows stand exactly the rows greater than all of them. -/
theorem mem_after_getLast {yielded rows : List R} (hyielded : Listed key yielded) {row : R} :
    row ∈ after key yielded.getLast? rows ↔
      row ∈ rows ∧ ∀ shown ∈ yielded, key shown < key row := by
  cases hlast : yielded.getLast? with
  | none =>
      rw [List.getLast?_eq_none_iff] at hlast
      subst hlast
      simp [after]
  | some last =>
      have hmem : last ∈ yielded := List.mem_of_getLast? hlast
      simp only [after, List.mem_filter, decide_eq_true_eq]
      constructor
      · intro ⟨hrow, hlt⟩
        exact ⟨hrow, fun shown hshown =>
          lt_of_le_of_lt (hyielded.le_getLast hlast hshown) hlt⟩
      · intro ⟨hrow, hall⟩
        exact ⟨hrow, hall last hmem⟩

theorem after_take {rows : List R} (hrows : Listed key rows) (count : Nat) :
    after key (rows.take count).getLast? rows = rows.drop count := by
  have hsplit : rows.take count ++ rows.drop count = rows := List.take_append_drop count rows
  cases hlast : (rows.take count).getLast? with
  | none =>
      rw [List.getLast?_eq_none_iff] at hlast
      rw [hlast, List.nil_append] at hsplit
      exact hsplit.symm
  | some last =>
      have hlisted : Listed key (rows.take count ++ rows.drop count) := by rwa [hsplit]
      obtain ⟨hfront, -, hlt⟩ := listed_append.mp hlisted
      have hmem : last ∈ rows.take count := List.mem_of_getLast? hlast
      have hback : (rows.drop count).filter (fun row => key last < key row) =
          rows.drop count := by
        rw [List.filter_eq_self]
        intro row hrow
        exact decide_eq_true (hlt last hmem row hrow)
      have hnone : (rows.take count).filter (fun row => key last < key row) = [] := by
        rw [List.filter_eq_nil_iff]
        intro row hrow
        simpa using hfront.le_getLast hlast hrow
      calc after key (some last) rows
          = (rows.take count ++ rows.drop count).filter fun row => key last < key row := by
            rw [hsplit]; rfl
        _ = rows.drop count := by rw [List.filter_append, hnone, hback, List.nil_append]

/-- The rows up to the last of the first rows are the first rows. -/
theorem filter_le_take {rows : List R} (hrows : Listed key rows) {count : Nat} {last : R}
    (hlast : (rows.take count).getLast? = some last) :
    (rows.filter fun row => key row ≤ key last) = rows.take count := by
  have hsplit : rows.take count ++ rows.drop count = rows := List.take_append_drop count rows
  have hlisted : Listed key (rows.take count ++ rows.drop count) := by rwa [hsplit]
  obtain ⟨hfront, -, hlt⟩ := listed_append.mp hlisted
  have hall : (rows.take count).filter (fun row => key row ≤ key last) = rows.take count := by
    rw [List.filter_eq_self]
    intro row hrow
    exact decide_eq_true (hfront.le_getLast hlast hrow)
  have hnone : (rows.drop count).filter (fun row => key row ≤ key last) = [] := by
    rw [List.filter_eq_nil_iff]
    intro row hrow
    simpa using hlt last (List.mem_of_getLast? hlast) row hrow
  calc rows.filter (fun row => key row ≤ key last)
      = (rows.take count ++ rows.drop count).filter fun row => key row ≤ key last := by
        rw [hsplit]
    _ = rows.take count := by rw [List.filter_append, hall, hnone, List.append_nil]

section Answered

variable {encode : R → T} {size : Nat} {request : Option T → List R → Option (Page R T)}

/-- The last row delivered so far, from which the next token was made, has a
greater one. -/
def Resumable (key : R → K) (yielded : List R) : Prop :=
  ∀ row, yielded.getLast? = some row → ∃ greater, key row < key greater

theorem resumable_nil : Resumable key ([] : List R) := by
  intro row hrow
  simp at hrow

/-- A page behind the delivered rows continues them. -/
theorem listed_append_page {yielded rows : List R} (hyielded : Listed key yielded)
    (hrows : Listed key rows) (count : Nat) :
    Listed key (yielded ++ (after key yielded.getLast? rows).take count) := by
  rw [listed_append]
  refine ⟨hyielded, hrows.sublist ((List.take_sublist _ _).trans (after_sublist _ _)), ?_⟩
  intro shown hshown row hrow
  exact ((mem_after_getLast hyielded).mp (List.mem_of_mem_take hrow)).2 shown hshown

theorem getLast?_append_page (yielded : List R) {rest : List R} (hsize : 0 < size)
    (hmore : size < rest.length) :
    (yielded ++ rest.take size).getLast? = (rest.take size).getLast? := by
  have hne : rest.take size ≠ [] := by
    intro hnil
    have hlength := congrArg List.length hnil
    rw [List.length_take, List.length_nil] at hlength
    omega
  rw [List.getLast?_append_of_ne_nil _ hne]

theorem resumable_append_page (yielded : List R) {rows : List R} (hrows : Listed key rows)
    (hsize : 0 < size) (hmore : size < (after key yielded.getLast? rows).length) :
    Resumable key (yielded ++ (after key yielded.getLast? rows).take size) := by
  intro row hrow
  rw [getLast?_append_page yielded hsize hmore] at hrow
  have hlisted : Listed key (after key yielded.getLast? rows) :=
    hrows.sublist (after_sublist _ _)
  rw [← List.take_append_drop size (after key yielded.getLast? rows), listed_append] at hlisted
  have hdrop : (after key yielded.getLast? rows).drop size ≠ [] := by
    intro hnil
    rw [List.drop_eq_nil_iff] at hnil
    omega
  obtain ⟨greater, hgreater⟩ := List.exists_mem_of_ne_nil _ hdrop
  exact ⟨greater, hlisted.2.2 row (List.mem_of_getLast? hrow) greater hgreater⟩

/-- One answered request of a traversal. -/
theorem readPages_cons (hanswers : Answers key encode size request) (hsize : 0 < size)
    {yielded rows : List R} (hrows : Listed key rows) (hresume : Resumable key yielded)
    (later : List (List R)) :
    readPages request (yielded.getLast?.map encode) yielded (rows :: later) =
      let page := (after key yielded.getLast? rows).take size
      if size < (after key yielded.getLast? rows).length then
        readPages request ((yielded ++ page).getLast?.map encode) (yielded ++ page) later
      else .finished (yielded ++ page) := by
  rw [readPages, hanswers yielded.getLast? rows hrows hresume]
  by_cases hmore : size < (after key yielded.getLast? rows).length
  · have hlast := getLast?_append_page yielded hsize hmore
    cases hget : ((after key yielded.getLast? rows).take size).getLast? with
    | none =>
        rw [List.getLast?_eq_none_iff, List.take_eq_nil_iff] at hget
        rcases hget with hzero | hnil
        · omega
        · rw [hnil, List.length_nil] at hmore
          omega
    | some last =>
        simp only [keysetPage, if_pos hmore, hget, hlast, Option.map_some]
  · simp only [keysetPage, if_neg hmore]

/-- A row behind all that was delivered is on the next page, or behind it too. -/
theorem mem_page_or_behind {yielded rows : List R} (hyielded : Listed key yielded)
    (hrows : Listed key rows) (size : Nat) {row : R} (hrow : row ∈ rows)
    (hbehind : ∀ seen ∈ yielded, key seen < key row) :
    row ∈ (after key yielded.getLast? rows).take size ∨
      ∀ seen ∈ yielded ++ (after key yielded.getLast? rows).take size, key seen < key row := by
  have hafter : row ∈ after key yielded.getLast? rows :=
    (mem_after_getLast hyielded).mpr ⟨hrow, hbehind⟩
  have hsorted : Listed key (after key yielded.getLast? rows) :=
    hrows.sublist (after_sublist _ _)
  rw [← List.take_append_drop size (after key yielded.getLast? rows), listed_append] at hsorted
  rw [← List.take_append_drop size (after key yielded.getLast? rows), List.mem_append] at hafter
  rcases hafter with hfront | hback
  · exact Or.inl hfront
  · right
    intro seen hseen
    rcases List.mem_append.mp hseen with hseen | hseen
    · exact hbehind seen hseen
    · exact hsorted.2.2 seen hseen row hback

/-- The traversal invariant: what was delivered is in key order, and no row that
stays is skipped. -/
theorem readPages_delivers (hanswers : Answers key encode size request) (hsize : 0 < size)
    (snapshots : List (List R)) (hsnapshots : ∀ rows ∈ snapshots, Listed key rows)
    (yielded : List R) (hyielded : Listed key yielded) (hresume : Resumable key yielded) :
    let outcome := readPages request (yielded.getLast?.map encode) yielded snapshots
    (∀ shown, outcome ≠ .failed shown) ∧ Listed key outcome.yielded ∧
      (∀ row ∈ outcome.yielded, row ∈ yielded ∨ ∃ rows ∈ snapshots, row ∈ rows) ∧
      ∀ shown, outcome = .finished shown → ∀ k,
        (∀ rows ∈ snapshots, ∃ row ∈ rows, key row = k) →
        (∃ row ∈ yielded, key row = k) ∨ (∀ row ∈ yielded, key row < k) →
        ∃ row ∈ shown, key row = k := by
  induction snapshots generalizing yielded with
  | nil =>
      refine ⟨fun shown h => ?_, hyielded, fun row hrow => Or.inl hrow, fun shown h => ?_⟩
      · simp [readPages] at h
      · simp [readPages] at h
  | cons rows later ih =>
      have hrows : Listed key rows := hsnapshots rows (by simp)
      have hlater : ∀ rows ∈ later, Listed key rows := fun rows h => hsnapshots rows (by simp [h])
      have hpage := listed_append_page hyielded hrows size
      have hmem : ∀ row ∈ (after key yielded.getLast? rows).take size, row ∈ rows :=
        fun row h => ((mem_after_getLast hyielded).mp (List.mem_of_mem_take h)).1
      rw [readPages_cons hanswers hsize hrows hresume]
      by_cases hmore : size < (after key yielded.getLast? rows).length
      · simp only [if_pos hmore]
        obtain ⟨hserved, hlisted, hseen, hkept⟩ :=
          ih hlater _ hpage (resumable_append_page yielded hrows hsize hmore)
        refine ⟨hserved, hlisted, ?_, ?_⟩
        · intro row hrow
          rcases hseen row hrow with hrow | ⟨source, hsource, hrow⟩
          · rcases List.mem_append.mp hrow with hrow | hrow
            · exact Or.inl hrow
            · exact Or.inr ⟨rows, by simp, hmem row hrow⟩
          · exact Or.inr ⟨source, by simp [hsource], hrow⟩
        · intro shown hshown k hstays hk
          apply hkept shown hshown k fun rows h => hstays rows (by simp [h])
          rcases hk with ⟨row, hrow, rfl⟩ | hk
          · exact Or.inl ⟨row, by simp [hrow], rfl⟩
          · obtain ⟨row, hrow, rfl⟩ := hstays rows (by simp)
            rcases mem_page_or_behind hyielded hrows size hrow hk with hfront | hbehind
            · exact Or.inl ⟨row, by simp [hfront], rfl⟩
            · exact Or.inr hbehind
      · simp only [if_neg hmore]
        refine ⟨fun shown h => by simp at h, hpage, ?_, ?_⟩
        · intro row hrow
          rcases List.mem_append.mp hrow with hrow | hrow
          · exact Or.inl hrow
          · exact Or.inr ⟨rows, by simp, hmem row hrow⟩
        · intro shown hshown k hstays hk
          obtain rfl : _ = shown := Outcome.finished.inj hshown
          rcases hk with ⟨row, hrow, rfl⟩ | hk
          · exact ⟨row, by simp [hrow], rfl⟩
          · obtain ⟨row, hrow, rfl⟩ := hstays rows (by simp)
            have hafter : row ∈ after key yielded.getLast? rows :=
              (mem_after_getLast hyielded).mpr ⟨hrow, hk⟩
            rw [List.take_of_length_le (Nat.le_of_not_lt hmore)]
            exact ⟨row, by simp [hafter], rfl⟩

/-- Over unchanged rows every request delivers one more page until none is left. -/
theorem readPages_replicate (hanswers : Answers key encode size request) (hsize : 0 < size)
    {rows : List R} (hrows : Listed key rows) (remaining count : Nat)
    (hremaining : rows.length ≤ count + remaining)
    (hresume : Resumable key (rows.take count)) :
    ∃ requests, readPages request ((rows.take count).getLast?.map encode) (rows.take count)
      (List.replicate requests rows) = .finished rows := by
  induction remaining using Nat.strongRecOn generalizing count with
  | ind remaining ih =>
    have hafter := after_take hrows count
    have htake : rows.take count ++ (rows.drop count).take size = rows.take (count + size) :=
      List.take_add.symm
    by_cases hmore : size < (rows.drop count).length
    · have hlength := hmore
      rw [List.length_drop] at hlength
      have hnext : Resumable key (rows.take (count + size)) := by
        have h := resumable_append_page (rows.take count) hrows hsize
          (by rwa [hafter])
        rwa [hafter, htake] at h
      obtain ⟨requests, hrequests⟩ :=
        ih (remaining - size) (by omega) (count + size) (by omega) hnext
      refine ⟨requests + 1, ?_⟩
      rw [List.replicate_succ, readPages_cons hanswers hsize hrows hresume]
      simp only [hafter, if_pos hmore, htake, hrequests]
    · refine ⟨1, ?_⟩
      rw [List.replicate_one, readPages_cons hanswers hsize hrows hresume]
      simp only [hafter, if_neg hmore]
      rw [List.take_of_length_le (Nat.le_of_not_lt hmore), List.take_append_drop]

theorem complete_of_answers (hanswers : Answers key encode size request) (hsize : 0 < size) :
    Complete key request := by
  constructor
  · intro rows hrows
    exact readPages_replicate hanswers hsize hrows rows.length 0 (by omega) resumable_nil
  · intro snapshots hsnapshots
    obtain ⟨hserved, hlisted, hseen, hkept⟩ :=
      readPages_delivers hanswers hsize snapshots hsnapshots [] listed_nil resumable_nil
    refine ⟨hserved, hlisted, ?_, ?_⟩
    · intro row hrow
      rcases hseen row hrow with hnil | hsource
      · simp at hnil
      · exact hsource
    · intro shown hshown k hstays
      exact hkept shown hshown k hstays (Or.inr (by simp))

end Answered

end Keyed

end KeysetPaging
