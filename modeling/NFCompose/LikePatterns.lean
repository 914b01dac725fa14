/-
Patterns of the LIKE operator of SQL, over any alphabet: what a pattern text
means, which texts match it, and when a text with a wildcard behind it matches
exactly the texts that it is a prefix of.
-/
import Mathlib.Data.List.Infix
import Mathlib.Data.List.Sublists

namespace LikePatterns

universe u

variable {A : Type u}

/-- What one element of a pattern stands for. -/
inductive Item (A : Type u) where
  | many
  | one
  | exactly (symbol : A)
deriving DecidableEq, Repr

/-- The symbols with a meaning of their own. -/
structure Marks (A : Type u) where
  many : A
  one : A
  escape : A
  many_ne_one : many ≠ one
  many_ne_escape : many ≠ escape
  one_ne_escape : one ≠ escape

section Matching

variable [DecidableEq A]

/-- The pattern that a text is; a text cannot end in its escape. -/
def parse (marks : Marks A) : List A → Option (List (Item A))
  | [] => some []
  | symbol :: rest =>
      if symbol = marks.many then (parse marks rest).map (.many :: ·)
      else if symbol = marks.one then (parse marks rest).map (.one :: ·)
      else if symbol = marks.escape then
        match rest with
        | [] => none
        | escaped :: rest => (parse marks rest).map (.exactly escaped :: ·)
      else (parse marks rest).map (.exactly symbol :: ·)

def accepts : List (Item A) → List A → Bool
  | [], text => text.isEmpty
  | .many :: items, text => text.tails.any (accepts items)
  | .one :: _, [] => false
  | .one :: items, _ :: text => accepts items text
  | .exactly _ :: _, [] => false
  | .exactly symbol :: items, found :: text => found = symbol && accepts items text

/-- Whether a text is like a pattern. -/
def like (marks : Marks A) (pattern text : List A) : Bool :=
  (parse marks pattern).any fun items => accepts items text

end Matching

/-- A text in which every symbol stands for itself. -/
def Literal (marks : Marks A) (text : List A) : Prop :=
  ∀ symbol ∈ text, symbol ≠ marks.many ∧ symbol ≠ marks.one ∧ symbol ≠ marks.escape

/-- A text that a pattern accepts, with `filler` for the wildcards. -/
def sample (filler : A) : List (Item A) → List A
  | [] => []
  | .many :: items => sample filler items
  | .one :: items => filler :: sample filler items
  | .exactly symbol :: items => symbol :: sample filler items

section Lemmas

variable [DecidableEq A] {marks : Marks A}

theorem accepts_sample (filler : A) (items : List (Item A)) :
    accepts items (sample filler items) = true := by
  induction items with
  | nil => rfl
  | cons item rest ih =>
      cases item with
      | many =>
          rw [accepts, List.any_eq_true]
          exact ⟨_, (List.mem_tails _ _).mpr (List.suffix_refl _), ih⟩
      | one => exact ih
      | exactly symbol =>
          rw [sample, accepts, decide_eq_true rfl, Bool.true_and]
          exact ih

/-- A wildcard accepts everything. -/
theorem accepts_many (text : List A) : accepts [.many] text = true := by
  rw [accepts, List.any_eq_true]
  exact ⟨[], (List.mem_tails _ _).mpr List.nil_suffix, rfl⟩

theorem accepts_exactly_many {text found : List A} :
    accepts (text.map Item.exactly ++ [.many]) found = true ↔ text <+: found := by
  induction text generalizing found with
  | nil => simp [accepts_many]
  | cons symbol rest ih =>
      cases found with
      | nil => simp [accepts]
      | cons first others =>
          rw [List.map_cons, List.cons_append, accepts, Bool.and_eq_true, ih, decide_eq_true_eq,
            List.cons_prefix_cons, eq_comm]

theorem parse_cons (symbol : A) (rest : List A) :
    parse marks (symbol :: rest) =
      if symbol = marks.many then (parse marks rest).map (.many :: ·)
      else if symbol = marks.one then (parse marks rest).map (.one :: ·)
      else if symbol = marks.escape then
        match rest with
        | [] => none
        | escaped :: others => (parse marks others).map (.exactly escaped :: ·)
      else (parse marks rest).map (.exactly symbol :: ·) := by
  cases rest with
  | nil => rfl
  | cons escaped others => rfl

theorem parse_literal {text : List A} (hliteral : Literal marks text) (rest : List A) :
    parse marks (text ++ rest) = (parse marks rest).map (text.map Item.exactly ++ ·) := by
  induction text with
  | nil => simp
  | cons symbol others ih =>
      obtain ⟨⟨hmany, hone, hescape⟩, hothers⟩ := List.forall_mem_cons.mp hliteral
      rw [List.cons_append, parse_cons, if_neg hmany, if_neg hone, if_neg hescape, ih hothers,
        Option.map_map]
      rfl

theorem parse_many : parse marks [marks.many] = some [.many] := by
  rw [parse_cons, if_pos rfl]
  rfl

/-- A literal text with a wildcard behind it means its prefix. -/
theorem like_literal {text : List A} (hliteral : Literal marks text) (found : List A) :
    like marks (text ++ [marks.many]) found = true ↔ text <+: found := by
  rw [like, parse_literal hliteral, parse_many, Option.map_some, Option.any_some,
    accepts_exactly_many]

/-- A text with a wildcard behind it is a pattern, and its sample is not
longer. -/
theorem exists_parse (filler : A) : ∀ text : List A,
    ∃ items, parse marks (text ++ [marks.many]) = some items ∧
      (sample filler items).length ≤ text.length
  | [] => ⟨[.many], parse_many, Nat.le_refl 0⟩
  | [symbol] => by
      rw [List.singleton_append, parse_cons, parse_many]
      by_cases hmany : symbol = marks.many
      · rw [if_pos hmany]
        exact ⟨_, rfl, Nat.zero_le 1⟩
      · by_cases hone : symbol = marks.one
        · rw [if_neg hmany, if_pos hone]
          exact ⟨_, rfl, Nat.le_refl 1⟩
        · rw [if_neg hmany, if_neg hone]
          split
          · exact ⟨_, rfl, Nat.le_refl 1⟩
          · exact ⟨_, rfl, Nat.le_refl 1⟩
  | symbol :: next :: rest => by
      obtain ⟨items, hitems, hlength⟩ := exists_parse filler (next :: rest)
      obtain ⟨others, hothers, hshort⟩ := exists_parse filler rest
      rw [List.length_cons] at hlength
      rw [List.cons_append, parse_cons, hitems]
      by_cases hmany : symbol = marks.many
      · rw [if_pos hmany]
        exact ⟨_, rfl, Nat.le_succ_of_le hlength⟩
      · by_cases hone : symbol = marks.one
        · rw [if_neg hmany, if_pos hone]
          exact ⟨_, rfl, Nat.succ_le_succ hlength⟩
        · by_cases hescape : symbol = marks.escape
          · rw [if_neg hmany, if_neg hone, if_pos hescape]
            simp only [List.cons_append, hothers]
            exact ⟨_, rfl, Nat.succ_le_succ (Nat.le_succ_of_le hshort)⟩
          · rw [if_neg hmany, if_neg hone, if_neg hescape]
            exact ⟨_, rfl, Nat.succ_le_succ hlength⟩

/-- A text that is a prefix of its own sample has no wildcards and no escapes. -/
theorem literal_of_sample {filler : A} (hfiller : filler ≠ marks.one) : ∀ {text : List A}
    {items : List (Item A)}, parse marks (text ++ [marks.many]) = some items →
      text <+: sample filler items → Literal marks text
  | [], _, _, _ => fun symbol hmem => absurd hmem List.not_mem_nil
  | symbol :: rest, items, hparse, hstarts => by
      obtain ⟨others, hothers, hlength⟩ := @exists_parse A _ marks filler rest
      rw [List.cons_append, parse_cons, hothers] at hparse
      by_cases hmany : symbol = marks.many
      · rw [if_pos hmany] at hparse
        cases hparse
        have hlong := hstarts.length_le
        rw [sample, List.length_cons] at hlong
        omega
      · by_cases hone : symbol = marks.one
        · rw [if_neg hmany, if_pos hone] at hparse
          cases hparse
          rw [sample, List.cons_prefix_cons] at hstarts
          exact absurd (hstarts.1.symm.trans hone) hfiller
        · by_cases hescape : symbol = marks.escape
          · rw [if_neg hmany, if_neg hone, if_pos hescape] at hparse
            cases rest with
            | nil =>
                cases hparse
                rw [sample, List.cons_prefix_cons] at hstarts
                exact absurd hstarts.1 hmany
            | cons escaped tail =>
                obtain ⟨after, hafter, hshort⟩ := @exists_parse A _ marks filler tail
                simp only [List.cons_append, hafter, Option.map_some] at hparse
                cases hparse
                have hlong := hstarts.length_le
                rw [sample, List.length_cons, List.length_cons, List.length_cons] at hlong
                omega
          · rw [if_neg hmany, if_neg hone, if_neg hescape] at hparse
            cases hparse
            rw [sample, List.cons_prefix_cons] at hstarts
            rw [Literal, List.forall_mem_cons]
            exact ⟨⟨hmany, hone, hescape⟩, literal_of_sample hfiller hothers hstarts.2⟩

/-- The symbols of a sample are those of the text, the wildcard and the filler. -/
theorem mem_sample {filler symbol : A} : ∀ {text : List A} {items : List (Item A)},
    parse marks text = some items → symbol ∈ sample filler items →
      symbol = filler ∨ symbol ∈ text
  | [], items, hparse, hmem => by
      cases hparse
      cases hmem
  | first :: rest, items, hparse, hmem => by
      rw [parse_cons] at hparse
      split at hparse
      · obtain ⟨others, hothers, rfl⟩ := Option.map_eq_some_iff.mp hparse
        rw [sample] at hmem
        exact (mem_sample hothers hmem).imp_right (List.mem_cons_of_mem first)
      · split at hparse
        · obtain ⟨others, hothers, rfl⟩ := Option.map_eq_some_iff.mp hparse
          rw [sample, List.mem_cons] at hmem
          rcases hmem with heq | hmem
          · exact Or.inl heq
          · exact (mem_sample hothers hmem).imp_right (List.mem_cons_of_mem first)
        · split at hparse
          · cases rest with
            | nil => cases hparse
            | cons escaped tail =>
                obtain ⟨others, hothers, rfl⟩ := Option.map_eq_some_iff.mp hparse
                rw [sample, List.mem_cons] at hmem
                rcases hmem with rfl | hmem
                · exact Or.inr (List.mem_cons_of_mem first List.mem_cons_self)
                · exact (mem_sample hothers hmem).imp_right fun hold =>
                    List.mem_cons_of_mem first (List.mem_cons_of_mem escaped hold)
          · obtain ⟨others, hothers, rfl⟩ := Option.map_eq_some_iff.mp hparse
            rw [sample, List.mem_cons] at hmem
            rcases hmem with rfl | hmem
            · exact Or.inr List.mem_cons_self
            · exact (mem_sample hothers hmem).imp_right (List.mem_cons_of_mem first)

/-- Among the texts over some symbols, a text with a wildcard behind it is like
those that it is a prefix of exactly when it is literal. -/
theorem like_iff_prefix_iff {filler : A} (hfiller : filler ≠ marks.one) {allowed : A → Prop}
    (hallowed : allowed filler) (hmany : allowed marks.many) {text : List A}
    (htext : ∀ symbol ∈ text, allowed symbol) :
    (∀ found : List A, (∀ symbol ∈ found, allowed symbol) →
        (like marks (text ++ [marks.many]) found = true ↔ text <+: found)) ↔
      Literal marks text := by
  constructor
  · intro hlike
    obtain ⟨items, hitems, -⟩ := @exists_parse A _ marks filler text
    apply literal_of_sample hfiller hitems
    apply (hlike (sample filler items) ?_).mp
    · rw [like, hitems, Option.any_some, accepts_sample]
    · intro symbol hmem
      rcases mem_sample hitems hmem with rfl | hmem
      · exact hallowed
      · rcases List.mem_append.mp hmem with hold | hnew
        · exact htext symbol hold
        · rw [List.mem_singleton.mp hnew]
          exact hmany
  · intro hliteral found _
    exact like_literal hliteral found

end Lemmas

end LikePatterns
