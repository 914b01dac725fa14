/-
Flat forms with keys that are paths.  A dot separates the names of a path, and a
dash before digits the position in a list; the entries of a form are collected
into a tree of dictionaries and lists.
-/
import Mathlib.Data.List.Nodup
import Mathlib.Data.List.TakeWhile
import NFCompose.PartialRuns

namespace NestedForms

open PartialRuns

inductive Step where
  | name (key : String)
  | position (index : Nat)
deriving DecidableEq, Repr

inductive FormTree (V : Type) where
  | leaf (value : V)
  | dictionary (members : List (String × FormTree V))
  | list (items : List (FormTree V))

section Paths

/-- The steps of one component of a key.  A component that counts repetitions is
none. -/
def componentSteps (component : List Char) : Option (List Step) :=
  let index := (component.dropWhile (· ≠ '-')).tail
  if "--repetitions".toList <:+ component then none
  else if index ≠ [] ∧ index.all Char.isDigit then
    some [.name (String.ofList (component.takeWhile (· ≠ '-'))),
      .position (Nat.ofDigitChars 10 index 0)]
  else some [.name (String.ofList component)]

def keySteps (key : String) : Option (List Step) :=
  ((key.toList.splitOn '.').mapM componentSteps).map List.flatten

end Paths

section Building

variable {V : Type}

abbrev Entries (V : Type) := List (List Step × V)

/-- The values without those that come again. -/
def distinct {A : Type} [DecidableEq A] : List A → List A
  | [] => []
  | first :: rest => first :: (distinct rest).filter (· ≠ first)

def headName : List Step × V → Option String
  | (.name key :: _, _) => some key
  | _ => none

def headPosition : List Step × V → Option Nat
  | (.position index :: _, _) => some index
  | _ => none

/-- The names at the root, in the order in which they come first. -/
def rootNames (entries : Entries V) : List String := distinct (entries.filterMap headName)

/-- The positions at the root, in their order. -/
def rootPositions (entries : Entries V) : List Nat :=
  let positions := entries.filterMap headPosition
  (List.range (positions.foldr max 0 + 1)).filter (· ∈ positions)

/-- The entries below a step. -/
def below (step : Step) (entries : Entries V) : Entries V :=
  entries.filterMap fun entry =>
    match entry with
    | (first :: rest, value) => if first = step then some (rest, value) else none
    | ([], _) => none

/-- The tree of some entries; a place cannot be two things at once. -/
def build : Nat → Entries V → Option (FormTree V)
  | 0, _ => none
  | _ + 1, [([], value)] => some (.leaf value)
  | fuel + 1, entries =>
      if entries.all fun entry => (headName entry).isSome then
        ((rootNames entries).mapM fun key =>
          (build fuel (below (.name key) entries)).map (key, ·)).map .dictionary
      else if entries.all fun entry => (headPosition entry).isSome then
        ((rootPositions entries).mapM fun index =>
          build fuel (below (.position index) entries)).map .list
      else none

/-- What a dictionary has under a key. -/
def FormTree.member (key : String) : FormTree V → Option (FormTree V)
  | .dictionary members => members.lookup key
  | _ => none

/-- The steps of all keys. -/
def formEntries (form : List (String × V)) : Option (Entries V) :=
  form.mapM fun entry => (keySteps entry.1).map (·, entry.2)

/-- A key has at most two steps more than it has characters. -/
def decodeForm (form : List (String × V)) : Option (FormTree V) :=
  (formEntries form).bind
    (build (((form.map fun entry => entry.1.length).foldr max 0) + 3))

end Building

section Keys

theorem componentSteps_name {component : List Char} (hdash : '-' ∉ component) :
    componentSteps component = some [.name (String.ofList component)] := by
  have hindex : component.dropWhile (· ≠ '-') = [] := by
    rw [List.dropWhile_eq_nil_iff]
    intro c hc
    rw [decide_eq_true_eq]
    rintro rfl
    exact hdash hc
  have hcount : ¬ "--repetitions".toList <:+ component := by
    intro hsuffix
    exact hdash (hsuffix.subset (by decide))
  rw [componentSteps, if_neg hcount, hindex, if_neg]
  rintro ⟨hne, -⟩
  exact hne rfl

/-- A name, a dash and the digits of a number. -/
theorem componentSteps_position {key : List Char} (hdash : '-' ∉ key) (hrepetitions : 's' ∉ key)
    (index : Nat) :
    componentSteps (key ++ '-' :: Nat.toDigits 10 index) =
      some [.name (String.ofList key), .position index] := by
  have hdigit : ∀ c ∈ Nat.toDigits 10 index, c.isDigit = true := fun c hc =>
    Nat.isDigit_of_mem_toDigits (by decide) (by decide) hc
  have hkey : ∀ c ∈ key, decide (c ≠ '-') = true := by
    intro c hc
    rw [decide_eq_true_eq]
    rintro rfl
    exact hdash hc
  have hcount : ¬ "--repetitions".toList <:+ key ++ '-' :: Nat.toDigits 10 index := by
    intro hsuffix
    have hmem : 's' ∈ key ++ '-' :: Nat.toDigits 10 index := hsuffix.subset (by decide)
    rcases List.mem_append.mp hmem with hold | hnew
    · exact hrepetitions hold
    · rcases List.mem_cons.mp hnew with heq | hdigits
      · exact absurd heq (by decide)
      · exact absurd (hdigit 's' hdigits) (by decide)
  have hdrop : (key ++ '-' :: Nat.toDigits 10 index).dropWhile (· ≠ '-') =
      '-' :: Nat.toDigits 10 index := by
    rw [List.dropWhile_append_of_pos hkey, List.dropWhile_cons_of_neg (by decide)]
  have htake : (key ++ '-' :: Nat.toDigits 10 index).takeWhile (· ≠ '-') = key := by
    rw [List.takeWhile_append_of_pos hkey, List.takeWhile_cons_of_neg (by decide),
      List.append_nil]
  rw [componentSteps, if_neg hcount, hdrop, htake, List.tail_cons, if_pos]
  · simp
  · exact ⟨Nat.toDigits_ne_nil, List.all_eq_true.mpr hdigit⟩

/-- The steps of a key that is joined from components. -/
theorem keySteps_joined {components : List (List Char)} (hdot : ∀ part ∈ components, '.' ∉ part)
    (hne : components ≠ []) {key : String} (hkey : key.toList = ['.'].intercalate components) :
    keySteps key = (components.mapM componentSteps).map List.flatten := by
  rw [keySteps, hkey, List.splitOn_intercalate '.' hdot hne]

end Keys

section Trees

variable {V : Type}

theorem distinct_of_nodup {A : Type} [DecidableEq A] {list : List A} (hnodup : list.Nodup) :
    distinct list = list := by
  induction list with
  | nil => rfl
  | cons first rest ih =>
      obtain ⟨hfirst, hrest⟩ := List.nodup_cons.mp hnodup
      rw [distinct, ih hrest, List.filter_eq_self.mpr]
      intro other hother
      rw [decide_eq_true_eq]
      rintro rfl
      exact hfirst hother

theorem distinct_constant {A : Type} [DecidableEq A] {value : A} {list : List A}
    (hall : ∀ other ∈ list, other = value) (hne : list ≠ []) : distinct list = [value] := by
  induction list with
  | nil => exact absurd rfl hne
  | cons first rest ih =>
      obtain ⟨rfl, hrest⟩ := List.forall_mem_cons.mp hall
      rw [distinct]
      by_cases hnil : rest = []
      · rw [hnil]
        rfl
      · rw [ih hrest hnil]
        simp

/-- An entry one step further down. -/
def under (step : Step) (entry : List Step × V) : List Step × V := (step :: entry.1, entry.2)

theorem below_append (step : Step) (first second : Entries V) :
    below step (first ++ second) = below step first ++ below step second :=
  List.filterMap_append

theorem below_under_self (step : Step) (entries : Entries V) :
    below step (entries.map (under step)) = entries := by
  rw [below, List.filterMap_map]
  have hsome : (fun entry : List Step × V => match under step entry with
      | (first :: rest, value) => if first = step then some (rest, value) else none
      | ([], _) => none) = some := by
    funext entry
    simp [under]
  rw [Function.comp_def, hsome, List.filterMap_some]

theorem below_under_ne {step other : Step} (hne : other ≠ step) (entries : Entries V) :
    below step (entries.map (under other)) = [] := by
  rw [below, List.filterMap_map, List.filterMap_eq_nil_iff]
  intro entry _
  simp [under, hne]

/-- Which entries are kept may depend on their values. -/
theorem below_filter (step : Step) (keep : V → Bool) (entries : Entries V) :
    below step (entries.filter fun entry => keep entry.2) =
      (below step entries).filter fun entry => keep entry.2 := by
  induction entries with
  | nil => rfl
  | cons entry rest ih =>
      obtain ⟨steps, value⟩ := entry
      rw [← List.singleton_append, List.filter_append, below_append, below_append,
        List.filter_append, ih]
      congr 1
      cases steps with
      | nil => cases hkeep : keep value <;> simp [below, hkeep]
      | cons first others =>
          by_cases hfirst : first = step
          · cases hkeep : keep value <;> simp [below, hkeep, hfirst]
          · cases hkeep : keep value <;> simp [below, hkeep, hfirst]

/-- The entries of a list of things, each under its position. -/
def positioned {A : Type} (entriesOf : A → Entries V) (things : List A) (start : Nat) :
    Entries V :=
  (things.zipIdx start).flatMap fun thing => (entriesOf thing.1).map (under (.position thing.2))

theorem below_positioned_of_lt {A : Type} (entriesOf : A → Entries V) (things : List A)
    {start index : Nat} (hlt : index < start) :
    below (.position index) (positioned entriesOf things start) = [] := by
  induction things generalizing start with
  | nil => rfl
  | cons thing rest ih =>
      have hne : Step.position start ≠ .position index := by
        intro heq
        injection heq with hsame
        exact Nat.ne_of_gt hlt hsame
      rw [positioned, List.zipIdx_cons, List.flatMap_cons, below_append, below_under_ne hne,
        List.nil_append]
      exact ih (Nat.lt_succ_of_lt hlt)

theorem below_positioned {A : Type} (entriesOf : A → Entries V) (things : List A)
    (start index : Nat) :
    below (.position (start + index)) (positioned entriesOf things start) =
      (things[index]?.map entriesOf).getD [] := by
  induction things generalizing start index with
  | nil => rfl
  | cons thing rest ih =>
      rw [positioned, List.zipIdx_cons, List.flatMap_cons, below_append]
      cases index with
      | zero =>
          have hrest := below_positioned_of_lt entriesOf rest (Nat.lt_succ_self start)
          rw [Nat.add_zero, below_under_self]
          exact (congrArg (entriesOf thing ++ ·) hrest).trans (List.append_nil _)
      | succ index =>
          have hne : Step.position start ≠ .position (start + (index + 1)) := by
            intro heq
            injection heq with hsame
            omega
          have hrest := ih (start + 1) index
          rw [show start + 1 + index = start + (index + 1) by omega] at hrest
          rw [below_under_ne hne, List.nil_append]
          exact hrest

theorem headPosition_positioned {A : Type} (entriesOf : A → Entries V) (things : List A)
    (start : Nat) :
    ∀ entry ∈ positioned entriesOf things start, (headPosition entry).isSome := by
  intro entry hmem
  obtain ⟨thing, -, hentry⟩ := List.mem_flatMap.mp hmem
  obtain ⟨lower, -, rfl⟩ := List.mem_map.mp hentry
  rfl

/-- A position is at the root when something is below it. -/
theorem mem_positions_iff {entries : Entries V} {index : Nat} :
    index ∈ entries.filterMap headPosition ↔ below (.position index) entries ≠ [] := by
  induction entries with
  | nil => simp [below]
  | cons entry rest ih =>
      have hsplit : below (.position index) (entry :: rest) ≠ [] ↔
          below (.position index) [entry] ≠ [] ∨ below (.position index) rest ≠ [] := by
        rw [← List.singleton_append, below_append, ← not_and_or]
        exact not_congr List.append_eq_nil_iff
      rw [hsplit, ← ih, ← List.singleton_append, List.filterMap_append, List.mem_append]
      apply or_congr_left
      obtain ⟨steps, value⟩ := entry
      cases steps with
      | nil => simp [below, headPosition]
      | cons first others =>
          cases first with
          | name key => simp [below, headPosition]
          | position found =>
              by_cases hfound : found = index
              · simp [below, headPosition, hfound]
              · simp [below, headPosition, hfound, Ne.symm hfound]

theorem build_dictionary {fuel : Nat} {entries : Entries V} {members : List (String × FormTree V)}
    (hnames : ∀ entry ∈ entries, (headName entry).isSome)
    (hkeys : rootNames entries = members.map Prod.fst)
    (hbelow : ∀ member ∈ members,
      build fuel (below (.name member.1) entries) = some member.2) :
    build (fuel + 1) entries = some (.dictionary members) := by
  rw [build]
  · rw [if_pos (List.all_eq_true.mpr hnames), hkeys, List.mapM_map, Function.comp_def]
    have hmembers : members.mapM (fun member => (build fuel (below (.name member.1) entries)).map
        (member.1, ·)) = some (members.map id) := by
      apply mapM_eq_some
      intro member hmem
      rw [hbelow member hmem]
      rfl
    rw [hmembers, List.map_id]
    rfl
  · rintro value rfl
    cases hnames ([], value) List.mem_cons_self

theorem le_foldr_max {positions : List Nat} {position : Nat} (hmem : position ∈ positions) :
    position ≤ positions.foldr max 0 := by
  induction positions with
  | nil => cases hmem
  | cons first rest ih =>
      rw [List.foldr_cons]
      rcases List.mem_cons.mp hmem with rfl | hrest
      · exact Nat.le_max_left _ _
      · exact Nat.le_trans (ih hrest) (Nat.le_max_right _ _)

/-- All positions up to a length come in their order. -/
theorem rootPositions_eq_range {entries : Entries V} {length : Nat} (hlength : 0 < length)
    (hbelow : ∀ index, below (.position index) entries ≠ [] ↔ index < length) :
    rootPositions entries = List.range length := by
  have hall : ∀ index, index ∈ entries.filterMap headPosition ↔ index < length :=
    fun index => mem_positions_iff.trans (hbelow index)
  have hlast : length - 1 ≤ (entries.filterMap headPosition).foldr max 0 :=
    le_foldr_max ((hall (length - 1)).mpr (by omega))
  obtain ⟨more, hmore⟩ := Nat.exists_eq_add_of_le
    (show length ≤ (entries.filterMap headPosition).foldr max 0 + 1 by omega)
  have hlow : (List.range length).filter (fun index => index ∈ entries.filterMap headPosition) =
      List.range length := by
    rw [List.filter_eq_self]
    intro index hindex
    exact decide_eq_true ((hall index).mpr (List.mem_range.mp hindex))
  have hhigh : ((List.range more).map (length + ·)).filter
      (fun index => index ∈ entries.filterMap headPosition) = [] := by
    rw [List.filter_eq_nil_iff]
    intro index hindex
    obtain ⟨offset, -, rfl⟩ := List.mem_map.mp hindex
    rw [decide_eq_true_eq, hall]
    omega
  rw [rootPositions, hmore, List.range_add, List.filter_append, hlow, hhigh, List.append_nil]

theorem build_list {fuel : Nat} {entries : Entries V} {items : List (FormTree V)}
    (hpositions : ∀ entry ∈ entries, (headPosition entry).isSome) (hne : entries ≠ [])
    (hroot : rootPositions entries = List.range items.length)
    (hbelow : ∀ index item, items[index]? = some item →
      build fuel (below (.position index) entries) = some item) :
    build (fuel + 1) entries = some (.list items) := by
  have hno : ¬ (entries.all fun entry => (headName entry).isSome) = true := by
    obtain ⟨entry, rest, rfl⟩ := List.exists_cons_of_ne_nil hne
    intro hall
    have hname := List.all_eq_true.mp hall entry List.mem_cons_self
    have hposition := hpositions entry List.mem_cons_self
    obtain ⟨steps, value⟩ := entry
    cases steps with
    | nil => cases hname
    | cons first others =>
        cases first with
        | name key => cases hposition
        | position index => cases hname
  rw [build]
  · have hitems : (List.range items.length).mapM
        (fun index => build fuel (below (.position index) entries)) =
          some ((List.range items.length).map fun index => items[index]?.getD (.list [])) := by
      apply mapM_eq_some
      intro index hindex
      have hsome := List.getElem?_eq_getElem (List.mem_range.mp hindex)
      rw [hbelow index _ hsome, hsome, Option.getD_some]
    have hself : ((List.range items.length).map fun index => items[index]?.getD (.list [])) =
        items := by
      apply List.ext_getElem
      · simp
      · intro index hindex hindex'
        simp [hindex']
    rw [if_neg hno, if_pos (List.all_eq_true.mpr hpositions), hroot, hitems, hself]
    rfl
  · rintro value rfl
    cases hpositions ([], value) List.mem_cons_self

/-- A form with one name in each key. -/
def flat (pairs : List (String × V)) : Entries V := pairs.map fun pair => ([.name pair.1], pair.2)

theorem below_flat {pairs : List (String × V)} (hnodup : (pairs.map Prod.fst).Nodup)
    {key : String} {value : V} (hmem : (key, value) ∈ pairs) :
    below (.name key) (flat pairs) = [([], value)] := by
  induction pairs with
  | nil => cases hmem
  | cons pair rest ih =>
      obtain ⟨first, other⟩ := pair
      obtain ⟨hfirst, hrest⟩ := List.nodup_cons.mp hnodup
      rw [flat, List.map_cons, ← List.singleton_append, below_append]
      rcases List.mem_cons.mp hmem with heq | hlater
      · cases heq
        have hnone : below (.name key) (flat rest) = [] := by
          rw [below, flat, List.filterMap_map, List.filterMap_eq_nil_iff]
          intro entry hentry
          have hne : entry.1 ≠ key := by
            rintro rfl
            exact hfirst (List.mem_map.mpr ⟨entry, hentry, rfl⟩)
          simp [hne]
        rw [flat] at hnone
        rw [hnone]
        simp [below]
      · have hne : first ≠ key := by
          rintro rfl
          exact hfirst (List.mem_map.mpr ⟨_, hlater, rfl⟩)
        have hnone : below (.name key) [([Step.name first], other)] = [] := by
          simp [below, hne]
        rw [hnone, List.nil_append]
        exact ih hrest hlater

theorem build_flat {pairs : List (String × V)} (hnodup : (pairs.map Prod.fst).Nodup) (fuel : Nat) :
    build (fuel + 2) (flat pairs) =
      some (.dictionary (pairs.map fun pair => (pair.1, .leaf pair.2))) := by
  have hnames : (flat pairs).filterMap headName = pairs.map Prod.fst := by
    rw [flat, List.filterMap_map]
    exact congrFun List.filterMap_eq_map pairs
  apply build_dictionary
  · intro entry hmem
    obtain ⟨pair, -, rfl⟩ := List.mem_map.mp hmem
    rfl
  · rw [rootNames, hnames, distinct_of_nodup hnodup, List.map_map]
    rfl
  · intro member hmem
    obtain ⟨pair, hpair, rfl⟩ := List.mem_map.mp hmem
    rw [below_flat hnodup hpair]
    rfl

theorem lookup_leaves {pairs : List (String × V)} (hnodup : (pairs.map Prod.fst).Nodup)
    {key : String} {tree : FormTree V} :
    (pairs.map fun pair => (pair.1, FormTree.leaf pair.2)).lookup key = some tree ↔
      ∃ value, (key, value) ∈ pairs ∧ tree = .leaf value := by
  induction pairs with
  | nil => simp
  | cons pair rest ih =>
      obtain ⟨first, other⟩ := pair
      obtain ⟨hfirst, hrest⟩ := List.nodup_cons.mp hnodup
      rw [List.map_cons, List.lookup_cons]
      by_cases hkey : key = first
      · subst hkey
        rw [beq_self_eq_true]
        constructor
        · intro htree
          exact ⟨other, List.mem_cons_self, (Option.some.inj htree).symm⟩
        · rintro ⟨value, hmem, rfl⟩
          rcases List.mem_cons.mp hmem with heq | hlater
          · cases heq
            rfl
          · exact absurd (List.mem_map.mpr ⟨_, hlater, rfl⟩) hfirst
      · rw [beq_eq_false_iff_ne.mpr hkey]
        simp only [ih hrest, List.mem_cons, Prod.mk.injEq, hkey, false_and, false_or]

end Trees

end NestedForms
