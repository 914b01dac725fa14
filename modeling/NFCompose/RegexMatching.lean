/-
How patterns match a text.  A pattern is tried with backtracking, and all the ways in which it
matches are listed in the order in which they are tried.
-/
import NFCompose.RegexParser

namespace PythonRe

section Characters

variable (database : CharacterDatabase) (flags : List Flag)

def isAsciiWord (c : Char) : Bool := isAsciiLetter c || isDigit c || c = '_'

def Category.holds (kind : Category) (c : Char) : Bool :=
  match kind, decide (Flag.ascii ∈ flags) with
  | .digit, true => isDigit c
  | .digit, false => (database.decimal c).isSome
  | .space, true => isWhitespace c
  | .space, false => database.isSpace c
  | .word, true => isAsciiWord c
  | .word, false => database.isWord c

/-- Whether a character has this code, or the flags make no difference between the two. -/
def sameCode (code : Nat) (c : Char) : Bool :=
  c.toNat = code || (decide (Flag.ignorecase ∈ flags) && decide (code.isValidChar) &&
    if Flag.ascii ∈ flags then (Char.ofNat code).toLower = c.toLower
    else database.sameLetter (Char.ofNat code) c)

def SetItem.holds (c : Char) : SetItem → Bool
  | .literal code => sameCode database flags code c
  | .range lo hi => decide (lo ≤ c.toNat ∧ c.toNat ≤ hi) ||
      (decide (Flag.ignorecase ∈ flags) &&
        (List.range' lo (hi + 1 - lo)).any fun code => sameCode database flags code c)
  | .category negated kind => kind.holds database flags c != negated

/-- `_combine_flags` -/
def combineFlags (addFlags delFlags : List Flag) : List Flag :=
  let kept := if addFlags.any (· ∈ typeFlags) then flags.filter (· ∉ typeFlags) else flags
  (kept ++ addFlags).filter (· ∉ delFlags)

end Characters

section Repeating

/-- A place in a text, and the marks that have been set there: two for each group, where it
begins and where it ends. -/
structure MatchState where
  ptr : Nat
  marks : List (Nat × Nat)
deriving DecidableEq, Repr

variable (body : MatchState → List MatchState)

def MatchState.mark (state : MatchState) (index : Nat) : MatchState :=
  { state with marks := (index, state.ptr) :: state.marks }

/-- The text that a group has matched, as its beginning and its end. -/
def MatchState.group (state : MatchState) (group : Nat) : Option (Nat × Nat) :=
  match state.marks.lookup (2 * group), state.marks.lookup (2 * group + 1) with
  | some first, some last => if first ≤ last then some (first, last) else none
  | _, _ => none

def repeatMin : Nat → MatchState → List MatchState
  | 0, state => [state]
  | n + 1, state => (body state).flatMap (repeatMin n)

/-- Up to so many more times.  A repetition that matches nothing is the last one. -/
def repeatMore (lazy : Bool) : Nat → Option Nat → MatchState → List MatchState
  | 0, _, state => [state]
  | n + 1, lastPtr, state =>
      if lastPtr = some state.ptr then [state]
      else
        let again := (body state).flatMap (repeatMore lazy n (some state.ptr))
        if lazy then state :: again else again ++ [state]

/-- How often a pattern is repeated beyond its minimum.  In a text there is no use for more
than one repetition at each place. -/
def repeatCount (length lo : Nat) : Option Nat → Nat
  | none => length + 1
  | some hi => min (hi - lo) (length + 1)

end Repeating

section Matching

variable (database : CharacterDatabase) (text : List Char)

def charAt (kind : Char → Bool) (state : MatchState) : List MatchState :=
  match text[state.ptr]? with
  | some c => if kind c then [{ state with ptr := state.ptr + 1 }] else []
  | none => []

def wordAt (flags : List Flag) (place : Nat) : Bool :=
  (text[place]?).any (Category.word.holds database flags)

def atEnd (flags : List Flag) (place : Nat) : Bool :=
  place = text.length ||
    (text[place]? = some '\n' &&
      (decide (place + 1 = text.length) || decide (Flag.multiline ∈ flags)))

def AtCode.holds (flags : List Flag) (place : Nat) : AtCode → Bool
  | .beginning => place = 0 ||
      (decide (Flag.multiline ∈ flags) && text[place - 1]? = some '\n')
  | .beginningString => place = 0
  | .boundary => !text.isEmpty &&
      ((decide (place ≠ 0) && wordAt database text flags (place - 1)) !=
        wordAt database text flags place)
  | .nonBoundary => !text.isEmpty &&
      ((decide (place ≠ 0) && wordAt database text flags (place - 1)) ==
        wordAt database text flags place)
  | .ending => atEnd text flags place
  | .endString => place = text.length

/-- The text of a group, read once more. -/
def backreference (flags : List Flag) (group : Nat) (state : MatchState) : List MatchState :=
  match state.group group with
  | none => []
  | some (first, last) =>
      let wanted := (text.drop first).take (last - first)
      let found := (text.drop state.ptr).take (last - first)
      if wanted.length = found.length ∧
          (wanted.zip found).all fun (w, c) => sameCode database flags w.toNat c then
        [{ state with ptr := state.ptr + wanted.length }]
      else []

/-- What an assertion leaves of the ways in which its pattern matches. -/
def asserted (negated : Bool) (found : List MatchState) (state : MatchState) :
    List MatchState :=
  match found.head? with
  | none => if negated then [state] else []
  | some inner => if negated then [] else [{ state with marks := inner.marks }]

/-- The states in which a pattern has been matched, from a state on. -/
def results : Pattern → List Flag → MatchState → List MatchState
  | .empty, _, state => [state]
  | .literal code, flags, state => charAt text (sameCode database flags code) state
  | .any, flags, state => charAt text (fun c => c ≠ '\n' || flags.contains .dotall) state
  | .charset negated items, flags, state =>
      charAt text (fun c => items.any (SetItem.holds database flags c) != negated) state
  | .at code, flags, state => if code.holds database text flags state.ptr then [state] else []
  | .seq first second, flags, state => (results first flags state).flatMap (results second flags)
  | .branch first second, flags, state => results first flags state ++ results second flags state
  | .subpattern none addFlags delFlags pattern, flags, state =>
      results pattern (combineFlags flags addFlags delFlags) state
  | .subpattern (some group) addFlags delFlags pattern, flags, state =>
      (results pattern (combineFlags flags addFlags delFlags) (state.mark (2 * group))).map
        fun inner => inner.mark (2 * group + 1)
  | .atomicGroup pattern, flags, state => (results pattern flags state).take 1
  | .repeated .possessive min max pattern, flags, state =>
      let body := fun state => (results pattern flags state).take 1
      ((repeatMin body min state).flatMap
        (repeatMore body false (repeatCount text.length min max) none)).take 1
  | .repeated kind min max pattern, flags, state =>
      (repeatMin (results pattern flags) min state).flatMap
        (repeatMore (results pattern flags) (kind == .lazy) (repeatCount text.length min max)
          none)
  | .groupref group, flags, state => backreference database text flags group state
  | .assertion none negated pattern, flags, state =>
      asserted negated (results pattern flags state) state
  | .assertion (some width) negated pattern, flags, state =>
      if state.ptr < width then if negated then [state] else []
      else asserted negated (results pattern flags { state with ptr := state.ptr - width }) state
  | .grouprefExists group yes no, flags, state =>
      if (state.group group).isSome then results yes flags state else results no flags state

def start : MatchState := ⟨0, []⟩

/-- The ways in which a branch of a pattern matches the beginning of a text. -/
def branchResults (flags : List Flag) (items : List Pattern) : List MatchState :=
  results database text (seqOf items) flags start

/-- `re.match`, as a condition. -/
def Compiled.matches (pattern : Compiled) : Bool :=
  pattern.branches.any fun items => branchResults database text pattern.flags items ≠ []

/-- `re.fullmatch`, as a condition. -/
def Compiled.fullmatches (pattern : Compiled) : Bool :=
  pattern.branches.any fun items =>
    (branchResults database text pattern.flags items).any fun state => state.ptr = text.length

end Matching

section Bounds

variable {text : List Char} {body : MatchState → List MatchState}

/-- Matching goes on in the text, and not beyond its end. -/
def Advances (text : List Char) (body : MatchState → List MatchState) : Prop :=
  ∀ state, ∀ inner ∈ body state, state.ptr ≤ inner.ptr ∧
    (state.ptr ≤ text.length → inner.ptr ≤ text.length)

theorem Advances.trans {body' : MatchState → List MatchState} (hbody : Advances text body)
    (hbody' : Advances text body') : Advances text fun state => (body state).flatMap body' := by
  intro state inner hinner
  obtain ⟨between, hbetween, hinner⟩ := List.mem_flatMap.mp hinner
  obtain ⟨hle, hbound⟩ := hbody state between hbetween
  obtain ⟨hle', hbound'⟩ := hbody' between inner hinner
  exact ⟨Nat.le_trans hle hle', fun hstate => hbound' (hbound hstate)⟩

theorem Advances.of_subset {body' : MatchState → List MatchState} (hbody : Advances text body)
    (hsubset : ∀ state, body' state ⊆ body state) : Advances text body' :=
  fun state inner hinner => hbody state inner (hsubset state hinner)

theorem Advances.of_ptr_eq (hptr : ∀ state, ∀ inner ∈ body state, inner.ptr = state.ptr) :
    Advances text body := by
  intro state inner hinner
  rw [hptr state inner hinner]
  exact ⟨Nat.le_refl _, id⟩

theorem Advances.repeatMin (hbody : Advances text body) (n : Nat) :
    Advances text (repeatMin body n) := by
  induction n with
  | zero => exact Advances.of_ptr_eq fun state inner hinner => by rw [List.mem_singleton.mp hinner]
  | succ n ih => exact hbody.trans ih

theorem Advances.repeatMore (hbody : Advances text body) (lazy : Bool) (n : Nat)
    (lastPtr : Option Nat) : Advances text (repeatMore body lazy n lastPtr) := by
  induction n generalizing lastPtr with
  | zero => exact Advances.of_ptr_eq fun state inner hinner => by rw [List.mem_singleton.mp hinner]
  | succ n ih =>
      intro state inner hinner
      have hself : inner = state → state.ptr ≤ inner.ptr ∧
          (state.ptr ≤ text.length → inner.ptr ≤ text.length) := by
        rintro rfl
        exact ⟨Nat.le_refl _, id⟩
      have hagain := hbody.trans (ih (some state.ptr)) state inner
      rw [PythonRe.repeatMore] at hinner
      split at hinner
      · exact hself (List.mem_singleton.mp hinner)
      · split at hinner
        · rcases List.mem_cons.mp hinner with hinner | hinner
          · exact hself hinner
          · exact hagain hinner
        · rcases List.mem_append.mp hinner with hinner | hinner
          · exact hagain hinner
          · exact hself (List.mem_singleton.mp hinner)

/-- More repetitions than there are places left make no difference. -/
theorem repeatMore_eq (hbody : Advances text body) (lazy : Bool) {n m : Nat}
    {lastPtr : Option Nat} {state : MatchState} (hstate : state.ptr ≤ text.length)
    (hn : text.length < n + state.ptr) (hm : text.length < m + state.ptr) :
    repeatMore body lazy n lastPtr state = repeatMore body lazy m lastPtr state := by
  induction n generalizing m lastPtr state with
  | zero => omega
  | succ n ih =>
      cases m with
      | zero => omega
      | succ m =>
          have hagain : (body state).flatMap (repeatMore body lazy n (some state.ptr)) =
              (body state).flatMap (repeatMore body lazy m (some state.ptr)) := by
            refine List.flatMap_congr fun inner hinner => ?_
            obtain ⟨hle, hbound⟩ := hbody state inner hinner
            by_cases hsame : some state.ptr = some inner.ptr
            · -- a repetition that matches nothing is the last one
              have hlast : ∀ count,
                  repeatMore body lazy count (some state.ptr) inner = [inner] := by
                intro count
                cases count with
                | zero => rfl
                | succ count => rw [repeatMore, if_pos hsame]
              rw [hlast, hlast]
            · have hlt : state.ptr < inner.ptr :=
                Nat.lt_of_le_of_ne hle fun heq => hsame (congrArg some heq)
              exact ih (hbound hstate) (by omega) (by omega)
          rw [repeatMore, repeatMore, hagain]

theorem advances_charAt (kind : Char → Bool) : Advances text (charAt text kind) := by
  intro state inner hinner
  rw [charAt] at hinner
  split at hinner
  · next c hc =>
      split at hinner
      · rw [List.mem_singleton.mp hinner]
        exact ⟨Nat.le_succ _, fun _ => (List.getElem?_eq_some_iff.mp hc).1⟩
      · cases hinner
  · cases hinner

theorem advances_asserted (negated : Bool) (found : MatchState → List MatchState) :
    Advances text fun state => asserted negated (found state) state := by
  refine Advances.of_ptr_eq fun state inner hinner => ?_
  rw [asserted] at hinner
  split at hinner
  · split at hinner
    · rw [List.mem_singleton.mp hinner]
    · cases hinner
  · split at hinner
    · cases hinner
    · rw [List.mem_singleton.mp hinner]

variable (database : CharacterDatabase)

theorem advances_backreference (flags : List Flag) (group : Nat) :
    Advances text (backreference database text flags group) := by
  intro state inner hinner
  rw [backreference] at hinner
  split at hinner
  · cases hinner
  · dsimp only at hinner
    split at hinner
    · next hfound =>
        rw [List.mem_singleton.mp hinner]
        refine ⟨Nat.le_add_right _ _, fun hstate => ?_⟩
        have hlength := hfound.1
        rw [List.length_take, List.length_drop, List.length_take, List.length_drop] at hlength
        simp only [List.length_take, List.length_drop]
        omega
    · cases hinner

/-- By induction on the pattern. -/
theorem advances_results (pattern : Pattern) (flags : List Flag) :
    Advances text (results database text pattern flags) := by
  induction pattern generalizing flags with
  | empty => exact Advances.of_ptr_eq fun _ _ hinner => by rw [List.mem_singleton.mp hinner]
  | literal code => exact advances_charAt _
  | any => exact advances_charAt _
  | charset negated items => exact advances_charAt _
  | «at» code =>
      refine Advances.of_ptr_eq fun state inner hinner => ?_
      rw [results] at hinner
      split at hinner
      · rw [List.mem_singleton.mp hinner]
      · cases hinner
  | seq first second ihfirst ihsecond => exact (ihfirst flags).trans (ihsecond flags)
  | branch first second ihfirst ihsecond =>
      intro state inner hinner
      rcases List.mem_append.mp hinner with hinner | hinner
      · exact ihfirst flags state inner hinner
      · exact ihsecond flags state inner hinner
  | subpattern group addFlags delFlags pattern ih =>
      cases group with
      | none => exact ih _
      | some group =>
          intro state inner hinner
          obtain ⟨between, hbetween, rfl⟩ := List.mem_map.mp hinner
          exact ih _ (state.mark (2 * group)) between hbetween
  | atomicGroup pattern ih => exact (ih flags).of_subset fun _ => List.take_subset _ _
  | repeated kind min max pattern ih =>
      have honce : Advances text fun state => (results database text pattern flags state).take 1 :=
        (ih flags).of_subset fun _ => List.take_subset _ _
      have hmore := fun lazy => ((ih flags).repeatMin min).trans
        ((ih flags).repeatMore lazy (repeatCount text.length min max) none)
      cases kind with
      | greedy => exact hmore false
      | lazy => exact hmore true
      | possessive =>
          exact ((honce.repeatMin min).trans (honce.repeatMore false _ none)).of_subset
            fun _ => List.take_subset _ _
  | groupref group => exact advances_backreference database flags group
  | assertion behind negated pattern ih =>
      cases behind with
      | none => exact advances_asserted negated _
      | some width =>
          intro state inner hinner
          rw [results] at hinner
          split at hinner
          · split at hinner
            · rw [List.mem_singleton.mp hinner]
              exact ⟨Nat.le_refl _, id⟩
            · cases hinner
          · exact advances_asserted negated
              (fun state => results database text pattern flags
                { state with ptr := state.ptr - width }) state inner hinner
  | grouprefExists group yes no ihyes ihno =>
      intro state inner hinner
      rw [results] at hinner
      split at hinner
      · exact ihyes flags state inner hinner
      · exact ihno flags state inner hinner

/-- How often a pattern may be repeated is bounded by its maximum only. -/
theorem repeatMore_repeatCount (pattern : Pattern) (flags : List Flag) (lazy : Bool)
    {count lo : Nat} {hi : Option Nat} {state : MatchState} (hstate : state.ptr ≤ text.length)
    (hcount : match hi with
      | none => text.length < count
      | some hi => count = hi - lo) :
    repeatMore (results database text pattern flags) lazy count none state =
      repeatMore (results database text pattern flags) lazy (repeatCount text.length lo hi) none
        state := by
  have hbody : Advances text (results database text pattern flags) :=
    advances_results database pattern flags
  cases hi with
  | none =>
      rw [repeatCount]
      exact repeatMore_eq hbody lazy hstate (by omega) (by omega)
  | some hi =>
      rw [hcount, repeatCount]
      rcases Nat.le_total (hi - lo) (text.length + 1) with hle | hle
      · rw [Nat.min_eq_left hle]
      · rw [Nat.min_eq_right hle]
        exact repeatMore_eq hbody lazy hstate (by omega) (by omega)

end Bounds

end PythonRe
