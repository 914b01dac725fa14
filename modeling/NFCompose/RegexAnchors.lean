/-
Patterns between anchors.  A valid pattern without global flags stays valid between `^` and
`$`, but the anchors belong to its first and its last branch only.
-/
import NFCompose.RegexMatching
import NFCompose.RegexReading

namespace PythonRe

section Steps

variable {top : Bool} {items : List Pattern} {steps : List Step}

theorem Step.apply_keeps {step : Step} {after : List Pattern} (hitems : top = false ∨ items ≠ [])
    (happly : step.apply top items = some after) :
    step.flags = [] ∧ (top = false ∨ after ≠ []) := by
  cases step with
  | bar => cases happly
  | append pattern =>
      cases happly
      exact ⟨rfl, .inr (List.concat_ne_nil _ _)⟩
  | again kind min max =>
      refine ⟨rfl, .inr ?_⟩
      rw [Step.apply] at happly
      split at happly
      · cases happly
      · cases happly
      · cases happly
      · cases happly
        exact List.concat_ne_nil _ _
  | comment =>
      cases happly
      exact ⟨rfl, hitems⟩
  | globalFlags flag more =>
      rw [Step.apply, if_neg] at happly
      · cases happly
      · rintro ⟨htop, hnil⟩
        rcases hitems with hfalse | hne
        · rw [hfalse] at htop
          cases htop
        · exact hne hnil

/-- Behind the first item there are no global flags. -/
theorem flags_of_branchesOf {branches : List (List Pattern)} (hitems : top = false ∨ items ≠ [])
    (hbranches : branchesOf top items steps = some branches) :
    steps.flatMap Step.flags = [] := by
  induction top, items, steps using branchesOf.induct generalizing branches with
  | case1 top items => rfl
  | case2 top items steps ih =>
      obtain ⟨more, hmore, -⟩ := Option.map_eq_some_iff.mp hbranches
      exact ih (.inl rfl) hmore
  | case3 top items step steps hbar ih =>
      rw [branchesOf] at hbranches
      · obtain ⟨after, happly, hmore⟩ := Option.bind_eq_some_iff.mp hbranches
        obtain ⟨hflags, hafter⟩ := Step.apply_keeps hitems happly
        rw [List.flatMap_cons, hflags, ih after hafter hmore]
        rfl
      · exact hbar

/-- An item in front of the first branch. -/
def frontOf (item : Pattern) : List (List Pattern) → List (List Pattern)
  | [] => []
  | first :: more => (item :: first) :: more

/-- An item behind the last branch. -/
def behindOf (item : Pattern) : List (List Pattern) → List (List Pattern)
  | [] => []
  | [last] => [last ++ [item]]
  | branch :: next :: more => branch :: behindOf item (next :: more)

theorem Step.apply_front {step : Step} {after : List Pattern} (code : AtCode)
    (hflags : step.flags = []) (happly : step.apply top items = some after) :
    step.apply top (.at code :: items) = some (.at code :: after) := by
  cases step with
  | bar => cases happly
  | append pattern =>
      cases happly
      rfl
  | again kind min max =>
      cases items with
      | nil => cases happly
      | cons item items =>
          rw [Step.apply, List.getLast?_cons_cons]
          rw [Step.apply] at happly
          split at happly
          · cases happly
          · cases happly
          · cases happly
          · cases happly
            rfl
  | comment =>
      cases happly
      rfl
  | globalFlags flag more => cases hflags

/-- Without global flags an anchor in front changes nothing else. -/
theorem branchesOf_front {branches : List (List Pattern)} (code : AtCode)
    (hflags : steps.flatMap Step.flags = [])
    (hbranches : branchesOf top items steps = some branches) :
    branchesOf top (.at code :: items) steps = some (frontOf (.at code) branches) := by
  induction top, items, steps using branchesOf.induct generalizing branches with
  | case1 top items =>
      cases hbranches
      rfl
  | case2 top items steps ih =>
      obtain ⟨more, hmore, rfl⟩ := Option.map_eq_some_iff.mp hbranches
      rw [branchesOf, hmore]
      rfl
  | case3 top items step steps hbar ih =>
      rw [branchesOf] at hbranches
      · obtain ⟨after, happly, hmore⟩ := Option.bind_eq_some_iff.mp hbranches
        rw [List.flatMap_cons, List.append_eq_nil_iff] at hflags
        rw [branchesOf, Step.apply_front code hflags.1 happly]
        · exact ih after hflags.2 hmore
        · exact hbar
      · exact hbar

theorem branchesOf_ne_nil {branches : List (List Pattern)}
    (hbranches : branchesOf top items steps = some branches) : branches ≠ [] := by
  induction top, items, steps using branchesOf.induct generalizing branches with
  | case1 top items =>
      cases hbranches
      exact List.cons_ne_nil _ _
  | case2 top items steps ih =>
      obtain ⟨more, hmore, rfl⟩ := Option.map_eq_some_iff.mp hbranches
      exact List.cons_ne_nil _ _
  | case3 top items step steps hbar ih =>
      rw [branchesOf] at hbranches
      · obtain ⟨after, happly, hmore⟩ := Option.bind_eq_some_iff.mp hbranches
        exact ih after hmore
      · exact hbar

theorem branchesOf_behind {branches : List (List Pattern)} (pattern : Pattern)
    (hbranches : branchesOf top items steps = some branches) :
    branchesOf top items (steps ++ [.append pattern]) = some (behindOf pattern branches) := by
  induction top, items, steps using branchesOf.induct generalizing branches with
  | case1 top items =>
      cases hbranches
      rfl
  | case2 top items steps ih =>
      obtain ⟨more, hmore, rfl⟩ := Option.map_eq_some_iff.mp hbranches
      rw [List.cons_append, branchesOf, ih hmore]
      obtain ⟨first, others, rfl⟩ := List.exists_cons_of_ne_nil (branchesOf_ne_nil hmore)
      rfl
  | case3 top items step steps hbar ih =>
      rw [branchesOf] at hbranches
      · obtain ⟨after, happly, hmore⟩ := Option.bind_eq_some_iff.mp hbranches
        rw [List.cons_append, branchesOf, happly]
        · exact ih after hmore
        · exact hbar
      · exact hbar

end Steps

section Reading

variable {database : CharacterDatabase} {fuel : Nat} {verbose : Bool} {state : State}
variable {this : Token} {rest : List Token}

/-- A token that begins an item. -/
def IsItem (verbose : Bool) (this : Token) : Prop :=
  this ≠ .char ')' ∧ this ≠ .char '|' ∧ ¬ (verbose ∧ isBlank this) ∧
    ¬ (verbose ∧ this = .char '#')

/-- What is read from a token on. -/
inductive ReadsCons (database : CharacterDatabase) (fuel : Nat) (verbose : Bool) (state : State) :
    Token → List Token → List Step → Source → Prop where
  | close {rest : List Token} :
      ReadsCons database fuel verbose state (.char ')') rest [] ⟨state, .char ')' :: rest⟩
  | bar {rest : List Token} {more : List Step} {after : Source}
      (hmore : readSteps database fuel verbose ⟨state, rest⟩ = some (more, after)) :
      ReadsCons database fuel verbose state (.char '|') rest (.bar :: more) after
  | blank {this : Token} {rest : List Token} {steps : List Step} {after : Source}
      (hverbose : verbose = true) (hblank : isBlank this = true)
      (hmore : readSteps database fuel verbose ⟨state, rest⟩ = some (steps, after)) :
      ReadsCons database fuel verbose state this rest steps after
  | comment {rest : List Token} {steps : List Step} {after : Source} (hverbose : verbose = true)
      (hmore : readSteps database fuel verbose ⟨state, dropLine rest⟩ = some (steps, after)) :
      ReadsCons database fuel verbose state (.char '#') rest steps after
  | item {this : Token} {rest : List Token} {step : Step} {between : Source} {more : List Step}
      {after : Source} (hitem : IsItem verbose this)
      (hstep : parseItem database (closedBranches (readSteps database fuel)) verbose this
        ⟨state, rest⟩ = some (step, between))
      (hmore : readSteps database fuel (verboseAfter verbose (between.noteFlags step) step)
        (between.noteFlags step) = some (more, after)) :
      ReadsCons database fuel verbose state this rest (step :: more) after

theorem readSteps_blank (hverbose : verbose = true) (hblank : isBlank this = true) :
    readSteps database (fuel + 1) verbose ⟨state, this :: rest⟩ =
      readSteps database fuel verbose ⟨state, rest⟩ := by
  have hclose : this ≠ .char ')' := by
    rintro rfl
    cases hblank
  have hbar : this ≠ .char '|' := by
    rintro rfl
    cases hblank
  simp [readSteps, hclose, hbar, hverbose, hblank]

theorem readSteps_item (hitem : IsItem verbose this) :
    readSteps database (fuel + 1) verbose ⟨state, this :: rest⟩ =
      (parseItem database (closedBranches (readSteps database fuel)) verbose this
        ⟨state, rest⟩).bind fun read =>
          (readSteps database fuel (verboseAfter verbose (read.2.noteFlags read.1) read.1)
            (read.2.noteFlags read.1)).map fun more => (read.1 :: more.1, more.2) := by
  obtain ⟨hclose, hbar, hblank, hcomment⟩ := hitem
  simp [readSteps, hclose, hbar, hblank, hcomment]

theorem token_cases (verbose : Bool) (this : Token) :
    this = .char ')' ∨ this = .char '|' ∨ (verbose = true ∧ isBlank this = true) ∨
      (verbose = true ∧ this = .char '#') ∨ IsItem verbose this := by
  rw [IsItem]
  tauto

theorem readSteps_cons {steps : List Step} {after : Source} :
    readSteps database (fuel + 1) verbose ⟨state, this :: rest⟩ = some (steps, after) ↔
      ReadsCons database fuel verbose state this rest steps after := by
  constructor
  · intro hread
    rcases token_cases verbose this with rfl | rfl | ⟨hverbose, hblank⟩ | ⟨hverbose, rfl⟩ | hitem
    · cases hread
      exact .close
    · obtain ⟨⟨more, last⟩, hmore, heq⟩ := Option.map_eq_some_iff.mp hread
      cases heq
      exact .bar hmore
    · rw [readSteps_blank hverbose hblank] at hread
      exact .blank hverbose hblank hread
    · subst hverbose
      exact .comment rfl hread
    · rw [readSteps_item hitem] at hread
      obtain ⟨⟨step, between⟩, hstep, hread⟩ := Option.bind_eq_some_iff.mp hread
      obtain ⟨⟨more, last⟩, hmore, heq⟩ := Option.map_eq_some_iff.mp hread
      cases heq
      exact .item hitem hstep hmore
  · intro hread
    cases hread with
    | close => rfl
    | bar hmore => exact Option.map_eq_some_iff.mpr ⟨_, hmore, rfl⟩
    | blank hverbose hblank hmore => exact (readSteps_blank hverbose hblank).trans hmore
    | comment hverbose hmore =>
        subst hverbose
        exact hmore
    | item hitem hstep hmore =>
        refine (readSteps_item hitem).trans (Option.bind_eq_some_iff.mpr ⟨_, hstep, ?_⟩)
        exact Option.map_eq_some_iff.mpr ⟨_, hmore, rfl⟩

theorem dropLine_length (rest : List Token) : (dropLine rest).length ≤ rest.length := by
  rw [dropLine, List.length_tail]
  exact Nat.le_trans (Nat.sub_le _ _) (List.dropWhile_suffix _).length_le

/-- A comment ends at a line break, or it takes in all that follows. -/
theorem dropLine_append {extra : List Token} (hextra : IsEnding extra) (rest : List Token) :
    dropLine (rest ++ extra) = dropLine rest ++ extra ∨
      dropLine rest = [] ∧ dropLine (rest ++ extra) = [] := by
  induction rest with
  | nil =>
      right
      rcases hextra with rfl | rfl
      · exact ⟨rfl, rfl⟩
      · exact ⟨rfl, rfl⟩
  | cons token rest ih =>
      by_cases htoken : token = .char '\n'
      · left
        simp [dropLine, htoken]
      · simpa [dropLine, htoken] using ih

/-- A reader of steps that finds the same when more text follows, if it stops before. -/
def SteadySteps (n : Nat) (extra : List Token) (reader reader' : Reader (List Step)) : Prop :=
  ∀ source steps after, source.rest.length ≤ n → reader source = some (steps, after) →
    after.rest.length ≤ source.rest.length ∧
      after.state.flags = source.state.flags ++ steps.flatMap Step.flags ∧
        (after.rest ≠ [] ∨ extra = [] →
          reader' (source.extend extra) = some (steps, after.extend extra))

theorem SteadySteps.closedBranches {n : Nat} {extra : List Token} (hextra : IsEnding extra)
    {steps steps' : Bool → Reader (List Step)}
    (hsteps : ∀ verbose, SteadySteps n extra (steps verbose) (steps' verbose)) (verbose : Bool) :
    Steady n extra (closedBranches steps verbose) (closedBranches steps' verbose) := by
  intro source branches after hlength hread
  obtain ⟨read, between, hfirst, hread⟩ := bind_eq_some.mp hread
  obtain ⟨hshorter, hflags, hfirst'⟩ := hsteps verbose source read between hlength hfirst
  have hrest : Steady n extra
      (do let closed ← sourcematch ')'; check closed; ofOption (branchesOf false [] read))
      (do let closed ← sourcematch ')'; check closed; ofOption (branchesOf false [] read)) :=
    (steady_sourcematch hextra (by decide)).bind fun _ => (steady_check _).bind fun _ =>
      steady_ofOption _
  obtain ⟨hshorter', hflags', hread'⟩ :=
    hrest between branches after (Nat.le_trans hshorter hlength) hread
  obtain ⟨closed, behind, hclosed, hread⟩ := bind_eq_some.mp hread
  obtain ⟨_, last, hcheck, hbranches⟩ := bind_eq_some.mp hread
  have hne : between.rest ≠ [] := by
    intro hnil
    simp only [sourcematch, hnil, List.head?_nil, reduceCtorEq, if_false] at hclosed
    cases hclosed
    cases hcheck
  have hnone : read.flatMap Step.flags = [] := by
    obtain ⟨found, hfound, -⟩ := Option.map_eq_some_iff.mp hbranches
    exact flags_of_branchesOf (.inl rfl) hfound
  rw [hnone, List.append_nil] at hflags
  exact ⟨Nat.le_trans hshorter' hshorter, hflags'.trans hflags,
    bind_eq_some.mpr ⟨read, _, hfirst' (.inl hne), hread'⟩⟩

/-- By induction on the fuel; each step leaves a shorter text. -/
theorem steady_readSteps {extra : List Token} (hextra : IsEnding extra) {n fuel' : Nat}
    (hfuel : n < fuel') : SteadySteps n extra (readSteps database fuel verbose)
      (readSteps database fuel' verbose) := by
  induction fuel generalizing n fuel' verbose with
  | zero =>
      intro source steps after hlength hread
      cases hread
  | succ fuel ih =>
      rintro ⟨state, rest⟩ steps after hlength hread
      obtain ⟨fuel', rfl⟩ := Nat.exists_eq_add_of_lt hfuel
      cases rest with
      | nil =>
          cases hread
          refine ⟨Nat.le_refl _, by simp, ?_⟩
          rintro (hne | rfl)
          · exact absurd rfl hne
          · rfl
      | cons this rest =>
          obtain ⟨n, rfl⟩ := Nat.exists_eq_add_of_le' (Nat.le_trans (Nat.le_add_left 1 _) hlength)
          have hrest : rest.length ≤ n := Nat.le_of_succ_le_succ hlength
          have hsteady : ∀ verbose, SteadySteps n extra (readSteps database fuel verbose)
              (readSteps database (n + 1 + fuel') verbose) :=
            fun verbose => ih (by omega)
          have happend : (⟨state, this :: rest⟩ : Source).extend extra =
            ⟨state, this :: (rest ++ extra)⟩ := rfl
          rw [happend]
          cases readSteps_cons.mp hread with
          | close => exact ⟨Nat.le_refl _, by simp, fun _ => readSteps_cons.mpr .close⟩
          | bar hmore =>
              obtain ⟨hshorter, hflags, hmore'⟩ := hsteady verbose ⟨state, rest⟩ _ _ hrest hmore
              exact ⟨Nat.le_succ_of_le hshorter, hflags,
                fun hstop => readSteps_cons.mpr (.bar (hmore' hstop))⟩
          | blank hverbose hblank hmore =>
              obtain ⟨hshorter, hflags, hmore'⟩ := hsteady verbose ⟨state, rest⟩ _ _ hrest hmore
              exact ⟨Nat.le_succ_of_le hshorter, hflags,
                fun hstop => readSteps_cons.mpr (.blank hverbose hblank (hmore' hstop))⟩
          | comment hverbose hmore =>
              have hline := dropLine_length rest
              obtain ⟨hshorter, hflags, hmore'⟩ :=
                hsteady verbose ⟨state, dropLine rest⟩ _ _ (Nat.le_trans hline hrest) hmore
              refine ⟨Nat.le_succ_of_le (Nat.le_trans hshorter hline), hflags, fun hstop => ?_⟩
              refine readSteps_cons.mpr (.comment hverbose ?_)
              rcases dropLine_append hextra rest with hsame | ⟨hnil, -⟩
              · rw [hsame]
                exact hmore' hstop
              · -- the comment takes in all of the text, and nothing may follow
                have hend : after.rest = [] := by
                  rw [hnil] at hshorter
                  exact List.eq_nil_of_length_eq_zero (Nat.le_zero.mp hshorter)
                have hextra : extra = [] := hstop.resolve_left (not_not_intro hend)
                have hsame := hmore' hstop
                rw [hextra, Source.extend_nil, Source.extend_nil] at hsame
                rw [hextra, Source.extend_nil, List.append_nil]
                exact hsame
          | item hitem hstep hmore =>
              have hbranches := SteadySteps.closedBranches hextra hsteady
              obtain ⟨hshorter, hflags, hstep'⟩ := steady_parseItem hextra database hbranches
                verbose this ⟨state, rest⟩ _ _ hrest hstep
              obtain ⟨hshorter', hflags', hmore'⟩ := hsteady _ (Source.noteFlags _ _) _ _
                (Nat.le_trans hshorter hrest) hmore
              refine ⟨Nat.le_succ_of_le (Nat.le_trans hshorter' hshorter), ?_,
                fun hstop => readSteps_cons.mpr (.item hitem hstep' (hmore' hstop))⟩
              rw [hflags', List.flatMap_cons, ← List.append_assoc, ← hflags]
              rfl

/-- More fuel than tokens makes no difference. -/
theorem readSteps_fuel {fuel' : Nat} {source : Source} (hfuel : source.rest.length < fuel)
    (hfuel' : source.rest.length < fuel') :
    readSteps database fuel verbose source = readSteps database fuel' verbose source := by
  have hsteady : ∀ {fuel fuel' : Nat}, source.rest.length < fuel' → ∀ read,
      readSteps database fuel verbose source = some read →
        readSteps database fuel' verbose source = some read := by
    rintro fuel fuel' hfuel' ⟨steps, after⟩ hread
    have hsame := (steady_readSteps (.inl rfl) hfuel' source steps after (Nat.le_refl _) hread).2.2
      (.inr rfl)
    rwa [Source.extend_nil, Source.extend_nil] at hsame
  exact Option.ext fun read => ⟨hsteady hfuel' read, hsteady hfuel read⟩

theorem isItem_dollar (verbose : Bool) : IsItem verbose (.char '$') := by
  refine ⟨by decide, by decide, ?_, ?_⟩
  · rintro ⟨-, hblank⟩
    exact absurd hblank (by decide)
  · rintro ⟨-, hcomment⟩
    exact absurd hcomment (by decide)

theorem Source.noteFlags_eq_self {source : Source} {step : Step} (hflags : step.flags = []) :
    source.noteFlags step = source := by
  rw [Source.noteFlags, hflags, List.append_nil]

/-- At the end of a pattern one more anchor is read, unless a comment of the verbose mode
takes it in. -/
theorem readSteps_dollar {n fuel' : Nat} (hfuel : n + 1 < fuel') (source : Source)
    {after : Source} {steps : List Step} (hlength : source.rest.length ≤ n)
    (hverbose : verbose = true → .verbose ∈ source.state.flags)
    (hread : readSteps database fuel verbose source = some (steps, after))
    (hend : after.rest = []) :
    ∃ steps', readSteps database fuel' verbose (source.extend [.char '$']) =
        some (steps', after) ∧
      (steps' = steps ++ [.append (.at .ending)] ∨
        steps' = steps ∧ .verbose ∈ after.state.flags) := by
  induction fuel generalizing n fuel' verbose source steps with
  | zero => cases hread
  | succ fuel ih =>
      obtain ⟨state, rest⟩ := source
      obtain ⟨fuel', rfl⟩ := Nat.exists_eq_add_of_lt hfuel
      cases rest with
      | nil =>
          cases hread
          refine ⟨_, readSteps_cons.mpr (.item (isItem_dollar verbose) rfl ?_), .inl rfl⟩
          rw [Source.noteFlags_eq_self rfl, Nat.add_right_comm]
          rfl
      | cons this rest =>
          obtain ⟨n, rfl⟩ := Nat.exists_eq_add_of_le' (Nat.le_trans (Nat.le_add_left 1 _) hlength)
          have hrest : rest.length ≤ n := Nat.le_of_succ_le_succ hlength
          have hless : n + 1 < n + 1 + 1 + fuel' := by omega
          have happend : (⟨state, this :: rest⟩ : Source).extend [.char '$'] =
            ⟨state, this :: (rest ++ [.char '$'])⟩ := rfl
          rw [happend]
          cases readSteps_cons.mp hread with
          | close => cases hend
          | bar hmore =>
              obtain ⟨more', hmore', hsteps⟩ := ih hless ⟨state, rest⟩ hrest hverbose hmore
              refine ⟨.bar :: more', readSteps_cons.mpr (.bar hmore'), ?_⟩
              exact hsteps.imp (congrArg (Step.bar :: ·)) (And.imp_left (congrArg (Step.bar :: ·)))
          | blank hon hblank hmore =>
              obtain ⟨steps', hmore', hsteps⟩ := ih hless ⟨state, rest⟩ hrest hverbose hmore
              exact ⟨steps', readSteps_cons.mpr (.blank hon hblank hmore'), hsteps⟩
          | comment hon hmore =>
              rcases dropLine_append (.inr rfl) rest with hsame | ⟨hnil, hall⟩
              · obtain ⟨steps', hmore', hsteps⟩ := ih hless ⟨state, dropLine rest⟩
                  (Nat.le_trans (dropLine_length rest) hrest) hverbose hmore
                refine ⟨steps', readSteps_cons.mpr (.comment hon ?_), hsteps⟩
                rw [hsame]
                exact hmore'
              · rw [hnil] at hmore
                cases fuel with
                | zero => cases hmore
                | succ fuel =>
                    cases hmore
                    refine ⟨[], readSteps_cons.mpr (.comment hon ?_), .inr ⟨rfl, hverbose hon⟩⟩
                    rw [hall, Nat.add_right_comm]
                    rfl
          | @item _ _ step between more _ hitem hstep hmore =>
              have hsteady : ∀ verbose, SteadySteps n [.char '$'] (readSteps database fuel verbose)
                  (readSteps database (n + 1 + 1 + fuel') verbose) :=
                fun verbose => steady_readSteps (.inr rfl) (Nat.lt_of_succ_lt hless)
              have hbranches := SteadySteps.closedBranches (.inr rfl) hsteady
              obtain ⟨hshorter, hflags, hstep'⟩ := steady_parseItem (.inr rfl) database hbranches
                verbose this ⟨state, rest⟩ step between hrest hstep
              have hafter : verboseAfter verbose (between.noteFlags step) step = true →
                  .verbose ∈ (between.noteFlags step).state.flags := by
                rw [verboseAfter]
                split
                · next hnone =>
                    rw [Source.noteFlags_eq_self hnone, hflags]
                    exact hverbose
                · exact List.contains_iff_mem.mp
              obtain ⟨more', hmore', hsteps⟩ := ih hless (between.noteFlags step)
                (Nat.le_trans hshorter hrest) hafter hmore
              refine ⟨step :: more', readSteps_cons.mpr (.item hitem hstep' hmore'), ?_⟩
              exact hsteps.imp (congrArg (step :: ·)) (And.imp_left (congrArg (step :: ·)))

end Reading

section Anchors

variable {database : CharacterDatabase} {pattern : List Char} {compiled : Compiled}

theorem tokenize_caret (pattern : List Char) :
    tokenize ('^' :: pattern) = (tokenize pattern).map (.char '^' :: ·) := by
  cases pattern with
  | nil => rfl
  | cons c rest => rfl

theorem tokenize_dollar {tokens : List Token} (htokens : tokenize pattern = some tokens) :
    tokenize (pattern ++ ['$']) = some (tokens ++ [.char '$']) := by
  induction pattern using tokenize.induct generalizing tokens with
  | case1 =>
      cases htokens
      rfl
  | case2 => cases htokens
  | case3 c rest ih =>
      obtain ⟨more, hmore, rfl⟩ := Option.map_eq_some_iff.mp htokens
      exact Option.map_eq_some_iff.mpr ⟨_, ih hmore, rfl⟩
  | case4 c rest hlast hescape ih =>
      rw [tokenize] at htokens
      · obtain ⟨more, hmore, rfl⟩ := Option.map_eq_some_iff.mp htokens
        rw [List.cons_append, tokenize]
        · exact Option.map_eq_some_iff.mpr ⟨_, ih hmore, rfl⟩
        · rintro rfl hnil
          cases rest with
          | nil => exact hlast rfl rfl
          | cons d rest => cases hnil
        · rintro d more rfl heq
          cases rest with
          | nil => exact hlast rfl rfl
          | cons d rest => exact hescape d rest rfl rfl
      · exact hlast
      · exact hescape

/-- What `compile` does: the steps are read, put together and checked. -/
theorem compile_eq_some : compile database pattern = some compiled ↔
    ∃ tokens steps after, tokenize pattern = some tokens ∧
      readSteps database (tokens.length + 1) false ⟨.initial, tokens⟩ = some (steps, after) ∧
      branchesOf true [] steps = some compiled.branches ∧
      after.state.flags = compiled.flags ∧ after.rest = [] ∧
      compiled.isValid after.state = true := by
  constructor
  · intro hcompile
    obtain ⟨tokens, htokens, hcompile⟩ := Option.bind_eq_some_iff.mp hcompile
    obtain ⟨⟨steps, after⟩, hread, hcompile⟩ := Option.bind_eq_some_iff.mp hcompile
    obtain ⟨branches, hbranches, hcompile⟩ := Option.bind_eq_some_iff.mp hcompile
    obtain ⟨⟨hend, hvalid⟩, heq⟩ := Option.ite_none_right_eq_some.mp hcompile
    cases heq
    exact ⟨tokens, steps, after, htokens, hread, hbranches, rfl, hend, hvalid⟩
  · rintro ⟨tokens, steps, after, htokens, hread, hbranches, hflags, hend, hvalid⟩
    obtain ⟨flags, branches⟩ := compiled
    subst hflags
    refine Option.bind_eq_some_iff.mpr ⟨tokens, htokens, ?_⟩
    refine Option.bind_eq_some_iff.mpr ⟨(steps, after), hread, ?_⟩
    refine Option.bind_eq_some_iff.mpr ⟨branches, hbranches, ?_⟩
    exact if_pos ⟨hend, hvalid⟩

/-- A pattern between anchors. -/
def anchored (pattern : List Char) : List Char := '^' :: pattern ++ ['$']

theorem tokenize_anchored {tokens : List Token} (htokens : tokenize pattern = some tokens) :
    tokenize (anchored pattern) = some (.char '^' :: (tokens ++ [.char '$'])) := by
  rw [anchored, List.cons_append, tokenize_caret, tokenize_dollar htokens]
  rfl

theorem isItem_caret : IsItem false (.char '^') := by
  refine ⟨by decide, by decide, ?_, ?_⟩
  · rintro ⟨hfalse, -⟩
    cases hfalse
  · rintro ⟨hfalse, -⟩
    cases hfalse

/-- The steps of a valid pattern between anchors. -/
theorem readSteps_anchored {tokens : List Token} {steps : List Step} {after : Source}
    (hread : readSteps database (tokens.length + 1) false ⟨.initial, tokens⟩ =
      some (steps, after)) (hend : after.rest = []) :
    ∃ steps', readSteps database ((.char '^' :: (tokens ++ [.char '$'])).length + 1) false
        ⟨.initial, .char '^' :: (tokens ++ [.char '$'])⟩ =
          some (.append (.at .beginning) :: steps', after) ∧
      (steps' = steps ++ [.append (.at .ending)] ∨
        steps' = steps ∧ .verbose ∈ after.state.flags) := by
  have hless : tokens.length + 1 < tokens.length + 2 := Nat.lt_succ_self _
  obtain ⟨steps', hread', hsteps⟩ := readSteps_dollar hless ⟨.initial, tokens⟩ (Nat.le_refl _)
    (fun hfalse => Bool.noConfusion hfalse) hread hend
  refine ⟨steps', ?_, hsteps⟩
  rw [List.length_cons, List.length_append, List.length_singleton, readSteps_item isItem_caret]
  refine Option.bind_eq_some_iff.mpr ⟨(.append (.at .beginning), ⟨.initial, tokens ++ [.char '$']⟩),
    rfl, ?_⟩
  exact Option.map_eq_some_iff.mpr ⟨(steps', after), hread', rfl⟩

theorem flags_of_readSteps {tokens : List Token} {steps : List Step} {after : Source}
    (hread : readSteps database (tokens.length + 1) false ⟨.initial, tokens⟩ =
      some (steps, after)) : steps.flatMap Step.flags = after.state.flags := by
  have hflags := (steady_readSteps (.inl rfl) (Nat.lt_succ_self tokens.length)
    ⟨.initial, tokens⟩ steps after (Nat.le_refl _) hread).2.1
  exact hflags.symm

theorem compile_anchored (hcompile : compile database pattern = some compiled)
    (hflags : compiled.flags = []) : compile database (anchored pattern) =
      some ⟨[], frontOf (.at .beginning) (behindOf (.at .ending) compiled.branches)⟩ := by
  obtain ⟨tokens, steps, after, htokens, hread, hbranches, hsame, hend, hvalid⟩ :=
    compile_eq_some.mp hcompile
  obtain ⟨steps', hread', hsteps⟩ := readSteps_anchored hread hend
  have hnone : after.state.flags = [] := hsame.trans hflags
  have hsteps : steps' = steps ++ [.append (.at .ending)] := by
    rcases hsteps with hsteps | ⟨-, hverbose⟩
    · exact hsteps
    · rw [hnone] at hverbose
      cases hverbose
  have hplain : steps'.flatMap Step.flags = [] := by
    rw [hsteps, List.flatMap_append, flags_of_readSteps hread, hnone]
    rfl
  refine compile_eq_some.mpr ⟨_, _, after, tokenize_anchored htokens, hread', ?_, hnone, hend, ?_⟩
  · rw [branchesOf, Step.apply]
    · rw [hsteps] at hplain ⊢
      exact branchesOf_front .beginning hplain (branchesOf_behind (.at .ending) hbranches)
    · exact nofun
  · simp only [Compiled.isValid, hflags, List.contains_nil, Bool.false_and, Bool.not_false,
      Bool.and_true] at hvalid ⊢
    exact hvalid

/-- Behind an anchor global flags are an error. -/
theorem compile_anchored_none (hcompile : compile database pattern = some compiled)
    (hflags : compiled.flags ≠ []) : compile database (anchored pattern) = none := by
  obtain ⟨tokens, steps, after, htokens, hread, hbranches, hsame, hend, hvalid⟩ :=
    compile_eq_some.mp hcompile
  obtain ⟨steps', hread', hsteps⟩ := readSteps_anchored hread hend
  have hplain : steps'.flatMap Step.flags = compiled.flags := by
    rw [← hsame, ← flags_of_readSteps hread]
    rcases hsteps with rfl | ⟨rfl, -⟩
    · rw [List.flatMap_append]
      exact List.append_nil _
    · rfl
  refine Option.eq_none_iff_forall_ne_some.mpr fun found hfound => hflags ?_
  obtain ⟨_, _, _, htokens', hread'', hfront, -⟩ := compile_eq_some.mp hfound
  rw [tokenize_anchored htokens] at htokens'
  cases htokens'
  rw [hread'] at hread''
  cases hread''
  rw [branchesOf, Step.apply] at hfront
  · rw [← hplain]
    exact flags_of_branchesOf (.inr (List.cons_ne_nil _ _)) hfront
  · exact nofun

end Anchors

section Matching

variable {database : CharacterDatabase} {text : List Char} {flags : List Flag}

theorem results_seqOf_concat (items : List Pattern) (last : Pattern) (state : MatchState) :
    results database text (seqOf (items ++ [last])) flags state =
      (results database text (seqOf items) flags state).flatMap
        (results database text last flags) := by
  induction items generalizing state with
  | nil =>
      rw [List.nil_append, seqOf, List.foldr_cons, List.foldr_nil, results, seqOf,
        List.foldr_nil, results, List.flatMap_singleton]
      have hempty : ∀ state, results database text .empty flags state = [state] := fun _ => rfl
      exact (List.flatMap_congr fun state _ => hempty state).trans (List.flatMap_singleton' _)
  | cons item items ih =>
      have hseq : ∀ items, seqOf (item :: items) = .seq item (seqOf items) := fun _ => rfl
      rw [List.cons_append, hseq, hseq, results, results, List.flatMap_assoc]
      exact List.flatMap_congr fun inner _ => ih inner

theorem branchResults_front (items : List Pattern) :
    branchResults database text flags (.at .beginning :: items) =
      branchResults database text flags items := by
  have hseq : seqOf (.at .beginning :: items) = .seq (.at .beginning) (seqOf items) := rfl
  rw [branchResults, hseq, results, results, AtCode.holds]
  simp [start, branchResults]

theorem branchResults_behind (items : List Pattern) :
    branchResults database text flags (items ++ [.at .ending]) =
      (branchResults database text flags items).filter fun state => atEnd text flags state.ptr := by
  rw [branchResults, results_seqOf_concat, ← branchResults]
  induction branchResults database text flags items with
  | nil => rfl
  | cons state states ih =>
      rw [List.flatMap_cons, ih, List.filter_cons, results, AtCode.holds]
      split
      · rfl
      · rfl

theorem atEnd_eq (hline : '\n' ∉ text) (place : Nat) :
    atEnd text flags place = decide (place = text.length) := by
  have hbreak : text[place]? ≠ some '\n' := fun hsome => hline (List.mem_of_getElem? hsome)
  simp [atEnd, hbreak]

theorem behind_ne_nil (hline : '\n' ∉ text) (items : List Pattern) :
    decide (branchResults database text flags (items ++ [.at .ending]) ≠ []) =
      (branchResults database text flags items).any fun state => state.ptr = text.length := by
  simp only [branchResults_behind, atEnd_eq hline]
  rw [Bool.eq_iff_iff, decide_eq_true_eq, List.any_eq_true, ne_eq, List.filter_eq_nil_iff]
  push Not
  rfl

/-- How a pattern between anchors reads a text: each branch but the last one as a beginning of
the text, and the last one as all of it. -/
def Compiled.matchesAnchored (database : CharacterDatabase) (text : List Char)
    (compiled : Compiled) : Bool :=
  (compiled.branches.dropLast.any fun items =>
      branchResults database text compiled.flags items ≠ []) ||
    (compiled.branches.getLast?).any fun items =>
      (branchResults database text compiled.flags items).any fun state =>
        state.ptr = text.length

theorem any_frontOf (branches : List (List Pattern)) (found : List MatchState → Bool) :
    (frontOf (.at .beginning) branches).any (fun items =>
        found (branchResults database text flags items)) =
      branches.any fun items => found (branchResults database text flags items) := by
  cases branches with
  | nil => rfl
  | cons first more => rw [frontOf, List.any_cons, List.any_cons, branchResults_front]

theorem any_behindOf {branches : List (List Pattern)} (hline : '\n' ∉ text) :
    (behindOf (.at .ending) branches).any (fun items =>
        branchResults database text flags items ≠ []) =
      (branches.dropLast.any (fun items => branchResults database text flags items ≠ []) ||
        (branches.getLast?).any fun items =>
          (branchResults database text flags items).any fun state =>
            state.ptr = text.length) := by
  induction branches using behindOf.induct with
  | case1 => rfl
  | case2 last =>
      rw [behindOf, List.any_cons, List.any_nil, Bool.or_false, behind_ne_nil hline]
      rfl
  | case3 branch following more ih =>
      rw [behindOf, List.any_cons, ih, List.dropLast_cons_cons, List.any_cons, Bool.or_assoc,
        List.getLast?_cons_cons]

/-- A valid pattern without global flags between anchors, in a text of one line. -/
theorem matches_anchored {pattern : List Char} {compiled : Compiled} (hline : '\n' ∉ text)
    (hcompile : compile database pattern = some compiled) (hflags : compiled.flags = []) :
    ∃ between, compile database (anchored pattern) = some between ∧
      between.matches database text = compiled.matchesAnchored database text := by
  refine ⟨_, compile_anchored hcompile hflags, ?_⟩
  rw [Compiled.matches, Compiled.matchesAnchored, hflags]
  have hfront := @any_frontOf database text [] (behindOf (.at .ending) compiled.branches)
    fun found => found ≠ []
  exact hfront.trans (any_behindOf hline)

/-- Between anchors no match of the whole text is lost; one is gained where a branch other than
the last one matches a beginning of the text and no branch all of it. -/
theorem matchesAnchored_eq_iff {compiled : Compiled} :
    compiled.matchesAnchored database text = compiled.fullmatches database text ↔
      ∀ items ∈ compiled.branches.dropLast,
        branchResults database text compiled.flags items ≠ [] →
          compiled.fullmatches database text = true := by
  rw [Compiled.matchesAnchored, Compiled.fullmatches]
  rcases List.eq_nil_or_concat compiled.branches with hnil | ⟨early, last, hbranches⟩
  · simp [hnil]
  · rw [hbranches, List.concat_eq_append, List.dropLast_concat, List.getLast?_concat,
      Option.any_some, List.any_append, List.any_cons, List.any_nil, Bool.or_false]
    generalize (branchResults database text compiled.flags last).any _ = whole
    constructor
    · intro heq items hitems hne
      rw [← heq, List.any_eq_true.mpr ⟨items, hitems, decide_eq_true hne⟩]
      rfl
    · intro hearly
      rw [Bool.eq_iff_iff]
      constructor
      · intro hread
        rcases (Bool.or_eq_true _ _).mp hread with hread | hread
        · obtain ⟨items, hitems, hne⟩ := List.any_eq_true.mp hread
          exact hearly items hitems (of_decide_eq_true hne)
        · exact (Bool.or_eq_true _ _).mpr (.inr hread)
      · intro hwhole
        rcases (Bool.or_eq_true _ _).mp hwhole with hwhole | hwhole
        · obtain ⟨items, hitems, hfull⟩ := List.any_eq_true.mp hwhole
          obtain ⟨state, hstate, -⟩ := List.any_eq_true.mp hfull
          refine (Bool.or_eq_true _ _).mpr (.inl (List.any_eq_true.mpr ⟨items, hitems, ?_⟩))
          exact decide_eq_true (List.ne_nil_of_mem hstate)
        · exact (Bool.or_eq_true _ _).mpr (.inr hwhole)

/-- A single branch is anchored on both sides. -/
theorem matchesAnchored_single {compiled : Compiled} {items : List Pattern}
    (hsingle : compiled.branches = [items]) :
    compiled.matchesAnchored database text = compiled.fullmatches database text := by
  rw [matchesAnchored_eq_iff, hsingle]
  exact nofun

end Matching

end PythonRe
