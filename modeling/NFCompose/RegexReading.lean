/-
Reading a part of a pattern.  What is read there does not depend on the text behind it, be it
the end of the pattern or one more anchor.
-/
import NFCompose.RegexParser

namespace PythonRe

section Steadiness

/-- What may follow a text that is read on its own: nothing, or the last anchor. -/
def IsEnding (extra : List Token) : Prop := extra = [] ∨ extra = [.char '$']

def Source.extend (source : Source) (extra : List Token) : Source :=
  { source with rest := source.rest ++ extra }

variable {α β : Type} {n : Nat} {extra : List Token}

/-- A reader that finds the same in a text of at most this length when more text follows.
It keeps the global flags. -/
def Steady (n : Nat) (extra : List Token) (reader reader' : Reader α) : Prop :=
  ∀ source a after, source.rest.length ≤ n → reader source = some (a, after) →
    after.rest.length ≤ source.rest.length ∧ after.state.flags = source.state.flags ∧
      reader' (source.extend extra) = some (a, after.extend extra)

theorem Source.extend_nil (source : Source) : source.extend [] = source := by
  rw [Source.extend, List.append_nil]

/-- Two readers that find what the other one finds are the same. -/
theorem Steady.eq {reader reader' : Reader α} {source : Source}
    (hreader : Steady source.rest.length [] reader reader')
    (hreader' : Steady source.rest.length [] reader' reader) : reader source = reader' source := by
  have hsome : ∀ {reader reader' : Reader α}, Steady source.rest.length [] reader reader' →
      ∀ read, reader source = some read → reader' source = some read := by
    rintro reader reader' hsteady ⟨a, after⟩ hread
    have hsame := (hsteady source a after (Nat.le_refl _) hread).2.2
    rwa [Source.extend_nil, Source.extend_nil] at hsame
  exact Option.ext fun read => ⟨hsome hreader read, hsome hreader' read⟩

theorem steady_pure (a : α) : Steady n extra (pure a : Reader α) (pure a) := by
  rintro source b after - hread
  cases hread
  exact ⟨Nat.le_refl _, rfl, rfl⟩

theorem steady_none (reader' : Reader α) : Steady n extra (fun _ => none) reader' := by
  rintro source a after - hread
  cases hread

theorem bind_eq_some {reader : Reader α} {following : α → Reader β} {source after : Source}
    {b : β} : (reader >>= following) source = some (b, after) ↔
      ∃ a between, reader source = some (a, between) ∧
        following a between = some (b, after) := by
  simp [bind, StateT.bind, Option.bind_eq_some_iff]

theorem Steady.bind {reader reader' : Reader α} {following following' : α → Reader β}
    (hreader : Steady n extra reader reader')
    (hfollowing : ∀ a, Steady n extra (following a) (following' a)) :
    Steady n extra (reader >>= following) (reader' >>= following') := by
  intro source b after hlength hread
  obtain ⟨a, between, hfirst, hsecond⟩ := bind_eq_some.mp hread
  obtain ⟨hshorter, hflags, hfirst'⟩ := hreader source a between hlength hfirst
  obtain ⟨hshorter', hflags', hsecond'⟩ :=
    hfollowing a between b after (Nat.le_trans hshorter hlength) hsecond
  exact ⟨Nat.le_trans hshorter' hshorter, hflags'.trans hflags,
    bind_eq_some.mpr ⟨a, _, hfirst', hsecond'⟩⟩

theorem Steady.map {reader reader' : Reader α} (change : α → β)
    (hreader : Steady n extra reader reader') :
    Steady n extra (change <$> reader) (change <$> reader') := by
  rw [← bind_pure_comp, ← bind_pure_comp]
  exact hreader.bind fun a => steady_pure _

theorem steady_check (condition : Bool) : Steady n extra (check condition) (check condition) := by
  rintro source a after - hread
  rw [check] at hread
  split at hread
  · next hcondition =>
      cases hread
      exact ⟨Nat.le_refl _, rfl, by rw [check, if_pos hcondition]⟩
  · cases hread

theorem steady_ofOption (value : Option α) :
    Steady n extra (ofOption value) (ofOption value) := by
  rintro source a after - hread
  obtain ⟨b, hvalue, heq⟩ := Option.map_eq_some_iff.mp hread
  cases heq
  exact ⟨Nat.le_refl _, rfl, by rw [ofOption, hvalue]; rfl⟩

theorem steady_getState : Steady n extra getState getState := by
  rintro source a after - hread
  cases hread
  exact ⟨Nat.le_refl _, rfl, rfl⟩

theorem steady_modifyState {change : State → State}
    (hflags : ∀ state, (change state).flags = state.flags) :
    Steady n extra (modifyState change) (modifyState change) := by
  rintro source a after - hread
  cases hread
  exact ⟨Nat.le_refl _, hflags _, rfl⟩

/-- A token that is read leaves a shorter text. -/
theorem steady_sourceget_bind {following following' : Token → Reader α}
    (hfollowing : ∀ token, Steady n extra (following token) (following' token)) :
    Steady (n + 1) extra (sourceget >>= following) (sourceget >>= following') := by
  intro source b after hlength hread
  obtain ⟨token, between, hfirst, hsecond⟩ := bind_eq_some.mp hread
  rw [sourceget] at hfirst
  split at hfirst
  · cases hfirst
  · next this rest hrest =>
      cases hfirst
      rw [hrest, List.length_cons] at hlength
      obtain ⟨hshorter, hflags, hsecond'⟩ :=
        hfollowing token { source with rest } b after (by simpa using hlength) hsecond
      refine ⟨by rw [hrest, List.length_cons]; exact Nat.le_succ_of_le hshorter, hflags,
        bind_eq_some.mpr ⟨token, _, ?_, hsecond'⟩⟩
      simp [sourceget, Source.extend, hrest]

theorem steady_sourceget : Steady n extra sourceget sourceget := by
  cases n with
  | zero =>
      rintro ⟨state, rest⟩ a after hlength hread
      have hnil : rest = [] := List.eq_nil_of_length_eq_zero (Nat.le_zero.mp hlength)
      subst hnil
      cases hread
  | succ n =>
      have hbind : Steady (n + 1) extra (sourceget >>= pure) (sourceget >>= pure) :=
        steady_sourceget_bind fun token => steady_pure token
      rwa [bind_pure] at hbind

theorem steady_sourcematch (hextra : IsEnding extra) {c : Char} (hc : c ≠ '$') :
    Steady n extra (sourcematch c) (sourcematch c) := by
  rintro ⟨state, rest⟩ a after - hread
  cases rest with
  | nil =>
      cases hread
      refine ⟨Nat.le_refl _, rfl, ?_⟩
      rcases hextra with rfl | rfl
      · rfl
      · simp [sourcematch, Source.extend, Ne.symm hc]
  | cons token rest =>
      by_cases htoken : token = .char c
      · have hread : some (true, (⟨state, rest⟩ : Source)) = some (a, after) := by
          simpa [sourcematch, htoken] using hread
        cases hread
        refine ⟨Nat.le_succ _, rfl, ?_⟩
        simp [sourcematch, Source.extend, htoken]
      · have hread : some (false, (⟨state, token :: rest⟩ : Source)) = some (a, after) := by
          simpa [sourcematch, htoken] using hread
        cases hread
        refine ⟨Nat.le_refl _, rfl, ?_⟩
        simp [sourcematch, Source.extend, htoken]

theorem spanUpTo_append (hextra : IsEnding extra) {kind : Char → Bool} (hkind : kind '$' = false)
    (m : Nat) (tokens : List Token) :
    (spanUpTo kind m tokens).2.length ≤ tokens.length ∧
      spanUpTo kind m (tokens ++ extra) =
        ((spanUpTo kind m tokens).1, (spanUpTo kind m tokens).2 ++ extra) := by
  induction m, tokens using spanUpTo.induct kind with
  | case1 m c rest hc ih =>
      rw [List.cons_append, spanUpTo, if_pos hc, spanUpTo, if_pos hc, ih.2]
      exact ⟨Nat.le_succ_of_le ih.1, rfl⟩
  | case2 m c rest hc =>
      rw [List.cons_append, spanUpTo, if_neg hc, spanUpTo, if_neg hc]
      exact ⟨Nat.le_refl _, rfl⟩
  | case3 m rest hother =>
      cases m with
      | zero => simp [spanUpTo]
      | succ m =>
          cases rest with
          | nil =>
              rcases hextra with rfl | rfl
              · simp [spanUpTo]
              · simp [spanUpTo, hkind]
          | cons token rest =>
              cases token with
              | char c => exact absurd rfl (hother m c rest rfl)
              | escape c => simp [spanUpTo]

theorem steady_getwhile (hextra : IsEnding extra) (m : Nat) {kind : Char → Bool}
    (hkind : kind '$' = false) : Steady n extra (getwhile m kind) (getwhile m kind) := by
  rintro source a after - hread
  cases hread
  obtain ⟨hlength, happend⟩ := spanUpTo_append hextra hkind m source.rest
  refine ⟨hlength, rfl, ?_⟩
  simp only [getwhile, Source.extend, happend]

theorem spanWhile_append (hextra : IsEnding extra) {kind : Char → Bool} (hkind : kind '$' = false)
    (tokens : List Token) :
    (spanWhile kind tokens).2.length ≤ tokens.length ∧
      spanWhile kind (tokens ++ extra) =
        ((spanWhile kind tokens).1, (spanWhile kind tokens).2 ++ extra) := by
  induction tokens using spanWhile.induct kind with
  | case1 c rest hc ih =>
      rw [List.cons_append, spanWhile, if_pos hc, spanWhile, if_pos hc, ih.2]
      exact ⟨Nat.le_succ_of_le ih.1, rfl⟩
  | case2 c rest hc =>
      rw [List.cons_append, spanWhile, if_neg hc, spanWhile, if_neg hc]
      exact ⟨Nat.le_refl _, rfl⟩
  | case3 rest hother =>
      cases rest with
      | nil =>
          rcases hextra with rfl | rfl
          · simp [spanWhile]
          · simp [spanWhile, hkind]
      | cons token rest =>
          cases token with
          | char c => exact absurd rfl (hother c rest)
          | escape c => simp [spanWhile]

theorem steady_getall (hextra : IsEnding extra) {kind : Char → Bool} (hkind : kind '$' = false) :
    Steady n extra (getall kind) (getall kind) := by
  rintro source a after - hread
  cases hread
  obtain ⟨hlength, happend⟩ := spanWhile_append hextra hkind source.rest
  refine ⟨hlength, rfl, ?_⟩
  simp only [getall, Source.extend, happend]

theorem spanUntil_append (extra : List Token) {terminator : Char} {tokens rest : List Token}
    {found : List Char}
    (hspan : spanUntil terminator tokens = some (found, rest)) :
    rest.length ≤ tokens.length ∧
      spanUntil terminator (tokens ++ extra) = some (found, rest ++ extra) := by
  induction tokens generalizing found with
  | nil => cases hspan
  | cons token tokens ih =>
      rw [List.cons_append]
      rw [spanUntil] at hspan ⊢
      split at hspan
      · next htoken =>
          cases hspan
          exact ⟨Nat.le_succ _, if_pos htoken⟩
      · next htoken =>
          obtain ⟨inner, hinner, heq⟩ := Option.map_eq_some_iff.mp hspan
          cases heq
          obtain ⟨hlength, happend⟩ := ih hinner
          exact ⟨Nat.le_succ_of_le hlength, by rw [if_neg htoken, happend]; rfl⟩

/-- A reader that only takes tokens from the front of the text. -/
theorem Steady.ofSpan {span : List Token → Option (α × List Token)}
    (hspan : ∀ {tokens rest found}, span tokens = some (found, rest) →
      rest.length ≤ tokens.length ∧ span (tokens ++ extra) = some (found, rest ++ extra)) :
    let reader : Reader α := fun source =>
      (span source.rest).map fun found => (found.1, { source with rest := found.2 })
    Steady n extra reader reader := by
  rintro reader source a after - hread
  obtain ⟨found, hfound, heq⟩ := Option.map_eq_some_iff.mp hread
  cases heq
  obtain ⟨hlength, happend⟩ := hspan hfound
  exact ⟨hlength, rfl, by simp only [reader, Source.extend, happend]; rfl⟩

theorem steady_skipUntil (terminator : Char) :
    Steady n extra (skipUntil terminator) (skipUntil terminator) :=
  Steady.ofSpan (spanUntil_append extra)

theorem steady_getuntil (terminator : Char) :
    Steady n extra (getuntil terminator) (getuntil terminator) :=
  (steady_skipUntil terminator).bind fun _ => (steady_check _).bind fun _ => steady_pure _

theorem flagRun_append (extra : List Token) {stops : List Char} {tokens rest : List Token}
    {found : List Flag × Char}
    (hrun : flagRun stops tokens = some (found, rest)) :
    rest.length ≤ tokens.length ∧
      flagRun stops (tokens ++ extra) = some (found, rest ++ extra) := by
  induction tokens using flagRun.induct stops generalizing found with
  | case1 c tokens hc =>
      rw [flagRun, if_pos hc] at hrun
      cases hrun
      rw [List.cons_append, flagRun, if_pos hc]
      exact ⟨Nat.le_succ _, rfl⟩
  | case2 c tokens hc ih =>
      rw [flagRun, if_neg hc] at hrun
      obtain ⟨flag, hflag, hrun⟩ := Option.bind_eq_some_iff.mp hrun
      obtain ⟨⟨⟨more, stop⟩, between⟩, hmore, hrun⟩ := Option.bind_eq_some_iff.mp hrun
      cases hrun
      obtain ⟨hlength, happend⟩ := ih hmore
      rw [List.cons_append, flagRun, if_neg hc, hflag, happend]
      exact ⟨Nat.le_succ_of_le hlength, rfl⟩
  | case3 tokens hother =>
      rw [flagRun.eq_def] at hrun
      split at hrun
      · next c rest => exact absurd rfl (hother c rest)
      · cases hrun

theorem steady_readFlags (stops : List Char) :
    Steady n extra (readFlags stops) (readFlags stops) :=
  Steady.ofSpan (flagRun_append extra)

end Steadiness

section Readers

variable {n : Nat} {extra : List Token} (hextra : IsEnding extra) (database : CharacterDatabase)
include hextra

theorem steady_hexEscape (digits : Nat) :
    Steady n extra (hexEscape digits) (hexEscape digits) :=
  (steady_getwhile hextra digits (by decide)).bind fun _ =>
    (steady_check _).bind fun _ => steady_pure _

theorem steady_codeEscape (c : Char) :
    Steady n extra (codeEscape database c) (codeEscape database c) := by
  rw [codeEscape.eq_def]
  split
  · exact steady_hexEscape hextra 2
  · exact steady_hexEscape hextra 4
  · exact (steady_hexEscape hextra 8).bind fun _ => (steady_check _).bind fun _ => steady_pure _
  · exact (steady_sourcematch hextra (by decide)).bind fun _ => (steady_check _).bind fun _ =>
      (steady_getuntil '}').bind fun _ => steady_ofOption _
  · exact (steady_check _).bind fun _ => steady_pure _

theorem steady_classEscape (c : Char) :
    Steady n extra (classEscape database c) (classEscape database c) := by
  rw [classEscape]
  split
  · exact steady_pure _
  · exact steady_pure _
  · split
    · exact (steady_getwhile hextra 2 (by decide)).bind fun _ =>
        (steady_check _).bind fun _ => steady_pure _
    · exact (steady_check _).bind fun _ =>
        (steady_codeEscape hextra database c).bind fun _ => steady_pure _

omit hextra in
theorem steady_groupNumber (group : Nat) :
    Steady n extra (groupNumber group) (groupNumber group) :=
  steady_getState.bind fun _ => (steady_check _).bind fun _ => steady_pure _

theorem steady_digitEscape (c : Char) : Steady n extra (digitEscape c) (digitEscape c) := by
  refine (steady_getwhile hextra 1 (by decide)).bind fun second => ?_
  refine (steady_getwhile hextra _ (by decide)).bind fun third => ?_
  split
  · exact steady_groupNumber _
  · exact (steady_check _).bind fun _ => steady_pure _

theorem steady_escape (c : Char) :
    Steady n extra (escape database c) (escape database c) := by
  rw [escape]
  split
  · exact steady_pure _
  · exact steady_pure _
  · exact steady_pure _
  · split
    · exact (steady_getwhile hextra 2 (by decide)).bind fun _ => steady_pure _
    · split
      · exact steady_digitEscape hextra c
      · exact (steady_codeEscape hextra database c).bind fun _ => steady_pure _

theorem steady_setItem (token : Token) :
    Steady n extra (setItem database token) (setItem database token) := by
  cases token with
  | escape c => exact steady_classEscape hextra database c
  | char c => exact steady_pure _

/-- By induction on the length of the text, which is enough fuel for a set. -/
theorem steady_setItems (fuel fuel' : Nat) (hfuel : n ≤ fuel') (items : List SetItem) :
    Steady n extra (setItems database fuel items) (setItems database fuel' items) := by
  induction n generalizing fuel fuel' items with
  | zero =>
      rintro ⟨state, rest⟩ a after hlength hread
      have hnil : rest = [] := List.eq_nil_of_length_eq_zero (Nat.le_zero.mp hlength)
      subst hnil
      cases fuel with
      | zero => cases hread
      | succ fuel => cases hread
  | succ n ih =>
      cases fuel with
      | zero => exact steady_none _
      | succ fuel =>
          obtain ⟨fuel', rfl⟩ := Nat.exists_eq_add_of_le' hfuel
          rw [← Nat.add_assoc, setItems, setItems]
          refine steady_sourceget_bind fun this => ?_
          have hmore := fun items => ih fuel (fuel' + n) (Nat.le_add_left n fuel') items
          split
          · exact steady_pure _
          · refine (steady_setItem hextra database this).bind fun item => ?_
            refine (steady_sourcematch hextra (by decide)).bind fun dash => ?_
            split
            · refine steady_sourceget.bind fun that => ?_
              split
              · exact steady_pure _
              · refine (steady_setItem hextra database that).bind fun last => ?_
                exact (steady_ofOption _).bind fun range => hmore _
            · exact hmore _

omit hextra in
/-- As much fuel as there are tokens is enough for a set. -/
theorem setItems_fuel {fuel fuel' : Nat} {source : Source} (hfuel : source.rest.length ≤ fuel)
    (hfuel' : source.rest.length ≤ fuel') (items : List SetItem) :
    setItems database fuel items source = setItems database fuel' items source :=
  Steady.eq (steady_setItems (.inl rfl) database fuel fuel' hfuel' items)
    (steady_setItems (.inl rfl) database fuel' fuel hfuel items)

theorem steady_characterSet :
    Steady n extra (characterSet database) (characterSet database) := by
  refine (steady_sourcematch hextra (by decide)).bind fun negated => ?_
  refine Steady.bind ?_ fun items => steady_pure _
  intro source items after hlength hread
  have hitems := steady_setItems (n := source.rest.length) hextra database
    (source.rest.length + 1) ((source.extend extra).rest.length + 1)
    (by simp [Source.extend, Nat.add_assoc]) []
  exact hitems source items after (Nat.le_refl _) hread

theorem steady_bounds : Steady n extra bounds bounds := by
  refine (steady_getall hextra (by decide)).bind fun lo => ?_
  refine (steady_sourcematch hextra (by decide)).bind fun comma => ?_
  split
  · exact (steady_getall hextra (by decide)).bind fun hi =>
      (steady_sourcematch hextra (by decide)).bind fun closed => steady_pure _
  · exact (steady_sourcematch hextra (by decide)).bind fun closed => steady_pure _

theorem steady_tryBounds : Steady n extra tryBounds tryBounds := by
  intro source a after hlength hread
  obtain ⟨⟨found, between⟩, hbounds, heq⟩ := Option.map_eq_some_iff.mp hread
  cases heq
  obtain ⟨hshorter, hflags, hbounds'⟩ :=
    steady_bounds hextra source found between hlength hbounds
  cases found with
  | none => exact ⟨Nat.le_refl _, rfl, by rw [tryBounds, hbounds']; rfl⟩
  | some found => exact ⟨hshorter, hflags, by rw [tryBounds, hbounds']; rfl⟩

theorem steady_repeatKind : Steady n extra repeatKind repeatKind := by
  refine (steady_sourcematch hextra (by decide)).bind fun question => ?_
  split
  · exact steady_pure _
  · exact (steady_sourcematch hextra (by decide)).bind fun plus => steady_pure _

theorem steady_repetition (c : Char) : Steady n extra (repetition c) (repetition c) := by
  rw [repetition.eq_def]
  split
  · exact (steady_repeatKind hextra).bind fun _ => steady_pure _
  · exact (steady_repeatKind hextra).bind fun _ => steady_pure _
  · exact (steady_repeatKind hextra).bind fun _ => steady_pure _
  · refine (steady_tryBounds hextra).bind fun found => ?_
    split
    · exact steady_pure _
    · exact (steady_check _).bind fun _ => (steady_check _).bind fun _ =>
        (steady_repeatKind hextra).bind fun _ => steady_pure _

omit hextra in
theorem steady_parseFlags (first : Option Flag) :
    Steady n extra (parseFlags first) (parseFlags first) := by
  have hadded : Steady n extra (addedFlags first) (addedFlags first) := by
    cases first with
    | none => exact steady_pure _
    | some flag => exact steady_readFlags _
  refine hadded.bind fun added => (steady_check _).bind fun _ => ?_
  split
  · exact steady_pure _
  · refine (steady_check _).bind fun _ => Steady.bind ?_ fun delFlags =>
      (steady_check _).bind fun _ => steady_pure _
    rw [removedFlags]
    split
    · exact (steady_readFlags _).bind fun _ => (steady_check _).bind fun _ => steady_pure _
    · exact steady_pure _

section Groups

variable {branches branches' : Bool → Reader (List (List Pattern))}
variable (hbranches : ∀ verbose, Steady n extra (branches verbose) (branches' verbose))
include hbranches

omit hextra in
theorem steady_capture (verbose : Bool) (name : Option (List Char)) :
    Steady n extra (capture branches verbose name) (capture branches' verbose name) := by
  refine steady_getState.bind fun state => (steady_check _).bind fun _ =>
    (steady_check _).bind fun _ => ?_
  refine Steady.bind (steady_modifyState fun _ => rfl) fun _ => ?_
  refine ((hbranches verbose).map branchOf).bind fun pattern => ?_
  exact Steady.bind (steady_modifyState fun _ => rfl) fun _ => steady_pure _

omit hextra in
theorem steady_flagged (verbose : Bool) (first : Option Flag) :
    Steady n extra (flagged branches verbose first) (flagged branches' verbose first) := by
  refine (steady_parseFlags first).bind fun read => ?_
  split
  · exact steady_pure _
  · exact ((hbranches _).map branchOf).bind fun _ => steady_pure _

omit hextra in
theorem steady_lookahead (verbose negated : Bool) :
    Steady n extra (lookahead branches verbose negated) (lookahead branches' verbose negated) :=
  ((hbranches verbose).map branchOf).bind fun _ => steady_pure _

omit hextra in
theorem steady_lookbehind (verbose negated : Bool) :
    Steady n extra (lookbehind branches verbose negated)
      (lookbehind branches' verbose negated) := by
  refine steady_getState.bind fun state => ?_
  refine Steady.bind (steady_modifyState fun _ => rfl) fun _ => ?_
  refine ((hbranches verbose).map branchOf).bind fun pattern => ?_
  refine Steady.bind (steady_modifyState fun _ => rfl) fun _ => ?_
  exact steady_getState.bind fun after => (steady_check _).bind fun _ => steady_pure _

omit hextra in
theorem steady_condition (verbose : Bool) :
    Steady n extra (condition database branches verbose)
      (condition database branches' verbose) := by
  refine (steady_getuntil ')').bind fun condname => ?_
  have hgroup : Steady n extra (conditionGroup database condname)
      (conditionGroup database condname) := by
    refine steady_getState.bind fun state => ?_
    split
    · exact steady_ofOption _
    · refine (steady_ofOption _).bind fun group => (steady_check _).bind fun _ => ?_
      exact Steady.bind (steady_modifyState fun _ => rfl) fun _ => steady_pure _
  refine hgroup.bind fun group => steady_getState.bind fun state =>
    (steady_check _).bind fun _ => (hbranches verbose).bind fun read => ?_
  split
  · exact steady_pure _
  · exact steady_pure _
  · exact steady_none _

theorem steady_namedGroup (verbose : Bool) :
    Steady n extra (namedGroup database branches verbose)
      (namedGroup database branches' verbose) := by
  refine (steady_sourcematch hextra (by decide)).bind fun opened => ?_
  split
  · exact (steady_getuntil '>').bind fun _ => (steady_check _).bind fun _ =>
      steady_capture hbranches verbose _
  · exact (steady_sourcematch hextra (by decide)).bind fun _ => (steady_check _).bind fun _ =>
      (steady_getuntil ')').bind fun _ => (steady_check _).bind fun _ =>
        steady_getState.bind fun _ => (steady_ofOption _).bind fun _ =>
          (steady_groupNumber _).bind fun _ => steady_pure _

theorem steady_extension (verbose : Bool) (token : Token) :
    Steady n extra (extension database branches verbose token)
      (extension database branches' verbose token) := by
  rw [extension.eq_def, extension.eq_def]
  split
  · exact steady_namedGroup hextra database hbranches verbose
  · exact ((hbranches verbose).map branchOf).bind fun _ => steady_pure _
  · exact (steady_skipUntil ')').bind fun _ => steady_pure _
  · exact steady_lookahead hbranches verbose false
  · exact steady_lookahead hbranches verbose true
  · refine steady_sourceget.bind fun this => ?_
    split
    · exact steady_lookbehind hbranches verbose false
    · exact (steady_check _).bind fun _ => steady_lookbehind hbranches verbose true
  · exact steady_condition database hbranches verbose
  · exact ((hbranches verbose).map branchOf).bind fun _ => steady_pure _
  · exact steady_flagged hbranches verbose none
  · exact (steady_ofOption _).bind fun flag => steady_flagged hbranches verbose (some flag)
  · exact steady_none _

theorem steady_group (verbose : Bool) :
    Steady n extra (group database branches verbose) (group database branches' verbose) := by
  refine (steady_sourcematch hextra (by decide)).bind fun question => ?_
  split
  · exact steady_sourceget.bind fun this => steady_extension hextra database hbranches verbose this
  · exact steady_capture hbranches verbose none

theorem steady_parseItem (verbose : Bool) (token : Token) :
    Steady n extra (parseItem database branches verbose token)
      (parseItem database branches' verbose token) := by
  rw [parseItem.eq_def, parseItem.eq_def]
  split
  · exact (steady_escape hextra database _).map _
  · exact (steady_characterSet hextra database).map _
  · exact steady_group hextra database hbranches verbose
  · exact steady_pure _
  · exact steady_pure _
  · exact steady_pure _
  · split
    · exact steady_repetition hextra _
    · exact steady_pure _

end Groups

end Readers

end PythonRe
