/-
Programs with a state that failures keep, and the events on their way.  A program keeps
an invariant up to its first event; from there on it may be stuck, or something may be
changed for good.
-/
import Mathlib.Data.List.Basic

namespace EffectRules

universe u

variable {E S A B V : Type u}

/-- The state in which a program ends, with a result or with a failure. -/
def finalState (action : EStateM E S A) (state : S) : S :=
  match action.run state with
  | .ok _ after => after
  | .error _ after => after

theorem finalState_ok {action : EStateM E S A} {state after : S} {value : A}
    (hrun : action.run state = .ok value after) : finalState action state = after := by
  rw [finalState, hrun]

theorem finalState_error {action : EStateM E S A} {state after : S} {error : E}
    (hrun : action.run state = .error error after) : finalState action state = after := by
  rw [finalState, hrun]

theorem run_bind_ok {action : EStateM E S A} {next : A → EStateM E S B} {state after : S}
    {value : A} (hrun : action.run state = .ok value after) :
    (action >>= next).run state = (next value).run after := by
  rw [EStateM.run] at hrun
  simp only [bind, EStateM.bind, EStateM.run, hrun]

theorem run_bind_error {action : EStateM E S A} {next : A → EStateM E S B} {state after : S}
    {error : E} (hrun : action.run state = .error error after) :
    (action >>= next).run state = .error error after := by
  rw [EStateM.run] at hrun
  simp only [bind, EStateM.bind, EStateM.run, hrun]

section Rules

variable {before after : S → Prop}

/-- What holds before a program makes something hold after it. -/
def Establishes (before after : S → Prop) (action : EStateM E S A) : Prop :=
  ∀ state, before state → after (finalState action state)

abbrev Preserves (inv : S → Prop) (action : EStateM E S A) : Prop := Establishes inv inv action

/-- A program fails, and keeps an invariant. -/
def Stops (inv : S → Prop) (action : EStateM E S A) : Prop :=
  ∀ state, inv state → ∃ error after, action.run state = .error error after ∧ inv after

/-- A program has a result, and keeps an invariant. -/
def Yields (inv : S → Prop) (action : EStateM E S A) : Prop :=
  ∀ state, inv state → ∃ value after, action.run state = .ok value after ∧ inv after

/-- All results that a program can have. -/
def Results (result : A → Prop) (action : EStateM E S A) : Prop :=
  ∀ state value after, action.run state = .ok value after → result value

theorem preserves_pure (value : A) : Preserves before (pure value : EStateM E S A) :=
  fun _ hinv => hinv

theorem yields_pure (value : A) : Yields before (pure value : EStateM E S A) :=
  fun state hinv => ⟨value, state, rfl, hinv⟩

theorem stops_throw (error : E) : Stops before (throw error : EStateM E S A) :=
  fun state hinv => ⟨error, state, rfl, hinv⟩

theorem results_pure {result : A → Prop} {value : A} (hvalue : result value) :
    Results result (pure value : EStateM E S A) := by
  intro state other last hrun
  cases hrun
  exact hvalue

theorem results_true (action : EStateM E S A) : Results (fun _ => True) action :=
  fun _ _ _ _ => trivial

theorem Stops.preserves {action : EStateM E S A} (hstops : Stops before action) :
    Preserves before action := by
  intro state hinv
  obtain ⟨error, last, hrun, hlast⟩ := hstops state hinv
  rw [finalState_error hrun]
  exact hlast

variable {action : EStateM E S A} {next : A → EStateM E S B} {result : A → Prop}

theorem Establishes.bind (haction : Establishes before after action)
    (hresults : Results result action)
    (hnext : ∀ value, result value → Preserves after (next value)) :
    Establishes before after (action >>= next) := by
  intro state hinv
  have hlast := haction state hinv
  cases hrun : action.run state with
  | ok value middle =>
      rw [finalState_ok hrun] at hlast
      rw [finalState, run_bind_ok hrun]
      exact hnext value (hresults state value middle hrun) middle hlast
  | error error middle =>
      rw [finalState_error hrun] at hlast
      rw [finalState_error (run_bind_error hrun)]
      exact hlast

theorem Yields.bind_establishes (hyields : Yields before action)
    (hresults : Results result action)
    (hnext : ∀ value, result value → Establishes before after (next value)) :
    Establishes before after (action >>= next) := by
  intro state hinv
  obtain ⟨value, middle, hrun, hmiddle⟩ := hyields state hinv
  rw [finalState, run_bind_ok hrun]
  exact hnext value (hresults state value middle hrun) middle hmiddle

theorem Yields.bind (hyields : Yields before action) (hresults : Results result action)
    (hnext : ∀ value, result value → Yields before (next value)) :
    Yields before (action >>= next) := by
  intro state hinv
  obtain ⟨value, middle, hrun, hmiddle⟩ := hyields state hinv
  obtain ⟨last, final, hlast, hfinal⟩ :=
    hnext value (hresults state value middle hrun) middle hmiddle
  exact ⟨last, final, (run_bind_ok hrun).trans hlast, hfinal⟩

theorem Stops.bind (hstops : Stops before action) : Stops before (action >>= next) := by
  intro state hinv
  obtain ⟨error, last, hrun, hlast⟩ := hstops state hinv
  exact ⟨error, last, run_bind_error hrun, hlast⟩

theorem Establishes.bind_stops (haction : Preserves before action)
    (hresults : Results result action)
    (hnext : ∀ value, result value → Stops before (next value)) :
    Stops before (action >>= next) := by
  intro state hinv
  have hlast := haction state hinv
  cases hrun : action.run state with
  | ok value middle =>
      rw [finalState_ok hrun] at hlast
      obtain ⟨error, final, hfinal, hinv⟩ :=
        hnext value (hresults state value middle hrun) middle hlast
      exact ⟨error, final, (run_bind_ok hrun).trans hfinal, hinv⟩
  | error error middle =>
      rw [finalState_error hrun] at hlast
      exact ⟨error, middle, run_bind_error hrun, hlast⟩

theorem Results.bind {last : B → Prop} (hresults : Results result action)
    (hnext : ∀ value, result value → Results last (next value)) :
    Results last (action >>= next) := by
  intro state value final hrun
  cases hfirst : action.run state with
  | ok middle between =>
      rw [run_bind_ok hfirst] at hrun
      exact hnext middle (hresults state middle between hfirst) between value final hrun
  | error error between =>
      rw [run_bind_error hfirst] at hrun
      cases hrun

end Rules

section Events

variable {inv changed : S → Prop} {stuck fits : V → Prop} {events more : List V}
  {result : A → Prop} {last : B → Prop}

/-- Without an event a program keeps the invariant.  When it is stuck at its first event
it fails, and keeps the invariant as well. -/
structure KeepsUntil (inv : S → Prop) (stuck : V → Prop) (events : List V) (result : A → Prop)
    (action : EStateM E S A) : Prop where
  preserves : events = [] → Preserves inv action
  stops : ∀ event ∈ events.head?, stuck event → Stops inv action
  results : Results result action

theorem KeepsUntil.bind {action : EStateM E S A} {next : A → EStateM E S B}
    (haction : KeepsUntil inv stuck events result action)
    (hnext : ∀ value, result value → KeepsUntil inv stuck more last (next value)) :
    KeepsUntil inv stuck (events ++ more) last (action >>= next) := by
  have hresults := haction.results.bind fun value hvalue => (hnext value hvalue).results
  cases events with
  | nil =>
      refine ⟨?_, ?_, hresults⟩
      · intro hnone
        exact (haction.preserves rfl).bind haction.results
          fun value hvalue => (hnext value hvalue).preserves hnone
      · intro event hevent hstuck
        exact (haction.preserves rfl).bind_stops haction.results
          fun value hvalue => (hnext value hvalue).stops event hevent hstuck
  | cons first rest =>
      refine ⟨nofun, ?_, hresults⟩
      intro event hevent hstuck
      cases hevent
      exact (haction.stops first rfl hstuck).bind

/-- At the end of a stuck run or of one without an event the invariant holds. -/
theorem KeepsUntil.keeps {action : EStateM E S A}
    (haction : KeepsUntil inv stuck events result action)
    (hstuck : ∀ event ∈ events.head?, stuck event) : Preserves inv action := by
  cases events with
  | nil => exact haction.preserves rfl
  | cons first rest => exact (haction.stops first rfl (hstuck first rfl)).preserves

/-- Without an event a program has a result and keeps the invariant.  Its first event,
when it fits, changes something, and what is changed stays so. -/
structure ReachesFirst (inv changed : S → Prop) (fits : V → Prop) (events : List V)
    (result : A → Prop) (action : EStateM E S A) : Prop where
  yields : events = [] → Yields inv action
  establishes : ∀ event ∈ events.head?, fits event → Establishes inv changed action
  preserves : Preserves changed action
  results : Results result action

theorem ReachesFirst.bind {action : EStateM E S A} {next : A → EStateM E S B}
    (haction : ReachesFirst inv changed fits events result action)
    (hnext : ∀ value, result value → ReachesFirst inv changed fits more last (next value)) :
    ReachesFirst inv changed fits (events ++ more) last (action >>= next) where
  yields := by
    intro hnone
    obtain ⟨hfirst, hmore⟩ := List.append_eq_nil_iff.mp hnone
    exact (haction.yields hfirst).bind haction.results
      fun value hvalue => (hnext value hvalue).yields hmore
  establishes := by
    intro event hevent hfits
    cases events with
    | nil =>
        exact (haction.yields rfl).bind_establishes haction.results
          fun value hvalue => (hnext value hvalue).establishes event hevent hfits
    | cons first rest =>
        cases hevent
        exact (haction.establishes _ rfl hfits).bind haction.results
          fun value hvalue => (hnext value hvalue).preserves
  preserves := haction.preserves.bind haction.results
    fun value hvalue => (hnext value hvalue).preserves
  results := haction.results.bind fun value hvalue => (hnext value hvalue).results

/-- What can be said of programs with their events and their results, and follows along
them. -/
structure EventLogic (E S V : Type u) where
  Holds : {A : Type u} → List V → (A → Prop) → EStateM E S A → Prop
  holds_pure : ∀ {A : Type u} {result : A → Prop} {value : A}, result value →
    Holds [] result (pure value)
  holds_bind : ∀ {A B : Type u} {events more : List V} {result : A → Prop} {last : B → Prop}
    {action : EStateM E S A} {next : A → EStateM E S B}, Holds events result action →
      (∀ value, result value → Holds more last (next value)) →
        Holds (events ++ more) last (action >>= next)

variable (E) in
def keepsUntil (inv : S → Prop) (stuck : V → Prop) : EventLogic E S V where
  Holds := KeepsUntil inv stuck
  holds_pure := fun hvalue => ⟨fun _ => preserves_pure _, nofun, results_pure hvalue⟩
  holds_bind := KeepsUntil.bind

variable (E) in
def reachesFirst (inv changed : S → Prop) (fits : V → Prop) : EventLogic E S V where
  Holds := ReachesFirst inv changed fits
  holds_pure := fun hvalue =>
    ⟨fun _ => yields_pure _, nofun, preserves_pure _, results_pure hvalue⟩
  holds_bind := ReachesFirst.bind

namespace EventLogic

variable (logic : EventLogic E S V)

theorem holds_forM {I : Type u} {items : List I} {eventsOf : I → List V}
    {action : I → EStateM E S PUnit}
    (hitems : ∀ item ∈ items, logic.Holds (eventsOf item) (fun _ => True) (action item)) :
    logic.Holds (items.flatMap eventsOf) (fun _ => True) (items.forM action) := by
  induction items with
  | nil => exact logic.holds_pure trivial
  | cons item items ih =>
      rw [List.forall_mem_cons] at hitems
      rw [List.flatMap_cons]
      exact logic.holds_bind hitems.1 fun _ _ => ih hitems.2

/-- A loop whose rounds have no events. -/
theorem holds_forM_nil {I : Type u} {items : List I} {action : I → EStateM E S PUnit}
    (hitems : ∀ item ∈ items, logic.Holds [] (fun _ => True) (action item)) :
    logic.Holds [] (fun _ => True) (items.forM action) := by
  have hloop := logic.holds_forM hitems
  rw [List.flatMap_eq_nil_iff.mpr fun _ _ => rfl] at hloop
  exact hloop

end EventLogic

end Events

end EffectRules
