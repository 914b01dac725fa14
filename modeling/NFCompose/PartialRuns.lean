/-
Runs whose steps may be refused: the first refusal ends the run.  When an
invariant decides every step by its action alone, a run is accepted exactly when
all of its actions are.
-/
import Mathlib.Data.Option.Basic
import Mathlib.Data.List.Basic

namespace PartialRuns

universe u v

variable {S : Type u} {A : Type v}

/-- The actions one after the other, as long as none is refused. -/
def attempt (step : S → A → Option S) (state : S) (actions : List A) : Option S :=
  actions.foldlM step state

@[simp] theorem attempt_nil (step : S → A → Option S) (state : S) :
    attempt step state [] = some state := rfl

theorem attempt_cons (step : S → A → Option S) (state : S) (action : A) (rest : List A) :
    attempt step state (action :: rest) =
      (step state action).bind fun next => attempt step next rest := rfl

/-- What follows an action that may fail is given its result. -/
theorem bind_eq_ok {E : Type u} {R T : Type v} {action : Except E R} {rest : R → Except E T}
    {value : T} (hbind : (action >>= rest) = .ok value) :
    ∃ first, action = .ok first ∧ rest first = .ok value := by
  cases action with
  | error error => cases hbind
  | ok first => exact ⟨first, rfl, hbind⟩

section Invariant

variable (step : S → A → Option S) (effect : S → A → S) (accepted : A → Prop)
  (inv : S → List A → Prop)

/-- The invariant speaks of the actions that are still to come. -/
theorem attempt_eq_some_iff
    (hstep : ∀ state action rest, inv state (action :: rest) → ∀ next,
      step state action = some next ↔ accepted action ∧ next = effect state action)
    (hnext : ∀ state action rest, inv state (action :: rest) → accepted action →
      inv (effect state action) rest)
    (actions : List A) (state : S) (hinv : inv state actions) (final : S) :
    attempt step state actions = some final ↔
      (∀ action ∈ actions, accepted action) ∧ final = actions.foldl effect state := by
  induction actions generalizing state with
  | nil => simp [eq_comm]
  | cons action rest ih =>
      rw [attempt_cons, Option.bind_eq_some_iff, List.forall_mem_cons, List.foldl_cons]
      constructor
      · rintro ⟨next, hstepped, hrest⟩
        obtain ⟨haccepted, rfl⟩ := (hstep state action rest hinv next).mp hstepped
        have hinv' := hnext state action rest hinv haccepted
        obtain ⟨hall, hfinal⟩ := (ih _ hinv').mp hrest
        exact ⟨⟨haccepted, hall⟩, hfinal⟩
      · rintro ⟨⟨haccepted, hall⟩, hfinal⟩
        have hinv' := hnext state action rest hinv haccepted
        exact ⟨effect state action, (hstep state action rest hinv _).mpr ⟨haccepted, rfl⟩,
          (ih _ hinv').mpr ⟨hall, hfinal⟩⟩

end Invariant

section Maps

variable {B : Type u} {C : Type u}

/-- A list of computations that all succeed. -/
theorem mapM_eq_some {f : B → Option C} {g : B → C} {items : List B}
    (heq : ∀ item ∈ items, f item = some (g item)) : items.mapM f = some (items.map g) := by
  induction items with
  | nil => rfl
  | cons item rest ih =>
      obtain ⟨hitem, hrest⟩ := List.forall_mem_cons.mp heq
      rw [List.mapM_cons, hitem, ih hrest]
      rfl

theorem isSome_of_mapM {f : B → Option C} {items : List B} (hsome : (items.mapM f).isSome) :
    ∀ item ∈ items, (f item).isSome := by
  induction items with
  | nil => simp
  | cons item rest ih =>
      rw [List.forall_mem_cons]
      simp only [List.mapM_cons, Option.pure_def, Option.bind_eq_bind,
        Option.isSome_iff_exists, Option.bind_eq_some_iff] at hsome ih ⊢
      obtain ⟨results, first, hfirst, others, hothers, -⟩ := hsome
      exact ⟨⟨first, hfirst⟩, ih ⟨others, hothers⟩⟩

theorem mapM_isSome {f : B → Option C} {items : List B} (hsome : ∀ item ∈ items, (f item).isSome) :
    (items.mapM f).isSome := by
  induction items with
  | nil => rfl
  | cons item rest ih =>
      obtain ⟨hitem, hrest⟩ := List.forall_mem_cons.mp hsome
      obtain ⟨result, hresult⟩ := Option.isSome_iff_exists.mp hitem
      obtain ⟨results, hresults⟩ := Option.isSome_iff_exists.mp (ih hrest)
      simp [List.mapM_cons, hresult, hresults]

/-- The results of computations that all succeed have what each of them has. -/
theorem exists_mapM {f : B → Option C} {p : C → Prop} {items : List B}
    (hitems : ∀ item ∈ items, ∃ result, f item = some result ∧ p result) :
    ∃ results, items.mapM f = some results ∧ ∀ result ∈ results, p result := by
  induction items with
  | nil => exact ⟨[], rfl, by simp⟩
  | cons item rest ih =>
      obtain ⟨⟨result, hresult, hp⟩, hrest⟩ := List.forall_mem_cons.mp hitems
      obtain ⟨results, hresults, hall⟩ := ih hrest
      refine ⟨result :: results, ?_, List.forall_mem_cons.mpr ⟨hp, hall⟩⟩
      rw [List.mapM_cons, hresult, hresults]
      rfl

end Maps

section Stages

variable {stage : A → Nat} {R : A → A → Prop}

/-- Actions that are listed stage by stage. -/
theorem pairwise_stages {parts : List (Nat × List A)}
    (hsorted : (parts.map Prod.fst).Pairwise (· < ·))
    (hstage : ∀ part ∈ parts, ∀ action ∈ part.2, stage action = part.1)
    (hpart : ∀ part ∈ parts, part.2.Pairwise R)
    (hlater : ∀ part ∈ parts, ∀ action ∈ part.2, ∀ part' ∈ parts, ∀ action' ∈ part'.2,
      stage action < stage action' → R action action') :
    (parts.flatMap Prod.snd).Pairwise R := by
  induction parts with
  | nil => exact List.Pairwise.nil
  | cons part rest ih =>
      rw [List.map_cons, List.pairwise_cons] at hsorted
      rw [List.flatMap_cons, List.pairwise_append]
      refine ⟨hpart part List.mem_cons_self, ?_, ?_⟩
      · exact ih hsorted.2 (fun other hother => hstage other (List.mem_cons_of_mem part hother))
          (fun other hother => hpart other (List.mem_cons_of_mem part hother))
          fun other hother action haction other' hother' => hlater other
            (List.mem_cons_of_mem part hother) action haction other'
            (List.mem_cons_of_mem part hother')
      · intro action haction action' haction'
        obtain ⟨other, hother, haction'⟩ := List.mem_flatMap.mp haction'
        have hother' := List.mem_cons_of_mem part hother
        apply hlater part List.mem_cons_self action haction other hother' action' haction'
        rw [hstage part List.mem_cons_self action haction, hstage other hother' action' haction']
        exact hsorted.1 _ (List.mem_map_of_mem hother)

end Stages

end PartialRuns
