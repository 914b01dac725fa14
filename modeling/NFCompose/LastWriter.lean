/-
Last writer wins.  Operations carry clocks of a linear order; the one with the
greatest clock prescribes the outcome, whatever the order of arrival.
-/
import Mathlib.Order.Lattice
import Mathlib.Data.List.Nodup
import NFCompose.Runs

namespace LastWriter

universe u v

variable {K : Type u} [LinearOrder K] {O : Type v}

/-- Keep the operation with the later clock; the first one stays on a tie. -/
def later (clock : O → K) (current : Option O) (op : O) : Option O :=
  match current with
  | none => some op
  | some kept => if clock kept < clock op then some op else some kept

/-- The operation that a last-writer-wins register holds after a run. -/
def latest (clock : O → K) (ops : List O) : Option O :=
  Runs.run (later clock) none ops

theorem later_of_lt {clock : O → K} {kept op : O}
    (hlt : clock kept < clock op) :
    later clock (some kept) op = some op := by
  simp [later, hlt]

theorem later_of_not_lt {clock : O → K} {kept op : O}
    (hlt : ¬ clock kept < clock op) :
    later clock (some kept) op = some kept := by
  simp [later, hlt]

/-- An operation later than the held one, if any is held, takes its place. -/
theorem later_of_forall_lt {clock : O → K} {current : Option O} {op : O}
    (hlt : ∀ kept ∈ current, clock kept < clock op) :
    later clock current op = some op := by
  cases current with
  | none => rfl
  | some kept => exact later_of_lt (hlt kept rfl)

theorem later_of_not_forall_lt {clock : O → K} {current : Option O} {op : O}
    (hlt : ¬ ∀ kept ∈ current, clock kept < clock op) :
    later clock current op = current := by
  cases current with
  | none => simp at hlt
  | some kept => exact later_of_not_lt (fun h => hlt (by simpa using h))

/-- From a kept operation, a run ends in that operation or in one of the run,
and no clock of the run exceeds the final one. -/
theorem run_later_some (clock : O → K) (kept : O) (ops : List O) :
    ∃ final, Runs.run (later clock) (some kept) ops = some final ∧
      (final = kept ∨ final ∈ ops) ∧
      clock kept ≤ clock final ∧ ∀ op ∈ ops, clock op ≤ clock final := by
  induction ops generalizing kept with
  | nil => exact ⟨kept, rfl, Or.inl rfl, le_refl _, by simp⟩
  | cons op rest ih =>
      by_cases hlt : clock kept < clock op
      · obtain ⟨final, hrun, hmem, hle, hall⟩ := ih op
        refine ⟨final, ?_, ?_, hlt.le.trans hle, ?_⟩
        · rwa [Runs.run_cons, later_of_lt hlt]
        · rcases hmem with rfl | hmem
          · exact Or.inr List.mem_cons_self
          · exact Or.inr (List.mem_cons_of_mem op hmem)
        · intro other hother
          rcases List.mem_cons.mp hother with rfl | hother
          · exact hle
          · exact hall other hother
      · obtain ⟨final, hrun, hmem, hle, hall⟩ := ih kept
        refine ⟨final, ?_, ?_, hle, ?_⟩
        · rwa [Runs.run_cons, later_of_not_lt hlt]
        · exact hmem.imp_right (List.mem_cons_of_mem op)
        · intro other hother
          rcases List.mem_cons.mp hother with rfl | hother
          · exact (not_lt.mp hlt).trans hle
          · exact hall other hother

theorem latest_eq_none_iff (clock : O → K) (ops : List O) :
    latest clock ops = none ↔ ops = [] := by
  cases ops with
  | nil => simp [latest]
  | cons op rest =>
      obtain ⟨final, hrun, -⟩ := run_later_some clock op rest
      simp [latest, later, hrun]

/-- The held operation is one of the run and has its greatest clock. -/
theorem latest_spec {clock : O → K} {ops : List O} {final : O}
    (hlatest : latest clock ops = some final) :
    final ∈ ops ∧ ∀ op ∈ ops, clock op ≤ clock final := by
  cases ops with
  | nil => simp [latest] at hlatest
  | cons op rest =>
      obtain ⟨final', hrun, hmem, hle, hall⟩ := run_later_some clock op rest
      have heq : final' = final := by
        simpa [latest, later, hrun] using hlatest
      subst heq
      refine ⟨?_, ?_⟩
      · rcases hmem with rfl | hmem
        · exact List.mem_cons_self
        · exact List.mem_cons_of_mem op hmem
      · intro other hother
        rcases List.mem_cons.mp hother with rfl | hother
        · exact hle
        · exact hall other hother

/-- An operation whose clock is above every other one is the one held. -/
theorem latest_eq_of_greatest {clock : O → K} {ops : List O} {greatest : O}
    (hmem : greatest ∈ ops)
    (hgreatest : ∀ op ∈ ops, op ≠ greatest → clock op < clock greatest) :
    latest clock ops = some greatest := by
  cases hlatest : latest clock ops with
  | none =>
      rw [(latest_eq_none_iff clock ops).mp hlatest] at hmem
      simp at hmem
  | some final =>
      obtain ⟨hfinal, hall⟩ := latest_spec hlatest
      by_cases heq : final = greatest
      · rw [heq]
      · exact absurd (hall greatest hmem)
          (not_le.mpr (hgreatest final hfinal heq))

omit [LinearOrder K] in
/-- Two operations of a list with distinct clocks are equal when their clocks
are. -/
theorem eq_of_clock_eq {clock : O → K} {ops : List O}
    (hdistinct : ops.Pairwise fun a b => clock a ≠ clock b) {a b : O}
    (ha : a ∈ ops) (hb : b ∈ ops) (heq : clock a = clock b) : a = b := by
  have hnodup : (ops.map clock).Nodup := by
    simpa [List.Nodup, List.pairwise_map] using hdistinct
  exact List.inj_on_of_nodup_map hnodup ha hb heq

/-- Pairwise distinct clocks: an operation that no clock exceeds is the one
held. -/
theorem latest_eq_of_le {clock : O → K} {ops : List O} {greatest : O}
    (hdistinct : ops.Pairwise fun a b => clock a ≠ clock b)
    (hmem : greatest ∈ ops) (hle : ∀ op ∈ ops, clock op ≤ clock greatest) :
    latest clock ops = some greatest := by
  apply latest_eq_of_greatest hmem
  intro op hop hne
  refine lt_of_le_of_ne (hle op hop) ?_
  exact fun heq => hne (eq_of_clock_eq hdistinct hop hmem heq)

/-- Pairwise distinct clocks: the operation held does not depend on the order
of arrival. -/
theorem latest_perm {clock : O → K} {ops ops' : List O}
    (hdistinct : ops.Pairwise fun a b => clock a ≠ clock b)
    (hperm : ops.Perm ops') : latest clock ops = latest clock ops' := by
  have hdistinct' : ops'.Pairwise fun a b => clock a ≠ clock b :=
    (hperm.pairwise_iff (fun hne => Ne.symm hne)).mp hdistinct
  cases hlatest : latest clock ops with
  | none =>
      have hnil := (latest_eq_none_iff clock ops).mp hlatest
      subst hnil
      rw [List.nil_perm.mp hperm]
      rfl
  | some final =>
      obtain ⟨hmem, hall⟩ := latest_spec hlatest
      symm
      apply latest_eq_of_le hdistinct' (hperm.mem_iff.mp hmem)
      exact fun op hop => hall op (hperm.mem_iff.mpr hop)

/-- With increasing clocks the last operation is the one held. -/
theorem latest_eq_getLast? {clock : O → K} {ops : List O}
    (hincreasing : ops.Pairwise fun a b => clock a < clock b) :
    latest clock ops = ops.getLast? := by
  cases hlast : ops.getLast? with
  | none =>
      rw [List.getLast?_eq_none_iff] at hlast
      simp [hlast, latest]
  | some last =>
      obtain ⟨front, rfl⟩ := List.getLast?_eq_some_iff.mp hlast
      rw [List.pairwise_append] at hincreasing
      apply latest_eq_of_greatest (by simp)
      intro op hop hne
      rcases List.mem_append.mp hop with hop | hop
      · exact hincreasing.2.2 op hop last (by simp)
      · exact absurd (List.mem_singleton.mp hop) hne

end LastWriter
