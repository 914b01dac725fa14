/-
Copies that follow a store by what is announced of it: wherever a copy is behind, an
announcement that covers the key is still to be dealt with.
-/
import Mathlib.Logic.Basic

namespace Announcements

universe u v

variable {K : Type u} {V : Type v} {copy store : K → V} {covered : K → Prop}

/-- The copy is behind at covered keys only. -/
def Announced (copy store : K → V) (covered : K → Prop) : Prop :=
  ∀ key, copy key ≠ store key → covered key

/-- The copy once the keys that an announcement names are read again. -/
def reread (named : K → Prop) [DecidablePred named] (store copy : K → V) : K → V :=
  fun key => if named key then store key else copy key

theorem announced_self (store : K → V) (covered : K → Prop) : Announced store store covered :=
  fun _ hne => absurd rfl hne

theorem Announced.mono {covers : K → Prop} (hannounced : Announced copy store covered)
    (hcovers : ∀ key, covered key → covers key) : Announced copy store covers :=
  fun key hne => hcovers key (hannounced key hne)

/-- A change of the store is announced for every key that it may have touched. -/
theorem Announced.change {next : K → V} {named covers : K → Prop}
    (hannounced : Announced copy store covered)
    (hframe : ∀ key, ¬ named key → next key = store key) (hnamed : ∀ key, named key → covers key)
    (hcovers : ∀ key, covered key → covers key) : Announced copy next covers := by
  intro key hne
  by_cases hkey : named key
  · exact hnamed key hkey
  · exact hcovers key (hannounced key fun heq => hne (heq.trans (hframe key hkey).symm))

/-- An announcement may be dropped once its keys are read again. -/
theorem Announced.reread {named covers : K → Prop} [DecidablePred named]
    (hannounced : Announced copy store covered)
    (hcovers : ∀ key, ¬ named key → covered key → covers key) :
    Announced (reread named store copy) store covers := by
  intro key hne
  by_cases hkey : named key
  · exact absurd (if_pos hkey) hne
  · rw [Announcements.reread, if_neg hkey] at hne
    exact hcovers key hkey (hannounced key hne)

/-- With nothing left to announce the copy is the store. -/
theorem Announced.eq (hannounced : Announced copy store covered)
    (hnone : ∀ key, ¬ covered key) : copy = store :=
  funext fun key => of_not_not fun hne => hnone key (hannounced key hne)

end Announcements
