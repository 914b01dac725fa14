/-
`IN_ORDER_NON_BLOCKING`: what a call delivers while other events of the queue wait
for their retry dates.
-/
import NFCompose.RetryAccounting

namespace NFCompose

section Call

variable (consumer : Consumer) (maxEvents : Option Nat) (readings : Nat → Reading)
  (state : QueueState)

/-- Every event that is due when the call starts is attempted. -/
def DeliversDue : Prop :=
  ∀ entry ∈ queryset consumer.mode state.events, entry.2.waits state.now = false →
    ∃ attempt ∈ (trySendEvents consumer maxEvents readings state).attempts, attempt.entry = entry

/-- No event that is sorted before a due one still waits when its turn comes. -/
def NothingWaitsBefore : Prop :=
  ∀ (turn later : Nat) (entry due : QueuedEvent), turn < later →
    (queryset consumer.mode state.events)[turn]? = some entry →
    (queryset consumer.mode state.events)[later]? = some due →
    due.2.waits state.now = false → entry.2.waits (checkedAt readings state.now turn) = false

/-- What comes of the events that are sorted before a due one can be saved. -/
def SavesBefore : Prop :=
  ∀ (turn later : Nat) (entry due : QueuedEvent), turn < later →
    (queryset consumer.mode state.events)[turn]? = some entry →
    (queryset consumer.mode state.events)[later]? = some due →
    due.2.waits state.now = false → savedAt consumer readings state.now turn entry = true

variable {consumer maxEvents readings state}

theorem readBatch_eq
    (hlimit : ∀ limit, maxEvents = some limit →
      (queryset consumer.mode state.events).length ≤ limit) :
    readBatch consumer.mode maxEvents state.events = queryset consumer.mode state.events := by
  cases maxEvents with
  | none => rfl
  | some limit => exact List.take_of_length_le (Nat.le_succ_of_le (hlimit limit rfl))

theorem queryset_nodup (mode : ConsumerMode) (events : ConsumerEvents) :
    (queryset mode events).Nodup :=
  (queryset_ids mode events).imp fun hne heq => hne (congrArg Sigma.fst heq)

/-- An event that was attempted had its turn, so those before it had theirs. -/
theorem reached_of_delivers
    (hlimit : ∀ limit, maxEvents = some limit →
      (queryset consumer.mode state.events).length ≤ limit)
    (hdelivers : DeliversDue consumer maxEvents readings state) {later : Nat} {due : QueuedEvent}
    (hlater : (queryset consumer.mode state.events)[later]? = some due)
    (hdue : due.2.waits state.now = false) :
    later < (trySendEvents consumer maxEvents readings state).attempts.length := by
  have hwent := wentThrough_trySendEvents consumer maxEvents readings state
  rw [readBatch_eq hlimit] at hwent
  obtain ⟨attempt, hattempt, rfl⟩ := hdelivers due (List.mem_of_getElem? hlater) hdue
  have hmem := List.mem_map_of_mem (f := Attempt.entry) hattempt
  rw [hwent.attempted, List.mem_take_iff_getElem] at hmem
  obtain ⟨index, hindex, hget⟩ := hmem
  rw [Nat.lt_min] at hindex
  have hsame : index = later := by
    apply (List.getElem?_inj hindex.2 (queryset_nodup consumer.mode state.events)).mp
    rw [hlater, List.getElem?_eq_getElem hindex.2, hget]
  exact hsame ▸ hindex.1

theorem nothingWaitsBefore_of_delivers
    (hlimit : ∀ limit, maxEvents = some limit →
      (queryset consumer.mode state.events).length ≤ limit)
    (hdelivers : DeliversDue consumer maxEvents readings state) :
    NothingWaitsBefore consumer readings state ∧ SavesBefore consumer readings state := by
  have hwent := wentThrough_trySendEvents consumer maxEvents readings state
  rw [readBatch_eq hlimit] at hwent
  constructor
  · intro turn later entry due hturn hentry hlater hdue
    have hreached := reached_of_delivers hlimit hdelivers hlater hdue
    exact hwent.due turn entry (hturn.trans hreached) hentry
  · intro turn later entry due hturn hentry hlater hdue
    have hreached := reached_of_delivers hlimit hdelivers hlater hdue
    exact hwent.saved turn entry (Nat.lt_of_le_of_lt hturn hreached) hentry

/-- Without anything in the way before them, a call reaches all due events. -/
theorem delivers_of_nothingWaitsBefore
    (hlimit : ∀ limit, maxEvents = some limit →
      (queryset consumer.mode state.events).length ≤ limit)
    (hsucceeds : ∀ turn < (trySendEvents consumer maxEvents readings state).attempts.length,
      (readings turn).delivery.succeeds = true)
    (hnothing : NothingWaitsBefore consumer readings state)
    (hsaves : SavesBefore consumer readings state) :
    DeliversDue consumer maxEvents readings state := by
  intro entry hentry hdue
  have hwent := wentThrough_trySendEvents consumer maxEvents readings state
  rw [readBatch_eq hlimit] at hwent
  obtain ⟨index, hget⟩ := List.mem_iff_getElem?.mp hentry
  obtain ⟨hindex, hentryAt⟩ := List.getElem?_eq_some_iff.mp hget
  have hreached : index < (trySendEvents consumer maxEvents readings state).attempts.length := by
    by_contra hnot
    have hle := not_lt.mp hnot
    cases hwent.stopped with
    | through hall => omega
    | limit hsome hcnt hleft =>
        have hbound := hlimit _ hsome
        omega
    | waiting first hfirst hwaits =>
        rcases Nat.lt_or_eq_of_le hle with hbefore | heq
        · rw [hnothing _ index first entry hbefore hfirst hget hdue] at hwaits
          cases hwaits
        · rw [heq, hget, Option.some.injEq] at hfirst
          rw [← hfirst, waits_checkedAt hdue] at hwaits
          cases hwaits
    | failed turn hlast hfails =>
        rw [hsucceeds turn (by omega)] at hfails
        cases hfails
    | raised turn first hlast hfirst hunsaved =>
        rw [hsaves turn index first entry (by omega) hfirst hget hdue] at hunsaved
        cases hunsaved
  have hmem : entry ∈ (trySendEvents consumer maxEvents readings state).attempts.map
      Attempt.entry := by
    rw [hwent.attempted, List.mem_take_iff_getElem]
    exact ⟨index, lt_min hreached hindex, hentryAt⟩
  exact List.mem_map.mp hmem

end Call

/-- A call whose deliveries all succeed delivers every due event exactly when no event is
sorted before one that waits, or whose answer cannot be saved. -/
theorem delivers_due_iff {consumer : Consumer} {maxEvents : Option Nat}
    {readings : Nat → Reading} {state : QueueState}
    (hlimit : ∀ limit, maxEvents = some limit →
      (queryset consumer.mode state.events).length ≤ limit)
    (hsucceeds : ∀ turn < (trySendEvents consumer maxEvents readings state).attempts.length,
      (readings turn).delivery.succeeds = true) :
    DeliversDue consumer maxEvents readings state ↔
      NothingWaitsBefore consumer readings state ∧ SavesBefore consumer readings state :=
  ⟨nothingWaitsBefore_of_delivers hlimit, fun hclear =>
    delivers_of_nothingWaitsBefore hlimit hsucceeds hclear.1 hclear.2⟩

namespace NonBlockingWitness

def consumer : Consumer := ⟨"tenant", false, .unknown, .inOrderNonBlocking, 1, 30000000, 0⟩

def timeout (_ : Nat) : Reading := ⟨0, 0, 0, .raised "timeout"⟩

def accepting (_ : Nat) : Reading := ⟨0, 0, 0, .answered ⟨"ok", [], 200, none⟩ ""⟩

/-- The event 1 fails twice, at 0 s and at 30 s, the event 2 once, at 45 s. -/
def calls : List QueueCall :=
  [⟨0, .create 1 0 none "a" .dataPointChanged⟩,
    ⟨0, .trySend consumer (some 100) timeout⟩,
    ⟨30000000, .trySend consumer (some 100) timeout⟩,
    ⟨40000000, .create 2 40000000 none "b" .dataPointChanged⟩,
    ⟨45000000, .trySend consumer (some 100) timeout⟩]

/-- At 65 s the event 1 is due and the event 2 is not. -/
def state : QueueState := { Runs.run callStep ⟨0, ∅⟩ calls with now := 65000000 }

/-- At 75 s both are due. -/
def laterState : QueueState := { state with now := 75000000 }

theorem waiting_event_blocks : ¬DeliversDue consumer (some 100) accepting state := by
  intro hdelivers
  have hdue : (queryset consumer.mode state.events)[1]?.any
      (fun entry => !entry.2.waits state.now) = true := by decide
  have hnone : (trySendEvents consumer (some 100) accepting state).attempts.length = 0 := by
    decide
  obtain ⟨entry, hget, hwaits⟩ := (Option.any_eq_true _ _).mp hdue
  obtain ⟨attempt, hattempt, -⟩ := hdelivers entry (List.mem_of_getElem? hget)
    (Bool.not_eq_true' _ ▸ hwaits)
  rw [List.length_eq_zero_iff.mp hnone] at hattempt
  cases hattempt

theorem laterState_delivers_due : DeliversDue consumer (some 100) accepting laterState :=
  (delivers_due_iff
    (by
      intro limit hlimit
      rw [← Option.some.inj hlimit]
      decide)
    (fun _ _ => rfl)).mpr (by
      have hall : ∀ entry ∈ queryset consumer.mode laterState.events,
          entry.2.waits laterState.now = false := by decide
      constructor
      · intro turn later entry due _ hentry _ _
        exact waits_checkedAt (hall entry (List.mem_of_getElem? hentry)) accepting turn
      · intro turn later entry due _ _ _ _
        have hstorable : (accepting turn).delivery.storable consumer = true := by
          show Delivery.storable consumer (.answered ⟨"ok", [], 200, none⟩ "") = true
          decide
        exact savedAt_of_succeeds rfl hstorable _ entry)

end NonBlockingWitness

end NFCompose
