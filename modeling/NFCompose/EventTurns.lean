/-
The turns of one call of `try_send_events`: which events of its batch it attempts,
at which points of time, and why it stops.
-/
import NFCompose.EventDelivery

namespace NFCompose

/-- The event must not be handled yet. -/
def ConsumerEvent.waits (event : ConsumerEvent) (now : Instant) : Bool :=
  event.handleAt.any fun handleAt => now < handleAt

/-- When a turn begins, if every turn before it posts its event. -/
def turnStart (readings : Nat → Reading) (start : Instant) : Nat → Instant
  | 0 => start
  | turn + 1 =>
      let reading := readings turn
      turnStart readings start turn + reading.untilCheck + reading.untilPost +
        reading.untilOutcome

/-- When the event of a turn is compared with the clock. -/
def checkedAt (readings : Nat → Reading) (start : Instant) (turn : Nat) : Instant :=
  turnStart readings start turn + (readings turn).untilCheck

/-- What comes of the event of a turn can be saved. -/
def savedAt (consumer : Consumer) (readings : Nat → Reading) (start : Instant) (turn : Nat)
    (entry : QueuedEvent) : Bool :=
  (entry.2.startCycle consumer).canSave consumer (readings turn).delivery
    (turnStart readings start (turn + 1))

/-- After a success no date is set. -/
theorem savedAt_of_succeeds {consumer : Consumer} {readings : Nat → Reading} {turn : Nat}
    (hsucceeds : (readings turn).delivery.succeeds = true)
    (hstorable : (readings turn).delivery.storable consumer = true) (start : Instant)
    (entry : QueuedEvent) : savedAt consumer readings start turn entry = true := by
  rw [savedAt, ConsumerEvent.canSave, hstorable, hsucceeds]
  rfl

/-- The turn of an event comes and posts it: neither the limit nor a date nor a failed delivery
stops the call before. -/
structure Posts (maxEvents : Option Nat) (readings : Nat → Reading) (start : Instant)
    (batch : List QueuedEvent) (turn : Nat) (entry : QueuedEvent) : Prop where
  listed : batch[turn]? = some entry
  allowed : ∀ limit, maxEvents = some limit → turn < limit
  due : ∀ earlier other, earlier ≤ turn → batch[earlier]? = some other →
    other.2.waits (checkedAt readings start earlier) = false
  succeeded : ∀ earlier < turn, (readings earlier).delivery.succeeds = true

theorem le_later (now : Instant) (delay : Nat) : now ≤ now + delay :=
  Int.le_add_of_nonneg_right (Int.natCast_nonneg delay)

theorem start_le_turnStart (readings : Nat → Reading) (start : Instant) (turn : Nat) :
    start ≤ turnStart readings start turn := by
  induction turn with
  | zero => exact le_refl start
  | succ turn ih =>
      calc start ≤ turnStart readings start turn := ih
        _ ≤ turnStart readings start turn + (readings turn).untilCheck := le_later _ _
        _ ≤ turnStart readings start turn + (readings turn).untilCheck +
            (readings turn).untilPost := le_later _ _
        _ ≤ turnStart readings start (turn + 1) := le_later _ _

/-- An event that is due when a call starts does not wait at its turn. -/
theorem waits_checkedAt {event : ConsumerEvent} {start : Instant}
    (hdue : event.waits start = false) (readings : Nat → Reading) (turn : Nat) :
    event.waits (checkedAt readings start turn) = false := by
  have hstart : start ≤ checkedAt readings start turn :=
    (start_le_turnStart readings start turn).trans (le_later _ _)
  rw [ConsumerEvent.waits, Option.any_eq_false] at hdue ⊢
  intro handleAt hhandleAt
  have hbefore := hdue handleAt hhandleAt
  rw [decide_eq_false_iff_not, not_lt] at hbefore ⊢
  exact hbefore.trans hstart

/-- Why a call stops: its batch is through, more events than allowed are left, an
event waits, a delivery failed, or its outcome could not be saved. -/
inductive Stopped (consumer : Consumer) (maxEvents : Option Nat) (readings : Nat → Reading)
    (start : Instant) (batch : List QueuedEvent) (sending : Sending) : Prop
  | through (hall : sending.attempts.length = batch.length)
      (hcnt : sending.cnt = sending.attempts.length) (hmore : sending.moreEvents = false)
  | limit (hlimit : maxEvents = some sending.cnt)
      (hcnt : sending.cnt = sending.attempts.length)
      (hleft : sending.attempts.length < batch.length) (hmore : sending.moreEvents = true)
      (hraised : sending.raised = false)
      (hsucceeds : ∀ turn < sending.attempts.length, (readings turn).delivery.succeeds = true)
      (hsaved : ∀ turn entry, turn < sending.attempts.length → batch[turn]? = some entry →
        savedAt consumer readings start turn entry = true)
  | waiting (entry : QueuedEvent) (hentry : batch[sending.attempts.length]? = some entry)
      (hwaits : entry.2.waits (checkedAt readings start sending.attempts.length) = true)
      (hcnt : sending.cnt = sending.attempts.length + 1) (hmore : sending.moreEvents = false)
  | failed (turn : Nat) (hlast : sending.attempts.length = turn + 1)
      (hfails : (readings turn).delivery.succeeds = false)
      (hcnt : sending.cnt = sending.attempts.length) (hmore : sending.moreEvents = false)
  | raised (turn : Nat) (entry : QueuedEvent) (hlast : sending.attempts.length = turn + 1)
      (hentry : batch[turn]? = some entry)
      (hunsaved : savedAt consumer readings start turn entry = false)
      (hcnt : sending.cnt = sending.attempts.length) (hmore : sending.moreEvents = false)

/-- More events are left only where the limit stopped the call. -/
theorem Stopped.limit_of_moreEvents {consumer : Consumer} {maxEvents : Option Nat}
    {readings : Nat → Reading} {start : Instant} {batch : List QueuedEvent} {sending : Sending}
    (hstopped : Stopped consumer maxEvents readings start batch sending)
    (hmore : sending.moreEvents = true) :
    maxEvents = some sending.cnt ∧ sending.cnt = sending.attempts.length ∧
      sending.attempts.length < batch.length ∧ sending.raised = false ∧
      (∀ turn < sending.attempts.length, (readings turn).delivery.succeeds = true) ∧
      ∀ turn entry, turn < sending.attempts.length → batch[turn]? = some entry →
        savedAt consumer readings start turn entry = true := by
  cases hstopped with
  | limit hlimit hcnt hleft _ hraised hsucceeds hsaved =>
      exact ⟨hlimit, hcnt, hleft, hraised, hsucceeds, hsaved⟩
  | through _ _ hnone => exact absurd (hmore.symm.trans hnone) (by decide)
  | waiting _ _ _ _ hnone => exact absurd (hmore.symm.trans hnone) (by decide)
  | failed _ _ _ _ hnone => exact absurd (hmore.symm.trans hnone) (by decide)
  | raised _ _ _ _ _ _ hnone => exact absurd (hmore.symm.trans hnone) (by decide)

/-- How a call goes through its batch: the first events are attempted, each of them
due at its turn, and saved before the next one is. -/
structure WentThrough (consumer : Consumer) (maxEvents : Option Nat) (readings : Nat → Reading)
    (start : Instant) (batch : List QueuedEvent) (sending : Sending) : Prop where
  attempted : sending.attempts.map Attempt.entry = batch.take sending.attempts.length
  due : ∀ turn entry, turn < sending.attempts.length → batch[turn]? = some entry →
    entry.2.waits (checkedAt readings start turn) = false
  saved : ∀ turn entry, turn + 1 < sending.attempts.length → batch[turn]? = some entry →
    savedAt consumer readings start turn entry = true
  allowed : ∀ limit, maxEvents = some limit → sending.cnt ≤ limit
  stopped : Stopped consumer maxEvents readings start batch sending

/-- The call between two turns. -/
structure BetweenTurns (consumer : Consumer) (maxEvents : Option Nat) (readings : Nat → Reading)
    (start : Instant) (batch rest : List QueuedEvent) (sending : Sending) : Prop where
  split : sending.attempts.map Attempt.entry ++ rest = batch
  counted : sending.cnt = sending.attempts.length
  clock : sending.state.now = turnStart readings start sending.cnt
  due : ∀ turn entry, turn < sending.attempts.length → batch[turn]? = some entry →
    entry.2.waits (checkedAt readings start turn) = false
  succeeded : ∀ turn < sending.attempts.length, (readings turn).delivery.succeeds = true
  saved : ∀ turn entry, turn < sending.attempts.length → batch[turn]? = some entry →
    savedAt consumer readings start turn entry = true
  allowed : ∀ limit, maxEvents = some limit → sending.cnt ≤ limit
  noMore : sending.moreEvents = false
  notRaised : sending.raised = false

/-- An attempt is recorded at the end. -/
theorem length_attempts_attempt (consumer : Consumer) (events : ConsumerEvents)
    (sending : Sending) (reading : Reading) (entry : QueuedEvent) :
    (sending.attempt consumer events reading entry).attempts.length =
      sending.attempts.length + 1 := by
  simp only [Sending.attempt, Sending.post, List.length_append, List.length_singleton]

/-- A turn that begins keeps the number of events within the limit. -/
theorem lt_of_not_any_le {maxEvents : Option Nat} {cnt : Nat}
    (hallowed : ¬(maxEvents.any fun limit => limit ≤ cnt) = true) :
    ∀ limit, maxEvents = some limit → cnt < limit := by
  intro limit hlimit
  rw [hlimit, Option.any_some, decide_eq_true_eq] at hallowed
  exact Nat.lt_of_not_le hallowed

section Turns

variable {consumer : Consumer} {maxEvents : Option Nat} {readings : Nat → Reading} {start : Instant}
  {batch rest : List QueuedEvent} {sending : Sending} {entry : QueuedEvent}

theorem BetweenTurns.attempted
    (hturn : BetweenTurns consumer maxEvents readings start batch rest sending) :
    sending.attempts.map Attempt.entry = batch.take sending.attempts.length := by
  rw [← hturn.split, List.take_left' (List.length_map _)]

/-- The event at the head of what is left has the turn that comes next. -/
theorem BetweenTurns.next
    (hturn : BetweenTurns consumer maxEvents readings start batch (entry :: rest) sending) :
    batch[sending.attempts.length]? = some entry := by
  rw [← hturn.split, List.getElem?_append_right (by rw [List.length_map]), List.length_map,
    Nat.sub_self, List.getElem?_cons_zero]

/-- What holds of the turns so far and of the next event holds of one turn more. -/
theorem BetweenTurns.extend {motive : Nat → QueuedEvent → Prop}
    (hturn : BetweenTurns consumer maxEvents readings start batch (entry :: rest) sending)
    (hearlier : ∀ turn other, turn < sending.attempts.length → batch[turn]? = some other →
      motive turn other)
    (hnext : motive sending.attempts.length entry) :
    ∀ turn other, turn < sending.attempts.length + 1 → batch[turn]? = some other →
      motive turn other := by
  intro turn other hlt hother
  rcases Nat.lt_succ_iff_lt_or_eq.mp hlt with hbefore | rfl
  · exact hearlier turn other hbefore hother
  · rw [hturn.next, Option.some.injEq] at hother
    rw [← hother]
    exact hnext

theorem BetweenTurns.clock_check
    (hturn : BetweenTurns consumer maxEvents readings start batch rest sending) :
    sending.state.now + (readings sending.cnt).untilCheck =
      checkedAt readings start sending.attempts.length := by
  rw [hturn.clock, checkedAt, hturn.counted]

theorem betweenTurns_start (consumer : Consumer) (maxEvents : Option Nat)
    (readings : Nat → Reading) (state : QueueState) (batch : List QueuedEvent) :
    BetweenTurns consumer maxEvents readings state.now batch batch
      (Sending.start consumer state) where
  split := rfl
  counted := rfl
  clock := rfl
  due := fun _ _ hturn _ => absurd hturn (Nat.not_lt_zero _)
  succeeded := fun _ hturn => absurd hturn (Nat.not_lt_zero _)
  saved := fun _ _ hturn _ => absurd hturn (Nat.not_lt_zero _)
  allowed := fun _ _ => Nat.zero_le _
  noMore := rfl
  notRaised := rfl

theorem BetweenTurns.posts
    (hturn : BetweenTurns consumer maxEvents readings start batch (entry :: rest) sending)
    (hallowed : ¬(maxEvents.any fun limit => limit ≤ sending.cnt) = true)
    (hdue : entry.2.waits (checkedAt readings start sending.attempts.length) = false) :
    Posts maxEvents readings start batch sending.attempts.length entry where
  listed := hturn.next
  allowed := by
    rw [← hturn.counted]
    exact lt_of_not_any_le hallowed
  due := fun earlier other hle hother =>
    hturn.extend hturn.due hdue earlier other (Nat.lt_succ_of_le hle) hother
  succeeded := hturn.succeeded

/-- When the outcome of the next event is known. -/
theorem BetweenTurns.clock_post (events : ConsumerEvents)
    (hturn : BetweenTurns consumer maxEvents readings start batch rest sending)
    (entry : QueuedEvent) :
    (sending.post consumer events (readings sending.cnt) entry).state.now =
      turnStart readings start (sending.attempts.length + 1) := by
  simp only [Sending.post, hturn.clock, turnStart, hturn.counted]

theorem BetweenTurns.canSave (events : ConsumerEvents)
    (hturn : BetweenTurns consumer maxEvents readings start batch rest sending)
    (entry : QueuedEvent) :
    (sending.post consumer events (readings sending.cnt) entry).canSave consumer
        (readings sending.cnt) entry =
      savedAt consumer readings start sending.attempts.length entry := by
  rw [Sending.canSave, hturn.clock_post, hturn.counted]
  rfl

/-- A turn that posts its event and is followed by another one. -/
theorem BetweenTurns.attempt (events : ConsumerEvents)
    (hturn : BetweenTurns consumer maxEvents readings start batch (entry :: rest) sending)
    (hallowed : ¬(maxEvents.any fun limit => limit ≤ sending.cnt) = true)
    (hdue : entry.2.waits (checkedAt readings start sending.attempts.length) = false)
    (hsucceeds : (readings sending.cnt).delivery.succeeds = true)
    (hsaved : savedAt consumer readings start sending.attempts.length entry = true) :
    BetweenTurns consumer maxEvents readings start batch rest
      (sending.attempt consumer events (readings sending.cnt) entry) := by
  have hlength := length_attempts_attempt consumer events sending (readings sending.cnt) entry
  constructor
  · rw [← hturn.split]
    simp [Sending.attempt, Sending.post]
  · rw [hlength, ← hturn.counted]
    rfl
  · simp only [Sending.attempt, Sending.post, hturn.clock, turnStart]
  · rw [hlength]
    exact hturn.extend hturn.due hdue
  · intro turn hlt
    rw [hlength] at hlt
    rcases Nat.lt_succ_iff_lt_or_eq.mp hlt with hearlier | rfl
    · exact hturn.succeeded turn hearlier
    · rw [← hturn.counted]
      exact hsucceeds
  · rw [hlength]
    exact hturn.extend hturn.saved hsaved
  · exact lt_of_not_any_le hallowed
  · exact hturn.noMore
  · exact hturn.notRaised

/-- A turn that posts its event is the last one if the delivery fails or the outcome is not
saved. -/
theorem BetweenTurns.last {sent : Sending}
    (hturn : BetweenTurns consumer maxEvents readings start batch (entry :: rest) sending)
    (hallowed : ¬(maxEvents.any fun limit => limit ≤ sending.cnt) = true)
    (hdue : entry.2.waits (checkedAt readings start sending.attempts.length) = false)
    (hattempts : sent.attempts.map Attempt.entry =
      sending.attempts.map Attempt.entry ++ [entry])
    (hcnt : sent.cnt = sending.cnt + 1)
    (hstopped : Stopped consumer maxEvents readings start batch sent) :
    WentThrough consumer maxEvents readings start batch sent := by
  have hlength : sent.attempts.length = sending.attempts.length + 1 := by
    rw [← List.length_map (f := Attempt.entry), hattempts, List.length_append, List.length_map,
      List.length_singleton]
  constructor
  · rw [hlength, List.take_add_one, ← hturn.attempted, hturn.next, hattempts]
    rfl
  · rw [hlength]
    exact hturn.extend hturn.due hdue
  · intro turn other hlt hother
    exact hturn.saved turn other (by omega) hother
  · intro limit hlimit
    rw [hcnt]
    exact lt_of_not_any_le hallowed limit hlimit
  · exact hstopped

/-- A call that stops without another post has gone through what was between the turns. -/
theorem BetweenTurns.stop {sent : Sending}
    (hturn : BetweenTurns consumer maxEvents readings start batch rest sending)
    (hattempts : sent.attempts = sending.attempts)
    (hallowed : ∀ limit, maxEvents = some limit → sent.cnt ≤ limit)
    (hstopped : Stopped consumer maxEvents readings start batch sent) :
    WentThrough consumer maxEvents readings start batch sent := by
  constructor
  · rw [hattempts]
    exact hturn.attempted
  · rw [hattempts]
    exact hturn.due
  · rw [hattempts]
    exact fun turn entry hlt => hturn.saved turn entry (Nat.lt_of_succ_lt hlt)
  · exact hallowed
  · exact hstopped

theorem wentThrough_sendBatch (events : ConsumerEvents)
    (hturn : BetweenTurns consumer maxEvents readings start batch rest sending) :
    WentThrough consumer maxEvents readings start batch
      (sendBatch consumer maxEvents readings events rest sending) := by
  induction rest generalizing sending with
  | nil =>
      refine hturn.stop rfl hturn.allowed (.through ?_ hturn.counted hturn.noMore)
      rw [← hturn.split, List.append_nil, List.length_map]
      rfl
  | cons entry rest ih =>
      simp only [sendBatch]
      split
      · next hlimit =>
        refine hturn.stop rfl hturn.allowed
          (.limit ?_ hturn.counted ?_ rfl hturn.notRaised hturn.succeeded hturn.saved)
        · obtain ⟨limit, hsome, hle⟩ := (Option.any_eq_true _ _).mp hlimit
          rw [decide_eq_true_eq] at hle
          rw [hsome, Nat.le_antisymm hle (hturn.allowed limit hsome)]
        · rw [← hturn.split, List.length_append, List.length_map, List.length_cons]
          simp only
          omega
      · next hallowed =>
        rw [hturn.clock_check]
        cases hwaits : entry.2.waits (checkedAt readings start sending.attempts.length) with
        | true =>
            simp only [ConsumerEvent.waits] at hwaits
            rw [if_pos hwaits]
            refine hturn.stop rfl (lt_of_not_any_le hallowed)
              (.waiting entry hturn.next hwaits ?_ hturn.noMore)
            simp only [Sending.wait, hturn.counted]
        | false =>
            have hpost := hwaits
            simp only [ConsumerEvent.waits] at hpost
            rw [if_neg (by rw [hpost]; decide), hturn.canSave events]
            have hlength := length_attempts_attempt consumer events sending
              (readings sending.cnt) entry
            have hcnt := (congrArg Nat.succ hturn.counted).trans hlength.symm
            cases hsaved : savedAt consumer readings start sending.attempts.length entry with
            | false =>
                apply hturn.last hallowed hwaits List.map_append rfl
                apply Stopped.raised sending.attempts.length entry _ hturn.next hsaved
                · exact hcnt
                · exact hturn.noMore
                · exact hlength
            | true =>
                cases hsucceeds : (readings sending.cnt).delivery.succeeds with
                | true => exact ih (hturn.attempt events hallowed hwaits hsucceeds hsaved)
                | false =>
                    apply hturn.last hallowed hwaits List.map_append rfl
                    apply Stopped.failed sending.attempts.length hlength
                    · rw [← hturn.counted]
                      exact hsucceeds
                    · exact hcnt
                    · exact hturn.noMore

end Turns

/-- A call goes through its batch turn by turn. -/
theorem wentThrough_trySendEvents (consumer : Consumer) (maxEvents : Option Nat)
    (readings : Nat → Reading) (state : QueueState) :
    WentThrough consumer maxEvents readings state.now
      (readBatch consumer.mode maxEvents state.events)
      (trySendEvents consumer maxEvents readings state) :=
  wentThrough_sendBatch state.events
    (betweenTurns_start consumer maxEvents readings state _)

end NFCompose
