/-
The retry accounting of `try_send_events`: every delivery attempt that can be saved is saved
with its outcome, and what is saved bounds the attempts that are still to come.
-/
import NFCompose.EventTurns

namespace NFCompose

/-- A delivery attempt and its outcome. -/
structure Save where
  attempt : Attempt
  consumer : Consumer
  delivery : Delivery
  savedAt : Instant

namespace Save

def eventId (save : Save) : Nat := save.attempt.entry.1

/-- The event as it was read. -/
def before (save : Save) : ConsumerEvent := save.attempt.entry.2

/-- The event as it is to be stored. -/
def event (save : Save) : ConsumerEvent :=
  (save.before.startCycle save.consumer).afterDelivery save.consumer save.delivery save.savedAt

def failed (save : Save) : Bool := !save.delivery.succeeds

/-- `handle_at` is at least the back off away, or as far as a 429 response asked. -/
def BacksOff (consumer : Consumer) (save : Save) : Prop :=
  ∃ handleAt, save.event.handleAt = some handleAt ∧
    (save.savedAt + consumer.retryBackoffDelay ≤ handleAt ∨
      ∃ response seconds, save.delivery.response = some response ∧ response.statusCode = 429 ∧
        response.retryAfter = some seconds ∧ handleAt = save.savedAt + seconds * 1000000)

/-- The attempt begins a new cycle. -/
def Restarts (save : Save) : Prop :=
  save.event.backoffCycles = save.before.backoffCycles + 1 ∧
    save.event.retriesInCycle = if save.failed then 1 else 0

end Save

def Attempt.save (consumer : Consumer) (reading : Reading) (attempt : Attempt) : Save :=
  ⟨attempt, consumer, reading.delivery, attempt.sentAt + reading.untilOutcome⟩

/-- The attempts of one call, whose turns take the readings one after the other. -/
def savesOf (consumer : Consumer) (readings : Nat → Reading) (attempts : List Attempt) :
    List Save :=
  attempts.zipIdx.map fun turn => turn.1.save consumer (readings turn.2)

/-- A queue action, and what the clock shows when it starts. -/
structure QueueCall where
  now : Instant
  action : QueueAction

def callStep (state : QueueState) (call : QueueCall) : QueueState :=
  queueStep { state with now := call.now } call.action

def saves (state : QueueState) (call : QueueCall) : List Save :=
  match call.action with
  | .trySend consumer maxEvents readings =>
      savesOf consumer readings
        (trySendEvents consumer maxEvents readings { state with now := call.now }).attempts
  | .create .. => []

/-- The call finds the retry settings of `consumer`. -/
def QueueCall.HasSettings (consumer : Consumer) (call : QueueCall) : Prop :=
  match call.action with
  | .trySend other _ _ =>
      other.retryMax = consumer.retryMax ∧
        other.retryBackoffEvery = consumer.retryBackoffEvery ∧
        other.retryBackoffDelay = consumer.retryBackoffDelay
  | .create .. => True

/-- What comes of the posts of the call can be saved. -/
def QueueCall.Stores (state : QueueState) (call : QueueCall) : Prop :=
  match call.action with
  | .trySend consumer maxEvents readings =>
      let batch := readBatch consumer.mode maxEvents state.events
      ∀ turn entry, Posts maxEvents readings call.now batch turn entry →
        savedAt consumer readings call.now turn entry = true
  | .create .. => True

def savesFor (id : Nat) (history : List Save) : List Save :=
  history.filter fun save => save.eventId = id

/-- What the retries of a consumer owe to its settings, after the attempts in
`history`. -/
structure RetriesAccounted (consumer : Consumer) (history : List Save)
    (events : ConsumerEvents) : Prop where
  attempts : 0 < consumer.retryMax →
    ∀ id, ((savesFor id history).length : Int) ≤ consumer.retryMax + 1
  failed : ∀ id event, events.lookup id = some event →
    (event.state = .failed ↔ 0 < consumer.retryMax ∧
      consumer.retryMax < (savesFor id history).countP Save.failed)
  cycle : ∀ id event, events.lookup id = some event →
    event.retriesInCycle ≤ consumer.retryBackoffEvery
  backsOff : ∀ save ∈ history,
    save.event.retriesInCycle = consumer.retryBackoffEvery → save.BacksOff consumer
  restarts : ∀ save ∈ history,
    save.before.retriesInCycle = consumer.retryBackoffEvery → save.Restarts

section Calls

theorem savesOf_append (consumer : Consumer) (readings : Nat → Reading)
    (attempts : List Attempt) (attempt : Attempt) :
    savesOf consumer readings (attempts ++ [attempt]) =
      savesOf consumer readings attempts ++
        [attempt.save consumer (readings attempts.length)] := by
  rw [savesOf, List.zipIdx_append, List.map_append, Nat.zero_add]
  rfl

variable {consumer : Consumer} {motive : ConsumerEvents → List Save → Prop}

/-- A call whose outcomes can be saved is the attempts it makes: what each of them keeps, on an
event that is stored and still to be delivered, the call keeps. -/
theorem sendBatch_saves {maxEvents : Option Nat} {readings : Nat → Reading} {start : Instant}
    {events : ConsumerEvents} {batch rest : List QueuedEvent} {sending : Sending}
    (hsave : ∀ queue history save, save.consumer = consumer →
      (∃ turn, save.delivery = (readings turn).delivery) →
      queue.lookup save.eventId = some save.before → ¬save.before.Done → motive queue history →
      motive (queue.insert save.eventId save.event) (history ++ [save]))
    (hstores : ∀ turn entry, Posts maxEvents readings start batch turn entry →
      savedAt consumer readings start turn entry = true)
    (hturn : BetweenTurns consumer maxEvents readings start batch rest sending)
    (hrest : ∀ entry ∈ rest,
      sending.state.events.lookup entry.1 = some entry.2 ∧ ¬entry.2.Done)
    (hids : rest.Pairwise fun left right => left.1 ≠ right.1)
    (hmotive : motive sending.state.events (savesOf consumer readings sending.attempts)) :
    let sent := sendBatch consumer maxEvents readings events rest sending
    motive sent.state.events (savesOf consumer readings sent.attempts) := by
  induction rest generalizing sending with
  | nil => exact hmotive
  | cons entry rest ih =>
      obtain ⟨hstored, hpending⟩ := hrest entry List.mem_cons_self
      obtain ⟨hother, hids⟩ := List.pairwise_cons.mp hids
      let reading := readings sending.cnt
      let sent := sending.attempt consumer events reading entry
      let attempt : Attempt := ⟨events, sending.state.events, entry,
        sending.state.now + reading.untilCheck + reading.untilPost,
        (entry.2.startCycle consumer).body consumer⟩
      have hsent : motive sent.state.events (savesOf consumer readings sent.attempts) := by
        have hnext := hsave _ _ (attempt.save consumer reading) rfl ⟨_, rfl⟩ hstored
          hpending hmotive
        have hsaves : savesOf consumer readings sent.attempts =
            savesOf consumer readings sending.attempts ++ [attempt.save consumer reading] := by
          rw [← congrArg (attempt.save consumer) (congrArg readings hturn.counted.symm),
            ← savesOf_append]
          rfl
        rwa [hsaves]
      simp only [sendBatch]
      split
      · exact hmotive
      · rename_i hallowed
        split
        · exact hmotive
        · rename_i hdue
          rw [hturn.clock_check, ← ConsumerEvent.waits, Bool.not_eq_true] at hdue
          have hsaved := hstores _ _ (hturn.posts hallowed hdue)
          rw [hturn.canSave events, hsaved, if_neg (by decide)]
          split
          · rename_i hsucceeds
            apply ih (hturn.attempt events hallowed hdue hsucceeds hsaved) _ hids hsent
            intro other hmem
            obtain ⟨hlookup, hdone⟩ := hrest other (List.mem_cons_of_mem entry hmem)
            refine ⟨?_, hdone⟩
            simpa [Sending.attempt, Sending.post,
              AList.lookup_insert_ne (hother other hmem).symm] using hlookup
          · exact hsent

/-- The rule for a whole call. -/
theorem trySendEvents_saves {maxEvents : Option Nat} {readings : Nat → Reading}
    {state : QueueState}
    (hsave : ∀ queue history save, save.consumer = consumer →
      (∃ turn, save.delivery = (readings turn).delivery) →
      queue.lookup save.eventId = some save.before → ¬save.before.Done → motive queue history →
      motive (queue.insert save.eventId save.event) (history ++ [save]))
    (hstores : ∀ turn entry, Posts maxEvents readings state.now
        (readBatch consumer.mode maxEvents state.events) turn entry →
      savedAt consumer readings state.now turn entry = true)
    (hstart : motive state.events []) :
    let sent := trySendEvents consumer maxEvents readings state
    motive sent.state.events (savesOf consumer readings sent.attempts) := by
  obtain ⟨cut, hcut⟩ := readBatch_append consumer.mode maxEvents state.events
  have hids := queryset_ids consumer.mode state.events
  rw [← hcut] at hids
  have hread : ∀ entry ∈ readBatch consumer.mode maxEvents state.events,
      state.events.lookup entry.1 = some entry.2 ∧ ¬entry.2.Done := by
    intro entry hentry
    rw [← mem_queryset, ← hcut]
    exact List.mem_append_left cut hentry
  apply sendBatch_saves hsave hstores (betweenTurns_start consumer maxEvents readings state _)
  · exact hread
  · exact (List.pairwise_append.mp hids).1
  · exact hstart

end Calls

section Events

variable {consumer : Consumer} {event : ConsumerEvent} {save : Save} {history : List Save}

@[simp] theorem startCycle_retries (consumer : Consumer) (event : ConsumerEvent) :
    (event.startCycle consumer).retries = event.retries := by
  rw [ConsumerEvent.startCycle]
  split <;> rfl

@[simp] theorem startCycle_handleAt (consumer : Consumer) (event : ConsumerEvent) :
    (event.startCycle consumer).handleAt = event.handleAt := by
  rw [ConsumerEvent.startCycle]
  split <;> rfl

/-- A cycle that reached its bound was given a date, so it ends before the next
delivery. -/
theorem startCycle_lt (hevery : 1 ≤ consumer.retryBackoffEvery)
    (hheld : consumer.retryBackoffEvery ≤ event.retriesInCycle → event.handleAt.isSome = true) :
    (event.startCycle consumer).retriesInCycle < consumer.retryBackoffEvery := by
  rw [ConsumerEvent.startCycle]
  split
  · exact Int.lt_of_lt_of_le Int.zero_lt_one hevery
  · rename_i hsame
    by_contra hnot
    exact hsame ⟨hheld (not_lt.mp hnot), not_lt.mp hnot⟩

/-- What is stored after a success. -/
theorem Save.event_of_success (hsuccess : save.failed = false) :
    save.event.state = .success ∧ save.event.retries = save.before.retries ∧
      save.event.handleAt = save.before.handleAt ∧
      save.event.retriesInCycle = (save.before.startCycle save.consumer).retriesInCycle ∧
      save.event.backoffCycles = (save.before.startCycle save.consumer).backoffCycles := by
  rw [Save.failed, Bool.not_eq_false'] at hsuccess
  simp [Save.event, ConsumerEvent.afterDelivery, hsuccess, ConsumerEvent.afterSuccess,
    ConsumerEvent.answered]

/-- What is stored after a failure. -/
theorem Save.event_of_failure (hfailed : save.failed = true) :
    save.event.retries = save.before.retries + 1 ∧
      (save.event.state = if save.consumer.retryMax > 0 ∧
        save.before.retries + 1 > save.consumer.retryMax then .failed else .retry) ∧
      save.event.retriesInCycle = (save.before.startCycle save.consumer).retriesInCycle + 1 ∧
      save.event.backoffCycles = (save.before.startCycle save.consumer).backoffCycles := by
  rw [Save.failed, Bool.not_eq_true'] at hfailed
  simp [Save.event, ConsumerEvent.afterDelivery, hfailed, ConsumerEvent.afterFailure,
    ConsumerEvent.answered]

/-- A failure that reaches the bound of the cycle moves `handle_at`. -/
theorem Save.backsOff_of_failure (hfailed : save.failed = true)
    (hdelay : save.consumer.retryBackoffDelay = consumer.retryBackoffDelay)
    (hreached : save.consumer.retryBackoffEvery ≤ save.event.retriesInCycle) :
    save.BacksOff consumer := by
  have hcount := (Save.event_of_failure hfailed).2.2.1
  rw [hcount] at hreached
  rw [Save.failed, Bool.not_eq_true'] at hfailed
  simp only [Save.BacksOff, Save.event, ConsumerEvent.afterDelivery, hfailed,
    Bool.false_eq_true, ↓reduceIte, ConsumerEvent.afterFailure, ConsumerEvent.backOffUntil,
    ConsumerEvent.answered, ge_iff_le]
  split
  · rename_i htooMany
    obtain ⟨response, hresponse, hstatus⟩ := (Option.any_eq_true _ _).mp htooMany
    rw [decide_eq_true_eq] at hstatus
    rw [hresponse, Option.bind_some]
    refine ⟨_, rfl, ?_⟩
    cases hretryAt : retryAtFromResponse save.savedAt response with
    | none => exact Or.inl (le_of_eq (by rw [hdelay]; rfl))
    | some handleAt =>
        obtain ⟨hmapped, -⟩ := Option.filter_eq_some_iff.mp hretryAt
        obtain ⟨seconds, hseconds, rfl⟩ := Option.map_eq_some_iff.mp hmapped
        exact Or.inr ⟨response, seconds, rfl, hstatus, hseconds, rfl⟩
  · exact ⟨_, rfl, Or.inl (le_of_eq (by rw [hdelay]))⟩

/-- What is known of an event after its attempts. -/
structure ConsumerEvent.Accounted (consumer : Consumer) (history : List Save)
    (event : ConsumerEvent) : Prop where
  retries : event.retries = history.countP Save.failed
  once : history.length = history.countP Save.failed + if event.state = .success then 1 else 0
  failed : event.state = .failed ↔ 0 < consumer.retryMax ∧ consumer.retryMax < event.retries
  most : 0 < consumer.retryMax → event.retries ≤ consumer.retryMax + 1
  cycle : event.retriesInCycle ≤ consumer.retryBackoffEvery
  held : consumer.retryBackoffEvery ≤ event.retriesInCycle → event.handleAt.isSome = true

/-- An attempt on an event that is still to be delivered is accounted for. -/
theorem Save.accounted (hevery : 1 ≤ consumer.retryBackoffEvery)
    (hmax : save.consumer.retryMax = consumer.retryMax)
    (hbound : save.consumer.retryBackoffEvery = consumer.retryBackoffEvery)
    (hpending : ¬save.before.Done) (hbefore : save.before.Accounted consumer history) :
    save.event.Accounted consumer (history ++ [save]) := by
  have hnotFailed : ¬save.before.state = .failed := fun h => hpending (Or.inl h)
  have hnotSuccess : ¬save.before.state = .success := fun h => hpending (Or.inr h)
  have hlength := hbefore.once
  rw [if_neg hnotSuccess] at hlength
  have hretries := hbefore.retries
  have hbelow : ¬(0 < consumer.retryMax ∧ consumer.retryMax < save.before.retries) :=
    fun h => hnotFailed (hbefore.failed.mpr h)
  have hlt : (save.before.startCycle save.consumer).retriesInCycle <
      consumer.retryBackoffEvery := by
    rw [← hbound]
    exact startCycle_lt (hbound ▸ hevery) (hbound ▸ hbefore.held)
  cases hfailed : save.failed with
  | false =>
      obtain ⟨hstate, hsame, hhandleAt, hcycle, -⟩ := Save.event_of_success hfailed
      have hcount : (history ++ [save]).countP Save.failed = history.countP Save.failed := by
        simp [hfailed]
      constructor
      · rw [hsame, hcount, hretries]
      · rw [hcount, hstate, List.length_append, hlength]
        rfl
      · rw [hstate, hsame]
        exact iff_of_false (by decide) hbelow
      · intro hpositive
        rw [hsame]
        omega
      · rw [hcycle]
        exact le_of_lt hlt
      · intro hreached
        rw [hcycle] at hreached
        omega
  | true =>
      obtain ⟨hone, hstate, hcycle, -⟩ := Save.event_of_failure hfailed
      have hcount : (history ++ [save]).countP Save.failed =
          history.countP Save.failed + 1 := by
        simp [hfailed]
      rw [hmax] at hstate
      constructor
      · rw [hone, hcount, hretries]
        rfl
      · rw [hcount, List.length_append, hlength, if_neg]
        · rfl
        · rw [hstate]
          split <;> simp
      · rw [hstate, hone]
        split
        · rename_i hover
          exact iff_of_true rfl hover
        · rename_i hunder
          exact iff_of_false (by decide) hunder
      · intro hpositive
        omega
      · omega
      · intro hreached
        rw [← hbound] at hreached
        obtain ⟨handleAt, hhandleAt, -⟩ := Save.backsOff_of_failure hfailed rfl hreached
        rw [hhandleAt]
        rfl

/-- An attempt that finds the bound of the cycle reached restarts the count. -/
theorem Save.restarts
    (hbound : save.consumer.retryBackoffEvery = consumer.retryBackoffEvery)
    (hbefore : save.before.Accounted consumer history)
    (hreached : save.before.retriesInCycle = consumer.retryBackoffEvery) : save.Restarts := by
  have hstart : save.before.startCycle save.consumer =
      { save.before with backoffCycles := save.before.backoffCycles + 1, retriesInCycle := 0 } := by
    have hfull : save.consumer.retryBackoffEvery ≤ save.before.retriesInCycle := by
      rw [hbound, hreached]
    rw [ConsumerEvent.startCycle, if_pos ⟨hbefore.held (le_of_eq hreached.symm), hfull⟩]
  cases hfailed : save.failed with
  | false =>
      obtain ⟨-, -, -, hcycle, hcycles⟩ := Save.event_of_success hfailed
      rw [hstart] at hcycle hcycles
      exact ⟨hcycles, by rw [hcycle, hfailed]; rfl⟩
  | true =>
      obtain ⟨-, -, hcycle, hcycles⟩ := Save.event_of_failure hfailed
      rw [hstart] at hcycle hcycles
      exact ⟨hcycles, by rw [hcycle, hfailed]; rfl⟩

end Events

section Queue

variable {consumer : Consumer}

/-- The accounts of all events of the queue, and of the attempts so far. -/
structure QueueAccounted (consumer : Consumer) (events : ConsumerEvents)
    (history : List Save) : Prop where
  stored : ∀ id event, events.lookup id = some event →
    event.Accounted consumer (savesFor id history)
  unknown : ∀ id, events.lookup id = none → savesFor id history = []
  backsOff : ∀ save ∈ history,
    save.event.retriesInCycle = consumer.retryBackoffEvery → save.BacksOff consumer
  restarts : ∀ save ∈ history,
    save.before.retriesInCycle = consumer.retryBackoffEvery → save.Restarts

theorem savesFor_append (id : Nat) (history : List Save) (save : Save) :
    savesFor id (history ++ [save]) =
      savesFor id history ++ if save.eventId = id then [save] else [] := by
  by_cases hid : save.eventId = id <;> simp [savesFor, hid]

theorem queueAccounted_save (hevery : 1 ≤ consumer.retryBackoffEvery) {events : ConsumerEvents}
    {history : List Save} {save : Save}
    (hmax : save.consumer.retryMax = consumer.retryMax)
    (hbound : save.consumer.retryBackoffEvery = consumer.retryBackoffEvery)
    (hdelay : save.consumer.retryBackoffDelay = consumer.retryBackoffDelay)
    (hstored : events.lookup save.eventId = some save.before) (hpending : ¬save.before.Done)
    (hqueue : QueueAccounted consumer events history) :
    QueueAccounted consumer (events.insert save.eventId save.event) (history ++ [save]) := by
  have hbefore := hqueue.stored _ _ hstored
  have hafter := Save.accounted hevery hmax hbound hpending hbefore
  constructor
  · intro id event hevent
    by_cases hid : save.eventId = id
    · subst hid
      rw [AList.lookup_insert, Option.some.injEq] at hevent
      rw [savesFor_append, if_pos rfl, ← hevent]
      exact hafter
    · rw [AList.lookup_insert_ne (Ne.symm hid)] at hevent
      rw [savesFor_append, if_neg hid, List.append_nil]
      exact hqueue.stored id event hevent
  · intro id hnone
    by_cases hid : save.eventId = id
    · subst hid
      rw [AList.lookup_insert] at hnone
      cases hnone
    · rw [AList.lookup_insert_ne (Ne.symm hid)] at hnone
      rw [savesFor_append, if_neg hid, List.append_nil]
      exact hqueue.unknown id hnone
  · intro other hmem hreached
    rcases List.mem_append.mp hmem with hearlier | hlast
    · exact hqueue.backsOff other hearlier hreached
    · rw [List.mem_singleton] at hlast
      subst hlast
      cases hfailed : other.failed with
      | true => exact Save.backsOff_of_failure hfailed hdelay (hbound ▸ le_of_eq hreached.symm)
      | false =>
          have hcycle := (Save.event_of_success hfailed).2.2.2.1
          have hlt := startCycle_lt (hbound ▸ hevery) (hbound ▸ hbefore.held)
          rw [← hcycle, hbound, hreached] at hlt
          exact absurd hlt (lt_irrefl _)
  · intro other hmem hreached
    rcases List.mem_append.mp hmem with hearlier | hlast
    · exact hqueue.restarts other hearlier hreached
    · rw [List.mem_singleton] at hlast
      subst hlast
      exact Save.restarts hbound hbefore hreached

theorem accounted_dataPointEvent (hevery : 1 ≤ consumer.retryBackoffEvery)
    (pointInTime : Instant) (subClock : Option Int) (payload : String)
    (eventType : ConsumerEventType) :
    (dataPointEvent pointInTime subClock payload eventType).Accounted consumer [] where
  retries := rfl
  once := rfl
  failed := iff_of_false (by simp [dataPointEvent]) (by simp only [dataPointEvent]; omega)
  most := fun hpositive => by simp only [dataPointEvent]; omega
  cycle := show 0 ≤ consumer.retryBackoffEvery from zero_le_one.trans hevery
  held := fun hreached => absurd (hevery.trans hreached) (show ¬(1 : Int) ≤ 0 by decide)

theorem queueAccounted_call (hevery : 1 ≤ consumer.retryBackoffEvery) {state : QueueState}
    {history : List Save} {call : QueueCall} (hcall : call.HasSettings consumer)
    (hstores : call.Stores state)
    (hqueue : QueueAccounted consumer state.events history) :
    QueueAccounted consumer (callStep state call).events (history ++ saves state call) := by
  obtain ⟨now, action⟩ := call
  cases action with
  | trySend other maxEvents readings =>
      obtain ⟨hmax, hbound, hdelay⟩ := hcall
      apply trySendEvents_saves (motive := fun events later =>
        QueueAccounted consumer events (history ++ later))
      · intro events later save hconsumer _ hstored hpending hevents
        subst hconsumer
        rw [← List.append_assoc]
        exact queueAccounted_save hevery hmax hbound hdelay hstored hpending hevents
      · exact hstores
      · rwa [List.append_nil]
  | create id pointInTime subClock payload eventType =>
      simp only [saves, List.append_nil, callStep, queueStep]
      split
      · exact hqueue
      · rename_i hfresh
        have hnone : state.events.lookup id = none := by
          rwa [AList.lookup_eq_none]
        refine ⟨?_, ?_, hqueue.backsOff, hqueue.restarts⟩
        · intro other event hevent
          by_cases hid : other = id
          · subst hid
            rw [AList.lookup_insert, Option.some.injEq] at hevent
            rw [hqueue.unknown other hnone, ← hevent]
            exact accounted_dataPointEvent hevery _ _ _ _
          · rw [AList.lookup_insert_ne hid] at hevent
            exact hqueue.stored other event hevent
        · intro other hother
          by_cases hid : other = id
          · subst hid
            exact hqueue.unknown other hnone
          · rw [AList.lookup_insert_ne hid] at hother
            exact hqueue.unknown other hother

theorem queueAccounted_empty (consumer : Consumer) : QueueAccounted consumer ∅ [] where
  stored := fun id event hevent => by simp at hevent
  unknown := fun _ _ => rfl
  backsOff := fun _ hsave => absurd hsave List.not_mem_nil
  restarts := fun _ hsave => absurd hsave List.not_mem_nil

/-- A call leaves the events alone that are done. -/
theorem callStep_done {state : QueueState} {call : QueueCall} (hstores : call.Stores state)
    {id : Nat}
    {event : ConsumerEvent} (hevent : state.events.lookup id = some event) (hdone : event.Done) :
    (callStep state call).events.lookup id = some event ∧
      ∀ save ∈ saves state call, save.eventId ≠ id := by
  obtain ⟨now, action⟩ := call
  cases action with
  | trySend other maxEvents readings =>
      apply trySendEvents_saves (motive := fun events history =>
        events.lookup id = some event ∧ ∀ save ∈ history, save.eventId ≠ id)
      · intro events history save _ _ hstored hpending ⟨hkept, hhistory⟩
        have hne : save.eventId ≠ id := by
          rintro rfl
          rw [hkept, Option.some.injEq] at hstored
          exact hpending (hstored ▸ hdone)
        refine ⟨by rwa [AList.lookup_insert_ne hne.symm], ?_⟩
        intro earlier hmem
        rcases List.mem_append.mp hmem with hmem | hmem
        · exact hhistory earlier hmem
        · rw [List.mem_singleton.mp hmem]
          exact hne
      · exact hstores
      · exact ⟨hevent, fun save hsave => absurd hsave List.not_mem_nil⟩
  | create newId pointInTime subClock payload eventType =>
      refine ⟨?_, fun save hsave => absurd hsave List.not_mem_nil⟩
      simp only [callStep, queueStep]
      split
      · exact hevent
      · rename_i hfresh
        have hne : id ≠ newId := by
          rintro rfl
          exact hfresh (AList.lookup_isSome.mp (by rw [hevent]; rfl))
        simpa [AList.lookup_insert_ne hne] using hevent

theorem retriesAccounted_of_queue {events : ConsumerEvents} {history : List Save}
    (hqueue : QueueAccounted consumer events history) :
    RetriesAccounted consumer history events := by
  constructor
  · intro hpositive id
    cases hevent : events.lookup id with
    | none =>
        rw [hqueue.unknown id hevent]
        simp only [List.length_nil]
        omega
    | some event =>
        obtain ⟨hretries, honce, hfailed, hmost, -, -⟩ := hqueue.stored id event hevent
        have hbound := hmost hpositive
        rw [honce]
        split
        · rename_i hsuccess
          rw [hsuccess] at hfailed
          have hbelow : ¬consumer.retryMax < event.retries :=
            fun hover => nomatch hfailed.mpr ⟨hpositive, hover⟩
          omega
        · omega
  · intro id event hevent
    have haccounted := hqueue.stored id event hevent
    rw [haccounted.failed, haccounted.retries]
  · exact fun id event hevent => (hqueue.stored id event hevent).cycle
  · exact hqueue.backsOff
  · exact hqueue.restarts

end Queue

/-- In every run of calls that find the retry settings of one consumer and save what they do,
the retries are accounted for, and an event that failed is not attempted again. -/
theorem run_accounts_retries {consumer : Consumer} (hevery : 1 ≤ consumer.retryBackoffEvery)
    (now : Instant) (calls later : List QueueCall)
    (hcalls : ∀ call ∈ calls ++ later, call.HasSettings consumer)
    (hstores : Runs.AllSteps callStep (fun state call => call.Stores state) ⟨now, ∅⟩
      (calls ++ later)) :
    RetriesAccounted consumer (Runs.outputs callStep saves ⟨now, ∅⟩ calls)
        (Runs.run callStep ⟨now, ∅⟩ calls).events ∧
      ∀ id event, (Runs.run callStep ⟨now, ∅⟩ calls).events.lookup id = some event →
        event.state = .failed →
        (Runs.run callStep ⟨now, ∅⟩ (calls ++ later)).events.lookup id = some event ∧
          ∀ save ∈ Runs.outputs callStep saves (Runs.run callStep ⟨now, ∅⟩ calls) later,
            save.eventId ≠ id := by
  have hall := Runs.allSteps_and_forall hstores hcalls
  obtain ⟨hfirst, hlater⟩ := (Runs.allSteps_append _ _ _ _ _).mp hall
  constructor
  · apply retriesAccounted_of_queue
    rw [← List.nil_append (Runs.outputs callStep saves ⟨now, ∅⟩ calls)]
    exact Runs.run_outputs
      (fun (state : QueueState) history => QueueAccounted consumer state.events history)
      (fun _ _ _ hqueue hcall => queueAccounted_call hevery hcall.2 hcall.1 hqueue)
      (queueAccounted_empty consumer) hfirst
  · intro id event hevent hfailed
    have hdone : event.Done := Or.inl hfailed
    constructor
    · rw [Runs.run_append]
      exact Runs.run_invariant (fun state : QueueState => state.events.lookup id = some event)
        (fun _ _ hstate hcall => (callStep_done hcall.1 hstate hdone).1) hevent hlater
    · exact Runs.forall_outputs (fun state : QueueState => state.events.lookup id = some event)
        (fun save : Save => save.eventId ≠ id)
        (fun _ _ hstate hcall => (callStep_done hcall.1 hstate hdone).1)
        (fun _ _ hstate hcall => (callStep_done hcall.1 hstate hdone).2) hevent hlater

namespace RetryWitness

def consumer : Consumer := ⟨"tenant", false, .unknown, .inOrderNonBlocking, 1, 30000000, 1⟩

def timeout (_ : Nat) : Reading := ⟨0, 0, 5000000, .raised "timeout"⟩

/-- The target stays down, the second call comes when the event is due again. -/
def calls : List QueueCall :=
  [⟨0, .create 1 0 none "a" .dataPointChanged⟩, ⟨10, .trySend consumer (some 100) timeout⟩,
    ⟨40000000, .trySend consumer (some 100) timeout⟩]

def later : List QueueCall := [⟨90000000, .trySend consumer (some 100) timeout⟩]

theorem stores_timeout {state : QueueState} {now : Instant}
    (hsaved : ∀ item ∈ (readBatch consumer.mode (some 100) state.events).zipIdx,
      savedAt consumer timeout now item.2 item.1 = true) :
    QueueCall.Stores state ⟨now, .trySend consumer (some 100) timeout⟩ :=
  fun turn entry hposts => hsaved (entry, turn) (List.mem_zipIdx_iff_getElem?.mpr hposts.listed)

theorem calls_accounted :
    RetriesAccounted consumer (Runs.outputs callStep saves ⟨0, ∅⟩ calls)
      (Runs.run callStep ⟨0, ∅⟩ calls).events :=
  (run_accounts_retries (by decide) 0 calls later
    (by
      intro call hcall
      simp only [calls, later, List.cons_append, List.nil_append, List.mem_cons,
        List.not_mem_nil, or_false] at hcall
      rcases hcall with rfl | rfl | rfl | rfl <;> simp [QueueCall.HasSettings])
    ⟨trivial, stores_timeout (by decide), stores_timeout (by decide), stores_timeout (by decide),
      trivial⟩).1

/-- The target answers with a NUL, and the event stays as it was. -/
def unstorable (_ : Nat) : Reading := ⟨0, 0, 0, .answered ⟨"\x00", [], 500, none⟩ "HTTPError"⟩

def unstorableCalls : List QueueCall :=
  ⟨0, .create 1 0 none "a" .dataPointChanged⟩ ::
    List.replicate 3 ⟨10, .trySend consumer (some 100) unstorable⟩

/-- `retry_max` is 1, and the event is posted three times. -/
theorem unstorable_answer_is_not_counted :
    ¬RetriesAccounted consumer (Runs.outputs callStep saves ⟨0, ∅⟩ unstorableCalls)
      (Runs.run callStep ⟨0, ∅⟩ unstorableCalls).events := by
  intro haccounted
  have hposts : (savesFor 1 (Runs.outputs callStep saves ⟨0, ∅⟩ unstorableCalls)).length = 3 := by
    decide
  have hattempts := haccounted.attempts (by decide) 1
  rw [hposts] at hattempts
  exact absurd hattempts (by decide)

end RetryWitness

end NFCompose
