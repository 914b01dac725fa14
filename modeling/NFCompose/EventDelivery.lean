/-
Delivery of the change events of one consumer.  A call reads a batch of the
events that are still to be delivered and posts them one after the other; what
it stores decides what the next call reads.
-/
import Mathlib
import NFCompose.Runs

namespace NFCompose

/-- A point in time, in microseconds since the epoch. -/
abbrev Instant := Int

/-- A `datetime` has a year from 1 to 9999. -/
def Instant.inRange (instant : Instant) : Bool :=
  -62135596800000000 ≤ instant && instant ≤ 253402300799999999

inductive ConsumerEventState where
  | new
  | retry
  | failed
  | success
deriving DecidableEq, Repr

inductive ConsumerEventType where
  | dataPointChanged
  | dataPointDeleted
  | dataSeriesTruncated
deriving DecidableEq, Repr

inductive ConsumerHealthState where
  | unknown
  | unhealthy
  | healthy
  | rateLimit
deriving DecidableEq, Repr

inductive ConsumerMode where
  | inOrder
  | inOrderNonBlocking
deriving DecidableEq, Repr

/-- The settings of a consumer; `trusted` is whether its target is one that
`is_trusted_consumer_target` accepts. -/
structure Consumer where
  tenantName : String
  trusted : Bool
  health : ConsumerHealthState
  mode : ConsumerMode
  retryBackoffEvery : Int
  retryBackoffDelay : Int
  retryMax : Int
deriving DecidableEq, Repr

structure ConsumerEvent where
  pointInTime : Instant
  subClock : Option Int
  backoffCycles : Int
  retriesInCycle : Int
  handleAt : Option Instant
  retries : Int
  payload : String
  state : ConsumerEventState
  eventType : ConsumerEventType
  response : Option String
  responseHeaders : Option (List (String × String))
  statusCode : Option Nat
  exception : Option String
deriving DecidableEq, Repr

/-- The events of one consumer under their ids. -/
abbrev ConsumerEvents := AList fun _ : Nat => ConsumerEvent

abbrev QueuedEvent := (_ : Nat) × ConsumerEvent

/-- The event is not picked up by the batch query any more. -/
def ConsumerEvent.Done (event : ConsumerEvent) : Prop :=
  event.state = .failed ∨ event.state = .success

instance (event : ConsumerEvent) : Decidable event.Done :=
  inferInstanceAs (Decidable (_ ∨ _))

/-- `order_by('point_in_time', 'id', 'sub_clock')`; an event without a sub clock
comes last. -/
def inOrderKey (entry : QueuedEvent) : Instant ×ₗ Nat ×ₗ WithTop Int :=
  toLex (entry.2.pointInTime, toLex (entry.1, entry.2.subClock.elim ⊤ fun clock => clock))

/-- `order_by('retries', 'point_in_time', 'id', 'sub_clock')`. -/
def nonBlockingKey (entry : QueuedEvent) : Int ×ₗ Instant ×ₗ Nat ×ₗ WithTop Int :=
  toLex (entry.2.retries, inOrderKey entry)

/-- The batch query of a mode. -/
def queryset (mode : ConsumerMode) (events : ConsumerEvents) : List QueuedEvent :=
  let pending := events.entries.filter fun entry => ¬ entry.2.Done
  match mode with
  | .inOrder => pending.insertionSort fun left right => inOrderKey left ≤ inOrderKey right
  | .inOrderNonBlocking =>
      pending.insertionSort fun left right => nonBlockingKey left ≤ nonBlockingKey right

/-- An answer of the target; `retryAfter` is what `int` reads from its
`Retry-After` header. -/
structure Response where
  text : String
  headers : List (String × String)
  statusCode : Nat
  retryAfter : Option Int
deriving DecidableEq, Repr

/-- What a `requests.post` comes to, with the traceback of the error if the
delivery fails. -/
inductive Delivery where
  | raised (exception : String)
  | answered (response : Response) (exception : String)
deriving DecidableEq, Repr

def Delivery.response : Delivery → Option Response
  | .raised _ => none
  | .answered response _ => some response

def Delivery.exception : Delivery → String
  | .raised exception => exception
  | .answered _ exception => exception

/-- `raise_for_status` raises for the client and the server errors. -/
def Delivery.succeeds : Delivery → Bool
  | .raised _ => false
  | .answered response _ => !(400 ≤ response.statusCode && response.statusCode < 600)

def responseHeadersAllowList : List String :=
  ["Content-Disposition", "Content-Encoding", "Content-Language", "Content-Length",
    "Content-Location", "Content-Range", "Content-Type", "Retry-After"]

def maxResponseLength : Nat := 1024

def sanitizeResponse (consumer : Consumer) (text : String) : String :=
  if consumer.trusted then text
  else if text.length > maxResponseLength then
    String.ofList (text.toList.take maxResponseLength) ++ "..."
  else text

def sanitizeHeaders (consumer : Consumer) (headers : List (String × String)) :
    List (String × String) :=
  if consumer.trusted then headers
  else headers.filter fun header => header.1 ∈ responseHeadersAllowList

/-- A date out of range raises like a header that is no number, and is no date. -/
def retryAtFromResponse (now : Instant) (response : Response) : Option Instant :=
  (response.retryAfter.map fun seconds => now + seconds * 1000000).filter Instant.inRange

/-- The response is recorded whether the delivery succeeds or not. -/
def ConsumerEvent.answered (consumer : Consumer) (event : ConsumerEvent)
    (response : Option Response) : ConsumerEvent :=
  { event with
    response := response.map fun answer => sanitizeResponse consumer answer.text
    statusCode := response.map fun answer => answer.statusCode
    responseHeaders := response.map fun answer => sanitizeHeaders consumer answer.headers }

/-- The date to which a failed delivery moves `handle_at`. -/
def ConsumerEvent.backOffUntil (consumer : Consumer) (event : ConsumerEvent)
    (delivery : Delivery) (now : Instant) : Option Instant :=
  if delivery.response.any fun response => response.statusCode = 429 then
    -- too many requests
    some ((delivery.response.bind (retryAtFromResponse now)).getD
      (now + consumer.retryBackoffDelay))
  else if event.retriesInCycle + 1 ≥ consumer.retryBackoffEvery then
    some (now + consumer.retryBackoffDelay)
  else none

/-- The bookkeeping after a failed delivery. -/
def ConsumerEvent.afterFailure (consumer : Consumer) (event : ConsumerEvent)
    (delivery : Delivery) (now : Instant) : ConsumerEvent :=
  let retries := event.retries + 1
  { event with
    exception := some delivery.exception
    retries := retries
    retriesInCycle := event.retriesInCycle + 1
    handleAt := (event.backOffUntil consumer delivery now).or event.handleAt
    state :=
      if consumer.retryMax > 0 ∧ retries > consumer.retryMax then .failed else .retry }

def ConsumerEvent.afterSuccess (event : ConsumerEvent) : ConsumerEvent :=
  { event with exception := none, state := .success }

/-- What is stored after a delivery. -/
def ConsumerEvent.afterDelivery (consumer : Consumer) (event : ConsumerEvent)
    (delivery : Delivery) (now : Instant) : ConsumerEvent :=
  let answered := event.answered consumer delivery.response
  if delivery.succeeds then answered.afterSuccess
  else answered.afterFailure consumer delivery now

/-- PostgreSQL refuses a text with a NUL. -/
def storableText (text : String) : Bool := !text.toList.contains '\x00'

/-- What is recorded of a delivery fits its columns. -/
def Delivery.storable (consumer : Consumer) (delivery : Delivery) : Bool :=
  delivery.response.all (fun answer =>
    storableText (sanitizeResponse consumer answer.text) &&
      (sanitizeHeaders consumer answer.headers).all fun header =>
        storableText header.1 && storableText header.2) &&
    (delivery.succeeds || storableText delivery.exception)

/-- Whether `event.save()` is reached and goes through.  Neither a text that is refused nor a
date that no `datetime` holds is caught. -/
def ConsumerEvent.canSave (consumer : Consumer) (event : ConsumerEvent) (delivery : Delivery)
    (now : Instant) : Bool :=
  delivery.storable consumer &&
    (delivery.succeeds || (event.backOffUntil consumer delivery now).all Instant.inRange)

def healthAfter (delivery : Delivery) : ConsumerHealthState :=
  if delivery.succeeds then .healthy
  else if delivery.response.any fun response => response.statusCode = 429 then .rateLimit
  else .unhealthy

/-- A new cycle starts when the back off is over. -/
def ConsumerEvent.startCycle (consumer : Consumer) (event : ConsumerEvent) : ConsumerEvent :=
  if event.handleAt.isSome ∧ event.retriesInCycle ≥ consumer.retryBackoffEvery then
    { event with backoffCycles := event.backoffCycles + 1, retriesInCycle := 0 }
  else event

structure EventBody where
  pointInTime : Instant
  eventType : ConsumerEventType
  tenant : String
  payload : String
  subClock : Option Int
deriving DecidableEq, Repr

/-- What is posted; a sub clock of zero is left out like a missing one. -/
def ConsumerEvent.body (consumer : Consumer) (event : ConsumerEvent) : EventBody where
  pointInTime := event.pointInTime
  eventType := event.eventType
  tenant := consumer.tenantName
  payload := event.payload
  subClock := event.subClock.filter fun clock => clock ≠ 0

/-- The environment of one turn of the loop: how much time goes by until the
clock is compared with `handle_at`, until the event is posted and until the
outcome is known, and the outcome. -/
structure Reading where
  untilCheck : Nat
  untilPost : Nat
  untilOutcome : Nat
  delivery : Delivery
deriving DecidableEq, Repr

structure QueueState where
  now : Instant
  events : ConsumerEvents

/-- A delivery attempt, with the queue as it was when the batch was read and as
it is when the event is posted. -/
structure Attempt where
  batch : ConsumerEvents
  queue : ConsumerEvents
  entry : QueuedEvent
  sentAt : Instant
  body : EventBody

/-- The variables of `try_send_events` while it goes through its batch. -/
structure Sending where
  state : QueueState
  attempts : List Attempt
  cnt : Nat
  moreEvents : Bool
  health : ConsumerHealthState
  raised : Bool

def Sending.start (consumer : Consumer) (state : QueueState) : Sending :=
  ⟨state, [], 0, false, consumer.health, false⟩

/-- One event is posted. -/
def Sending.post (consumer : Consumer) (batch : ConsumerEvents) (reading : Reading)
    (entry : QueuedEvent) (sending : Sending) : Sending :=
  let sentAt := sending.state.now + reading.untilCheck + reading.untilPost
  { sending with
    state := { sending.state with now := sentAt + reading.untilOutcome }
    attempts := sending.attempts ++ [⟨batch, sending.state.events, entry, sentAt,
      (entry.2.startCycle consumer).body consumer⟩]
    cnt := sending.cnt + 1 }

/-- The outcome of a post can be saved. -/
def Sending.canSave (consumer : Consumer) (reading : Reading) (entry : QueuedEvent)
    (posted : Sending) : Bool :=
  (entry.2.startCycle consumer).canSave consumer reading.delivery posted.state.now

/-- One event is posted and saved. -/
def Sending.attempt (consumer : Consumer) (batch : ConsumerEvents) (reading : Reading)
    (entry : QueuedEvent) (sending : Sending) : Sending :=
  let posted := sending.post consumer batch reading entry
  let saved := (entry.2.startCycle consumer).afterDelivery consumer reading.delivery
    posted.state.now
  { posted with
    state := ⟨posted.state.now, posted.state.events.insert entry.1 saved⟩
    health := healthAfter reading.delivery }

/-- An exception leaves the call: nothing that the call has saved stays. -/
def Sending.rollBack (consumer : Consumer) (batch : ConsumerEvents) (sending : Sending) :
    Sending :=
  { sending with
    state := ⟨sending.state.now, batch⟩
    health := consumer.health
    raised := true }

/-- The event has to wait, and so do those behind it. -/
def Sending.wait (reading : Reading) (sending : Sending) : Sending :=
  { sending with
    state := { sending.state with now := sending.state.now + reading.untilCheck }
    cnt := sending.cnt + 1 }

/-- The loop over the batch. -/
def sendBatch (consumer : Consumer) (maxEvents : Option Nat) (readings : Nat → Reading)
    (batch : ConsumerEvents) : List QueuedEvent → Sending → Sending
  | [], sending => sending
  | entry :: rest, sending =>
      let reading := readings sending.cnt
      if maxEvents.any fun limit => limit ≤ sending.cnt then
        -- there are more events to process
        { sending with moreEvents := true }
      else if entry.2.handleAt.any fun handleAt =>
          sending.state.now + reading.untilCheck < handleAt then
        sending.wait reading
      else
        let posted := sending.post consumer batch reading entry
        if !posted.canSave consumer reading entry then posted.rollBack consumer batch
        else if reading.delivery.succeeds then
          sendBatch consumer maxEvents readings batch rest
            (sending.attempt consumer batch reading entry)
        else sending.attempt consumer batch reading entry

/-- One more event than allowed is read, to see whether any are left. -/
def readBatch (mode : ConsumerMode) (maxEvents : Option Nat) (events : ConsumerEvents) :
    List QueuedEvent :=
  match maxEvents with
  | none => queryset mode events
  | some limit => (queryset mode events).take (limit + 1)

def trySendEvents (consumer : Consumer) (maxEvents : Option Nat) (readings : Nat → Reading)
    (state : QueueState) : Sending :=
  sendBatch consumer maxEvents readings state.events
    (readBatch consumer.mode maxEvents state.events) (Sending.start consumer state)

/-- What happens to the queue of a consumer: a call, with the settings it finds,
or a new event. -/
inductive QueueAction where
  | trySend (consumer : Consumer) (maxEvents : Option Nat) (readings : Nat → Reading)
  | create (id : Nat) (pointInTime : Instant) (subClock : Option Int) (payload : String)
      (eventType : ConsumerEventType)

def dataPointEvent (pointInTime : Instant) (subClock : Option Int) (payload : String)
    (eventType : ConsumerEventType) : ConsumerEvent where
  pointInTime := pointInTime
  subClock := subClock
  backoffCycles := 0
  retriesInCycle := 0
  handleAt := none
  retries := 0
  payload := payload
  state := .new
  eventType := eventType
  response := none
  responseHeaders := none
  statusCode := none
  exception := none

def queueStep (state : QueueState) : QueueAction → QueueState
  | .trySend consumer maxEvents readings => (trySendEvents consumer maxEvents readings state).state
  | .create id pointInTime subClock payload eventType =>
      -- the id is the primary key
      if id ∈ state.events then state
      else { state with
        events := state.events.insert id (dataPointEvent pointInTime subClock payload eventType) }

/-- The attempts an action makes. -/
def attempted (state : QueueState) : QueueAction → List Attempt
  | .trySend consumer maxEvents readings =>
      (trySendEvents consumer maxEvents readings state).attempts
  | .create .. => []

/-- Every call of the run finds the consumer in order mode. -/
def QueueAction.IsInOrder : QueueAction → Prop
  | .trySend consumer _ _ => consumer.mode = .inOrder
  | .create .. => True

/-- What in order delivery owes to one attempt. -/
structure Attempt.InOrder (attempt : Attempt) : Prop where
  listed : attempt.batch.lookup attempt.entry.1 = some attempt.entry.2
  earlier : ∀ id event, attempt.batch.lookup id = some event →
    inOrderKey ⟨id, event⟩ < inOrderKey attempt.entry →
    ∃ current, attempt.queue.lookup id = some current ∧ current.Done
  due : ∀ handleAt, attempt.entry.2.handleAt = some handleAt → handleAt ≤ attempt.sentAt
  pending : attempt.queue.lookup attempt.entry.1 = some attempt.entry.2 ∧
    ¬ attempt.entry.2.Done

/-- The order of the batch query is strict: the id tells two events apart. -/
theorem inOrderKey_lt_of_le {left right : QueuedEvent} (hle : inOrderKey left ≤ inOrderKey right)
    (hne : left.1 ≠ right.1) : inOrderKey left < inOrderKey right := by
  apply lt_of_le_of_ne hle
  intro heq
  have hids := congrArg (fun key => (ofLex (ofLex key).2).1) heq
  exact hne hids

theorem mem_queryset {mode : ConsumerMode} {events : ConsumerEvents} {entry : QueuedEvent} :
    entry ∈ queryset mode events ↔
      events.lookup entry.1 = some entry.2 ∧ ¬ entry.2.Done := by
  have hentries : entry ∈ events.entries ↔ events.lookup entry.1 = some entry.2 := by
    rw [AList.lookup, ← Option.mem_def, List.mem_dlookup_iff events.nodupKeys]
  cases mode <;> simp [queryset, List.mem_insertionSort, hentries]

/-- Every event is read once. -/
theorem queryset_ids (mode : ConsumerMode) (events : ConsumerEvents) :
    (queryset mode events).Pairwise fun left right => left.1 ≠ right.1 := by
  have hpending : (events.entries.filter fun entry => ¬ entry.2.Done).Pairwise
      fun left right => left.1 ≠ right.1 := by
    have hnodup := events.nodupKeys
    rw [List.nodupKeys_iff_pairwise] at hnodup
    exact hnodup.sublist List.filter_sublist
  cases mode with
  | inOrder =>
      have hperm := List.perm_insertionSort
        (fun left right : QueuedEvent => inOrderKey left ≤ inOrderKey right)
        (events.entries.filter fun entry => ¬ entry.2.Done)
      exact (hperm.pairwise_iff fun hne => Ne.symm hne).mpr hpending
  | inOrderNonBlocking =>
      have hperm := List.perm_insertionSort
        (fun left right : QueuedEvent => nonBlockingKey left ≤ nonBlockingKey right)
        (events.entries.filter fun entry => ¬ entry.2.Done)
      exact (hperm.pairwise_iff fun hne => Ne.symm hne).mpr hpending

theorem queryset_pairwise (events : ConsumerEvents) :
    (queryset .inOrder events).Pairwise
      fun left right => inOrderKey left < inOrderKey right := by
  have hsorted : (queryset .inOrder events).Pairwise
      fun left right => inOrderKey left ≤ inOrderKey right := by
    apply List.pairwise_insertionSort
  exact (hsorted.and (queryset_ids .inOrder events)).imp fun hboth =>
    inOrderKey_lt_of_le hboth.1 hboth.2

def Settled (queue : ConsumerEvents) (id : Nat) : Prop :=
  ∃ current, queue.lookup id = some current ∧ current.Done

/-- What a call has done so far: the attempts were in order, and the events that
were done before stay as they are. -/
structure Delivered (batch : ConsumerEvents) (sending : Sending) : Prop where
  inOrder : ∀ attempt ∈ sending.attempts, attempt.InOrder
  kept : ∀ id event, batch.lookup id = some event → event.Done →
    sending.state.events.lookup id = some event ∧
      ∀ attempt ∈ sending.attempts, attempt.entry.1 ≠ id

/-- What a call has still to do: whatever was read before the rest of the batch
is settled. -/
structure Remaining (batch : ConsumerEvents) (rest : List QueuedEvent) (queue : ConsumerEvents) :
    Prop where
  listed : ∀ entry ∈ rest, batch.lookup entry.1 = some entry.2
  stored : ∀ entry ∈ rest, queue.lookup entry.1 = some entry.2
  pending : ∀ entry ∈ rest, ¬ entry.2.Done
  sorted : rest.Pairwise fun left right => inOrderKey left < inOrderKey right
  settled : ∀ id event, batch.lookup id = some event →
    Settled queue id ∨ (⟨id, event⟩ : QueuedEvent) ∈ rest ∨
      ∀ entry ∈ rest, inOrderKey entry < inOrderKey ⟨id, event⟩

theorem afterDelivery_done {consumer : Consumer} {event : ConsumerEvent} {delivery : Delivery}
    {now : Instant} (hsucceeds : delivery.succeeds = true) :
    (event.afterDelivery consumer delivery now).Done := by
  rw [ConsumerEvent.afterDelivery, if_pos hsucceeds]
  exact Or.inr rfl

/-- The head of the batch is attempted when everything before it is settled. -/
theorem attempt_inOrder {batch : ConsumerEvents} {rest : List QueuedEvent} {entry : QueuedEvent}
    {queue : ConsumerEvents} {sentAt : Instant} {body : EventBody}
    (hremaining : Remaining batch (entry :: rest) queue)
    (hdue : ∀ handleAt, entry.2.handleAt = some handleAt → handleAt ≤ sentAt) :
    (⟨batch, queue, entry, sentAt, body⟩ : Attempt).InOrder := by
  have hhead : entry ∈ entry :: rest := List.mem_cons_self
  refine ⟨hremaining.listed entry hhead, ?_, hdue,
    hremaining.stored entry hhead, hremaining.pending entry hhead⟩
  intro id event hbatch hbefore
  rcases hremaining.settled id event hbatch with hsettled | hrest | hbehind
  · exact hsettled
  · rcases List.mem_cons.mp hrest with heq | hrest
    · exact absurd hbefore (heq ▸ lt_irrefl _)
    · have hsorted := (List.pairwise_cons.mp hremaining.sorted).1 _ hrest
      exact absurd hbefore (lt_asymm hsorted)
  · exact absurd hbefore (lt_asymm (hbehind entry hhead))

theorem delivered_post (consumer : Consumer) {batch : ConsumerEvents} {reading : Reading}
    {entry : QueuedEvent} {rest : List QueuedEvent} {sending : Sending}
    (hdelivered : Delivered batch sending)
    (hremaining : Remaining batch (entry :: rest) sending.state.events)
    (hdue : ¬ (entry.2.handleAt.any fun handleAt =>
      sending.state.now + reading.untilCheck < handleAt) = true) :
    Delivered batch (sending.post consumer batch reading entry) := by
  have hhead : entry ∈ entry :: rest := List.mem_cons_self
  constructor
  · intro attempt hattempt
    rcases List.mem_append.mp hattempt with hearlier | hlast
    · exact hdelivered.inOrder attempt hearlier
    · rw [List.mem_singleton] at hlast
      subst hlast
      apply attempt_inOrder hremaining
      intro handleAt hhandleAt
      simp only [hhandleAt, Option.any_some, decide_eq_true_eq] at hdue
      have hchecked : handleAt ≤ sending.state.now + reading.untilCheck := not_lt.mp hdue
      exact hchecked.trans (Int.le_add_of_nonneg_right (Int.natCast_nonneg _))
  · intro id event hbatch hdone
    obtain ⟨hstored, hattempts⟩ := hdelivered.kept id event hbatch hdone
    have hne : entry.1 ≠ id := by
      rintro rfl
      have heq := hstored.symm.trans (hremaining.stored entry hhead)
      exact hremaining.pending entry hhead (Option.some.inj heq ▸ hdone)
    constructor
    · exact hstored
    · intro attempt hattempt
      rcases List.mem_append.mp hattempt with hearlier | hlast
      · exact hattempts attempt hearlier
      · rw [List.mem_singleton] at hlast
        subst hlast
        exact hne

theorem delivered_attempt (consumer : Consumer) {batch : ConsumerEvents} {reading : Reading}
    {entry : QueuedEvent} {sending : Sending} (hpending : ¬ entry.2.Done)
    (hstored : sending.state.events.lookup entry.1 = some entry.2)
    (hposted : Delivered batch (sending.post consumer batch reading entry)) :
    Delivered batch (sending.attempt consumer batch reading entry) := by
  constructor
  · exact hposted.inOrder
  · intro id event hbatch hdone
    obtain ⟨hkept, hattempts⟩ := hposted.kept id event hbatch hdone
    have hne : id ≠ entry.1 := by
      rintro rfl
      have heq := hkept.symm.trans hstored
      exact hpending (Option.some.inj heq ▸ hdone)
    exact ⟨(AList.lookup_insert_ne hne).trans hkept, hattempts⟩

/-- What a call that is rolled back has found done is done as before. -/
theorem delivered_rollBack (consumer : Consumer) {batch : ConsumerEvents} {sending : Sending}
    (hdelivered : Delivered batch sending) :
    Delivered batch (sending.rollBack consumer batch) :=
  ⟨hdelivered.inOrder, fun id event hbatch hdone =>
    ⟨hbatch, (hdelivered.kept id event hbatch hdone).2⟩⟩

/-- After a success the next event is at the head of what remains. -/
theorem remaining_attempt {consumer : Consumer} {batch : ConsumerEvents} {reading : Reading}
    {entry : QueuedEvent} {rest : List QueuedEvent} {sending : Sending}
    (hremaining : Remaining batch (entry :: rest) sending.state.events)
    (hsucceeds : reading.delivery.succeeds = true) :
    Remaining batch rest (sending.attempt consumer batch reading entry).state.events := by
  obtain ⟨hbefore, hsorted⟩ := List.pairwise_cons.mp hremaining.sorted
  have hother : ∀ other ∈ rest, other.1 ≠ entry.1 := by
    intro other hother heq
    have hevents : other.2 = entry.2 := by
      apply Option.some.inj
      rw [← hremaining.stored other (List.mem_cons_of_mem entry hother),
        ← hremaining.stored entry List.mem_cons_self, heq]
    have hsame : other = entry := Sigma.ext heq (heq_of_eq hevents)
    exact absurd (hbefore other hother) (hsame ▸ lt_irrefl _)
  constructor
  · exact fun other hmem => hremaining.listed other (List.mem_cons_of_mem entry hmem)
  · intro other hmem
    have hstored := hremaining.stored other (List.mem_cons_of_mem entry hmem)
    simpa [Sending.attempt, Sending.post, AList.lookup_insert_ne (hother other hmem)] using hstored
  · exact fun other hmem => hremaining.pending other (List.mem_cons_of_mem entry hmem)
  · exact hsorted
  · intro id event hbatch
    by_cases hid : id = entry.1
    · left
      subst hid
      exact ⟨_, AList.lookup_insert _, afterDelivery_done hsucceeds⟩
    · rcases hremaining.settled id event hbatch with ⟨current, hcurrent, hdone⟩ | hrest | hbehind
      · left
        refine ⟨current, ?_, hdone⟩
        simpa [Sending.attempt, Sending.post, AList.lookup_insert_ne hid] using hcurrent
      · right
        left
        rcases List.mem_cons.mp hrest with heq | hrest
        · exact absurd (congrArg Sigma.fst heq) hid
        · exact hrest
      · right
        right
        exact fun other hmem => hbehind other (List.mem_cons_of_mem entry hmem)

theorem delivered_sendBatch {consumer : Consumer} {maxEvents : Option Nat}
    {readings : Nat → Reading} {batch : ConsumerEvents} {rest : List QueuedEvent}
    {sending : Sending} (hdelivered : Delivered batch sending)
    (hremaining : Remaining batch rest sending.state.events) :
    Delivered batch (sendBatch consumer maxEvents readings batch rest sending) := by
  induction rest generalizing sending with
  | nil => exact hdelivered
  | cons entry rest ih =>
      simp only [sendBatch]
      split
      · exact ⟨hdelivered.inOrder, hdelivered.kept⟩
      · split
        · exact ⟨hdelivered.inOrder, hdelivered.kept⟩
        · rename_i hdue
          have hposted := delivered_post consumer hdelivered hremaining hdue
          have hattempt := delivered_attempt consumer
            (hremaining.pending entry List.mem_cons_self)
            (hremaining.stored entry List.mem_cons_self) hposted
          split
          · exact delivered_rollBack consumer hposted
          · split
            · rename_i hsucceeds
              exact ih hattempt (remaining_attempt hremaining hsucceeds)
            · exact hattempt

theorem readBatch_append (mode : ConsumerMode) (maxEvents : Option Nat)
    (events : ConsumerEvents) :
    ∃ cut, readBatch mode maxEvents events ++ cut = queryset mode events := by
  cases maxEvents with
  | none => exact ⟨[], List.append_nil _⟩
  | some limit => exact ⟨_, List.take_append_drop (limit + 1) (queryset mode events)⟩

theorem remaining_readBatch (maxEvents : Option Nat) (events : ConsumerEvents) :
    Remaining events (readBatch .inOrder maxEvents events) events := by
  obtain ⟨cut, hcut⟩ := readBatch_append .inOrder maxEvents events
  have hsorted := queryset_pairwise events
  rw [← hcut, List.pairwise_append] at hsorted
  have hmem : ∀ entry ∈ readBatch .inOrder maxEvents events,
      events.lookup entry.1 = some entry.2 ∧ ¬ entry.2.Done := by
    intro entry hentry
    rw [← mem_queryset, ← hcut]
    exact List.mem_append_left cut hentry
  refine ⟨fun entry hentry => (hmem entry hentry).1, fun entry hentry => (hmem entry hentry).1,
    fun entry hentry => (hmem entry hentry).2, hsorted.1, ?_⟩
  intro id event hevent
  by_cases hdone : event.Done
  · exact Or.inl ⟨event, hevent, hdone⟩
  · right
    have hquery : (⟨id, event⟩ : QueuedEvent) ∈ queryset .inOrder events :=
      mem_queryset.mpr ⟨hevent, hdone⟩
    rw [← hcut] at hquery
    rcases List.mem_append.mp hquery with hread | hleft
    · exact Or.inl hread
    · -- an event that is cut off lies behind the whole batch
      right
      exact fun entry hentry => hsorted.2.2 entry hentry _ hleft

/-- One call delivers in order and leaves the events alone that are done. -/
theorem delivered_trySendEvents {consumer : Consumer} (hmode : consumer.mode = .inOrder)
    (maxEvents : Option Nat) (readings : Nat → Reading) (state : QueueState) :
    Delivered state.events (trySendEvents consumer maxEvents readings state) := by
  rw [trySendEvents, hmode]
  apply delivered_sendBatch
  · constructor
    · intro attempt hattempt
      cases hattempt
    · intro id event hevent _
      refine ⟨hevent, ?_⟩
      intro attempt hattempt
      cases hattempt
  · exact remaining_readBatch maxEvents state.events

/-- An event that is done is never changed or attempted by an action. -/
theorem queueStep_done {state : QueueState} {action : QueueAction} (hmode : action.IsInOrder)
    {id : Nat} {event : ConsumerEvent} (hevent : state.events.lookup id = some event)
    (hdone : event.Done) :
    (queueStep state action).events.lookup id = some event ∧
      ∀ attempt ∈ attempted state action, attempt.entry.1 ≠ id := by
  cases action with
  | trySend consumer maxEvents readings =>
      exact (delivered_trySendEvents hmode maxEvents readings state).kept id event hevent hdone
  | create newId pointInTime subClock payload eventType =>
      constructor
      · rw [queueStep]
        split
        · exact hevent
        · rename_i hfresh
          have hne : id ≠ newId := by
            rintro rfl
            apply hfresh
            rw [← AList.lookup_isSome, hevent]
            rfl
          simpa [AList.lookup_insert_ne hne] using hevent
      · intro attempt hattempt
        cases hattempt

theorem attempted_inOrder {state : QueueState} {action : QueueAction} (hmode : action.IsInOrder) :
    ∀ attempt ∈ attempted state action, attempt.InOrder := by
  cases action with
  | trySend consumer maxEvents readings =>
      exact (delivered_trySendEvents hmode maxEvents readings state).inOrder
  | create => exact fun attempt hattempt => absurd hattempt List.not_mem_nil

/-- All attempts of a run are in order, and what is done at some point of the
run is never attempted afterwards. -/
theorem run_delivers_in_order (state : QueueState) (actions later : List QueueAction)
    (hmode : ∀ action ∈ actions ++ later, action.IsInOrder) :
    (∀ attempt ∈ Runs.outputs queueStep attempted state (actions ++ later), attempt.InOrder) ∧
      ∀ id event, (Runs.run queueStep state actions).events.lookup id = some event → event.Done →
        ∀ attempt ∈ Runs.outputs queueStep attempted (Runs.run queueStep state actions) later,
          attempt.entry.1 ≠ id := by
  have hall := Runs.allSteps_of_forall queueStep state hmode
  constructor
  · exact Runs.forall_outputs (fun _ => True) Attempt.InOrder (fun _ _ _ _ => trivial)
      (fun _ _ _ haction => attempted_inOrder haction) trivial hall
  · intro id event hevent hdone
    have hlater := ((Runs.allSteps_append _ _ _ _ _).mp hall).2
    exact Runs.forall_outputs (fun state => state.events.lookup id = some event)
      (fun attempt : Attempt => attempt.entry.1 ≠ id)
      (fun _ _ hstate haction => (queueStep_done haction hstate hdone).1)
      (fun _ _ hstate haction => (queueStep_done haction hstate hdone).2) hevent hlater

namespace DeliveryWitness

def consumer : Consumer := ⟨"tenant", false, .unknown, .inOrder, 1, 30000000, 0⟩

/-- The target is down at first, and asks to wait once it answers. -/
def readings (turn : Nat) : Reading :=
  ⟨0, 0, 0, if turn = 0 then .answered ⟨"", [], 429, some 5⟩ "HTTPError" else .raised "timeout"⟩

def accepting (_ : Nat) : Reading := ⟨5000000, 0, 0, .answered ⟨"ok", [], 200, none⟩ ""⟩

def createTwo : List QueueAction :=
  [.create 1 20 none "b" .dataPointChanged, .create 2 10 (some 1) "a" .dataPointChanged]

def firstCalls : List QueueAction :=
  createTwo ++ [.trySend consumer (some 1) readings, .trySend consumer none accepting]

/-- The older event is held back by its retry date, then both are delivered. -/
example :
    ((Runs.outputs queueStep attempted ⟨0, ∅⟩ firstCalls).map
      fun attempt => (attempt.entry.1, attempt.sentAt)) =
      [(2, 0), (2, 5000000), (1, 10000000)] := by
  decide

theorem run_delivers_in_order_createTwo :
    (∀ attempt ∈ Runs.outputs queueStep attempted ⟨0, ∅⟩
        (firstCalls ++ [.trySend consumer none accepting]), attempt.InOrder) ∧
      ∀ id event, (Runs.run queueStep ⟨0, ∅⟩ firstCalls).events.lookup id = some event →
        event.Done → ∀ attempt ∈ Runs.outputs queueStep attempted
          (Runs.run queueStep ⟨0, ∅⟩ firstCalls) [.trySend consumer none accepting],
          attempt.entry.1 ≠ id :=
  run_delivers_in_order ⟨0, ∅⟩ firstCalls [.trySend consumer none accepting] (by
    intro action haction
    simp only [firstCalls, createTwo, List.cons_append, List.nil_append, List.mem_cons,
      List.not_mem_nil, or_false] at haction
    rcases haction with rfl | rfl | rfl | rfl | rfl <;> first | rfl | trivial)

end DeliveryWitness

end NFCompose
